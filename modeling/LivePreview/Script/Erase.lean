import LivePreview.Script.Enum

namespace LivePreview.Script

def keepParameter (id : String) : Tree :=
  .node .expression 0 [.node (.assign .plain) 0
    [.node (.member id false) 0 [Tree.leaf .this], Tree.name id]]

def fieldParameters (params : List Tree) : List String :=
  params.flatMap fun p => match p with
    | .node (.param m) _ [_, p] =>
        if m.accessibility.isSome || m.isReadonly || m.isOverride then
          match p with
          | .node (.name id) _ _ => [id]
          | .node .withDefault _ (.node (.name id) _ _ :: _) => [id]
          | _ => []
        else []
    | _ => []

def isSuperCall : Tree → Bool
  | .node .expression _ [.node (.call _ _ _) _ (.node .super _ _ :: _)] => true
  | _ => false

def isDirective : Tree → Bool
  | .node (.directive _) _ _ => true
  | _ => false

def isImport : Tree → Bool
  | .node (.imports _) _ _ => true
  | _ => false

def afterImports (extra body : List Tree) : List Tree :=
  let behind := body.dropWhile isDirective
  body.takeWhile isDirective ++ behind.takeWhile isImport ++ extra ++ behind.dropWhile isImport

def afterSuper (extra body : List Tree) : List Tree :=
  if body.any isSuperCall then
    let before := body.takeWhile (fun t => !isSuperCall t)
    match body.drop before.length with
    | call :: rest => before ++ call :: extra ++ rest
    | [] => before ++ extra
  else body.takeWhile isDirective ++ extra ++ body.dropWhile isDirective

def plainParameter : Tree → Tree
  | .node (.param _) s ps => .node (.param {}) s ps
  | t => t

def isReceiver : Tree → Bool
  | .node .receiver _ _ => true
  | _ => false

def eraseMethod (isConstructor : Bool) : Tree → Tree
  | .node (.function form) s [id, ts, .node .list ls params, r, .node (.block stop) bs body] =>
      let extra := if isConstructor then (fieldParameters params).map keepParameter else []
      let body := if extra.isEmpty then body else afterSuper extra body
      .node (.function form) s
        [id, ts, .node .list ls (params.map plainParameter), r, .node (.block stop) bs body]
  | t => t

def isConstructorKey : Tree → Bool
  | .node (.key s) _ _ | .node (.text s) _ _ => s == "constructor"
  | _ => false

def staysMember : Tree → Bool
  | .node (.classMethod _ m _) _ [_, _, f] => !m.isAbstract && !(f.parts.getLast?.getD .absent).isAbsent
  | .node (.classField m _ _) _ _ => !m.isAbstract && !m.isDeclare
  | .node (.classIndex _) _ _ => false
  | _ => true

def plainMember : Tree → Tree
  | .node (.classMethod kind m _) s ps => .node (.classMethod kind { isStatic := m.isStatic } false) s ps
  | .node (.classField m _ _) s ps =>
      .node (.classField { isStatic := m.isStatic, isAccessor := m.isAccessor } false false) s ps
  | t => t

def aliasVariable (kind : VarKind) (s : Nat) (id : String) (value : Tree) : Tree :=
  .node (.vars kind false) s [.node (.declarator false) 0 [Tree.name id, value]]

def pathValue : List String → Tree
  | [] => .absent
  | id :: rest => rest.foldl (fun e s => .node (.member s false) 0 [e]) (Tree.name id)

def lowerAlias : Tree → Tree
  | .node (.importEquals false id path) s _ => aliasVariable .var s id (pathValue path)
  | .node (.importRequire false id source) s _ =>
      aliasVariable .const s id
        (.node (.call false false 0) 0 [Tree.name "require", Tree.list [], Tree.text source])
  | .node .exportEquals s [e] =>
      .node .expression s [.node (.assign .plain) 0
        [.node (.member "exports" false) 0 [Tree.name "module"], e]]
  | t => t

def aliasName : Tree → Option String
  | .node (.importEquals _ id _) _ _ | .node (.importRequire _ id _) _ _ => some id
  | _ => none

def usedAliases (body : List Tree) : List Tree :=
  if body.any (fun t => (aliasName t).isSome) then
    let used := Tree.usedNamesAll body
    body.filter (fun t => (aliasName t).all used.contains)
  else body

def eraseStatements (seen : List String) : List Tree → List Tree
  | [] => []
  | t :: rest =>
      if t.isTypeOnly then eraseStatements seen rest
      else
        let kept := match t with
          | .node (.enum id _ _ stop) s ms =>
              (Enum.lower [] ⟨false, false, seen.contains id⟩ s id ms stop).1
          | t => lowerAlias t
        kept :: eraseStatements (seen ++ t.blockNames) rest

def nestSpaces (word : String) (s : Nat) (body : Tree) : List ModuleName → Tree
  | [] => body
  | [n] => .node (.moduleBlock word [n] false) s [body]
  | n :: rest =>
      .node (.moduleBlock word [n] false) s
        [.node (.block 0) 0 [.node .exportDeclaration 0 [nestSpaces word s body rest]]]

def isTypeSyntax : Tree → Bool
  | .node (.enum _ _ _ _) _ _ | .node (.moduleBlock _ _ _) _ _ | .node (.importEquals _ _ _) _ _
  | .node (.importRequire _ _ _) _ _ => true
  | t => t.isTypeOnly

def orEmpty (t : Tree) : Tree := if isTypeSyntax t then .node (.block 0) 0 [] else t

def eraseNode (l : Label) (s : Nat) (ps : List Tree) : Tree :=
  match l, ps with
  | .typed optional, p :: _ =>
      match p with
      | .node (.name _) _ _ => p
      | p => if optional then .node (.typed true) s [p, .absent] else p
  | .asType, e :: _ | .satisfies, e :: _ | .nonNull, e :: _ | .instantiation, e :: _ =>
      .node .untyped e.bare.start [e]
  | .assertion, [_, e] => .node .untyped e.bare.start [e]
  | .ifThen, [test, yes, no] =>
      .node .ifThen s [test, orEmpty yes, if isTypeSyntax no then .absent else no]
  | .whileLoop, [test, body] => .node .whileLoop s [test, orEmpty body]
  | .doWhile, [body, test] => .node .doWhile s [orEmpty body, test]
  | .forLoop, [start, test, update, body] => .node .forLoop s [start, test, update, orEmpty body]
  | .forIn, [left, right, body] => .node .forIn s [left, right, orEmpty body]
  | .forOf isAwait, [left, right, body] => .node (.forOf isAwait) s [left, right, orEmpty body]
  | .function form, [id, _, .node .list ls params, _, body] =>
      .node (.function form) s
        [id, Tree.list [], .node .list ls (params.filter (fun p => !isReceiver p)), .absent, body]
  | .arrow isAsync isQuiet, [_, .node .list ls params, _, body] =>
      .node (.arrow isAsync isQuiet) s
        [Tree.list [], .node .list ls (params.filter (fun p => !isReceiver p)), .absent, body]
  | .call o pure stop, callee :: _ :: args => .node (.call o pure stop) s (callee :: Tree.list [] :: args)
  | .new pure stop, callee :: _ :: args => .node (.new pure stop) s (callee :: Tree.list [] :: args)
  | .tagged pieces, tag :: _ :: vs => .node (.tagged pieces) s (tag :: Tree.list [] :: vs)
  | .element closed, tag :: _ :: rest => .node (.element closed) s (tag :: Tree.list [] :: rest)
  | .declarator _, ps => .node (.declarator false) s ps
  | .classMethod kind m optional, [ds, key, f] =>
      let isConstructor := kind == .method && !m.isStatic && isConstructorKey key
      .node (.classMethod kind m optional) s [ds, key, eraseMethod isConstructor f]
  | .classField m optional definite, [ds, key, _, value] =>
      .node (.classField m optional definite) s [ds, key, .absent, value]
  | .classBody _ isDeclare stop, [id, ds, _, base, _, _, .node .list ms members] =>
      .node (.classBody false isDeclare stop) s
        [id, ds, Tree.list [], base, Tree.list [], Tree.list [],
          .node .list ms ((members.filter staysMember).map plainMember)]
  | .block stop, body => .node (.block stop) s (eraseStatements [] (usedAliases body))
  | .staticBlock stop, body => .node (.staticBlock stop) s (eraseStatements [] body)
  | .case, test :: body => .node .case s (test :: eraseStatements [] body)
  | .moduleBlock word path false, [body] => nestSpaces word s body path
  | l, ps => .node l s ps

def Tree.erase (t : Tree) : Tree := t.rebuild eraseNode

end LivePreview.Script
