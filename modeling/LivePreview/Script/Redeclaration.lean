import LivePreview.Script.Names
import LivePreview.Script.Parser.Basic

namespace LivePreview.Script

inductive Binding where
  | var
  | param
  | caught
  | caughtPart
  | lexical
  | function
  | classDecl
  | enum
  | constEnum
  | enumMember
  | space
  | valueSpace
  | alias
  | interface
  | imported
  deriving DecidableEq, Repr

namespace Binding

def isValue : Binding → Bool
  | .space | .alias | .interface | .imported => false
  | _ => true

def isType : Binding → Bool
  | .classDecl | .enum | .constEnum | .enumMember | .alias | .interface => true
  | _ => false

def isLoose : Binding → Bool
  | .var | .param | .caught => true
  | _ => false

def isAny (b : Binding) (ways : List Binding) : Bool := ways.contains b

/-- Whether a name bound one way may not be bound anew in the same scope. Values and types have names
of their own; functions, classes and spaces may share one, and so may interfaces, and imports give
way to all but other imports. -/
def clashes (types : Bool) (old new : Binding) : Bool :=
  match new with
  | .var => old.isValue && !old.isLoose && old != .function
  | .param => old.isValue && old != .function
  | .caught | .space => false
  | .valueSpace => old.isValue && !old.isAny [.function, .classDecl, .enum, .valueSpace]
  | .caughtPart | .lexical => old.isValue
  | .function =>
      old.isValue && !old.isAny [.function, .valueSpace, .classDecl] && (types || !old.isLoose)
  | .classDecl =>
      (old.isValue || old.isType) && !old.isAny [.valueSpace, .function, .interface]
  | .enum => (old.isValue || old.isType) && !old.isAny [.valueSpace, .enum]
  | .constEnum => (old.isValue || old.isType) && old != .constEnum
  | .enumMember => old == .enumMember
  | .alias => old.isType
  | .interface => old.isType && !old.isAny [.interface, .classDecl]
  | .imported => old == .imported

end Binding

namespace Tree

def bindings (t : Tree) : List (String × Binding) :=
  own t ++ (hoistedNames t).map (·, .var)
where
  own : Tree → List (String × Binding)
    | .node .exportDeclaration _ [d] | .node .exportDefault _ [d] => declared d
    | .node (.imports i) _ _ =>
        (i.default.toList ++ i.star.toList ++ (i.items.getD []).map (·.localName)).map (·, .imported)
    | t => declared t
  declared : Tree → List (String × Binding)
    | .node (.vars .var isDeclare) _ ds => if isDeclare then (boundNamesAll ds).map (·, .var) else []
    | .node (.vars _ _) _ ds => (boundNamesAll ds).map (·, .lexical)
    | .node (.function _) _ (id :: _) => (boundNames id).map (·, .function)
    | .node (.classBody _ _ _) _ (id :: _) => (boundNames id).map (·, .classDecl)
    | .node (.enum id isConst _ _) _ _ => [(id, if isConst then .constEnum else .enum)]
    | .node (.alias id _) _ _ => [(id, .alias)]
    | .node (.interface id _) _ _ => [(id, .interface)]
    | .node (.moduleBlock _ (.name n :: _) _) _ [body] =>
        [(n, if body.parts.all isTypeOnly then .space else .valueSpace)]
    | .node (.importEquals _ id _) _ _ | .node (.importRequire _ id _) _ _ => [(id, .imported)]
    | _ => []

def clashing (types : Bool) : List (String × Binding) → List (String × Binding) → List String
  | _, [] => []
  | seen, (n, b) :: rest =>
      let more := clashing types (seen ++ [(n, b)]) rest
      if seen.any (fun (m, a) => m == n && Binding.clashes types a b) then n :: more else more

def clashesIn (types : Bool) (stmts : List Tree) : List String :=
  clashing types [] (stmts.flatMap bindings)

def caughtBindings (p : Tree) : List (String × Binding) :=
  match p with
  | .node (.name id) _ _ | .node (.typed _) _ (.node (.name id) _ _ :: _) => [(id, .caught)]
  | p => (boundNames p).map (·, .caughtPart)

def cases : Tree → List Tree
  | .node .case _ (_ :: body) => body
  | _ => []

mutual

def redeclared (types : Bool) : Tree → List String
  | .node (.function _) _ [_, _, .node .list _ params, _, .node (.block _) _ body]
  | .node (.arrow _ _) _ [_, .node .list _ params, _, .node (.block _) _ body] =>
      let front := (boundNamesAll params).map (·, Binding.param)
      clashing types [] front ++ redeclaredAll types params ++ redeclaredIn types front body
  | .node (.arrow _ _) _ [_, .node .list _ params, _, body] =>
      clashing types [] ((boundNamesAll params).map (·, .param)) ++ redeclaredAll types params ++
        redeclared types body
  | .node .catchClause _ [p, .node (.block _) _ body] =>
      clashing types [] (caughtBindings p) ++ redeclaredIn types (caughtBindings p) body
  | .node (.block _) _ body | .node (.staticBlock _) _ body => redeclaredIn types [] body
  | .node (.switch _) _ ps => clashesIn types (ps.flatMap cases) ++ redeclaredAll types ps
  | .node .forLoop _ ps | .node .forIn _ ps | .node (.forOf _) _ ps =>
      clashing types [] ((ps.take 1).flatMap bindings ++ (hoistedNamesAll (ps.drop 1)).map (·, .var)) ++
        redeclaredAll types ps
  | .node (.enum _ _ _ _) _ ms =>
      clashing types [] ((enumKeys ms).map (·, .enumMember)) ++ redeclaredAll types ms
  | .node l _ ps => if l.isType then [] else redeclaredAll types ps

def redeclaredAll (types : Bool) : List Tree → List String
  | [] => []
  | t :: ts => redeclared types t ++ redeclaredAll types ts

def redeclaredIn (types : Bool) (seen : List (String × Binding)) : List Tree → List String
  | [] => []
  | t :: ts =>
      clashing types seen (bindings t) ++ redeclared types t ++
        redeclaredIn types (seen ++ bindings t) ts

end

end Tree

def Program.scopeFaults (p : Program) (types : Bool) : List String :=
  (Tree.redeclaredIn types [] p.body).map
    (fun n => "Identifier `" ++ n ++ "` has already been declared")

end LivePreview.Script
