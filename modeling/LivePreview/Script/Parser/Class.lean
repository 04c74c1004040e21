import LivePreview.Script.Parser.Expression

namespace LivePreview.Script.Parser

def staticBlock (go : Grammar) : Parse Tree := do
  let s ← here
  advance
  let b ← within (fun c => { c with hasIn := true, hasAwait := true, hasYield := false, hasReturn := false })
    (go .block)
  match b with
  | .node (.block stop) _ body => return .node (.staticBlock stop) s body
  | b => return b

def plainKey : Tree → Option String
  | .node (.key s) _ _ | .node (.text s) _ _ => some s
  | _ => none

def checkMember (m : Modifiers) (kind : MethodKind) (key : Tree) (isGenerator : Bool) : Parse Unit := do
  if !m.isStatic && plainKey key == some "constructor" then
    if kind != .method then fault "Constructor can't have get/set modifier"
    else
      if m.isAsync then fault "Constructor can't be an async method"
      if isGenerator then fault "Constructor can't be a generator"
  if m.isStatic && plainKey key == some "prototype" then
    fault "Classes may not have a static property named prototype"

def checkField (m : Modifiers) (words : List String) (key : Tree) (optional definite : Bool) :
    Parse Unit := do
  if plainKey key == some "constructor" then fault "Classes can't have a field named 'constructor'"
  if m.isStatic && plainKey key == some "prototype" then
    fault "Classes may not have a static property named prototype"
  if optional && definite then fault "A property cannot be both optional and definite."
  if m.isAccessor then
    if optional then fault "An 'accessor' property cannot be declared optional."
    checkModifiers (accessWords ++ ["accessor", "static", "abstract", "override"])
      (fun w => "'accessor' modifier cannot be used with '" ++ w ++ "' modifier.") words
  else checkModifiers (modifierWords.filter (· != "async")) notHere words

def classField (go : Grammar) (s : Nat) (words : List String) (ds key : Tree)
    (optional definite : Bool) : Parse Tree := do
  let m := noted words
  let t ← annotation go
  let value ← if ← eat "=" then
      within (fun c => { c with hasIn := true, hasAwait := false, hasYield := false })
        (go (.assignment true))
    else pure .absent
  fieldEnd
  checkField m words key optional definite
  return .node (.classField m optional definite) s [ds, key, t, value]

def checkConstructor : Tree → Parse Unit
  | .node (.function _) _ (_ :: .node .list _ ts :: .node .list _ ps :: _) => do
      match ps with
      | .node .receiver _ _ :: _ => fault "A constructor cannot have a `this` parameter."
      | _ => pure ()
      unless ts.isEmpty do fault "Type parameters cannot appear on a constructor declaration"
  | _ => pure ()

def classMethod (go : Grammar) (s : Nat) (kind : MethodKind) (words : List String) (ds key : Tree)
    (optional isGenerator : Bool) : Parse Tree := do
  let m := noted words
  let f ← methodFunction go m.isAsync isGenerator
  if kind == .method && !m.isStatic && plainKey key == some "constructor" then checkConstructor f
  checkMember m kind key isGenerator
  return .node (.classMethod kind m optional) s [ds, key, f]

def memberWordFault (word : String) : String :=
  if word == "const" then "A class member cannot have the 'const' keyword."
  else if word == "in" || word == "out" then
    "'" ++ word ++ "' modifier can only appear on a type parameter of a class, interface or type alias"
  else "'" ++ word ++ "' modifier cannot appear on class elements of this kind."

def memberWords : List String :=
  accessWords ++
    ["static", "abstract", "override", "readonly", "declare", "accessor", "async"]

def classKey (go : Grammar) (words : List String) : Parse Tree := do
  let t ← current
  let key ← memberKey go
  if t.kind == .secret then
    if ← hasTypes then
      checkModifiers (modifierWords.filter (!accessWords.contains ·))
        (fun _ => "An accessibility modifier cannot be used with a private identifier.") words
    if t.text == "constructor" then fault "Classes can't have an element named '#constructor'"
  return key

def misplacedDecorator : String := "Decorators are not valid here."

def classMember (go : Grammar) : Parse (Option Tree) := do
  let _ ← many do
    if ← eat ";" then return some () else return none
  let first ← current
  if first.isMark "\x7d" || first.kind == .eof || first.kind == .undetermined then return none
  let s := first.start
  let decorated ← decorators go
  let ds := Tree.list decorated
  let words ← memberModifiers
  checkModifiers memberWords memberWordFault words
  if (← atWord "static") && (← peek).isMark "\x7b" then
    decorated.forM fun _ => fault misplacedDecorator
    return some (← staticBlock go)
  let kind ← accessorKind
  if kind == .method && (← atIndexSignature) then
    decorated.forM fun _ => fault misplacedDecorator
    return some (.node (.classIndex (noted words)) s (← indexSignature go words))
  let isGenerator ← if kind == .method then eat "*" else pure false
  let key ← classKey go words
  let optional ← if kind == .method then eat "?" else pure false
  let definite ← if kind == .method then eat "!" else pure false
  if kind != .method || isGenerator || (← at? "(") || (← at? "<") then
    return some (← classMethod go s kind words ds key optional isGenerator)
  else return some (← classField go s words ds key optional definite)

structure Heritage where
  bases : Option (List Tree) := none
  interfaces : Option (List Tree) := none

def heir (go : Grammar) : Parse Tree := do
  let s ← here
  let e ← go .callee
  match e with
  | .node .instantiation _ _ => return e
  | e =>
      if (← at? "<") && (← hasTypes) then return .node .instantiation s (e :: (← typeArguments go))
      else return e

def heritageLoop (go : Grammar) : Nat → Heritage → Parse Heritage
  | 0, h => return h
  | fuel + 1, h => do
      if ← atWord "extends" then
        if h.bases.isSome then fault "'extends' clause already seen"
        else if h.interfaces.isSome then fault "'extends' clause must precede 'implements' clause"
        advance
        let first ← heir go
        let more ← many do
          if ← eat "," then return some (← heir go) else return none
        heritageLoop go fuel { h with bases := some (first :: more) }
      else if ← atWord "implements" then
        if h.interfaces.isSome then fault "'implements' clause already seen"
        advance
        let first ← namedType go
        let more ← many do
          if ← eat "," then return some (← namedType go) else return none
        heritageLoop go fuel { h with interfaces := some (first :: more) }
      else return h

def Heritage.base (h : Heritage) : Tree × List Tree :=
  match h.bases with
  | some (.node .instantiation _ (e :: ts) :: _) => (e, ts)
  | some (e :: _) => (e, [])
  | _ => (.absent, [])

def classBody (go : Grammar) : Parse Tree := do
  let s ← here
  advance
  let t ← current
  let id ← if t.isName && !t.isWord "implements" then
      pure (Tree.node (.name (← bindingName)) t.start [])
    else pure .absent
  let ts ← typeParameters go
  let h ← heritageLoop go (← bound) {}
  expect "\x7b"
  let ms ← many (classMember go)
  let stop ← here
  expect "\x7d"
  return .node (.classBody false false stop) s
    [id, Tree.list [], ts, h.base.1, Tree.list h.base.2, Tree.list (h.interfaces.getD []),
      Tree.list ms]

end LivePreview.Script.Parser
