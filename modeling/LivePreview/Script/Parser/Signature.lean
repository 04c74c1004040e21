import LivePreview.Script.Parser.Pattern

namespace LivePreview.Script.Parser

def canFollowModifier (t : Token) : Bool :=
  t.startsKey || t.isMark "\x7b" || t.isMark "*" || t.isMark "..."

def canFollowExport (t : Token) : Bool :=
  t.isMark "@" || (!t.isMark "*" && !t.isWord "as" && !t.isMark "\x7b" && canFollowModifier t)

def canFollowDefault (t : Token) : Bool :=
  t.isMark "@" || ["class", "function", "interface", "abstract", "async"].any t.isWord

def atModifier (mayBeConst inClass seenStatic : Bool) : Parse Bool := do
  let t ← current
  if t.kind == .word && modifierWords.contains t.text then
    let (second, third) ← peekTwo
    if t.text == "const" then
      if mayBeConst then return canFollowModifier second && !second.newline
      else return second.isWord "enum"
    else if t.text == "static" then
      return !seenStatic && !(inClass && second.isMark "\x7b") && canFollowModifier second
    else if t.text == "export" then
      return if second.isWord "default" then canFollowDefault third
        else if second.isWord "type" then canFollowExport third
        else canFollowExport second
    else if t.text == "default" then return canFollowDefault second
    else return canFollowModifier second && !second.newline
  else return false

def accessWords : List String := ["public", "private", "protected"]

def checkRepeated (seen : List String) (word : String) : Parse Unit := do
  if accessWords.contains word && accessWords.any seen.contains then
    fault "Accessibility modifier already seen."
  else if seen.contains word then fault (word ++ "' modifier already seen.")

def modifierLoop (mayBeConst inClass : Bool) : Nat → List String → Parse (List String)
  | 0, seen => return seen
  | fuel + 1, seen => do
      if ← atModifier mayBeConst inClass (seen.contains "static") then
        let t ← current
        advance
        checkRepeated seen t.text
        modifierLoop mayBeConst inClass fuel (seen ++ [t.text])
      else return seen

def modifiers : Parse (List String) := do modifierLoop false false (← bound) []

def memberModifiers : Parse (List String) := do modifierLoop true true (← bound) []

def checkModifiers (allowed : List String) (message : String → String) (words : List String) :
    Parse Unit :=
  words.forM fun w => if allowed.contains w then pure () else fault (message w)

def notHere (word : String) : String := "'" ++ word ++ "' modifier cannot be used here."

def noteModifier (m : Modifiers) (word : String) : Modifiers :=
  match word with
  | "public" | "private" | "protected" => { m with accessibility := m.accessibility.or (some word) }
  | "static" => { m with isStatic := true }
  | "abstract" => { m with isAbstract := true }
  | "override" => { m with isOverride := true }
  | "readonly" => { m with isReadonly := true }
  | "declare" => { m with isDeclare := true }
  | "accessor" => { m with isAccessor := true }
  | "async" => { m with isAsync := true }
  | "const" => { m with isConst := true }
  | _ => m

def noted (words : List String) : Modifiers := words.foldl noteModifier {}

def accessorKind : Parse MethodKind := do
  let t ← current
  if (t.isWord "get" || t.isWord "set") && canFollowModifier (← peek) then
    advance
    return if t.text == "get" then .get else .set
  else return .method

def typeParameter (go : Grammar) : Parse Tree := do
  let s ← here
  let words ← modifierLoop true false (← bound) []
  checkModifiers ["const", "in", "out"]
    (fun w => "'" ++ w ++ "' modifier cannot be used on a type parameter.") words
  let id ← bindingName
  let limit ← if ← eatWord "extends" then go .type else pure .absent
  let default ← if ← eat "=" then go .type else pure .absent
  return .node (.typeParam id (["const", "in", "out"].filter words.contains)) s [limit, default]

def typeParameters (go : Grammar) : Parse Tree := do
  if (← hasTypes) && (← at? "<") then
    advance
    let (ts, _) ← delimited ">" (typeParameter go)
    expect ">"
    return Tree.list ts
  else return Tree.list []

def splitAngle : Parse Unit := modify fun s =>
  if s.token.kind == .mark && s.token.text.startsWith "<" && s.token.text != "<" then
    s.reread { kind := .mark, text := "<", next := s.here.skip 1 }
  else s

def typeArguments (go : Grammar) : Parse (List Tree) := do
  splitAngle
  expect "<"
  let (ts, _) ← delimited ">" (within (fun c => { c with plainTypes := false }) (go .type))
  expect ">"
  return ts

def decorators (go : Grammar) : Parse (List Tree) := do
  many do
    if ← at? "@" then
      advance
      return some (← within (fun c => { c with inDecorator := true }) (go .callee))
    else return none

def parameterModifiers : Parse Modifiers := do
  let words ← modifiers
  if ← hasTypes then
    checkModifiers (accessWords ++ ["readonly", "override"])
      (fun w => "'" ++ w ++ "' modifier cannot appear on a parameter.") words
  else
    checkModifiers [] (fun _ => "Parameter modifiers can only be used in TypeScript files.") words
  return noted words

def parameter (go : Grammar) : Parse Tree := do
  let s ← here
  if ← at? "..." then restPattern go "A rest parameter must be last in a parameter list"
  else
    let ds ← decorators go
    let m ← parameterModifiers
    let p ← patternWithDefault go
    return .node (.param m) s [Tree.list ds, p]

def receiver (go : Grammar) : Parse (List Tree) := do
  if (← hasTypes) && (← atWord "this") then
    let s ← here
    advance
    let t ← annotation go
    unless ← at? ")" do expect ","
    return [.node .receiver s [t]]
  else return []

def parameters (go : Grammar) : Parse Tree := do
  let s ← here
  expect "("
  let r ← within allowIn (receiver go)
  let (ps, comma) ← within allowIn (delimited ")" (parameter go))
  checkComma ps comma
  expect ")"
  return .node .list s (r ++ ps)

def resultType (go : Grammar) : Parse Tree := do
  let t ← current
  let next ← peek
  let free := within (fun c => { c with plainTypes := false })
  if t.kind == .word && next.isWord "is" && !next.newline then
    advance
    advance
    return .node (.typePredicate false t.text) t.start [← free (go .type)]
  else free (go .type)

def resultAnnotation (go : Grammar) (mark : String) : Parse Tree := do
  if (← hasTypes) && (← at? mark) then
    advance
    resultType go
  else return .absent

def signature (go : Grammar) (mark : String) : Parse (List Tree) := do
  let ts ← typeParameters go
  let ps ← parameters go
  let r ← resultAnnotation go mark
  return [ts, ps, r]

end LivePreview.Script.Parser
