import LivePreview.Script.Number
import LivePreview.Script.Parser.Basic

namespace LivePreview.Script.Parser

def mark (l : Label) (ps : List Tree) : Parse Tree := return .node l (← here) ps

def reservedFault (t : Token) : String :=
  "Identifier expected. '" ++ t.text ++ "' is a reserved word that cannot be used here."

def checkName (name : String) : Parse Unit := do
  let c ← context
  if c.hasAwait && name == "await" then
    fault "Cannot use `await` as an identifier in an async context"
  if c.hasYield && name == "yield" then
    fault "Cannot use `yield` as an identifier in a generator context"

def bindingName : Parse String := do
  let t ← current
  if t.isName then
    pass
    checkName t.text
    return t.text
  else if t.isReserved then throw (reservedFault t)
  else unexpected

def variableName : Parse String := do
  let t ← current
  if t.isName then
    pass
    checkName t.text
    return t.text
  else unexpected

def anyWord : Parse String := do
  let t ← current
  if t.kind == .word then
    pass
    return t.text
  else unexpected

def stringText : Parse String := do
  let t ← current
  if t.kind == .text then
    advance
    return t.text
  else unexpected

def bigintText (raw : String) : String := String.ofList (raw.toList.filter (· != '_'))

def propertyKey (go : Grammar) : Parse Tree := do
  let t ← current
  let s := t.start
  if t.kind == .text then
    advance
    return .node (.text t.text) s []
  else if t.isNumber then
    advance
    return .node (.number (Number.value t.text) t.text) s []
  else if t.kind == .bigint then
    advance
    return .node (.bigint (bigintText t.text)) s []
  else if t.isMark "[" then
    advance
    let e ← within allowIn (go (.assignment true))
    expect "]"
    return .node .computed s [e]
  else
    return .node (.key (← anyWord)) s []

def memberKey (go : Grammar) : Parse Tree := do
  let t ← current
  if t.kind == .secret then
    advance
    return .node (.secret t.text) t.start []
  else propertyKey go

def hasLoneHalf : List Char → Bool
  | [] => false
  | '\uFFFD' :: cs => !startsWith "fffd" cs || hasLoneHalf cs
  | _ :: cs => hasLoneHalf cs

def moduleName : Parse ModuleName := do
  let t ← current
  if t.kind == .text then
    advance
    if hasLoneHalf t.text.toList then
      fault "An export name cannot include a unicode lone surrogate"
    return .text t.text
  else return .name (← anyWord)

end LivePreview.Script.Parser
