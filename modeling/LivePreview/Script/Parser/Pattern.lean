import LivePreview.Script.Parser.Name

namespace LivePreview.Script.Parser

def annotation (go : Grammar) : Parse Tree := do
  if (← hasTypes) && (← at? ":") then
    advance
    within (fun c => { c with plainTypes := false }) (go .type)
  else return .absent

def typedPattern (go : Grammar) (mayBeOptional : Bool) : Parse Tree := do
  let s ← here
  let p ← go .pattern
  if ← hasTypes then
    let optional ← if mayBeOptional then eat "?" else pure false
    let t ← annotation go
    if optional || !t.isAbsent then return .node (.typed optional) s [p, t] else return p
  else return p

def initializer (go : Grammar) (p : Tree) : Parse Tree := do
  if ← eat "=" then
    let e ← within allowIn (go (.assignment true))
    return .node .withDefault p.start [p, e]
  else return p

def patternWithDefault (go : Grammar) : Parse Tree := do initializer go (← typedPattern go true)

def restPattern (go : Grammar) (notLast : String) : Parse Tree := do
  let s ← here
  advance
  let start ← here
  let p ← go .pattern
  if (← hasTypes) && (← eat "?") then fault "A rest parameter cannot be optional"
  let t ← annotation go
  let p := if t.isAbsent then p else .node (.typed false) start [p, t]
  if ← at? "=" then
    let _ ← initializer go p
    fault "A rest element cannot have an initializer"
  if ← at? "," then fault notLast
  return .node .rest s [p]

def isRest : Tree → Bool
  | .node .rest _ _ => true
  | _ => false

def checkComma (items : List Tree) (comma : Bool) : Parse Unit := do
  if comma && items.any isRest && !(← context).ambient then
    fault "A rest parameter or binding pattern may not have a trailing comma."

def restNotLast : String := "A rest element must be last in a destructuring pattern"

def arrayPatternItem (go : Grammar) : Parse Tree := do
  if ← at? "," then mark .hole []
  else if ← at? "..." then restPattern go restNotLast
  else patternWithDefault go

def objectPatternItem (go : Grammar) : Parse Tree := do
  if ← at? "..." then restPattern go restNotLast
  else
    let t ← current
    let key ← propertyKey go
    if t.isName && !(← at? ":") then
      checkName t.text
      let p ← initializer go (.node (.name t.text) t.start [])
      return .node (.propertyPattern true) t.start [key, p]
    else
      expect ":"
      let p ← patternWithDefault go
      return .node (.propertyPattern false) t.start [key, p]

def pattern (go : Grammar) : Parse Tree := do
  let s ← here
  if ← at? "[" then
    advance
    let (items, comma) ← delimited "]" (arrayPatternItem go)
    checkComma items comma
    expect "]"
    return .node (.arrayPattern true) s items
  else if ← at? "\x7b" then
    advance
    let (items, comma) ← delimited "\x7d" (objectPatternItem go)
    checkComma items comma
    expect "\x7d"
    return .node (.objectPattern true) s items
  else
    return .node (.name (← bindingName)) s []

end LivePreview.Script.Parser
