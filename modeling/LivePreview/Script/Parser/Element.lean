import LivePreview.Script.Parser.Expression
import LivePreview.Text.Lowercase

namespace LivePreview.Script.Parser

def hyphenated : Parse Unit := modify fun s =>
  let (cs, next) := s.next.takeWhile (fun c => Text.continuesName c || c == '-')
  if s.token.kind == .word && !cs.isEmpty then
    s.reread { kind := .word, text := s.token.text ++ String.ofList cs, next }
  else s

def elementWord : Parse String := do
  if (← current).kind != .word then unexpected
  hyphenated
  anyWord

def namesVariable (tag : String) : Bool :=
  match tag.toList with
  | c :: cs => !Text.isLowercase c && !cs.contains '-'
  | [] => false

def tagTree (s : Nat) (tag : String) : Tree :=
  if tag == "this" then .node .this s []
  else if namesVariable tag then .node (.name tag) s []
  else .node (.tag tag) s []

def elementName : Parse Tree := do
  let s ← here
  let first ← elementWord
  if ← eat ":" then return .node (.tagScoped first (← elementWord)) s []
  else if ← at? "." then
    let object := if first == "this" then Tree.node .this s [] else .node (.name first) s []
    growing (fun t => do
      if ← eat "." then return some (.node (.tagMember (← elementWord)) s [t]) else return none) object
  else return tagTree s first

def tagText : Tree → String
  | .node .this _ _ => "this"
  | .node (.name s) _ _ | .node (.tag s) _ _ => s
  | .node (.tagScoped a b) _ _ => a ++ ":" ++ b
  | .node (.tagMember s) _ [t] => tagText t ++ "." ++ s
  | _ => ""

def containerTail (go : Grammar) (s : Nat) (inChild : Bool) : Parse Tree := do
  let e ← if ← at? "\x7d" then pure .absent else within allowIn (go .expression)
  let stop ← here
  if inChild then expectChild "\x7d" else expect "\x7d"
  return .node (.container stop) s [e]

def attributeValue (go : Grammar) : Parse Tree := do
  let t ← current
  if t.kind == .text then
    advance
    return .node (.attributeText t.text) t.start []
  else if t.isMark "\x7b" then
    advance
    containerTail go t.start false
  else if t.isMark "<" then go (.element false)
  else unexpected

def elementAttribute (go : Grammar) : Parse (Option Tree) := do
  let t ← current
  if t.kind == .eof || ["<", ">", "/"].any t.isMark then return none
  else if t.isMark "\x7b" then
    advance
    expect "..."
    let e ← within allowIn (go .expression)
    expect "\x7d"
    return some (.node .attributeSpread t.start [e])
  else
    let first ← elementWord
    let (space, name) ← if ← eat ":" then pure (some first, ← elementWord) else pure (none, first)
    let value ← if ← at? "=" then do
        modify State.stepAttribute
        attributeValue go
      else pure .absent
    return some (.node (.attr space name) t.start [value])

def child (go : Grammar) : Parse (Option Tree) := do
  let t ← current
  if t.isMark "<" then
    let next ← peek
    if next.isMark "/" then return none
    else if next.isMark ">" || next.kind == .word then return some (← go (.element true))
    else
      advance
      unexpected
  else if t.isMark "\x7b" then
    advance
    if ← eat "..." then
      let e ← within allowIn (go .expression)
      expectChild "\x7d"
      return some (.node .childSpread t.start [e])
    else return some (← containerTail go t.start true)
  else if t.kind == .childText then
    advanceChild
    return some (.node (.childText t.text) t.start [])
  else unexpected

def closingEnd (inChild : Bool) : Parse Unit := if inChild then expectChild ">" else expect ">"

def element (go : Grammar) (inChild : Bool) : Parse Tree := do
  let s ← here
  advance
  let t ← current
  if t.isMark ">" then
    advanceChild
    let children ← many (child go)
    expect "<"
    expect "/"
    closingEnd inChild
    return .node .fragment s children
  else if t.kind == .word then
    let name ← elementName
    let types ← if (← hasTypes) && (← at? "<") then do
        let ts ← attempt (some <$> typeArguments go)
        pure (ts.getD [])
      else pure []
    let attributes ← many (elementAttribute go)
    let front := [name, Tree.list types, Tree.list attributes]
    if ← eat "/" then
      closingEnd inChild
      return .node (.element true) s front
    else
      expectChild ">"
      let children ← many (child go)
      expect "<"
      expect "/"
      let closing ← elementName
      closingEnd inChild
      if tagText name != tagText closing then
        fault ("Expected corresponding JSX closing tag for '" ++ tagText name ++ "'.")
      return .node (.element false) s (front ++ children)
  else unexpected

end LivePreview.Script.Parser
