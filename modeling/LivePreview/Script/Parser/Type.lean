import LivePreview.Script.Parser.Signature

namespace LivePreview.Script.Parser

def typeWords : List String :=
  ["any", "unknown", "string", "number", "bigint", "symbol", "boolean", "undefined", "never", "object"]

def startsType (t : Token) : Bool :=
  t.isName || t.kind == .text || t.isNumber || t.kind == .bigint || t.opensTemplate ||
    ["\x7b", "[", "<", "|", "&", "(", "-", "*", "?", "!", "..."].any t.isMark ||
    ["void", "null", "this", "typeof", "new", "true", "false", "import", "function"].any t.isWord

def skipParameterStart (go : Grammar) : Parse Bool := do
  let _ ← modifiers
  let t ← current
  if t.isName || t.isWord "this" then
    advance
    return true
  else if t.isMark "[" || t.isMark "\x7b" then
    let count := (← get).faults.length
    let _ ← go .pattern
    return (← get).faults.length == count
  else return false

def opensFunctionType (go : Grammar) : Parse Bool := do
  advance
  if (← at? ")") || (← at? "...") then return true
  if ← skipParameterStart go then
    if (← at? ":") || (← at? ",") || (← at? "?") || (← at? "=") then return true
    if ← eat ")" then return ← at? "=>"
  return false

def atFunctionType (go : Grammar) : Parse Bool := do
  if ← at? "<" then return true
  if ← at? "(" then return ← lookahead (opensFunctionType go) false
  if ← atWord "new" then return true
  return (← atWord "abstract") && (← peek).isWord "new"

def functionType (go : Grammar) : Parse Tree := do
  let s ← here
  let isAbstract ← eatWord "abstract"
  let isConstructor ← eatWord "new"
  let ts ← typeParameters go
  let ps ← parameters go
  expect "=>"
  let r ← resultType go
  if isConstructor then return .node (.typeConstructor isAbstract) s [ts, ps, r]
  else return .node .typeFunction s [ts, ps, r]

def qualified (first : String) : Parse (List String) := do
  let more ← many do
    if ← eat "." then return some (← anyWord) else return none
  return first :: more

def dotted (names : List String) : String := ".".intercalate names

def argumentsOnLine (go : Grammar) : Parse (List Tree) := do
  splitAngle
  let t ← current
  if t.isMark "<" && !t.newline then typeArguments go else return []

def namedType (go : Grammar) : Parse Tree := do
  let t ← current
  let path ← qualified (← anyWord)
  let args ← argumentsOnLine go
  return .node (.typeName (dotted path)) t.start args

def importType (go : Grammar) : Parse Tree := do
  let s ← here
  advance
  expect "("
  let arg ← go .type
  let options ← if ← eat "," then do
      require "\x7b"
      go .operand
    else pure .absent
  expect ")"
  let path ← many do
    if ← eat "." then return some (← anyWord) else return none
  let args ← argumentsOnLine go
  return .node (.typeImport path) s ([arg, options] ++ args)

def queryType (go : Grammar) : Parse Tree := do
  let s ← here
  advance
  if ← atWord "import" then
    return .node .typeQueryOf s [← importType go]
  else
    let path ← qualified (← anyWord)
    let args ← argumentsOnLine go
    return .node (.typeQuery (dotted path)) s args

def tupleItem (go : Grammar) : Parse Tree := do
  let s ← here
  let isRest ← eat "..."
  let t ← current
  let (second, third) ← peekTwo
  let named := t.kind == .word &&
    (second.isMark ":" || (second.isMark "?" && third.isMark ":"))
  let item ← if named then do
      advance
      let optional ← eat "?"
      expect ":"
      let ty ← go .type
      pure (Tree.node (.typeNamed t.text optional) t.start [ty])
    else go .type
  if isRest then return .node .typeRest s [item] else return item

def tupleType (go : Grammar) : Parse Tree := do
  let s ← here
  advance
  let (items, _) ← delimited "]" (tupleItem go)
  expect "]"
  return .node .typeTuple s items

def memberEnd : Parse Unit := do
  unless ← eat "," do semicolon

def opensIndexSignature : Parse Bool := do
  unless ← at? "[" do return false
  advance
  let t ← current
  if t.isMark "..." || t.isMark "]" then return true
  if t.kind == .word && modifierWords.contains t.text then
    advance
    if (← current).isName then return true
  else if !t.isName then return false
  else advance
  if (← at? ":") || (← at? ",") then return true
  unless ← eat "?" do return false
  return (← at? ":") || (← at? ",") || (← at? "]")

def atIndexSignature : Parse Bool := lookahead opensIndexSignature false

def indexParameter (go : Grammar) : Parse Tree := do
  let s ← here
  let id ← anyWord
  if ← eat "?" then fault "An index signature parameter cannot have a question mark."
  let t ← annotation go
  if t.isAbsent then unexpected
  return .node (.typed false) s [.node (.name id) s [], t]

def indexSignature (go : Grammar) (words : List String) : Parse (List Tree) := do
  checkModifiers ["readonly", "static"]
    (fun w => "'" ++ w ++ "' modifier cannot appear on an index signature.") words
  expect "["
  let (ps, _) ← delimited "]" (indexParameter go)
  expect "]"
  unless ps.length == 1 do fault "An index signature must have exactly one parameter."
  let t ← annotation go
  if t.isAbsent then fault "An index signature must have a type annotation."
  memberEnd
  return [Tree.list ps, t]

def typeMember (go : Grammar) : Parse Tree := do
  let t ← current
  let s := t.start
  let second ← peek
  if t.isMark "(" || t.isMark "<" then
    let parts ← signature go ":"
    memberEnd
    return .node .typeCall s parts
  else if t.isWord "new" && (second.isMark "(" || second.isMark "<") then
    advance
    let parts ← signature go ":"
    memberEnd
    return .node .typeConstruct s parts
  else
    let words ← modifiers
    let isReadonly := words.contains "readonly"
    let kind ← accessorKind
    if kind == .method && (← atIndexSignature) then
      return .node (.typeIndex isReadonly) s (← indexSignature go words)
    else
      let key ← propertyKey go
      let optional ← if kind == .method then eat "?" else pure false
      if kind != .method || (← at? "(") || (← at? "<") then
        let parts ← signature go ":"
        memberEnd
        return .node (.typeMethod kind optional) s (key :: parts)
      else
        let ty ← annotation go
        memberEnd
        return .node (.typeField isReadonly optional) s [key, ty]

def objectType (go : Grammar) : Parse Tree := do
  let s ← here
  let ms ← members (typeMember go)
  return .node .typeObject s ms

def opensMappedType : Parse Bool := do
  advance
  if (← at? "+") || (← at? "-") then
    advance
    return ← atWord "readonly"
  let _ ← eatWord "readonly"
  let t ← current
  let (second, third) ← peekTwo
  return t.isMark "[" && second.kind == .word && third.isWord "in"

def signed (take : Parse Bool) (text : String) : Parse (Option String) := do
  let sign ← if ← eat "+" then pure "+" else if ← eat "-" then pure "-" else pure ""
  if ← take then return some (sign ++ text) else return none

def mappedType (go : Grammar) : Parse Tree := do
  let s ← here
  advance
  let isReadonly ← signed (eatWord "readonly") "readonly"
  expect "["
  let id ← anyWord
  expectWord "in"
  let keys ← go .type
  let rename ← if ← eatWord "as" then go .type else pure .absent
  expect "]"
  let optional ← signed (eat "?") "?"
  let ty ← annotation go
  let _ ← eat ";"
  expect "\x7d"
  return .node (.typeMapped isReadonly id optional) s [keys, rename, ty]

def rereadPiece : Parse Unit := do
  let s ← get
  if s.token.isMark "\x7d" then set (s.reread (readPiece false (s.here.skip 1)))

def templateValue (value : Parse Tree) : Parse Tree := do
  let opened := (← get).opened
  let v ← tryCatch value fun message => do
    let s ← get
    if s.token.isMark "\x7d" && s.opened == opened && !s.ended then
      set { s with
        token := { s.token with kind := .undetermined }
        tokenFaults := unterminatedText :: s.tokenFaults }
    throw message
  rereadPiece
  return v

def templateLoop (value : Parse Tree) : Nat → Parse (List String × List Tree × Bool)
  | 0 => return ([], [], true)
  | fuel + 1 => do
      let t ← current
      match t.kind with
      | .piece false true =>
          advance
          return ([t.text], [], !t.escaped)
      | .piece false false =>
          advance
          let (ps, vs, valid) ← templateLoop value fuel
          return (t.text :: ps, vs, valid && !t.escaped)
      | .eof => expected "\x7d\x60"
      | _ =>
          let v ← templateValue value
          let (ps, vs, valid) ← templateLoop value fuel
          return (ps, v :: vs, valid)

def template (value : Parse Tree) : Parse (List String × List Tree × Bool) := do
  let t ← current
  advance
  match t.kind with
  | .piece _ true => return ([t.text], [], !t.escaped)
  | _ =>
      let v ← templateValue value
      let (ps, vs, valid) ← templateLoop value (← bound)
      return (t.text :: ps, v :: vs, valid && !t.escaped)

def typeUnit (go : Grammar) : Parse Tree := do
  let t ← current
  let s := t.start
  let next ← peek
  if t.kind == .word && typeWords.contains t.text && !next.isMark "." then
    advance
    return .node (.typeWord t.text) s []
  else if t.opensTemplate then
    let (ps, vs, _) ← template (go .type)
    return .node (.typeTemplate ps) s vs
  else if t.isMark "-" && (next.isNumber || next.kind == .bigint) then
    advance
    advance
    let value := if next.isNumber then Label.number (Number.value next.text) next.text
      else .bigint (bigintText next.text)
    return .node .typeLiteral s [.node (.unary .minus) s [.node value next.start []]]
  else if t.kind == .text then
    advance
    return .node .typeLiteral s [.node (.text t.text) s []]
  else if t.isNumber then
    advance
    return .node .typeLiteral s [.node (.number (Number.value t.text) t.text) s []]
  else if t.kind == .bigint then
    advance
    return .node .typeLiteral s [.node (.bigint (bigintText t.text)) s []]
  else if t.isWord "true" || t.isWord "false" then
    advance
    return .node .typeLiteral s [.node (.bool (t.text == "true")) s []]
  else if ["void", "null", "intrinsic"].any t.isWord && !next.isMark "." then
    advance
    return .node (.typeWord t.text) s []
  else if t.isWord "this" && !next.isMark "." then
    advance
    return .node (.typeWord "this") s []
  else if t.isWord "asserts" && (next.isName || next.isWord "this") && !next.newline then
    advance
    advance
    let what ← if ← eatWord "is" then go .type else pure .absent
    return .node (.typePredicate true next.text) s [what]
  else if t.isWord "typeof" then queryType go
  else if t.isMark "\x7b" then
    if ← lookahead opensMappedType false then mappedType go else objectType go
  else if t.isMark "[" then tupleType go
  else if t.isMark "(" then
    advance
    let ty ← go .type
    expect ")"
    return .node .typeParen s [ty]
  else if t.isWord "import" then importType go
  else if t.isMark "?" then
    advance
    let closes := [",", "\x7d", ")", ">", "=", "|"].any next.isMark
    if closes then return .node (.typeWord "unknown") s []
    else return .node (.typeMarked "?" false) s [← go .type]
  else if t.isMark "!" then
    advance
    return .node (.typeMarked "!" false) s [← go .typeOperand]
  else namedType go

def typePostfix (go : Grammar) (t : Tree) : Parse (Option Tree) := do
  let here ← current
  if here.newline then return none
  else if here.isMark "!" then
    advance
    return some (.node (.typeMarked "!" true) t.start [t])
  else if here.isMark "?" then
    let (second, third) ← peekTwo
    if startsType second && !(second.isMark "-" && !third.isNumber && third.kind != .bigint) then
      return none
    advance
    return some (.node (.typeMarked "?" true) t.start [t])
  else if here.isMark "[" then
    advance
    if ← eat "]" then return some (.node .typeArray t.start [t])
    else
      let k ← go .type
      expect "]"
      return some (.node .typeIndexed t.start [t, k])
  else return none

def inferBound (go : Grammar) : Parse (Option Tree) := do
  if ← eatWord "extends" then
    let t ← within (fun c => { c with plainTypes := true }) (go .type)
    if (← context).plainTypes || !(← at? "?") then return some t
  return none

def takesReadonly : Tree → Bool
  | .node .typeArray _ _ | .node .typeTuple _ _ => true
  | _ => false

def typeOperand (go : Grammar) : Parse Tree := do
  let t ← current
  if ["keyof", "unique", "readonly"].any t.isWord then
    advance
    let operand ← go .typeOperand
    if t.isWord "readonly" && !takesReadonly operand then
      fault "'readonly' type modifier is only permitted on array and tuple literal types."
    return .node (.typeOperator t.text) t.start [operand]
  else if t.isWord "infer" then
    advance
    let id ← bindingName
    let limit ← attempt (inferBound go)
    return .node (.typeInfer id) t.start [Tree.ofOption limit]
  else
    within (fun c => { c with plainTypes := false }) do
      growing (typePostfix go) (← typeUnit go)

def joined (mark : String) (l : Label) (item : Parse Tree) : Parse Tree := do
  let s ← here
  let leading ← eat mark
  let first ← item
  if leading || (← at? mark) then
    let more ← many do
      if ← eat mark then return some (← item) else return none
    return .node l s (first :: more)
  else return first

def unionType (go : Grammar) : Parse Tree :=
  joined "|" .union (joined "&" .intersection (go .typeOperand))

def type (go : Grammar) : Parse Tree := do
  if ← atFunctionType go then functionType go
  else
    let t ← unionType go
    let c ← context
    if !c.plainTypes && !(← current).newline && (← eatWord "extends") then
      let check ← within (fun c => { c with plainTypes := true }) (go .type)
      expect "?"
      let yes ← within (fun c => { c with plainTypes := false }) (go .type)
      expect ":"
      let no ← within (fun c => { c with plainTypes := false }) (go .type)
      return .node .typeConditional t.start [t, check, yes, no]
    else return t

end LivePreview.Script.Parser
