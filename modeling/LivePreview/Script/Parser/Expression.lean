import LivePreview.Script.Parser.Target
import LivePreview.Script.Parser.Type

namespace LivePreview.Script.Parser

def binaryOf (t : Token) : Option BinaryOp :=
  if t.kind == .word then
    if t.text == "in" then some .isIn else if t.text == "instanceof" then some .instanceOf else none
  else if t.kind == .mark then
    [BinaryOp.eq, .ne, .strictEq, .strictNe, .lt, .le, .gt, .ge, .shl, .shr, .ushr, .add, .sub, .mul,
      .div, .rem, .pow, .bitOr, .bitXor, .bitAnd, .or, .and, .coalesce].find? (·.text == t.text)
  else none

def assignOf (t : Token) : Option AssignOp :=
  if t.kind != .mark then none
  else if t.text == "=" then some .plain
  else
    ([BinaryOp.shl, .shr, .ushr, .add, .sub, .mul, .div, .rem, .pow, .bitOr, .bitXor, .bitAnd, .or,
      .and, .coalesce].find? (fun o => o.text ++ "=" == t.text)).map AssignOp.through

def unaryOf (t : Token) : Option UnaryOp :=
  let all := [UnaryOp.plus, .minus, .not, .bitNot, .typeOf, .void, .delete]
  if t.kind == .mark || t.kind == .word then all.find? (·.text == t.text) else none

def updateOf (t : Token) : Option UpdateOp :=
  if t.isMark "++" then some .increment else if t.isMark "--" then some .decrement else none

def joinAngle : Parse Unit := modify fun s =>
  if s.token.isMark ">" then s.reread (readAngle s.here) else s

def startsExpression (t : Token) : Bool :=
  t.isName || t.isLiteral || t.opensTemplate || t.kind == .secret ||
    ["(", "[", "\x7b", "/", "/=", "+", "-", "~", "!", "++", "--", "<", "@"].any t.isMark ||
    ["this", "super", "function", "class", "new", "delete", "typeof", "void", "import"].any t.isWord

def canFollowTypeArguments (t : Token) : Bool :=
  if t.isMark "(" || t.opensTemplate then true
  else if ["<", ">", "+", "-"].any t.isMark then false
  else t.newline || (binaryOf t).isSome || t.isWord "as" || t.isWord "satisfies" || !startsExpression t

def valueTypeArguments (go : Grammar) : Parse (Option (List Tree)) := attempt do
  splitAngle
  expect "<"
  let (ts, _) ← delimited ">" (go .type)
  joinAngle
  expect ">"
  if canFollowTypeArguments (← current) then return some ts else return none

def beginsOperand (t : Token) : Bool :=
  !t.newline && (t.kind == .word && !t.isWord "in" && !t.isWord "instanceof" && !t.isWord "of" ||
    t.isLiteral || t.opensTemplate)

def isAwait : Parse Bool := do
  if ← atWord "await" then
    if (← context).hasAwait then return true
    return beginsOperand (← peek)
  else return false

def isYield : Parse Bool := do
  if ← atWord "yield" then
    if (← context).hasYield then return true
    return beginsOperand (← peek)
  else return false

def awaitFault : String :=
  "`await` is only allowed within async functions and at the top levels of modules"

def awaitExpression (go : Grammar) : Parse Tree := do
  let s ← here
  unless (← context).hasAwait do fault awaitFault
  advance
  return .node .await s [← within (fun c => { c with hasAwait := true }) (go .operand)]

def yieldExpression (go : Grammar) : Parse Tree := do
  let s ← here
  unless (← context).hasYield do
    fault "A 'yield' expression is only allowed in a generator body."
  advance
  let t ← current
  if !t.newline && t.isMark "*" then
    advance
    return .node (.yield true) s [← go (.assignment true)]
  else
    let ends := canEndStatement t || [")", "]", ":", ",", "\x7d"].any t.isMark || t.isWord "in" ||
      t.isWord "of"
    if ends then return .node (.yield false) s [.absent]
    else return .node (.yield false) s [← go (.assignment true)]

def functionTail (go : Grammar) (isAsync isGenerator : Bool) : Parse (List Tree) := do
  let parts ← within (fun c => { c with hasIn := true, hasAwait := isAsync, hasYield := isGenerator }) do
    let parts ← signature go ":"
    let body ← if ← at? "\x7b" then go .functionBody else pure .absent
    return parts ++ [body]
  if (parts.getLast?.getD .absent).isAbsent then
    if ← hasTypes then semicolon else unexpected
  return parts

def functionExpression (go : Grammar) : Parse Tree := do
  let s ← here
  let isAsync ← eatWord "async"
  advance
  let isGenerator ← eat "*"
  let id ← within (fun c => { c with hasAwait := isAsync, hasYield := isGenerator }) do
    let t ← current
    if t.isName then
      pass
      checkName t.text
      pure (Tree.node (.name t.text) t.start [])
    else pure .absent
  let parts ← functionTail go isAsync isGenerator
  return .node (.function { isAsync, isGenerator }) s (id :: parts)

def methodFunction (go : Grammar) (isAsync isGenerator : Bool) : Parse Tree := do
  let s ← here
  let parts ← functionTail go isAsync isGenerator
  return .node (.function { isAsync, isGenerator }) s (.absent :: parts)

def shorthand (go : Grammar) (s : Nat) (key : Tree) (id : String) : Parse Tree := do
  checkName id
  let eq ← here
  if ← eat "=" then
    let e ← within allowIn (go (.assignment true))
    modify fun st => { st with defaults := eq :: st.defaults }
    return .node (.field true) s [key, .node (.shortDefault id) eq [e]]
  else return .node (.field true) s [key, .node (.name id) key.start []]

def objectItem (go : Grammar) : Parse Tree := do
  let s ← here
  if ← eat "..." then return .node .spread s [← go (.assignment true)]
  else
    let words ← modifiers
    let kind ← accessorKind
    let isGenerator ← if kind == .method then eat "*" else pure false
    let t ← current
    let key ← propertyKey go
    if kind != .method || isGenerator || (← at? "(") || (← at? "<") then
      let isAsync := kind == .method && words.contains "async"
      if kind == .method then checkModifiers ["async"] notHere words
      let f ← methodFunction go isAsync isGenerator
      if kind != .method then checkModifiers [] notHere words
      return .node (.method kind) s [key, f]
    else
      checkModifiers [] notHere words
      if t.isName && !(← at? ":") then shorthand go s key t.text
      else
        expect ":"
        return .node (.field false) s [key, ← go (.assignment true)]

def noteComma (s : Nat) (comma : Bool) : Parse Unit :=
  if comma then modify fun st => { st with commas := s :: st.commas } else pure ()

def objectExpression (go : Grammar) : Parse Tree := do
  let s ← here
  advance
  let (items, comma) ← within allowIn (delimited "\x7d" (objectItem go))
  noteComma s comma
  expect "\x7d"
  return .node .object s items

def argument (go : Grammar) : Parse Tree := do
  let s ← here
  if ← eat "..." then return .node .spread s [← go (.assignment true)]
  else go (.assignment true)

def arrayItem (go : Grammar) : Parse Tree := do
  if ← at? "," then mark .hole [] else argument go

def arrayExpression (go : Grammar) : Parse Tree := do
  let s ← here
  advance
  let (items, comma) ← within allowIn (delimited "]" (arrayItem go))
  noteComma s comma
  expect "]"
  return .node .array s items

def arguments (go : Grammar) : Parse (List Tree × Nat) := do
  expect "("
  let (items, _) ← within (fun c => { c with hasIn := true, inDecorator := false })
    (delimited ")" (argument go))
  let stop ← here
  expect ")"
  return (items, stop)

def parenthesized (go : Grammar) : Parse Tree := do
  let s ← here
  expect "("
  let inner ← here
  let (items, comma) ← within (fun c => { c with hasIn := true, inDecorator := false })
    (delimited ")" (go (.assignment true)))
  if comma then throw "Parenthesized expressions may not have a trailing comma."
  match items with
  | [] =>
      expect ")"
      throw "Empty parenthesized expression"
  | [e] =>
      expect ")"
      return .node .paren s [e]
  | es =>
      expect ")"
      return .node .paren s [.node .sequence inner es]

def templateExpression (go : Grammar) (tagged : Bool) : Parse (List String × List Tree) := do
  let (pieces, values, valid) ← template (within allowIn (go .expression))
  if !valid && !tagged then fault "Bad escape sequence in untagged template literal"
  return (pieces, values)

def importExpression (go : Grammar) : Parse Tree := do
  let s ← here
  advance
  if ← eat "." then
    let t ← current
    if t.isWord "meta" then
      advance
      return .node .importMeta s []
    else throw "The only valid meta property for import is import.meta"
  else if ← eat "(" then
    if ← eat ")" then throw "import() requires a specifier."
    let source ← within allowIn (go (.assignment true))
    let options ← if (← eat ",") && !(← at? ")") then do
        let e ← within allowIn (go (.assignment true))
        let _ ← eat ","
        pure [e]
      else pure []
    let stop ← here
    unless ← eat ")" do
      throw "Dynamic imports can only accept a module specifier and an optional set of attributes as arguments"
    return .node (.importCall stop) s (source :: options)
  else unexpected

def superExpression : Parse Tree := do
  let s ← here
  advance
  unless (← at? ".") || (← at? "[") || (← at? "(") do
    fault "'super' can only be used with function calls or in property accesses"
  return .node .super s []

def memberName (e : Tree) (optional : Bool) : Parse Tree := do
  let t ← current
  if t.kind == .secret then
    advance
    return .node (.privateMember t.text optional) e.start [e]
  else return .node (.member (← anyWord) optional) e.start [e]

def indexTail (go : Grammar) (e : Tree) (optional : Bool) : Parse Tree := do
  expect "["
  let k ← within allowIn (go .expression)
  expect "]"
  return .node (.index optional) e.start [e, k]

def taggedTemplate (go : Grammar) (e : Tree) (inChain : Bool) : Parse Tree := do
  if inChain then fault "Tagged template expressions are not permitted in an optional chain"
  let (pieces, values) ← templateExpression go true
  match e with
  | .node .instantiation s (tag :: ts) =>
      return .node (.tagged pieces) s (tag :: Tree.list ts :: values)
  | e => return .node (.tagged pieces) e.start (e :: Tree.list [] :: values)

def inChain : Tree → Bool
  | .node (.member _ o) _ [e] | .node (.privateMember _ o) _ [e] => o || inChain e
  | .node (.index o) _ (e :: _) => o || inChain e
  | .node (.call o _ _) _ (e :: _) => o || inChain e
  | .node .nonNull _ [e] => inChain e
  | .node .instantiation _ (e :: _) => inChain e
  | _ => false

def accessTail (go : Grammar) (e : Tree) : Parse (Option Tree) := do
  let t ← current
  let decorator := (← context).inDecorator
  if t.isMark "." then
    advance
    return some (← memberName e false)
  else if t.isMark "?." then
    let next ← peek
    if next.isMark "[" && !decorator then
      advance
      return some (← indexTail go e true)
    else if next.kind == .word || next.kind == .secret then
      advance
      return some (← memberName e true)
    else return none
  else if t.isMark "[" && !decorator then return some (← indexTail go e false)
  else if t.isMark "!" && !t.newline && (← hasTypes) then
    advance
    return some (.node .nonNull e.start [e])
  else if t.opensTemplate then return some (← taggedTemplate go e (inChain e))
  else if t.kind == .mark && t.text.startsWith "<" && (← hasTypes) then
    match ← valueTypeArguments go with
    | some ts => return some (.node .instantiation e.start (e :: ts))
    | none => return none
  else return none

def callOf (e : Tree) (ts args : List Tree) (stop : Nat) (optional : Bool) : Tree :=
  match e with
  | .node .instantiation s (callee :: types) =>
      .node (.call optional false stop) s (callee :: Tree.list types :: args)
  | e => .node (.call optional false stop) e.start (e :: Tree.list ts :: args)

def callTail (go : Grammar) (e : Tree) : Parse (Option Tree) := do
  match ← accessTail go e with
  | some e => return some e
  | none =>
      let optional ← eat "?."
      let ts ← if optional && (← at? "<") && (← hasTypes) then do
          match ← valueTypeArguments go with
          | some ts => pure ts
          | none => pure []
        else pure []
      let t ← current
      if t.isMark "(" then
        let (args, stop) ← arguments go
        return some (callOf e ts args stop optional)
      else if optional then
        if t.opensTemplate then return some (← taggedTemplate go e true) else unexpected
      else return none

def isImportCall : Tree → Bool
  | .node (.importCall _) _ _ => true
  | _ => false

def newExpression (go : Grammar) (primary : Parse Tree) : Parse Tree := do
  let s ← here
  advance
  if ← eat "." then
    if ← eatWord "target" then return .node .newTarget s []
    else throw "The only valid meta property for new is new.target"
  else
    let callee ← growing (accessTail go) (← primary)
    let (callee, ts) := match callee with
      | .node .instantiation _ (e :: ts) => (e, ts)
      | e => (e, [])
    let (args, stop) ← if ← at? "(" then arguments go else pure ([], 0)
    if isImportCall callee then fault "Cannot use new with dynamic import"
    if inChain callee then fault "Invalid optional chain from new expression."
    return .node (.new false stop) s (callee :: Tree.list ts :: args)

def regexExpression : Parse Tree := do
  modify fun s => s.reread (readRegex s.here)
  let t ← current
  advance
  return .node (.regex t.text) t.start []

def atAsyncFunction : Parse Bool := do
  let next ← peek
  return (← atWord "async") && next.isWord "function" && !next.newline

/-- The word `new` nests; the depth of that is bounded by the number of tokens left. -/
def primaryLoop (go : Grammar) : Nat → Parse Tree
  | 0 => unexpected
  | fuel + 1 => do
      let t ← current
      let s := t.start
      if t.isMark "@" then
        let ds ← decorators go
        let c ← go .classBody
        match c with
        | .node l _ (id :: _ :: ps) => return .node l s (id :: Tree.list ds :: ps)
        | c => return c
      else if t.isWord "function" || (← atAsyncFunction) then functionExpression go
      else if t.isMark "(" then parenthesized go
      else if t.isMark "[" then arrayExpression go
      else if t.isMark "\x7b" then objectExpression go
      else if t.isWord "class" then go .classBody
      else if t.isWord "this" then
        advance
        return .node .this s []
      else if t.isWord "super" then superExpression
      else if t.isWord "import" then importExpression go
      else if t.isWord "new" then newExpression go (primaryLoop go fuel)
      else if t.isMark "/" || t.isMark "/=" then regexExpression
      else if t.opensTemplate then
        let (pieces, values) ← templateExpression go false
        return .node (.template pieces) s values
      else if t.isWord "null" then
        advance
        return .node .null s []
      else if t.isWord "true" || t.isWord "false" then
        advance
        return .node (.bool (t.text == "true")) s []
      else if t.kind == .text then
        advance
        return .node (.text t.text) s []
      else if t.isNumber then
        advance
        return .node (.number (Number.value t.text) t.text) s []
      else if t.kind == .bigint then
        advance
        return .node (.bigint (bigintText t.text)) s []
      else if t.isMark "<" && (← dialect).elements then go (.element false)
      else return .node (.name (← variableName)) s []

def primary (go : Grammar) : Parse Tree := do primaryLoop go (← bound)

def endChain (e : Tree) : Tree :=
  if inChain e then
    match e with
    | .node (.member _ _) s _ | .node (.privateMember _ _) s _ | .node (.index _) s _
    | .node (.call _ _ _) s _ | .node .nonNull s _ => .node .chain s [e]
    | e => e
  else e

def callee (go : Grammar) : Parse Tree := do
  let e ← growing (callTail go) (← primary go)
  return endChain e

def markPure : Tree → Tree
  | .node (.call o _ stop) s ps => .node (.call o true stop) s ps
  | .node (.new _ stop) s ps => .node (.new true stop) s ps
  | .node .paren s [e] => .node .paren s [markPure e]
  | .node .chain s [e] => .node .chain s [markPure e]
  | .node (.binary op) s (l :: ps) => .node (.binary op) s (markPure l :: ps)
  | .node .conditional s (c :: ps) => .node .conditional s (markPure c :: ps)
  | t => t

def postfixed (go : Grammar) : Parse Tree := do
  let e ← go .callee
  let t ← current
  match updateOf t with
  | some op =>
      if t.newline then return e
      else
        advance
        return .node (.update op false) e.start [← simpleTarget e]
  | none => return e

def assertionExpression (go : Grammar) : Parse Tree := do
  let s ← here
  expect "<"
  let t ← go .type
  expect ">"
  return .node .assertion s [t, ← go .operand]

def operand (go : Grammar) : Parse Tree := do
  let t ← current
  match unaryOf t, updateOf t with
  | some op, _ =>
      advance
      return .node (.unary op) t.start [← go .operand]
  | none, some op =>
      advance
      let e ← go .unary
      return .node (.update op true) t.start [← simpleTarget e]
  | none, none =>
      let d ← dialect
      if t.isMark "<" && !d.elements then
        if d.types then assertionExpression go else unexpected
      else if ← isAwait then awaitExpression go
      else postfixed go

def unary (go : Grammar) : Parse Tree := operand go

def isAndOr : Tree → Bool
  | .node (.binary .or) _ _ | .node (.binary .and) _ _ => true
  | _ => false

def isCoalesce : Tree → Bool
  | .node (.binary .coalesce) _ _ => true
  | _ => false

def mixedFault : String := "Logical expressions and coalesce expressions cannot be mixed"

def mixes (op : BinaryOp) (l r : Tree) : Bool :=
  match op with
  | .coalesce => isAndOr l || isAndOr r
  | .or | .and => isCoalesce l || isCoalesce r
  | _ => false

def isBareOperand : Tree → Bool
  | .node (.unary _) _ _ | .node .await _ _ => true
  | _ => false

def typedOnly (word : String) : String :=
  (if word == "as" then "Type assertion" else "Type satisfaction") ++
    " expressions can only be used in TypeScript files."

def binaryTail (go : Grammar) (least : Nat) (l : Tree) : Parse (Option Tree) := do
  joinAngle
  let t ← current
  if t.isWord "as" || t.isWord "satisfies" then
    if Level.compare.rank ≤ least || t.newline then return none
    advance
    unless ← hasTypes do fault (typedOnly t.text)
    if t.text == "as" && (← atWord "const") then
      advance
      return some (.node .asType l.start [l, .node (.typeName "const") t.start []])
    let ty ← go .type
    return some (.node (if t.text == "as" then .asType else .satisfies) l.start [l, ty])
  else
    match binaryOf t with
    | none => return none
    | some op =>
        let rank := op.level.rank
        let stop := if op == .pow then rank < least else rank ≤ least
        if stop || (op == .isIn && !(← context).hasIn) then return none
        advance
        let r ← go (.binary rank)
        if mixes op l r then fault mixedFault
        if op == .pow && isBareOperand l then fault "Unexpected exponentiation expression"
        return some (.node (.binary op) l.start [l, r])

def binary (go : Grammar) (least : Nat) : Parse Tree := do
  let t ← current
  let quiet := (← get).pure
  let first ← if t.kind == .secret && (← context).hasIn then do
      advance
      expectWord "in"
      let r ← go .unary
      pure (Tree.node (.binary .isIn) t.start [.node (.secret t.text) t.start [], r])
    else go .unary
  growing (binaryTail go least) (if quiet then markPure first else first)

inductive Guess where
  | yes
  | no
  | maybe
  deriving DecidableEq, Repr

def guessAfterParen : Parse Guess := do
  let second ← current
  if second.isMark ")" then
    advance
    if (← at? "=>") || (← at? ":") || (← at? "\x7b") then return .yes else return .no
  else if second.isMark "[" || second.isMark "\x7b" then return .maybe
  else if second.isMark "..." then
    advance
    let third ← current
    if third.isLiteral then return .no
    else if third.kind == .word && third.spelling == "Identifier" then return .yes
    else return .maybe
  else
    advance
    let third ← current
    if modifierWords.any second.isWord && !second.isWord "async" && third.isName then
      return if third.isWord "as" then .no else .yes
    else if !second.isName && !second.isWord "this" then return .no
    else if third.isMark ":" then return .yes
    else if third.isMark "?" then
      advance
      if [":", ",", "=", ")"].any (← current).isMark then return .yes else return .no
    else if [",", "=", ")"].any third.isMark then return .maybe
    else return .no

def guessAfterAngle (elements : Bool) : Parse Guess := do
  let second ← current
  if !second.isName && !second.isWord "const" then return .no
  else if elements then
    let _ ← eatWord "const"
    advance
    let third ← current
    if third.isWord "extends" then
      advance
      if ["=", ">", "/"].any (← current).isMark then return .no else return .yes
    else if third.isMark "=" || third.isMark "," then return .yes
    else return .no
  else return .maybe

def guessArrow : Parse Guess := do
  let t ← current
  if t.isWord "async" then
    advance
    let next ← current
    if next.newline then return .no
  let first ← current
  advance
  if first.isMark "(" then guessAfterParen
  else if first.isMark "<" && (← hasTypes) then guessAfterAngle (← dialect).elements
  else return .no

def arrowBody (go : Grammar) (isAsync returnType : Bool) : Parse Tree := do
  within (fun c => { c with hasAwait := isAsync, hasYield := false }) do
    if ← at? "\x7b" then within allowIn (go .functionBody) else go (.assignment returnType)

def takesReceiver : List Tree → Bool
  | _ :: .node .list _ (.node .receiver _ _ :: _) :: _ => true
  | _ => false

def arrowHead (go : Grammar) : Parse (Bool × List Tree) := do
  let isAsync ← eatWord "async"
  let parts ← within (fun c => { c with hasAwait := c.hasAwait || isAsync }) (signature go ":")
  if takesReceiver parts then fault "An arrow function cannot have a `this` parameter."
  if (← current).newline then fault "Line terminator not permitted before arrow"
  expect "=>"
  return (isAsync, parts)

def parenthesizedArrow (go : Grammar) : Parse Tree := do
  let s ← here
  let (isAsync, parts) ← arrowHead go
  return .node (.arrow isAsync false) s (parts ++ [← arrowBody go isAsync true])

def hasResult (parts : List Tree) : Bool := !(parts.getLast?.getD .absent).isAbsent

def possibleArrow (go : Grammar) (returnType : Bool) : Parse (Option Tree) := do
  let s ← here
  let before ← get
  let refuse := do
    set { before with notArrows := s :: before.notArrows }
    return none
  if before.notArrows.contains s then return none
  match ← attempt (some <$> arrowHead go) with
  | none => refuse
  | some (isAsync, parts) =>
      let body ← arrowBody go isAsync returnType
      if !returnType && hasResult parts && !(← at? ":") then refuse
      else return some (.node (.arrow isAsync false) s (parts ++ [body]))

def arrowExpression (go : Grammar) (returnType : Bool) : Parse (Option Tree) := do
  let t ← current
  if t.isWord "async" || t.isMark "(" || t.isMark "<" then
    match ← lookahead guessArrow .no with
    | .no => return none
    | .yes => return some (← parenthesizedArrow go)
    | .maybe => possibleArrow go returnType
  else return none

def plainArrow (go : Grammar) (s : Nat) (id : String) (isAsync : Bool) (start : Nat)
    (returnType : Bool) : Parse Tree := do
  if (← current).newline then fault "Line terminator not permitted before arrow"
  expect "=>"
  let p := Tree.node (.param {}) start [Tree.list [], .node (.name id) start []]
  let body ← arrowBody go isAsync returnType
  return .node (.arrow isAsync false) s [Tree.list [], .node .list start [p], .absent, body]

def asyncArrow (go : Grammar) (returnType : Bool) : Parse (Option Tree) := do
  let t ← current
  let (second, third) ← peekTwo
  if t.isWord "async" && second.isName && !second.newline && third.isMark "=>" then
    advance
    pass
    return some (← plainArrow go t.start second.text true second.start returnType)
  else return none

def conditionalTail (go : Grammar) (returnType : Bool) (e : Tree) : Parse Tree := do
  if ← eat "?" then
    let yes ← within allowIn (go (.assignment false))
    expect ":"
    let no ← go (.assignment returnType)
    return .node .conditional e.start [e, yes, no]
  else return e

def assignmentTail (go : Grammar) (returnType : Bool) (e : Tree) : Parse Tree := do
  let t ← current
  match e with
  | .node (.name id) s _ =>
      if t.isMark "=>" then return ← plainArrow go s id false s returnType
  | _ => pure ()
  match assignOf t with
  | some op =>
      let l ← if op == .plain then target e else simpleTarget e
      advance
      let r ← go (.assignment returnType)
      return .node (.assign op) e.start [l, r]
  | none => conditionalTail go returnType e

def markQuiet : Tree → Tree
  | .node (.function form) s ps => .node (.function { form with isQuiet := true }) s ps
  | .node (.arrow isAsync _) s ps => .node (.arrow isAsync true) s ps
  | t => t

def assignment (go : Grammar) (returnType : Bool) : Parse Tree := do
  let quiet := (← get).quiet
  if ← isYield then yieldExpression go
  else
    let e ← match ← arrowExpression go returnType with
      | some e => pure e
      | none =>
          match ← asyncArrow go returnType with
          | some e => pure e
          | none => assignmentTail go returnType (← go (.binary Level.comma.rank))
    return if quiet then markQuiet e else e

def expression (go : Grammar) : Parse Tree := do
  within (fun c => { c with inDecorator := false }) do
    let first ← go (.assignment true)
    if ← at? "," then
      let more ← many do
        if ← eat "," then return some (← go (.assignment true)) else return none
      return .node .sequence first.start (first :: more)
    else return first

end LivePreview.Script.Parser
