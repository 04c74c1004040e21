import LivePreview.Script.Lexer

namespace LivePreview.Script

structure Dialect where
  types : Bool
  elements : Bool
  deriving DecidableEq, Repr

namespace Parser

structure Context where
  hasIn : Bool := true
  hasYield : Bool := false
  hasAwait : Bool := true
  hasReturn : Bool := false
  inDecorator : Bool := false
  plainTypes : Bool := false
  ambient : Bool := false
  deriving DecidableEq, Repr

structure State where
  dialect : Dialect
  token : Token
  here : Cursor
  next : Cursor
  prevEnd : Nat
  log : CommentLog
  pure : Bool
  quiet : Bool
  tokenFaults : List String
  faults : List String
  context : Context
  /-- Where a parenthesis has turned out not to open the parameters of an arrow function. -/
  notArrows : List Nat
  /-- Where a shorthand with a default stands that no pattern has taken yet. -/
  defaults : List Nat
  commas : List Nat
  opened : Nat
  ended : Bool

namespace State

def take (s : State) (c : Cursor) (newline : Bool) (log : CommentLog) (l : Lexed) : State :=
  { s with
    token := ⟨l.kind, l.text, c.pos, l.next.pos, newline, l.escaped⟩
    here := c
    next := l.next
    log := log.token c.pos (l.kind == .mark && (l.text == "=" || l.text == "("))
    pure := log.pure
    quiet := log.quiet
    tokenFaults := l.errors.reverse ++ s.tokenFaults }

def openedBehind (s : State) : Nat :=
  if s.token.kind != .mark then s.opened
  else if ["(", "[", "\x7b"].contains s.token.text then s.opened + 1
  else if [")", "]", "\x7d"].contains s.token.text then s.opened - 1
  else s.opened

def step (s : State) : State :=
  let t := skipTrivia (s.next.rest.length + 1) ⟨s.next, s.log, false, []⟩
  { s with
    prevEnd := s.token.stop
    opened := s.openedBehind
    tokenFaults := t.errors ++ s.tokenFaults }.take t.cursor t.newline t.log (readToken t.cursor)

def stepChild (s : State) : State :=
  { s with prevEnd := s.token.stop, opened := s.openedBehind }.take s.next false s.log
    (readChild s.next)

def stepAttribute (s : State) : State :=
  match s.next.rest with
  | c :: _ =>
      if c == '"' || c == '\x27' then
        { s with prevEnd := s.token.stop }.take s.next false s.log (readAttributeText c (s.next.skip 1))
      else s.step
  | [] => s.step

def reread (s : State) (l : Lexed) : State :=
  { s with
    token := { s.token with kind := l.kind, text := l.text, stop := l.next.pos, escaped := l.escaped }
    next := l.next
    tokenFaults := l.errors.reverse ++ s.tokenFaults }

def initial (dialect : Dialect) (source : List Char) : State where
  dialect
  token := ⟨.undetermined, "", 0, 0, true, false⟩
  here := ⟨source, 0⟩
  next := ⟨source, 0⟩
  prevEnd := 0
  log := {}
  pure := false
  quiet := false
  tokenFaults := []
  faults := []
  context := {}
  notArrows := []
  defaults := []
  commas := []
  opened := 0
  ended := false

end State

end Parser

/-- A reader of part of a sentence. A fault it cannot go on from is thrown. -/
abbrev Parse := EStateM String Parser.State

namespace Parser

def current : Parse Token := return (← get).token

def dialect : Parse Dialect := return (← get).dialect

def context : Parse Context := return (← get).context

def hasTypes : Parse Bool := return (← get).dialect.types

def here : Parse Nat := return (← get).token.start

def escapedKeyword : String := "Keywords cannot contain escape characters"

def pass : Parse Unit := modify State.step

def advance : Parse Unit := modify fun s =>
  if s.token.escaped && s.token.isKeyword then
    { s with faults := escapedKeyword :: s.faults }.step
  else s.step

def advanceChild : Parse Unit := modify State.stepChild

def peek : Parse Token := return (← get).step.token

def peekTwo : Parse (Token × Token) := do
  let s := (← get).step
  return (s.token, s.step.token)

def at? (mark : String) : Parse Bool := return (← current).isMark mark

def atWord (word : String) : Parse Bool := return (← current).isWord word

def fault (message : String) : Parse Unit := modify fun s => { s with faults := message :: s.faults }

def unexpected {α : Type} : Parse α := do
  let s ← get
  let lost := s.token.kind == .eof || s.token.kind == .undetermined
  match lost, s.tokenFaults with
  | true, message :: rest =>
      set { s with tokenFaults := rest }
      throw message
  | _, _ => throw "Unexpected token"

def expectedText (wanted : String) (found : Token) : String :=
  "Expected `" ++ wanted ++ "` but found `" ++ found.spelling ++ "`"

/-- Fails where another token is wanted, and gives up the rest of the source. -/
def expected {α : Type} (wanted : String) : Parse α := do
  let t ← current
  modify fun s => { s with ended := true }
  throw (expectedText wanted t)

def require (mark : String) : Parse Unit := do
  unless (← current).isMark mark do expected mark

def expect (mark : String) : Parse Unit := do
  require mark
  advance

def expectWord (word : String) : Parse Unit := do
  if (← current).isWord word then advance else expected word

def expectChild (mark : String) : Parse Unit := do
  require mark
  advanceChild

def eat (mark : String) : Parse Bool := do
  if ← at? mark then
    advance
    return true
  else return false

def eatWord (word : String) : Parse Bool := do
  if ← atWord word then
    advance
    return true
  else return false

def canEndStatement (t : Token) : Bool :=
  t.isMark ";" || t.isMark "\x7d" || t.kind == .eof || t.newline

def semicolon : Parse Unit := do
  if canEndStatement (← current) then
    let _ ← eat ";"
  else throw "Expected a semicolon or an implicit semicolon after a statement, but found none"

def fieldEnd : Parse Unit := do
  if canEndStatement (← current) then
    let _ ← eat ";"
  else expected ";"

def within {α : Type} (change : Context → Context) (p : Parse α) : Parse α := do
  let outer ← context
  modify fun s => { s with context := change s.context }
  let a ← p
  modify fun s => { s with context := outer }
  return a

def allowIn (c : Context) : Context := { c with hasIn := true }

def forbidIn (c : Context) : Context := { c with hasIn := false }

def lookahead {α : Type} (p : Parse α) (whenFailing : α) : Parse α := fun s =>
  match p s with
  | .ok a _ => .ok a s
  | .error _ _ => .ok whenFailing s

def attempt {α : Type} (p : Parse (Option α)) : Parse (Option α) := fun s =>
  match p s with
  | .ok (some a) s' => .ok (some a) s'
  | .ok none _ => .ok none s
  | .error _ _ => .ok none s

def bound : Parse Nat := return (← get).next.rest.length + 2

def listLoop {α : Type} (separator close : String) (item : Parse α) :
    Nat → Bool → Parse (List α × Bool)
  | 0, _ => return ([], false)
  | fuel + 1, first => do
      let t ← current
      if t.isMark close || t.kind == .eof || t.kind == .undetermined then return ([], false)
      unless first do expect separator
      if ← at? close then return ([], !first)
      let a ← item
      let (rest, comma) ← listLoop separator close item fuel false
      return (a :: rest, comma)

def delimited {α : Type} (close : String) (item : Parse α) : Parse (List α × Bool) := do
  listLoop "," close item (← bound) true

def repeatLoop {α : Type} (item : Parse (Option α)) : Nat → Parse (List α)
  | 0 => return []
  | fuel + 1 => do
      match ← item with
      | some a => return a :: (← repeatLoop item fuel)
      | none => return []

def many {α : Type} (item : Parse (Option α)) : Parse (List α) := do repeatLoop item (← bound)

def growLoop (grow : Tree → Parse (Option Tree)) : Nat → Tree → Parse Tree
  | 0, t => return t
  | fuel + 1, t => do
      match ← grow t with
      | some t => growLoop grow fuel t
      | none => return t

def growing (grow : Tree → Parse (Option Tree)) (t : Tree) : Parse Tree := do
  growLoop grow (← bound) t

def members {α : Type} (item : Parse α) : Parse (List α) := do
  expect "\x7b"
  let ms ← many do
    let t ← current
    if t.isMark "\x7d" || t.kind == .eof || t.kind == .undetermined then return none
    return some (← item)
  expect "\x7d"
  return ms

inductive Goal where
  | expression
  | assignment (returnType : Bool)
  | binary (least : Nat)
  | unary
  | operand
  | callee
  | statement (single : Bool)
  | block
  | functionBody
  | pattern
  | type
  | typeOperand
  | element (inChild : Bool)
  | classBody
  deriving DecidableEq, Repr

end Parser

abbrev Grammar := Parser.Goal → Parse Tree

end LivePreview.Script
