import LivePreview.Script.Number
import LivePreview.Script.Parser.Basic
import LivePreview.Script.Tree

namespace LivePreview.Script.Printer

inductive Written where
  | binary (op : BinaryOp)
  | unary (op : UnaryOp)
  | update (op : UpdateOp)
  deriving DecidableEq, Repr

structure Out where
  code : String := ""
  size : Nat := 0
  last : Option Char := none
  indent : Nat := 0
  joinNext : Bool := false
  elements : Bool := false
  wholeEnd : Option Nat := none
  regexEnd : Option Nat := none
  operatorEnd : Option (Nat × Written) := none
  statementStart : Option Nat := none
  arrowStart : Option Nat := none
  defaultStart : Option Nat := none
  comments : List Comment := []

end Printer

abbrev Print := StateM Printer.Out

namespace Printer

def writeChars (cs : List Char) : Print Unit := modify fun o =>
  { o with
    code := cs.foldl String.push o.code
    size := o.size + cs.length
    last := (cs.getLast?).or o.last }

def write (s : String) : Print Unit := modify fun o =>
  { o with
    code := o.code ++ s
    size := o.size + s.length
    last := (s.toList.getLast?).or o.last }

def space : Print Unit := write " "

def newline : Print Unit := write "\n"

def indent : Print Unit := do
  let o ← get
  if o.joinNext then
    space
    modify fun o => { o with joinNext := false }
  else writeChars (List.replicate o.indent '\t')

def deeper : Print Unit := modify fun o => { o with indent := o.indent + 1 }

def shallower : Print Unit := modify fun o => { o with indent := o.indent - 1 }

def endStatement : Print Unit := write ";\n"

def apart : Print Unit := do
  let o ← get
  match o.last with
  | none => pure ()
  | some c => if Text.continuesName c || o.regexEnd == some o.size then space else pure ()

def word (s : String) : Print Unit := do
  apart
  write s

def isPlus : Written → Bool
  | .binary .add | .unary .plus => true
  | _ => false

def isMinus : Written → Bool
  | .binary .sub | .unary .minus => true
  | _ => false

def runsTogether (before after : Written) : Bool :=
  (isPlus before && (isPlus after || after == .update .increment)) ||
    (isMinus before && (isMinus after || after == .update .decrement)) ||
    (before == .update .decrement && after == .binary .gt)

def beforeOperator (w : Written) : Print Unit := do
  let o ← get
  match o.operatorEnd with
  | some (at', before) => if at' == o.size && runsTogether before w then space
  | none => pure ()

def writeOperator (w : Written) (s : String) : Print Unit := do
  write s
  modify fun o => { o with operatorEnd := some (o.size, w) }

def operator (w : Written) (s : String) : Print Unit := do
  beforeOperator w
  writeOperator w s

def wrap (needed : Bool) (p : Print Unit) : Print Unit := do
  if needed then
    write "("
    p
    write ")"
  else p

def listed {α : Type} (item : α → Print Unit) : List α → Print Unit
  | [] => pure ()
  | [a] => item a
  | a :: rest => do
      item a
      write ", "
      listed item rest

def braces (onLine : Bool) (p : Print Unit) : Print Unit := do
  write "\x7b"
  unless onLine do
    newline
    deeper
  p
  unless onLine do
    shallower
    indent
  write "\x7d"

def escapeText : List Char → List Char
  | [] => []
  | '\x00' :: cs =>
      (if cs.head?.any Char.isDigit then ['\\', 'x', '0', '0'] else ['\\', '0']) ++ escapeText cs
  | '\x07' :: cs => '\\' :: 'x' :: '0' :: '7' :: escapeText cs
  | '\x08' :: cs => '\\' :: 'b' :: escapeText cs
  | '\x0b' :: cs => '\\' :: 'v' :: escapeText cs
  | '\x0c' :: cs => '\\' :: 'f' :: escapeText cs
  | '\n' :: cs => '\\' :: 'n' :: escapeText cs
  | '\r' :: cs => '\\' :: 'r' :: escapeText cs
  | '\x1b' :: cs => '\\' :: 'x' :: '1' :: 'B' :: escapeText cs
  | '\\' :: cs => '\\' :: '\\' :: escapeText cs
  | '"' :: cs => '\\' :: '"' :: escapeText cs
  | '\xa0' :: cs => '\\' :: 'x' :: 'A' :: '0' :: escapeText cs
  | '\u2028' :: cs => '\\' :: 'u' :: '2' :: '0' :: '2' :: '8' :: escapeText cs
  | '\u2029' :: cs => '\\' :: 'u' :: '2' :: '0' :: '2' :: '9' :: escapeText cs
  | '\uFFFD' :: a :: b :: c :: d :: cs =>
      if [a, b, c, d] == ['f', 'f', 'f', 'd'] then '\uFFFD' :: escapeText cs
      else '\\' :: 'u' :: a :: b :: c :: d :: escapeText cs
  | c :: cs => c :: escapeText cs

def quoted (s : String) : Print Unit := writeChars ('"' :: escapeText s.toList ++ ['"'])

def takeComments (at' : Nat) : Print (List Comment) := do
  let o ← get
  set { o with comments := o.comments.filter (·.attachedTo != some at') }
  return o.comments.filter (·.attachedTo == some at')

def commentLines : List Char → List (List Char)
  | [] => [[]]
  | c :: cs =>
      match commentLines cs with
      | l :: ls => if isLineEnd c then [] :: l :: ls else (c :: l) :: ls
      | [] => [[c]]

def writeCommentLine (line : List Char) : Print Unit := do
  unless startsWith "/*" line do indent
  writeChars (line.dropWhile (fun c => isBlank c || isLineEnd c))
  unless ['/', '*'].isPrefixOf line.reverse do newline

def writeComment (c : Comment) : Print Unit := do
  if c.isLine then writeChars c.text.toList
  else (commentLines c.text.toList).forM writeCommentLine

def writeMoreComments : Comment → List Comment → Print Unit
  | before, [] => do
      if before.isLine || before.beforeNewline then newline
      else modify fun o => { o with joinNext := true }
  | _, c :: cs => do
      if c.afterNewline then
        newline
        indent
      else if c.isNotice then newline
      writeComment c
      writeMoreComments c cs

def writeComments : List Comment → Print Unit
  | [] => pure ()
  | c :: cs => do
      if c.afterNewline then
        match (← get).last with
        | none | some '\t' => pure ()
        | some '\n' => indent
        | some _ =>
            newline
            indent
      else indent
      writeComment c
      writeMoreComments c cs

def commentsAt (at' : Nat) : Print Unit := do writeComments (← takeComments at')

def argumentComments (at' : Nat) : Print Bool := do
  let cs ← takeComments at'
  cs.forM fun c => do
    newline
    indent
    writeComment c
  if cs.isEmpty then return false
  else
    newline
    return true

structure Place where
  level : Level
  forbidIn : Bool := false
  forbidCall : Bool := false
  deriving DecidableEq, Repr

inductive Mode where
  | expr (place : Place)
  | stmt
  | ifTail
  | pattern
  | type
  | declaration
  deriving DecidableEq, Repr

end Printer

abbrev Renderer := Printer.Mode → Tree → Print Unit

end LivePreview.Script
