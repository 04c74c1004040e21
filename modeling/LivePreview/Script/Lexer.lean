import LivePreview.Script.Lexer.Escape
import LivePreview.Script.Token
import LivePreview.Script.Tree
import LivePreview.Text.Letters

namespace LivePreview.Script

open Text (opensName continuesName)

structure Cursor where
  rest : List Char
  pos : Nat

namespace Cursor

def skip (c : Cursor) (n : Nat) : Cursor := ⟨c.rest.drop n, c.pos + n⟩

def takeWhile (p : Char → Bool) (c : Cursor) : List Char × Cursor :=
  let cs := c.rest.takeWhile p
  (cs, c.skip cs.length)

end Cursor

structure Lexed where
  kind : TokenKind
  text : String
  next : Cursor
  errors : List String := []
  escaped : Bool := false

def invalidCharacter (c : Char) : String := "Invalid Character `" ++ String.singleton c ++ "`"

def unterminatedText : String := "Unterminated string"

def unexpectedAt (cs : List Char) : String :=
  match cs with
  | c :: _ => invalidCharacter c
  | [] => "Unexpected end of file"

def nameTail : Nat → Cursor → List Char × Bool × Bool × Cursor
  | 0, c => ([], false, true, c)
  | fuel + 1, c =>
      let (cs, next) := c.takeWhile continuesName
      match next.rest with
      | '\\' :: 'u' :: rest =>
          match codeEscape rest with
          | some (n, len) =>
              let (more, _, valid, stop) := nameTail fuel (next.skip (len + 2))
              (cs ++ Char.ofNat n :: more, true, valid && continuesName (Char.ofNat n), stop)
          | none => (cs, true, false, next.skip 2)
      | '\\' :: _ => (cs, true, false, next.skip 1)
      | _ => (cs, false, true, next)

def readName (c : Cursor) : Lexed :=
  let (cs, escaped, valid, next) := nameTail (c.rest.length + 1) c
  if valid && cs.head?.all opensName then { kind := .word, text := String.ofList cs, next, escaped }
  else { kind := .undetermined, text := "", next, errors := ["Invalid Unicode escape sequence"] }

def readSecret (c : Cursor) : Lexed :=
  match c.rest with
  | x :: _ =>
      if opensName x || x == '\\' then
        let l := readName c
        if l.kind == .word then { l with kind := .secret } else l
      else
        { kind := .undetermined, text := "", next := c.skip 1, errors := [invalidCharacter x] }
  | [] => { kind := .undetermined, text := "", next := c, errors := [unexpectedAt []] }

def textTail (quote : Char) : Nat → Cursor → List Char × Bool × Option Cursor × Cursor
  | 0, c => ([], true, none, c)
  | fuel + 1, c =>
      let (cs, next) := c.takeWhile
        (fun x => x != quote && x != '\\' && x != '\n' && x != '\r')
      match next.rest with
      | '\\' :: rest =>
          let e := readEscape false rest
          let (more, valid, stop, last) := textTail quote fuel (next.skip (e.length + 1))
          (holdText cs ++ e.chars ++ more, e.valid && valid, stop, last)
      | x :: _ =>
          if x == quote then (holdText cs, true, some (next.skip 1), next)
          else (holdText cs, true, none, next)
      | [] => (holdText cs, true, none, next)

def readText (quote : Char) (c : Cursor) : Lexed :=
  let (cs, valid, stop, last) := textTail quote (c.rest.length + 1) c
  let faults := if valid then [] else ["Invalid escape sequence"]
  match stop with
  | some next => { kind := .text, text := String.ofList cs, next, errors := faults }
  | none =>
      { kind := .undetermined, text := "", next := last, errors := faults ++ [unterminatedText] }

def pieceTail : Nat → Cursor → List Char × Bool × Option (Bool × Cursor)
  | 0, _ => ([], true, none)
  | fuel + 1, c =>
      let (cs, next) := c.takeWhile (fun x => x != '\x60' && x != '\\' && x != '$' && x != '\r')
      let step (chars : List Char) (good : Bool) (n : Nat) :=
        let (more, valid, stop) := pieceTail fuel (next.skip n)
        (cs ++ chars ++ more, good && valid, stop)
      match next.rest with
      | '\x60' :: _ => (cs, true, some (true, next.skip 1))
      | '$' :: '\x7b' :: _ => (cs, true, some (false, next.skip 2))
      | '$' :: _ => step ['$'] true 1
      | '\r' :: '\n' :: _ => step ['\n'] true 2
      | '\r' :: _ => step ['\n'] true 1
      | '\\' :: rest =>
          let e := readEscape true rest
          match rest with
          | '\r' :: '\n' :: _ => step ['\\', '\n'] true 3
          | '\r' :: _ => step ['\\', '\n'] true 2
          | x :: _ => step ['\\', x] e.valid 2
          | [] => step ['\\'] true 1
      | _ => (cs, true, none)

def readPiece (opens : Bool) (c : Cursor) : Lexed :=
  match pieceTail (c.rest.length + 1) c with
  | (cs, valid, some (closes, next)) =>
      { kind := .piece opens closes, text := String.ofList cs, next, escaped := !valid }
  | (cs, _, none) =>
      { kind := .undetermined, text := "", next := c.skip (c.rest.length + 0 * cs.length),
        errors := [unterminatedText] }

def digitRun (p : Char → Bool) : Nat → Cursor → Cursor × List String
  | 0, c => (c, [])
  | fuel + 1, c =>
      let (_, next) := c.takeWhile p
      match next.rest with
      | '_' :: x :: rest =>
          if p x then digitRun p fuel (next.skip 1) else (next.skip 1, [unexpectedAt (x :: rest)])
      | ['_'] => (next.skip 1, [unexpectedAt []])
      | _ => (next, [])

def afterNumber (start : Cursor) (kind : TokenKind) (c : Cursor) (errors : List String) : Lexed :=
  match c.rest with
  | x :: _ =>
      if x.isDigit || opensName x then
        let (_, next) := (c.skip 1).takeWhile opensName
        { kind := .undetermined, text := "", next,
          errors := errors ++ ["Invalid characters after number"] }
      else { kind, text := String.ofList (start.rest.take (c.pos - start.pos)), next := c, errors }
  | [] => { kind, text := String.ofList (start.rest.take (c.pos - start.pos)), next := c, errors }

def readRadix (start : Cursor) (kind : TokenKind) (p : Char → Bool) : Lexed :=
  let c := start.skip 2
  if c.rest.head?.any p then
    let (stop, errors) := digitRun p (c.rest.length + 1) c
    match stop.rest with
    | 'n' :: _ => afterNumber start .bigint (stop.skip 1) errors
    | _ => afterNumber start kind stop errors
  else { kind := .undetermined, text := "", next := c, errors := [unexpectedAt c.rest] }

def readExponent (start : Cursor) (kind : TokenKind) (c : Cursor) (errors : List String) : Lexed :=
  match c.rest with
  | e :: rest =>
      if e == 'e' || e == 'E' then
        let n := match rest with
          | s :: _ => if s == '+' || s == '-' then 2 else 1
          | [] => 1
        let c := c.skip n
        if c.rest.head?.any Char.isDigit then
          let (stop, more) := digitRun Char.isDigit (c.rest.length + 1) c
          afterNumber start .float stop (errors ++ more)
        else { kind := .undetermined, text := "", next := c, errors := errors ++ [unexpectedAt c.rest] }
      else afterNumber start kind c errors
  | [] => afterNumber start kind c errors

def readFraction (start c : Cursor) (errors : List String) : Lexed :=
  let (stop, more) := if c.rest.head?.any Char.isDigit then digitRun Char.isDigit (c.rest.length + 1) c
    else (c, [])
  readExponent start .float stop (errors ++ more)

def readNumber (c : Cursor) : Lexed :=
  match c.rest with
  | '0' :: x :: _ =>
      if x == 'x' || x == 'X' then readRadix c .hex isHex
      else if x == 'b' || x == 'B' then readRadix c .binary (fun d => d == '0' || d == '1')
      else if x == 'o' || x == 'O' then readRadix c .octal isOctal
      else if x.isDigit then
        let (ds, stop) := c.takeWhile Char.isDigit
        if ds.all isOctal then afterNumber c .octal stop []
        else match stop.rest with
          | '.' :: _ => readFraction c (stop.skip 1) []
          | _ => readExponent c .decimal stop []
      else if x == '_' then afterNumber c .decimal (c.skip 1) []
      else decimal
  | _ => decimal
where
  decimal :=
    let (stop, errors) := digitRun Char.isDigit (c.rest.length + 1) c
    match stop.rest with
    | 'n' :: _ => afterNumber c .bigint (stop.skip 1) errors
    | '.' :: _ => readFraction c (stop.skip 1) errors
    | _ => readExponent c .decimal stop errors

def regexLength : Bool → Bool → Nat → List Char → Nat × Bool
  | _, _, n, [] => (n, false)
  | inClass, inEscape, n, c :: cs =>
      if isLineEnd c then (n, false)
      else if inEscape then regexLength inClass false (n + 1) cs
      else if c == '/' && !inClass then (n + 1, true)
      else regexLength ((inClass || c == '[') && c != ']') (c == '\\') (n + 1) cs

def regexFlags : List Char := ['g', 'i', 'm', 's', 'u', 'y', 'd', 'v']

def flagFaults : List Char → List Char → List String
  | _, [] => []
  | seen, f :: fs =>
      if !regexFlags.contains f then
        ("Unexpected flag " ++ String.singleton f ++ " in regular expression literal") :: flagFaults seen fs
      else if seen.contains f then
        ("Flag " ++ String.singleton f ++ " is mentioned twice in regular expression literal") ::
          flagFaults seen fs
      else flagFaults (f :: seen) fs

def readRegex (c : Cursor) : Lexed :=
  let (n, closed) := regexLength false false 1 (c.rest.drop 1)
  let pattern := c.rest.take n
  if closed then
    let (fs, next) := (c.skip n).takeWhile (fun x => Text.isAsciiWord x || x == '$')
    { kind := .regex, text := String.ofList (pattern ++ regexFlags.filter fs.contains), next,
      errors := flagFaults [] fs }
  else
    { kind := .regex, text := String.ofList (pattern ++ ['/']), next := c.skip (n + 1),
      errors := ["Unterminated regular expression"] }

def longMarks : List String :=
  ["...", "===", "!==", "**=", "<<=", "&&=", "||=", "??=", "=>", "==", "!=", "**", "*=", "++",
   "+=", "--", "-=", "/=", "%=", "<<", "<=", "&&", "&=", "||", "|=", "^=", "??"]

def isMarkChar (c : Char) : Bool :=
  ['\x7b', '\x7d', '(', ')', '[', ']', ';', ',', '<', '>', '+', '-', '*', '/', '%', '&', '|', '^', '!',
   '~', '?', ':', '=', '.', '@'].contains c

def readMark (c : Cursor) : Lexed :=
  match c.rest with
  | '?' :: '.' :: rest =>
      if rest.head?.any Char.isDigit then { kind := .mark, text := "?", next := c.skip 1 }
      else { kind := .mark, text := "?.", next := c.skip 2 }
  | x :: _ =>
      match longMarks.find? (fun m => m.toList.isPrefixOf c.rest) with
      | some m => { kind := .mark, text := m, next := c.skip m.length }
      | none =>
          if isMarkChar x then { kind := .mark, text := String.singleton x, next := c.skip 1 }
          else { kind := .undetermined, text := "", next := c.skip 1, errors := [invalidCharacter x] }
  | [] => { kind := .eof, text := "", next := c }

def readToken (c : Cursor) : Lexed :=
  match c.rest with
  | [] => { kind := .eof, text := "", next := c }
  | '"' :: _ => readText '"' (c.skip 1)
  | '\x27' :: _ => readText '\x27' (c.skip 1)
  | '\x60' :: _ => readPiece true (c.skip 1)
  | '#' :: _ => readSecret (c.skip 1)
  | '.' :: x :: _ =>
      if x.isDigit then readFraction c (c.skip 1) [] else readMark c
  | x :: _ =>
      if x.isDigit then readNumber c
      else if opensName x || x == '\\' then readName c
      else readMark c

def angleMarks : List String := [">>>=", ">>>", ">>=", ">>", ">=", ">"]

def readAngle (c : Cursor) : Lexed :=
  match angleMarks.find? (fun m => m.toList.isPrefixOf c.rest) with
  | some m => { kind := .mark, text := m, next := c.skip m.length }
  | none => readMark c

def readChild (c : Cursor) : Lexed :=
  match c.rest with
  | [] => { kind := .eof, text := "", next := c }
  | x :: _ =>
      if x == '<' || x == '\x7b' then { kind := .mark, text := String.singleton x, next := c.skip 1 }
      else
        let (cs, next) := c.takeWhile (fun x => x != '<' && x != '\x7b' && x != '>' && x != '\x7d')
        match next.rest with
        | '>' :: _ => fault next "Unexpected token. Did you mean `\x7b'>'\x7d` or `&gt;`?"
        | '\x7d' :: _ => fault next "Unexpected token. Did you mean `\x7b'\x7d'\x7d` or `&rbrace;`?"
        | _ => { kind := .childText, text := String.ofList cs, next }
where
  fault (c : Cursor) (message : String) : Lexed :=
    { kind := .undetermined, text := "", next := c.skip 1, errors := [message] }

def readAttributeText (quote : Char) (c : Cursor) : Lexed :=
  let (cs, next) := c.takeWhile (· != quote)
  match next.rest with
  | [] => { kind := .undetermined, text := "", next, errors := [unterminatedText] }
  | _ => { kind := .text, text := String.ofList cs, next := next.skip 1 }

def isBlank (c : Char) : Bool :=
  c == ' ' || c == '\t' || c == '\x0b' || c == '\x0c' || c == '\xa0' || c == '\uFEFF' ||
    c == '\u0085' || c == '\u1680' || ('\u2000' ≤ c && c ≤ '\u200b') || c == '\u202f' || c == '\u205f' || c == '\u3000'

def startsWith (mark : String) (cs : List Char) : Bool := mark.toList.isPrefixOf cs

namespace Comment

def body (c : Comment) : List Char :=
  (c.text.toList.drop 2).dropWhile (fun x => [' ', '\t', '\n', '\r', '\x0c'].contains x)

def isPure (c : Comment) : Bool := startsWith "@__PURE__" c.body || startsWith "#__PURE__" c.body

def isQuiet (c : Comment) : Bool :=
  startsWith "@__NO_SIDE_EFFECTS__" c.body || startsWith "#__NO_SIDE_EFFECTS__" c.body

def saysKeep : List Char → Bool
  | [] => false
  | '@' :: cs => startsWith "license" cs || startsWith "preserve" cs || saysKeep cs
  | _ :: cs => saysKeep cs

def isNotice (c : Comment) : Bool :=
  match c.text.toList.drop 2 with
  | '!' :: _ => true
  | cs => saysKeep cs

end Comment

structure CommentLog where
  settled : List Comment := []
  waiting : List Comment := []
  /-- Whether a comment behind the token before this place marks what follows as free of effects. -/
  pure : Bool := false
  quiet : Bool := false
  sawNewline : Bool := true
  /-- Whether a comment on the line of the token before this place belongs to what follows. -/
  joins : Bool := false
  deriving Repr

namespace CommentLog

def drop (log : CommentLog) : CommentLog :=
  { log with settled := log.waiting ++ log.settled, waiting := [], sawNewline := true }

def newline (log : CommentLog) : CommentLog :=
  match log.waiting with
  | [] => { log with sawNewline := true }
  | c :: cs =>
      if log.sawNewline then { log with waiting := { c with beforeNewline := true } :: cs }
      else log.drop

def add (log : CommentLog) (text : List Char) (isLine : Bool) : CommentLog :=
  let c : Comment := ⟨String.ofList text, isLine, log.sawNewline, isLine, none⟩
  let log := { log with pure := log.pure || c.isPure, quiet := log.quiet || c.isQuiet }
  if isLine then
    if log.sawNewline || log.joins then { log with waiting := c :: log.waiting, sawNewline := true }
    else { log with waiting := c :: log.waiting }.drop
  else { log with waiting := c :: log.waiting }

def token (log : CommentLog) (start : Nat) (joins : Bool) : CommentLog :=
  { settled := log.waiting.map (fun c => { c with attachedTo := some start }) ++ log.settled
    sawNewline := false
    joins }

end CommentLog

def blockComment : List Char → Option (List Char)
  | '*' :: '/' :: _ => some ['*', '/']
  | c :: cs => (blockComment cs).map (c :: ·)
  | [] => none

structure Trivia where
  cursor : Cursor
  log : CommentLog
  newline : Bool
  errors : List String := []

def skipTrivia : Nat → Trivia → Trivia
  | 0, t => t
  | fuel + 1, t =>
      match t.cursor.rest with
      | '/' :: '/' :: _ =>
          let (cs, next) := t.cursor.takeWhile (fun c => !isLineEnd c)
          skipTrivia fuel { t with cursor := next, log := t.log.add cs true, newline := true }
      | '/' :: '*' :: rest =>
          match blockComment rest with
          | some cs =>
              skipTrivia fuel
                { t with
                  cursor := t.cursor.skip (cs.length + 2)
                  log := t.log.add ('/' :: '*' :: cs) false
                  newline := t.newline || cs.any isLineEnd }
          | none =>
              { t with
                cursor := t.cursor.skip t.cursor.rest.length
                errors := ["Unterminated multiline comment"] }
      | c :: _ =>
          if isLineEnd c then
            skipTrivia fuel
              { t with cursor := t.cursor.skip 1, log := t.log.newline, newline := true }
          else if isBlank c then
            skipTrivia fuel { t with cursor := (t.cursor.takeWhile isBlank).2 }
          else t
      | [] => t

end LivePreview.Script
