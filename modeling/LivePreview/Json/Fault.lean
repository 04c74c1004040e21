namespace LivePreview.Json

inductive Fault where
  | eofList
  | eofObject
  | eofString
  | eofValue
  | expectedColon
  | expectedListEnd
  | expectedObjectEnd
  | expectedIdent
  | expectedValue
  | invalidEscape
  | invalidNumber
  | outOfRange
  | controlCharacter
  | keyNotString
  | loneSurrogate
  | trailingComma
  | trailingCharacters
  | shortEscape
  | tooDeep
  | unexpected (found expected : String)
  | missingField (name : String)
  | duplicateField (name : String)
  | unknownVariant (name : String)
  | shortTuple (length : Nat)
  deriving DecidableEq, Repr

def Fault.text : Fault → String
  | .eofList => "EOF while parsing a list"
  | .eofObject => "EOF while parsing an object"
  | .eofString => "EOF while parsing a string"
  | .eofValue => "EOF while parsing a value"
  | .expectedColon => "expected `:`"
  | .expectedListEnd => "expected `,` or `]`"
  | .expectedObjectEnd => "expected `,` or `\x7d`"
  | .expectedIdent => "expected ident"
  | .expectedValue => "expected value"
  | .invalidEscape => "invalid escape"
  | .invalidNumber => "invalid number"
  | .outOfRange => "number out of range"
  | .controlCharacter => "control character (\\u0000-\\u001F) found while parsing a string"
  | .keyNotString => "key must be a string"
  | .loneSurrogate => "lone leading surrogate in hex escape"
  | .trailingComma => "trailing comma"
  | .trailingCharacters => "trailing characters"
  | .shortEscape => "unexpected end of hex escape"
  | .tooDeep => "recursion limit exceeded"
  | .unexpected found expected => "invalid type: " ++ found ++ ", expected " ++ expected
  | .missingField name => "missing field `" ++ name ++ "`"
  | .duplicateField name => "duplicate field `" ++ name ++ "`"
  | .unknownVariant name =>
      "unknown variant `" ++ name ++ "`, expected one of `file`, `directory`, `folder`"
  | .shortTuple n =>
      "invalid length " ++ toString n ++ ", expected struct ProjectNode with 4 elements"

/-- A fault, and the place of it once known: the characters left unread there, and how many bytes
beyond it is reported. -/
structure Failure where
  fault : Fault
  place : Option (Nat × Nat) := none
  deriving DecidableEq, Repr

def advance (line column : Nat) : List Char → Nat × Nat
  | [] => (line, column)
  | c :: cs =>
      if c = '\n' then advance (line + 1) 0 cs else advance line (column + c.utf8Size) cs

def position (text : List Char) (left beyond : Nat) : Nat × Nat :=
  let read := text.length - left
  let (line, column) := advance 1 0 (text.take read)
  match text.drop read with
  | '\n' :: _ => if beyond = 0 then (line, column) else (line + 1, 0)
  | _ => (line, column + beyond)

def Failure.message (text : List Char) (f : Failure) : String :=
  match f.place with
  | none => f.fault.text
  | some (left, beyond) =>
      let (line, column) := position text left beyond
      f.fault.text ++ " at line " ++ toString line ++ " column " ++ toString column

end LivePreview.Json
