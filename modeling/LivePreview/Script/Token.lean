namespace LivePreview.Script

inductive TokenKind where
  | eof
  | undetermined
  | word
  | secret
  | mark
  | text
  | decimal
  | float
  | binary
  | octal
  | hex
  | bigint
  | regex
  | piece (opens closes : Bool)
  | childText
  deriving DecidableEq, Repr

structure Token where
  kind : TokenKind
  text : String
  start : Nat
  stop : Nat
  newline : Bool
  escaped : Bool := false
  deriving DecidableEq, Repr

def reservedWords : List String :=
  ["break", "case", "catch", "class", "const", "continue", "debugger", "default", "delete", "do",
   "else", "enum", "export", "extends", "false", "finally", "for", "function", "if", "import", "in",
   "instanceof", "new", "null", "return", "super", "switch", "this", "throw", "true", "try", "typeof",
   "var", "void", "while", "with"]

def contextualWords : List String :=
  ["abstract", "accessor", "any", "as", "assert", "asserts", "async", "await", "bigint", "boolean",
   "constructor", "declare", "defer", "from", "get", "global", "implements", "infer", "interface",
   "intrinsic", "is", "keyof", "let", "meta", "module", "namespace", "never", "number", "object", "of",
   "out", "override", "package", "private", "protected", "public", "readonly", "require", "satisfies",
   "set", "source", "static", "string", "symbol", "target", "type", "undefined", "unique", "unknown",
   "using", "yield"]

def modifierWords : List String :=
  ["abstract", "accessor", "async", "const", "declare", "default", "export", "in", "out", "public",
   "private", "protected", "override", "readonly", "static"]

namespace Token

def spelling (t : Token) : String :=
  match t.kind with
  | .eof => "EOF"
  | .undetermined => "Unknown"
  | .word =>
      if reservedWords.contains t.text || contextualWords.contains t.text then t.text
      else "Identifier"
  | .secret => "#identifier"
  | .mark => t.text
  | .text => "string"
  | .decimal => "decimal"
  | .float =>
      if !t.text.any (fun c => c == 'e' || c == 'E') then "float"
      else if t.text.contains '-' then "negative exponential"
      else "positive exponential"
  | .binary => "binary"
  | .octal => "octal"
  | .hex => "hex"
  | .bigint => "bigint"
  | .regex => "/regexp/"
  | .piece true true => "\x60"
  | .piece true false => "\x60$\x7b"
  | .piece false false => "\x7d"
  | .piece false true => "\x7d\x60"
  | .childText => "jsx"

def isMark (t : Token) (s : String) : Bool := t.kind == .mark && t.text == s

def isWord (t : Token) (s : String) : Bool := t.kind == .word && t.text == s

def isName (t : Token) : Bool := t.kind == .word && !reservedWords.contains t.text

def isKeyword (t : Token) : Bool :=
  t.kind == .word && (reservedWords.contains t.text || contextualWords.contains t.text)

def isReserved (t : Token) : Bool := t.kind == .word && reservedWords.contains t.text

def isNumber (t : Token) : Bool :=
  match t.kind with
  | .decimal | .float | .binary | .octal | .hex => true
  | _ => false

def isLiteral (t : Token) : Bool :=
  t.isNumber || t.kind == .text || t.kind == .bigint || t.kind == .regex ||
    t.isWord "null" || t.isWord "true" || t.isWord "false"

def startsKey (t : Token) : Bool :=
  t.kind == .word || t.kind == .text || t.isNumber || t.kind == .bigint || t.kind == .secret ||
    t.isMark "["

def opensTemplate (t : Token) : Bool :=
  match t.kind with
  | .piece opens _ => opens
  | _ => false

end Token

end LivePreview.Script
