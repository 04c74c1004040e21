import LivePreview.Json.Value
import LivePreview.Json.Fault

namespace LivePreview.Json

abbrev Reader := StateT (List Char) (Except Failure)

def failAt {α : Type} (f : Fault) (rest : List Char) (beyond : Nat) : Except Failure α :=
  .error ⟨f, some (rest.length, beyond)⟩

def fail {α : Type} (f : Fault) : Reader α := fun s => failAt f s 0

def failNext {α : Type} (f : Fault) : Reader α := fun s =>
  failAt f s (if s.isEmpty then 0 else 1)

def isSpace (c : Char) : Bool := c == ' ' || c == '\n' || c == '\t' || c == '\x0d'

def skipSpace : Reader (Option Char) := fun s =>
  let r := s.dropWhile isSpace
  .ok (r.head?, r)

def peek : Reader (Option Char) := fun s => .ok (s.head?, s)

def drop1 : Reader Unit := fun s => .ok ((), s.drop 1)

def next : Reader (Option Char) := fun s => .ok (s.head?, s.drop 1)

def keyword : List Char → Reader Unit
  | [] => pure ()
  | c :: cs => do
      match ← next with
      | none => fail .eofValue
      | some d => if d = c then keyword cs else fail .expectedIdent

def digit? (c : Char) : Option Nat :=
  if '0' ≤ c ∧ c ≤ '9' then some (c.toNat - 48) else none

def hexValue? (c : Char) : Option Nat :=
  if '0' ≤ c ∧ c ≤ '9' then some (c.toNat - 48)
  else if 'a' ≤ c ∧ c ≤ 'f' then some (c.toNat - 87)
  else if 'A' ≤ c ∧ c ≤ 'F' then some (c.toNat - 55)
  else none

def dropBytes : Nat → List Char → List Char × Nat
  | n, [] => ([], n)
  | n, c :: cs =>
      if n = 0 then (c :: cs, 0)
      else if n < c.utf8Size then (c :: cs, n)
      else dropBytes (n - c.utf8Size) cs

def byteCount (s : List Char) : Nat := s.foldr (fun c n => c.utf8Size + n) 0

/-- Four hexadecimal digits; four bytes are taken even when they are none. -/
def hex4 : Reader Nat := fun s =>
  match s with
  | a :: b :: c :: d :: r =>
      match hexValue? a, hexValue? b, hexValue? c, hexValue? d with
      | some a, some b, some c, some d => .ok (((a * 16 + b) * 16 + c) * 16 + d, r)
      | _, _, _, _ => short s
  | _ => short s
where
  short (s : List Char) : Except Failure (Nat × List Char) :=
    if byteCount s < 4 then failAt .eofString [] 0
    else
      let (r, extra) := dropBytes 4 s
      failAt .invalidEscape r extra

def isHigh (n : Nat) : Bool := 0xD800 ≤ n && n ≤ 0xDBFF

def isLow (n : Nat) : Bool := 0xDC00 ≤ n && n ≤ 0xDFFF

def surrogatePair (high low : Nat) : Char :=
  Char.ofNat (0x10000 + (high - 0xD800) * 0x400 + (low - 0xDC00))

def expectEscape (c : Char) : Reader Unit := do
  match ← next with
  | none => fail .eofString
  | some d => if d = c then pure () else fail .shortEscape

def unicodeEscape : Reader Char := do
  let n ← hex4
  if isLow n then fail .loneSurrogate
  else if isHigh n then
    expectEscape '\\'
    expectEscape 'u'
    let low ← hex4
    if isLow low then pure (surrogatePair n low) else fail .loneSurrogate
  else pure (Char.ofNat n)

def simpleEscape? : Char → Option Char
  | '\x22' => some '\x22'
  | '\\' => some '\\'
  | '/' => some '/'
  | 'b' => some '\x08'
  | 'f' => some '\x0c'
  | 'n' => some '\n'
  | 'r' => some '\x0d'
  | 't' => some '\t'
  | _ => none

def escape : Reader Char := do
  match ← next with
  | none => fail .eofString
  | some 'u' => unicodeEscape
  | some c => match simpleEscape? c with
      | some d => pure d
      | none => fail .invalidEscape

def stringTail : Nat → List Char → Reader String
  | 0, _ => fail .eofString
  | fuel + 1, seen => do
      match ← next with
      | none => fail .eofString
      | some '\x22' => pure (String.ofList seen.reverse)
      | some '\\' => do
          let c ← escape
          stringTail fuel (c :: seen)
      | some c => if c.toNat < 32 then fail .controlCharacter else stringTail fuel (c :: seen)

def string : Reader String := fun s => stringTail (s.length + 1) [] s

def wordLimit : Nat := 18446744073709551616

def wordDigits (n : Nat) (count : Nat) : List Char → Nat × Nat × List Char
  | [] => (n, count, [])
  | c :: cs => match digit? c with
      | some d =>
          if n * 10 + d < wordLimit then wordDigits (n * 10 + d) (count + 1) cs
          else (n, count, c :: cs)
      | none => (n, count, c :: cs)

def isDigit (c : Char) : Bool := (digit? c).isSome

def countDigits (s : List Char) : Nat × List Char :=
  ((s.takeWhile isDigit).length, s.dropWhile isDigit)

def powerOfTen (k : Nat) : Float := Float.ofScientific 1 false k

/-- The word times a power of ten, by one rounded product or quotient. -/
def scaled (positive : Bool) (word : Nat) (e : Int) : Option Float :=
  let x := word.toUInt64.toFloat
  let y : Option Float :=
    if 308 < e then (if x == 0 then some x else none)
    else if 0 ≤ e then
      let y := x * powerOfTen e.toNat
      if y.isInf then none else some y
    else shrink 4 x e.natAbs
  y.map (fun y => if positive then y else -y)
where
  shrink : Nat → Float → Nat → Option Float
    | 0, _, _ => some 0
    | fuel + 1, x, e =>
        if e ≤ 308 then some (x / powerOfTen e)
        else if x == 0 then some x
        else shrink fuel (x / powerOfTen 308) (e - 308)

def floatValue (positive : Bool) (word : Nat) (e : Int) : Reader Json :=
  match scaled positive word e with
  | some x => pure (.float x)
  | none => fail .outOfRange

def exponentLimit : Nat := 2147483648

def exponentDigits (e : Nat) : List Char → Option (Nat × List Char) × List Char
  | [] => (some (e, []), [])
  | c :: cs => match digit? c with
      | some d =>
          if e * 10 + d < exponentLimit then exponentDigits (e * 10 + d) cs else (none, cs)
      | none => (some (e, c :: cs), [])

def clampExponent (e : Int) : Int :=
  if e < -(exponentLimit : Int) then -(exponentLimit : Int)
  else if (exponentLimit : Int) - 1 < e then (exponentLimit : Int) - 1
  else e

def sign : Reader Bool := do
  match ← peek with
  | some '+' => do drop1; pure false
  | some '-' => do drop1; pure true
  | _ => pure false

def magnitude (positive : Bool) (word : Nat) (start : Int) (down : Bool) : Reader Json := do
  match ← next with
  | none => fail .eofValue
  | some c => match digit? c with
      | none => fail .invalidNumber
      | some d => fun s => match exponentDigits d s with
          | (some (e, r), _) =>
              floatValue positive word (clampExponent (if down then start - e else start + e)) r
          | (none, r) =>
              if word ≠ 0 ∧ down = false then failAt .outOfRange r 0
              else .ok (.float (if positive then 0.0 else -0.0), r.dropWhile isDigit)

def exponent (positive : Bool) (word : Nat) (start : Int) : Reader Json := do
  drop1
  let down ← sign
  magnitude positive word start down

def fraction (positive : Bool) (word : Nat) (start : Int) : Reader Json := do
  drop1
  let (n, count, full) ← fun s =>
    let (n, count, r) := wordDigits word 0 s
    let full := (r.head?.map isDigit).getD false
    .ok ((n, count, full), if full then r.dropWhile isDigit else r)
  if count = 0 ∧ full = false then
    match ← peek with
    | some _ => failNext .invalidNumber
    | none => failNext .eofValue
  else
    match ← peek with
    | some 'e' | some 'E' => exponent positive n (start - count)
    | _ => floatValue positive n (start - count)

def wholeNumber (positive : Bool) (word : Nat) : Json :=
  if positive then .int word
  else if 0 < word ∧ word ≤ 9223372036854775808 then .int (-(word : Int))
  else .float (-word.toUInt64.toFloat)

def afterDigits (positive : Bool) (word : Nat) : Reader Json := do
  match ← peek with
  | some '.' => fraction positive word 0
  | some 'e' | some 'E' => exponent positive word 0
  | _ => pure (wholeNumber positive word)

def number (positive : Bool) : Reader Json := do
  match ← next with
  | none => fail .eofValue
  | some '0' => do
      match ← peek with
      | some c => if isDigit c then failNext .invalidNumber else afterDigits positive 0
      | none => afterDigits positive 0
  | some c => match digit? c with
      | none => fail .invalidNumber
      | some d => do
          let (n, full) ← fun s =>
            let (n, _, r) := wordDigits d 0 s
            .ok ((n, (r.head?.map isDigit).getD false), r)
          if full then
            let dropped ← fun s => .ok (countDigits s)
            match ← peek with
            | some '.' => fraction positive n dropped
            | some 'e' | some 'E' => exponent positive n dropped
            | _ => floatValue positive n dropped
          else afterDigits positive n

def moreElements (first : Bool) : Reader Bool := do
  match ← skipSpace with
  | none => failNext .eofList
  | some ']' => pure false
  | some ',' =>
      if first then pure true
      else do
        drop1
        match ← skipSpace with
        | some ']' => failNext .trailingComma
        | some _ => pure true
        | none => failNext .eofValue
  | some _ => if first then pure true else failNext .expectedListEnd

def moreMembers (first : Bool) : Reader Bool := do
  match ← skipSpace with
  | none => failNext .eofObject
  | some '\x7d' => pure false
  | some ',' =>
      if first then failNext .keyNotString
      else do
        drop1
        match ← skipSpace with
        | some '\x22' => pure true
        | some '\x7d' => failNext .trailingComma
        | some _ => failNext .keyNotString
        | none => failNext .eofValue
  | some '\x22' => if first then pure true else failNext .expectedObjectEnd
  | some _ => if first then failNext .keyNotString else failNext .expectedObjectEnd

def colon : Reader Unit := do
  match ← skipSpace with
  | some ':' => drop1
  | some _ => failNext .expectedColon
  | none => failNext .eofObject

def listEnd : Reader Unit := do
  match ← skipSpace with
  | some ']' => drop1
  | some ',' => do
      drop1
      match ← skipSpace with
      | some ']' => failNext .trailingComma
      | _ => failNext .trailingCharacters
  | some _ => failNext .trailingCharacters
  | none => failNext .eofList

def objectEnd : Reader Unit := do
  match ← skipSpace with
  | some '\x7d' => drop1
  | some ',' => failNext .trailingComma
  | some _ => failNext .trailingCharacters
  | none => failNext .eofObject

def elements {α : Type} (item : Reader α) : Nat → Bool → Reader (List α)
  | 0, _ => fail .eofList
  | fuel + 1, first => do
      if ← moreElements first then
        let x ← item
        let xs ← elements item fuel false
        pure (x :: xs)
      else pure []

def members {α : Type} (item : Reader α) : Nat → Bool → Reader (List (String × α))
  | 0, _ => fail .eofObject
  | fuel + 1, first => do
      if ← moreMembers first then
        drop1
        let k ← string
        colon
        let x ← item
        let xs ← members item fuel false
        pure ((k, x) :: xs)
      else pure []

/-- A value; `nested` reads one a level deeper, where the depth allows it. -/
def valueWith (nested : Option (Reader Json)) : Reader Json := do
  match ← skipSpace with
  | none => failNext .eofValue
  | some 'n' => drop1; keyword ['u', 'l', 'l']; pure .null
  | some 't' => drop1; keyword ['r', 'u', 'e']; pure (.bool true)
  | some 'f' => drop1; keyword ['a', 'l', 's', 'e']; pure (.bool false)
  | some '-' => drop1; number false
  | some '\x22' => do
      drop1
      let s ← string
      pure (.str s)
  | some '[' => match nested with
      | none => failNext .tooDeep
      | some item => do
          drop1
          let xs ← fun s => elements item (s.length + 1) true s
          listEnd
          pure (.arr xs)
  | some '\x7b' => match nested with
      | none => failNext .tooDeep
      | some item => do
          drop1
          let ps ← fun s => members item (s.length + 1) true s
          objectEnd
          pure (.obj ps)
  | some c => if isDigit c then number true else failNext .expectedValue

def value : Nat → Reader Json
  | 0 => valueWith none
  | depth + 1 => valueWith (some (value depth))

def maxDepth : Nat := 127

def endOfText : Reader Unit := do
  match ← skipSpace with
  | none => pure ()
  | some _ => failNext .trailingCharacters

def whole {α : Type} (r : Reader α) (text : String) : Except String α :=
  match (do let x ← r; endOfText; pure x : Reader α) text.toList with
  | .ok (x, _) => .ok x
  | .error f => .error (f.message text.toList)

def parse (text : String) : Except String Json := whole (value maxDepth) text

end LivePreview.Json
