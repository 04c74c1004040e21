import LivePreview.Json.Reader

namespace LivePreview.Json

inductive Bracket where
  | square
  | curly
  deriving DecidableEq, Repr

def skipEscape : Reader Unit := do
  match ← next with
  | none => fail .eofString
  | some 'u' => do
      let _ ← hex4
      pure ()
  | some c => if (simpleEscape? c).isSome then pure () else fail .invalidEscape

def skipStringTail : Nat → Reader Unit
  | 0 => fail .eofString
  | fuel + 1 => do
      match ← peek with
      | none => fail .eofString
      | some '\x22' => drop1
      | some '\\' => do
          drop1
          skipEscape
          skipStringTail fuel
      | some c => if c.toNat < 32 then fail .controlCharacter else do drop1; skipStringTail fuel

def skipString : Reader Unit := fun s => skipStringTail (s.length + 1) s

def skipDigits : Reader Unit := fun s => .ok ((), s.dropWhile isDigit)

def skipSign : Reader Unit := do
  match ← peek with
  | some '+' | some '-' => drop1
  | _ => pure ()

def skipExponent : Reader Unit := do
  drop1
  skipSign
  match ← next with
  | some c => if isDigit c then skipDigits else fail .invalidNumber
  | none => fail .invalidNumber

def skipFraction : Reader Unit := do
  drop1
  match ← peek with
  | some c => if isDigit c then skipDigits else failNext .invalidNumber
  | none => failNext .invalidNumber

def skipWhole : Reader Unit := do
  match ← next with
  | some '0' => do
      match ← peek with
      | some c => if isDigit c then failNext .invalidNumber else pure ()
      | none => pure ()
  | some c => if isDigit c then skipDigits else fail .invalidNumber
  | none => fail .invalidNumber

def skipScale : Reader Unit := do
  match ← peek with
  | some 'e' | some 'E' => skipExponent
  | _ => pure ()

def skipParts : Reader Unit := do
  match ← peek with
  | some '.' => do skipFraction; skipScale
  | _ => skipScale

def skipNumber : Reader Unit := do
  skipWhole
  skipParts

def skipAtom : Reader (Option Bracket) := do
  match ← skipSpace with
  | none => failNext .eofValue
  | some 'n' => drop1; keyword ['u', 'l', 'l']; pure none
  | some 't' => drop1; keyword ['r', 'u', 'e']; pure none
  | some 'f' => drop1; keyword ['a', 'l', 's', 'e']; pure none
  | some '-' => drop1; skipNumber; pure none
  | some '\x22' => drop1; skipString; pure none
  | some '[' => drop1; pure (some .square)
  | some '\x7b' => drop1; pure (some .curly)
  | some c => if isDigit c then do skipNumber; pure none else failNext .expectedValue

def skipClosers : Nat → Bool → List Bracket → Reader (List Bracket)
  | 0, _, open_ => pure open_
  | _ + 1, _, [] => pure []
  | fuel + 1, comma, b :: bs => do
      match ← skipSpace with
      | some ',' =>
          if comma then do drop1; pure (b :: bs) else pure (b :: bs)
      | some ']' =>
          if b = .square then do drop1; skipClosers fuel true bs
          else if comma then failNext .expectedObjectEnd else pure (b :: bs)
      | some '\x7d' =>
          if b = .curly then do drop1; skipClosers fuel true bs
          else if comma then failNext .expectedListEnd else pure (b :: bs)
      | some _ =>
          if comma then failNext (if b = .square then .expectedListEnd else .expectedObjectEnd)
          else pure (b :: bs)
      | none => failNext (if b = .square then .eofList else .eofObject)

def skipKey : Reader Unit := do
  match ← skipSpace with
  | some '\x22' => drop1
  | some _ => failNext .keyNotString
  | none => failNext .eofObject
  skipString
  colon

def skipLoop : Nat → List Bracket → Reader Unit
  | 0, _ => pure ()
  | fuel + 1, opened => do
      let atom ← skipAtom
      let next ← match atom with
        | some b => fun s => skipClosers (s.length + 1) false (b :: opened) s
        | none => fun s => skipClosers (s.length + 1) true opened s
      match next with
      | [] => pure ()
      | .curly :: bs => do skipKey; skipLoop fuel (.curly :: bs)
      | .square :: bs => skipLoop fuel (.square :: bs)

def skipValue : Reader Unit := fun s => skipLoop (s.length + 1) [] s

end LivePreview.Json
