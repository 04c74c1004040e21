namespace LivePreview.Script

def hexValue (c : Char) : Option Nat :=
  if '0' ≤ c ∧ c ≤ '9' then some (c.toNat - 48)
  else if 'a' ≤ c ∧ c ≤ 'f' then some (c.toNat - 87)
  else if 'A' ≤ c ∧ c ≤ 'F' then some (c.toNat - 55)
  else none

def isHex (c : Char) : Bool := (hexValue c).isSome

def hexNumber (cs : List Char) : Nat := cs.foldl (fun n c => 16 * n + (hexValue c).getD 0) 0

def isLineEnd (c : Char) : Bool := c == '\n' || c == '\r' || c == '\u2028' || c == '\u2029'

structure Escape where
  chars : List Char
  length : Nat
  valid : Bool := true

def codeEscape (cs : List Char) : Option (Nat × Nat) :=
  match cs with
  | '\x7b' :: rest =>
      let ds := rest.takeWhile isHex
      if ds.isEmpty || (rest.drop ds.length).head? != some '\x7d' || 0x10FFFF < hexNumber ds then none
      else some (hexNumber ds, ds.length + 2)
  | _ =>
      let ds := cs.take 4
      if ds.length == 4 && ds.all isHex then some (hexNumber ds, 4) else none

def isLeading (n : Nat) : Bool := 0xD800 ≤ n && n < 0xDC00

def isTrailing (n : Nat) : Bool := 0xDC00 ≤ n && n < 0xE000

/-- A half of a surrogate pair that stands alone, as the replacement character and its code. -/
def loneHalf (n : Nat) : List Char := '\uFFFD' :: Nat.toDigits 16 n

def holdText (cs : List Char) : List Char :=
  cs.flatMap fun c => if c == '\uFFFD' then c :: ['f', 'f', 'f', 'd'] else [c]

def unicodeEscape (cs : List Char) : Escape :=
  match codeEscape cs with
  | none => ⟨[], 1, false⟩
  | some (n, len) =>
      if isLeading n then
        match cs.drop len with
        | '\\' :: 'u' :: more => match codeEscape more with
            | some (m, len') =>
                if isTrailing m then
                  ⟨[Char.ofNat (0x10000 + (n - 0xD800) * 0x400 + (m - 0xDC00))], len + len' + 3, true⟩
                else ⟨loneHalf n, len + 1, true⟩
            | none => ⟨loneHalf n, len + 1, true⟩
        | _ => ⟨loneHalf n, len + 1, true⟩
      else if isTrailing n then ⟨loneHalf n, len + 1, true⟩
      else ⟨holdText [Char.ofNat n], len + 1, true⟩

def isOctal (c : Char) : Bool := '0' ≤ c && c ≤ '7'

def octalEscape (cs : List Char) : Escape :=
  let most := if cs.head?.any (· ≤ '3') then 3 else 2
  let ds := (cs.take most).takeWhile isOctal
  ⟨[Char.ofNat (ds.foldl (fun n c => 8 * n + (c.toNat - 48)) 0)], ds.length, true⟩

def readEscape (inTemplate : Bool) (cs : List Char) : Escape :=
  match cs with
  | [] => ⟨[], 0, false⟩
  | '\r' :: '\n' :: _ => ⟨[], 2, true⟩
  | 'b' :: _ => ⟨['\x08'], 1, true⟩
  | 'f' :: _ => ⟨['\x0c'], 1, true⟩
  | 'n' :: _ => ⟨['\n'], 1, true⟩
  | 'r' :: _ => ⟨['\r'], 1, true⟩
  | 't' :: _ => ⟨['\t'], 1, true⟩
  | 'v' :: _ => ⟨['\x0b'], 1, true⟩
  | 'x' :: a :: b :: _ =>
      if isHex a && isHex b then ⟨[Char.ofNat (hexNumber [a, b])], 3, true⟩ else ⟨[], 1, false⟩
  | 'x' :: _ => ⟨[], 1, false⟩
  | 'u' :: rest => unicodeEscape rest
  | '0' :: rest =>
      if rest.head?.all (fun c => !c.isDigit) then ⟨['\x00'], 1, true⟩
      else if inTemplate then ⟨[], 1, false⟩ else octalEscape cs
  | c :: _ =>
      if isLineEnd c then ⟨[], 1, true⟩
      else if isOctal c then (if inTemplate then ⟨[], 1, false⟩ else octalEscape cs)
      else if inTemplate && c.isDigit then ⟨[], 1, false⟩
      else ⟨holdText [c], 1, true⟩

end LivePreview.Script
