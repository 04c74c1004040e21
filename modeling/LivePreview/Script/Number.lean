import LivePreview.Script.Lexer.Escape
import LivePreview.Text.Shortest

namespace LivePreview.Script.Number

open Text (Decimal shortestDecimal)

def radixValue (radix : Nat) (ds : List Char) : Nat :=
  ds.foldl (fun n c => radix * n + (hexValue c).getD 0) 0

def ofDecimal (digits : List Char) (exponent : Int) : Float :=
  let m := radixValue 10 digits
  let size : Int := (digits.dropWhile (· == '0')).length + exponent
  if m = 0 || size < -400 then 0.0
  else if 400 < size then Float.ofScientific 1 false 400
  else if exponent < 0 then Float.ofScientific m true exponent.natAbs
  else Float.ofScientific m false exponent.natAbs

def exponentValue (cs : List Char) : Int :=
  match cs with
  | '-' :: ds => -(radixValue 10 ds : Int)
  | '+' :: ds => radixValue 10 ds
  | ds => radixValue 10 ds

def decimalValue (cs : List Char) : Float :=
  let whole := cs.takeWhile Char.isDigit
  let rest := cs.dropWhile Char.isDigit
  let (fraction, rest) := match rest with
    | '.' :: more => (more.takeWhile Char.isDigit, more.dropWhile Char.isDigit)
    | _ => ([], rest)
  let exponent := match rest with
    | _ :: more => exponentValue more
    | [] => 0
  ofDecimal (whole ++ fraction) (exponent - fraction.length)

def value (raw : String) : Float :=
  match raw.toList.filter (· != '_') with
  | '0' :: x :: ds =>
      if x == 'x' || x == 'X' then Float.ofNat (radixValue 16 ds)
      else if x == 'o' || x == 'O' then Float.ofNat (radixValue 8 ds)
      else if x == 'b' || x == 'B' then Float.ofNat (radixValue 2 ds)
      else if (x :: ds).all isOctal then Float.ofNat (radixValue 8 (x :: ds))
      else decimalValue ('0' :: x :: ds)
  | cs => decimalValue cs

def layout : Decimal.Layout := ⟨-6, 21, false⟩

def plain (x : Float) : List Char := Decimal.render layout (shortestDecimal x)

def isWhole (x : Float) : Bool := x.floor == x

def decimalText (n : Nat) : List Char := Nat.toDigits 10 n

def stripPlus : List Char → List Char
  | 'e' :: '+' :: cs => 'e' :: cs
  | c :: cs => c :: stripPlus cs
  | [] => []

def wholePart (x : Float) : Nat :=
  let (m, q) := Decimal.significand x.toBits
  if q < 0 then m / Nat.pow 2 q.natAbs else m * Nat.pow 2 q.natAbs

def shorter (new old : List Char) : List Char := if new.length < old.length then new else old

/-- `.000ds` as `dse-n`. -/
def liftFraction (cs : List Char) : List Char :=
  match cs with
  | '.' :: '0' :: more =>
      let ds := more.dropWhile (· == '0')
      shorter (ds ++ 'e' :: '-' :: decimalText (more.length + 1)) cs
  | _ => cs

def foldZeros (cs : List Char) : List Char :=
  let zeros := (cs.reverse.takeWhile (· == '0')).length
  if zeros = 0 then cs
  else shorter (cs.take (cs.length - zeros) ++ 'e' :: decimalText zeros) cs

/-- `a.bce-n` with the point moved behind the digits. -/
def shiftPoint (cs : List Char) : List Char :=
  let whole := cs.takeWhile (· != '.')
  match cs.dropWhile (· != '.') with
  | '.' :: more =>
      let fraction := more.takeWhile (· != 'e')
      match more.dropWhile (· != 'e') with
      | 'e' :: es =>
          let e := exponentValue es - fraction.length
          let sign := if e < 0 then ['-'] else []
          shorter (whole ++ fraction ++ 'e' :: (sign ++ decimalText e.natAbs)) cs
      | _ => cs
  | _ => cs

/-- The shortest of the spellings of a number that is neither negative nor infinite: positional, with
an exponent, or in base sixteen. -/
def render (x : Float) : List Char :=
  if x < 1000.0 && isWhole x then plain x
  else
    let cs := match stripPlus (plain x) with
      | '0' :: '.' :: rest => '.' :: rest
      | cs => cs
    let cs := if isWhole x then cs else liftFraction cs
    let hex := '0' :: 'x' :: Nat.toDigits 16 (wholePart x)
    if isWhole x && hex.length < cs.length then hex
    else shiftPoint (foldZeros cs)

def takesPoint (cs : List Char) : Bool := !cs.any (fun c => c == '.' || c == 'e' || c == 'x')

end LivePreview.Script.Number
