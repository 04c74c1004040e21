namespace LivePreview.Text

structure Decimal where
  digits : Nat
  exponent : Int
  deriving DecidableEq, Repr

namespace Decimal

def significand (bits : UInt64) : Nat × Int :=
  let raw := (bits >>> 52).toNat % 2048
  let frac := bits.toNat % 4503599627370496
  if raw = 0 then (frac, -1074) else (frac + 4503599627370496, (raw : Int) - 1075)

def scaled (n : Nat) (e : Int) (d : Nat) : Nat × Nat :=
  if e < 0 then (n * Nat.pow 10 e.natAbs, d) else (n, d * Nat.pow 10 e.natAbs)

def rise : Nat → Nat → Nat → Nat
  | 0, _, _ => 0
  | fuel + 1, n, d => if d ≤ n then 0 else rise fuel (n * 10) d + 1

def magnitude (n d : Nat) : Int :=
  if d ≤ n then ((Nat.toDigits 10 (n / d)).length : Int) - 1 else -(rise 400 n d : Int)

def hit (closed : Bool) (low high c d : Nat) : Bool :=
  if closed then low ≤ c * d && c * d ≤ high else low < c * d && c * d < high

def beside (n d : Nat) : List Nat :=
  let c := n / d
  let r := n % d
  if 2 * r < d then [c, c + 1]
  else if d < 2 * r then [c + 1, c]
  else if c % 2 = 0 then [c, c + 1] else [c + 1, c]

def onGrid (m : Nat) (q : Int) (count : Nat) : Option Decimal :=
  let step := q - 2
  let up := if step < 0 then 1 else Nat.pow 2 step.natAbs
  let den := if step < 0 then Nat.pow 2 step.natAbs else 1
  let below := if m = 4503599627370496 && -1074 < q then 1 else 2
  let e := magnitude (4 * m * up) den - count + 1
  let (n, d) := scaled (4 * m * up) e den
  let (low, _) := scaled ((4 * m - below) * up) e den
  let (high, _) := scaled ((4 * m + 2) * up) e den
  ((beside n d).find? (hit (m % 2 == 0) low high · d)).map (⟨·, e⟩)

def stripZeros : Nat → Decimal → Decimal
  | 0, x => x
  | fuel + 1, x =>
      if x.digits ≠ 0 ∧ x.digits % 10 = 0 then stripZeros fuel ⟨x.digits / 10, x.exponent + 1⟩
      else x

/-- The fewest digits that read back as the float `m * 2 ^ q`, and of those the nearest. -/
def shortest (m : Nat) (q : Int) : Decimal :=
  if m = 0 then ⟨0, 0⟩
  else match (List.range 17).findSome? (fun n => onGrid m q (n + 1)) with
    | some x => stripZeros 20 x
    | none => ⟨m, q⟩

structure Layout where
  least : Int
  limit : Int
  point : Bool

def zeros (n : Nat) : List Char := List.replicate n '0'

def render (l : Layout) (x : Decimal) : List Char :=
  let ds := Nat.toDigits 10 x.digits
  let lead : Int := x.exponent + ds.length - 1
  if x.digits = 0 then (if l.point then ['0', '.', '0'] else ['0'])
  else if l.least ≤ lead ∧ lead < l.limit then
    if 0 ≤ x.exponent then
      ds ++ zeros x.exponent.natAbs ++ (if l.point then ['.', '0'] else [])
    else if lead < 0 then '0' :: '.' :: zeros (lead.natAbs - 1) ++ ds
    else ds.take (lead.natAbs + 1) ++ '.' :: ds.drop (lead.natAbs + 1)
  else
    let mantissa := match ds with
      | d :: e :: es => d :: '.' :: e :: es
      | ds => ds
    mantissa ++ 'e' :: (if lead < 0 then '-' else '+') :: Nat.toDigits 10 lead.natAbs

end Decimal

def shortestDecimal (x : Float) : Decimal :=
  let (m, q) := Decimal.significand x.abs.toBits
  Decimal.shortest m q

def isNegative (x : Float) : Bool := x.toBits >>> 63 == 1

end LivePreview.Text
