import LivePreview.Text.Shortest

namespace LivePreview

inductive Json where
  | null
  | bool (b : Bool)
  | int (n : Int)
  | float (x : Float)
  | str (s : String)
  | arr (xs : List Json)
  | obj (ps : List (String × Json))
  deriving Inhabited

namespace Json

/-- Of several members of one name the last counts. -/
def member (name : String) : List (String × Json) → Option Json
  | [] => none
  | (k, v) :: rest => match member name rest with
      | some w => some w
      | none => if k = name then some v else none

def get? (name : String) : Json → Option Json
  | .obj ps => member name ps
  | _ => none

def text? : Json → Option String
  | .str s => some s
  | _ => none

def unsigned? : Json → Option Nat
  | .int n => if 0 ≤ n ∧ n < 18446744073709551616 then some n.toNat else none
  | _ => none

def hexDigit (n : Nat) : Char := if n < 10 then Char.ofNat (48 + n) else Char.ofNat (87 + n)

def escapeChar (c : Char) : List Char :=
  if c = '\x22' then ['\\', '\x22']
  else if c = '\\' then ['\\', '\\']
  else if c = '\x08' then ['\\', 'b']
  else if c = '\x0c' then ['\\', 'f']
  else if c = '\n' then ['\\', 'n']
  else if c = '\x0d' then ['\\', 'r']
  else if c = '\t' then ['\\', 't']
  else if c.toNat < 32 then ['\\', 'u', '0', '0', hexDigit (c.toNat / 16), hexDigit (c.toNat % 16)]
  else [c]

def quoted (s : List Char) : List Char :=
  '\x22' :: s.flatMap escapeChar ++ ['\x22']

def separated : List (List Char) → List Char
  | [] => []
  | [s] => s
  | s :: t :: ss => s ++ ',' :: separated (t :: ss)

def floatLayout : Text.Decimal.Layout := ⟨-5, 16, true⟩

def renderFloat (x : Float) : List Char :=
  (if Text.isNegative x then ['-'] else []) ++
    Text.Decimal.render floatLayout (Text.shortestDecimal x)

def renderInt (n : Int) : List Char :=
  (if n < 0 then ['-'] else []) ++ Nat.toDigits 10 n.natAbs

/-- The members in the order of their names, each name once and with its last value. -/
def ordered {α : Type} (ps : List (String × α)) : List (String × α) :=
  ps.foldl put []
where
  put : List (String × α) → String × α → List (String × α)
    | [], p => [p]
    | q :: qs, p =>
        if q.1 = p.1 then p :: qs else if p.1 < q.1 then p :: q :: qs else q :: put qs p

def render : Json → List Char
  | .null => ['n', 'u', 'l', 'l']
  | .bool true => ['t', 'r', 'u', 'e']
  | .bool false => ['f', 'a', 'l', 's', 'e']
  | .int n => renderInt n
  | .float x => renderFloat x
  | .str s => quoted s.toList
  | .arr xs => '[' :: separated (renderEach xs) ++ [']']
  | .obj ps =>
      '\x7b' :: separated ((ordered (renderMembers ps)).map
        (fun p => quoted p.1.toList ++ ':' :: p.2)) ++ ['\x7d']
where
  renderEach : List Json → List (List Char)
    | [] => []
    | x :: xs => render x :: renderEach xs
  renderMembers : List (String × Json) → List (String × List Char)
    | [] => []
    | (k, v) :: ps => (k, render v) :: renderMembers ps

def compact (v : Json) : String := String.ofList (render v)

end Json

end LivePreview
