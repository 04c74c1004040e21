namespace LivePreview.Text

/-- The characters with the Unicode property White_Space. -/
def isBlank (c : Char) : Bool :=
  let n := c.toNat
  (9 ≤ n && n ≤ 13) || n == 0x20 || n == 0x85 || n == 0xA0 || n == 0x1680 ||
    (0x2000 ≤ n && n ≤ 0x200A) || n == 0x2028 || n == 0x2029 || n == 0x202F || n == 0x205F ||
    n == 0x3000

def dropEndWhile (p : Char → Bool) : List Char → List Char
  | [] => []
  | c :: cs => match dropEndWhile p cs with
      | [] => if p c then [] else [c]
      | d :: ds => c :: d :: ds

def trimBoth (p : Char → Bool) (s : List Char) : List Char :=
  dropEndWhile p (s.dropWhile p)

def trim (s : String) : String :=
  String.ofList (trimBoth isBlank s.toList)

def blank (s : String) : Bool := s.toList.all isBlank

def splitLast (c : Char) : List Char → Option (List Char × List Char)
  | [] => none
  | x :: xs => match splitLast c xs with
      | some (l, r) => some (x :: l, r)
      | none => if x = c then some ([], xs) else none

def splitAll (c : Char) : List Char → List (List Char)
  | [] => [[]]
  | x :: xs =>
      if x = c then [] :: splitAll c xs
      else match splitAll c xs with
        | [] => [[x]]
        | s :: ss => (x :: s) :: ss

def joinWith (sep : List Char) : List (List Char) → List Char
  | [] => []
  | [s] => s
  | s :: t :: ss => s ++ sep ++ joinWith sep (t :: ss)

def afterFirst (mark : List Char) : List Char → Option (List Char)
  | [] => if mark.isEmpty then some [] else none
  | c :: cs =>
      if mark.isPrefixOf (c :: cs) then some ((c :: cs).drop mark.length) else afterFirst mark cs

def occursIn (mark text : List Char) : Bool := (afterFirst mark text).isSome

/-- Every occurrence of `mark`, scanned from the left, replaced by `new`. -/
def replaceAll (mark new : List Char) : Nat → List Char → List Char
  | _, [] => []
  | 0, c :: cs =>
      if !mark.isEmpty && mark.isPrefixOf (c :: cs) then
        new ++ replaceAll mark new (mark.length - 1) cs
      else c :: replaceAll mark new 0 cs
  | skip + 1, _ :: cs => replaceAll mark new skip cs

end LivePreview.Text
