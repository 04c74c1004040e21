import LivePreview.Text.Letters
import LivePreview.Text.Segments

namespace LivePreview.Markup

def scriptSafe : List Char → List Char
  | [] => []
  | c :: cs =>
      if c = '<' then '\\' :: 'u' :: '0' :: '0' :: '3' :: 'c' :: scriptSafe cs
      else if c = '>' then '\\' :: 'u' :: '0' :: '0' :: '3' :: 'e' :: scriptSafe cs
      else if c = '&' then '\\' :: 'u' :: '0' :: '0' :: '2' :: '6' :: scriptSafe cs
      else if c = '\u2028' then '\\' :: 'u' :: '2' :: '0' :: '2' :: '8' :: scriptSafe cs
      else if c = '\u2029' then '\\' :: 'u' :: '2' :: '0' :: '2' :: '9' :: scriptSafe cs
      else c :: scriptSafe cs

def escapeJson (s : String) : String := String.ofList (scriptSafe s.toList)

def attributeSafe : List Char → List Char
  | [] => []
  | c :: cs =>
      if c = '\x22' then '&' :: 'q' :: 'u' :: 'o' :: 't' :: ';' :: attributeSafe cs
      else if c = '&' then '&' :: 'a' :: 'm' :: 'p' :: ';' :: attributeSafe cs
      else if c = '<' then '&' :: 'l' :: 't' :: ';' :: attributeSafe cs
      else c :: attributeSafe cs

def escapeAttribute (s : String) : String := String.ofList (attributeSafe s.toList)

end LivePreview.Markup

namespace LivePreview.Document

open LivePreview.Text

/-- Equal up to case; a long s is an s. -/
def sameLetter (lower c : Char) : Bool :=
  c == lower || (c.toNat + 32 == lower.toNat && isAsciiLetter c) || (lower == 's' && c == '\u017f')

def word : List Char → List Char → Option (List Char)
  | [], s => some s
  | _ :: _, [] => none
  | l :: ls, c :: cs => if sameLetter l c then word ls cs else none

def char (x : Char) : List Char → Option (List Char)
  | [] => none
  | c :: cs => if c = x then some cs else none

def skipBlanks (s : List Char) : List Char := s.dropWhile isBlank

def atBoundary : List Char → Bool
  | [] => true
  | c :: _ => !isWord c

def isQuote (c : Char) : Bool := c == '\x22' || c == '\x27'

def quote : List Char → Option (List Char)
  | [] => none
  | c :: cs => if isQuote c then some cs else none

def tagEnd (s : List Char) : Option (List Char) := char '>' (s.dropWhile (· != '>'))

def closingTag (name : List Char) (s : List Char) : Option (List Char) := do
  let s ← char '<' s
  let s ← char '/' s
  let s ← word name s
  char '>' (skipBlanks s)

def scriptName : List Char := ['s', 'c', 'r', 'i', 'p', 't']

def headName : List Char := ['h', 'e', 'a', 'd']

/-- From the white space before `src` to the end of the element: the source it names, and the rest. -/
def sourceAt : List Char → Option (List Char × List Char)
  | [] => none
  | c :: s =>
      if isBlank c then do
        let s ← word ['s', 'r', 'c'] s
        let s ← char '=' (skipBlanks s)
        let s ← quote (skipBlanks s)
        let src := s.takeWhile (fun c => !isQuote c)
        if src.isEmpty then none
        else
          let s ← quote (s.dropWhile (fun c => !isQuote c))
          let s ← tagEnd s
          let s ← closingTag scriptName (skipBlanks s)
          some (src, s)
      else none

def firstSource : List Char → Option (List Char × List Char)
  | [] => none
  | c :: cs => match sourceAt (c :: cs) with
      | some found => some found
      | none => if c = '>' then none else firstSource cs

def scriptAt (s : List Char) : Option (List Char × List Char) := do
  let s ← char '<' s
  let s ← word scriptName s
  if atBoundary s then firstSource s else none

inductive Piece where
  | char (c : Char)
  | script (whole src : List Char)
  deriving DecidableEq, Repr

def Piece.source : Piece → List Char
  | .char c => [c]
  | .script whole _ => whole

/-- A document as its script elements that name a source, from the left, and all the rest. -/
def pieces : List Char → List Piece
  | [] => []
  | c :: cs => match scriptAt (c :: cs) with
      | some (src, rest) =>
          .script (c :: cs.take (cs.length - rest.length)) src ::
            pieces (cs.drop (cs.length - rest.length))
      | none => .char c :: pieces cs
termination_by s => s.length
decreasing_by
  · rw [List.length_drop, List.length_cons]
    omega
  · exact Nat.lt_add_one _

end LivePreview.Document
