import LivePreview.Text.Segments

namespace LivePreview.Path

open LivePreview.Text

abbrev Segment := List Char

def lastSegment (p : List Char) : List Char :=
  match splitLast '/' p with
  | some (_, name) => name
  | none => p

/-- A dot that opens the name belongs to the stem. -/
def splitName (name : List Char) : List Char × Option (List Char) :=
  match splitLast '.' name with
  | none => (name, none)
  | some ([], _) => (name, none)
  | some (c :: cs, ext) => (c :: cs, some ext)

def fileName (p : String) : String := String.ofList (lastSegment p.toList)

def stem (p : String) : String := String.ofList (splitName (lastSegment p.toList)).1

def extension (p : String) : Option String :=
  (splitName (lastSegment p.toList)).2.map String.ofList

def parent (p : String) : String :=
  match splitLast '/' p.toList with
  | some (dir, _) => String.ofList dir
  | none => ""

def hasSeparator (p : String) : Bool := p.toList.contains '/'

def isCurrent (s : Segment) : Bool := s.isEmpty || s == ['.']

/-- Steps through segments over the innermost-first stack; a `..` on an empty stack stays. -/
def resolve : List Segment → List Segment → List Segment
  | stack, [] => stack.reverse
  | stack, s :: ss =>
      if isCurrent s then resolve stack ss
      else if s = ['.', '.'] then
        match stack with
        | [] => resolve [s] ss
        | t :: ts => if t = ['.', '.'] then resolve (s :: t :: ts) ss else resolve ts ss
      else resolve (s :: stack) ss

def isAbsolute (p : List Char) : Bool := p.head? == some '/'

/-- Refused when the result is absolute or its first segment opens with two dots. -/
def joinSegments (base spec : List Char) : Option (List Segment) :=
  if isAbsolute spec then none
  else if isAbsolute base then none
  else
    let segments := resolve [] (splitAll '/' base ++ splitAll '/' spec)
    match segments with
    | ('.' :: '.' :: _) :: _ => none
    | _ => some segments

def render : List Segment → List Char
  | [] => ['.']
  | s :: ss => joinWith ['/'] (s :: ss)

def join (base spec : String) : Option String :=
  (joinSegments base.toList spec.toList).map (fun ss => String.ofList (render ss))

end LivePreview.Path
