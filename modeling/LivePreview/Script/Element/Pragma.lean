import LivePreview.Script.Tree
import LivePreview.Text.Segments

namespace LivePreview.Script.Element

structure Pragmas where
  element : Option String := none
  fragment : Option String := none
  automatic : Bool := false
  source : Option String := none
  deriving DecidableEq, Repr

def isWordEnd (c : Char) : Bool := c == ' ' || c == '\t' || c == '\r' || c == '\n'

def splitWord (cs : List Char) : List Char × List Char :=
  (cs.takeWhile (fun c => !isWordEnd c), cs.dropWhile (fun c => !isWordEnd c))

def Pragmas.accept (p : Pragmas) (kind value : String) : Pragmas :=
  match kind with
  | "" => { p with element := some value }
  | "Frag" => { p with fragment := some value }
  | "ImportSource" => { p with source := some value }
  | "Runtime" =>
      if value == "automatic" then { p with automatic := true }
      else if value == "classic" then { p with automatic := false }
      else p
  | _ => p

def isPragma (kind : String) : Bool := ["", "Frag", "ImportSource", "Runtime"].contains kind

def readPragmas (p : Pragmas) : Nat → List Char → Pragmas
  | 0, _ => p
  | n + 1, cs =>
      match Text.afterFirst "@jsx".toList cs with
      | none => p
      | some rest =>
          let (kind, more) := splitWord rest
          if more.isEmpty then p
          else if !isPragma (String.ofList kind) then readPragmas p n more
          else
            let (value, tail) := splitWord (more.dropWhile isWordEnd)
            if value.isEmpty then p
            else readPragmas (p.accept (String.ofList kind) (String.ofList value)) n tail

def content (c : Comment) : List Char :=
  let cs := c.text.toList.drop 2
  if c.isLine then cs else cs.dropLast.dropLast

def Pragmas.of (comments : List Comment) : Pragmas :=
  comments.foldl (fun p c => readPragmas p c.text.length (content c)) {}

def Pragmas.faults (p : Pragmas) : List String :=
  if p.automatic then
    if p.element.isSome || p.fragment.isSome then
      ["pragma and pragmaFrag cannot be set when runtime is automatic."]
    else []
  else if p.source.isSome then ["importSource cannot be set when runtime is classic."]
  else []

def splitDots (s : String) : List String := (Text.splitAll '.' s.toList).map String.ofList

def Pragmas.elementPath (p : Pragmas) : List String := splitDots (p.element.getD "React.createElement")

def Pragmas.fragmentPath (p : Pragmas) : List String := splitDots (p.fragment.getD "React.Fragment")

end LivePreview.Script.Element
