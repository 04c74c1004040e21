import LivePreview.Diagnostics
import LivePreview.Table
import LivePreview.Project.Node
import LivePreview.Text.Segments

namespace LivePreview

abbrev FileTable := Table String

namespace Node

open LivePreview.Text

def usable (s : List Char) : Bool := !s.isEmpty && s != ['.'] && s != ['.', '.']

def trimSlashes (name : String) : List Char := trimBoth (· == '/') name.toList

def pathName? (name : String) : Option String :=
  let s := trimSlashes name
  if (splitAll '/' s).all usable then some (String.ofList s) else none

def under (parent name : String) : String :=
  if parent.isEmpty then name else parent ++ "/" ++ name

mutual

/-- The files of a tree in depth-first order; a node without a usable name is left out with all it
holds. -/
def filesOf (parent : String) : Node → List (String × String)
  | ⟨name, kind, content, children⟩ => match pathName? name with
      | none => []
      | some n => match kind with
          | .file => [(under parent n, content.getD "")]
          | .directory => filesOfChildren (under parent n) children

def filesOfChildren (parent : String) : Option (List Node) → List (String × String)
  | none => []
  | some ns => filesOfEach parent ns

def filesOfEach (parent : String) : List Node → List (String × String)
  | [] => []
  | n :: ns => filesOf parent n ++ filesOfEach parent ns

end

def skipEvent (parent : String) (name : String) : Event :=
  let s := trimSlashes name
  if s.isEmpty then ⟨.debug, "skipping project node without a name", [("parent", parent)]⟩
  else ⟨.debug, "skipping project node with a relative name",
    [("parent", parent), ("name", String.ofList s)]⟩

mutual

def skipsOf (parent : String) : Node → List Event
  | ⟨name, kind, _, children⟩ => match pathName? name with
      | none => [skipEvent parent name]
      | some n => match kind with
          | .file => []
          | .directory => skipsOfChildren (under parent n) children

def skipsOfChildren (parent : String) : Option (List Node) → List Event
  | none => []
  | some ns => skipsOfEach parent ns

def skipsOfEach (parent : String) : List Node → List Event
  | [] => []
  | n :: ns => skipsOf parent n ++ skipsOfEach parent ns

end

def flatten (nodes : List Node) : FileTable := Table.ofList (filesOfEach "" nodes)

def flattenEvents (nodes : List Node) : List Event :=
  skipsOfEach "" nodes ++
    [⟨.debug, "flattened project tree", [("files", toString (flatten nodes).size)]⟩]

end Node

end LivePreview
