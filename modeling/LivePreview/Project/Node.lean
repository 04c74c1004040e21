import LivePreview.Json.Reader

namespace LivePreview

inductive NodeKind where
  | file
  | directory
  deriving DecidableEq, Repr

structure Node where
  name : String
  kind : NodeKind
  content : Option String := none
  children : Option (List Node) := none
  deriving Repr

def NodeKind.ofName? : String → Option NodeKind
  | "file" => some .file
  | "directory" => some .directory
  | "folder" => some .directory
  | _ => none

def Node.isFile (n : Node) : Bool := n.kind == .file

def NodeKind.label : NodeKind → String
  | .file => "file"
  | .directory => "directory"

namespace Node

mutual

def toJson : Node → Json
  | ⟨name, kind, content, children⟩ =>
      .obj ([("name", .str name), ("type", .str kind.label)] ++
        (content.map (fun c => ("content", Json.str c))).toList ++ childrenMember children)

def childrenMember : Option (List Node) → List (String × Json)
  | none => []
  | some ns => [("children", .arr (toJsonEach ns))]

def toJsonEach : List Node → List Json
  | [] => []
  | n :: ns => toJson n :: toJsonEach ns

end

open LivePreview.Json (member)

def kindOf (ps : List (String × Json)) : Option NodeKind :=
  let said := match member "type" ps with
    | some v => some v
    | none => member "kind" ps
  match said.bind Json.text? |>.bind NodeKind.ofName? with
  | some kind => some kind
  | none => match member "children" ps, (member "content" ps).bind Json.text? with
      | some (.arr _), _ => some .directory
      | _, some _ => some .file
      | _, _ => none

def assemble (ps : List (String × Json)) (children : Option (List Node)) : Option Node := do
  let name ← (member "name" ps).bind Json.text?
  match ← kindOf ps with
  | .file => some ⟨name, .file, (member "content" ps).bind Json.text?, none⟩
  | .directory => some ⟨name, .directory, none, some (children.getD [])⟩

mutual

/-- A node that cannot be understood is dropped with all it holds. -/
def ofJson? : Json → Option Node
  | .obj ps => assemble ps (childrenOf ps)
  | _ => none

def ofEach : List Json → List Node
  | [] => []
  | v :: vs => match ofJson? v with
      | some n => n :: ofEach vs
      | none => ofEach vs

def childrenOf : List (String × Json) → Option (List Node)
  | [] => none
  | (k, v) :: rest => match member "children" rest with
      | some _ => childrenOf rest
      | none => if k = "children" then listOf v else none

def listOf : Json → Option (List Node)
  | .arr vs => some (ofEach vs)
  | _ => none

end

def readTree : Json → List Node
  | .arr vs => ofEach vs
  | .obj ps => (ofJson? (.obj ps)).toList
  | _ => []

def readTreeText (text : String) : Except String (List Node) :=
  (Json.parse text).map readTree

end Node

end LivePreview
