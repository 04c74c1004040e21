import LivePreview.Project.Flatten
import LivePreview.Project.Node
import LivePreview.Project.Strict

namespace LivePreview

namespace Json

variable {name k : String} {v : Json} {ps qs : List (String × Json)}

theorem member_append : member name (ps ++ qs) = (member name qs).or (member name ps) := by
  induction ps with
  | nil => exact (Option.or_none ..).symm
  | cons p ps ih =>
    rw [List.cons_append, member, ih, member]
    cases member name qs with
    | some w => rfl
    | none => cases member name ps <;> rfl

theorem member_concat :
    member name (ps ++ [(k, v)]) = if k = name then some v else member name ps := by
  rw [member_append]
  by_cases hk : k = name <;> simp [member, hk]

end Json

namespace Node

open Json (member member_concat)

mutual

def canonical : Node → Node
  | ⟨name, .file, content, _⟩ => ⟨name, .file, content, none⟩
  | ⟨name, .directory, _, children⟩ => ⟨name, .directory, none, some (canonicalChildren children)⟩

def canonicalChildren : Option (List Node) → List Node
  | none => []
  | some ns => canonicalEach ns

def canonicalEach : List Node → List Node
  | [] => []
  | n :: ns => canonical n :: canonicalEach ns

end

theorem canonicalChildren_eq (children : Option (List Node)) :
    canonicalChildren children = (children.map canonicalEach).getD [] := by
  cases children <;> rfl

mutual

theorem filesOf_canonical (parent : String) : ∀ n : Node, filesOf parent n.canonical = filesOf parent n
  | ⟨name, .file, content, children⟩ => by
    rw [canonical, filesOf, filesOf]
  | ⟨name, .directory, content, children⟩ => by
    rw [canonical, filesOf, filesOf]
    cases pathName? name with
    | none => rfl
    | some n => exact filesOfChildren_canonical (under parent n) children

theorem filesOfChildren_canonical (parent : String) : ∀ children : Option (List Node),
    filesOfChildren parent (some (canonicalChildren children)) = filesOfChildren parent children
  | none => rfl
  | some ns => by
    rw [canonicalChildren, filesOfChildren, filesOfChildren, filesOfEach_canonical parent ns]

theorem filesOfEach_canonical (parent : String) : ∀ ns : List Node,
    filesOfEach parent (canonicalEach ns) = filesOfEach parent ns
  | [] => rfl
  | n :: ns => by
    rw [canonicalEach, filesOfEach, filesOfEach, filesOf_canonical parent n,
      filesOfEach_canonical parent ns]

end

theorem flatten_canonical (ns : List Node) : flatten (canonicalEach ns) = flatten ns := by
  rw [flatten, flatten, filesOfEach_canonical]

mutual

/-- Every node, at any depth, is an object whose `type` or `kind` is a string. -/
def tagged : Json → Bool
  | .obj ps => taggedMembers ps
  | _ => false

def taggedMembers : List (String × Json) → Bool
  | [] => true
  | (k, v) :: ps =>
      (if k = "type" ∨ k = "kind" then v.text?.isSome
        else if k = "children" then taggedList v
        else true) && taggedMembers ps

def taggedList : Json → Bool
  | .arr vs => taggedEach vs
  | _ => true

def taggedEach : List Json → Bool
  | [] => true
  | v :: vs => tagged v && taggedEach vs

end

variable {k : String} {v : Json} {ps : List (String × Json)}

theorem childrenOf_eq (ps : List (String × Json)) :
    childrenOf ps = (member "children" ps).bind listOf := by
  induction ps with
  | nil => rfl
  | cons p ps ih =>
    rw [childrenOf, member]
    cases hm : member "children" ps with
    | some w => rw [ih, hm]
    | none => by_cases hk : p.1 = "children" <;> simp [hk]

theorem childrenOf_concat :
    childrenOf (ps ++ [(k, v)]) = if k = "children" then listOf v else childrenOf ps := by
  rw [childrenOf_eq, member_concat, childrenOf_eq]
  by_cases hk : k = "children"
  · rw [if_pos hk, if_pos hk, Option.bind_some]
  · rw [if_neg hk, if_neg hk]

theorem kindOf_tag {tag : String} {kind : NodeKind} (hn : NodeKind.ofName? tag = some kind)
    (h : (member "type" ps).or (member "kind" ps) = some (.str tag)) : kindOf ps = some kind := by
  rw [kindOf]
  cases htype : member "type" ps with
  | some v =>
    rw [htype, Option.some_or] at h
    simp [h, Json.text?, hn]
  | none =>
    rw [htype, Option.none_or] at h
    simp [h, Json.text?, hn]

structure Drafted (d : Draft) (ps : List (String × Json)) : Prop where
  name : member "name" ps = d.name.map .str
  untagged : d.kind = none → member "type" ps = none ∧ member "kind" ps = none
  kind : ∀ kind, d.kind = some kind → ∃ tag, NodeKind.ofName? tag = some kind ∧
    (member "type" ps).or (member "kind" ps) = some (.str tag)
  content : (member "content" ps).bind Json.text? = d.content.getD none
  children : childrenOf ps = (d.children.getD none).map canonicalEach

namespace Drafted

variable {d : Draft}

theorem nil : Drafted {} [] := ⟨rfl, fun _ => ⟨rfl, rfl⟩, nofun, rfl, rfl⟩

theorem named (h : Drafted d ps) (name : String) :
    Drafted { d with name := some name } (ps ++ [("name", .str name)]) where
  name := member_concat
  untagged hd := by simpa [member_concat] using h.untagged hd
  kind k hd := by simpa [member_concat] using h.kind k hd
  content := by simpa [member_concat] using h.content
  children := by simpa [childrenOf_concat] using h.children

theorem kinded (h : Drafted d ps) (hd : d.kind = none) (hk : k = "type" ∨ k = "kind")
    {tag : String} {kind : NodeKind} (hn : NodeKind.ofName? tag = some kind) :
    Drafted { d with kind := some kind } (ps ++ [(k, .str tag)]) where
  name := by rcases hk with rfl | rfl <;> simpa [member_concat] using h.name
  untagged := nofun
  kind k' hd' := by
    obtain ⟨htype, hkind⟩ := h.untagged hd
    refine ⟨tag, hn.trans hd', ?_⟩
    rcases hk with rfl | rfl <;> simp [member_concat, htype, hkind]
  content := by rcases hk with rfl | rfl <;> simpa [member_concat] using h.content
  children := by rcases hk with rfl | rfl <;> simpa [childrenOf_concat] using h.children

theorem filled (h : Drafted d ps) {content : Option String} (hv : v.text? = content) :
    Drafted { d with content := some content } (ps ++ [("content", v)]) where
  name := by simpa [member_concat] using h.name
  untagged hd := by simpa [member_concat] using h.untagged hd
  kind k hd := by simpa [member_concat] using h.kind k hd
  content := by simpa [member_concat] using hv
  children := by simpa [childrenOf_concat] using h.children

theorem parented (h : Drafted d ps) {children : Option (List Node)}
    (hv : listOf v = children.map canonicalEach) :
    Drafted { d with children := some children } (ps ++ [("children", v)]) where
  name := by simpa [member_concat] using h.name
  untagged hd := by simpa [member_concat] using h.untagged hd
  kind k hd := by simpa [member_concat] using h.kind k hd
  content := by simpa [member_concat] using h.content
  children := by simpa [childrenOf_concat] using hv

theorem unknown (h : Drafted d ps) (hname : k ≠ "name") (htype : k ≠ "type") (hkind : k ≠ "kind")
    (hcontent : k ≠ "content") (hchildren : k ≠ "children") (v : Json) :
    Drafted d (ps ++ [(k, v)]) where
  name := by simpa [member_concat, hname] using h.name
  untagged hd := by simpa [member_concat, htype, hkind] using h.untagged hd
  kind k' hd := by simpa [member_concat, htype, hkind] using h.kind k' hd
  content := by simpa [member_concat, hcontent] using h.content
  children := by simpa [childrenOf_concat, hchildren] using h.children

theorem assembled (h : Drafted d ps) {name : String} {kind : NodeKind}
    (hname : d.name = some name) (hkind : d.kind = some kind) :
    assemble ps (childrenOf ps) =
      some (canonical ⟨name, kind, d.content.getD none, d.children.getD none⟩) := by
  obtain ⟨tag, hn, htag⟩ := h.kind kind hkind
  have htext : (member "name" ps).bind Json.text? = some name := by
    rw [h.name, hname]
    rfl
  rw [assemble, htext, kindOf_tag hn htag, h.content, h.children]
  cases kind with
  | file => rfl
  | directory =>
    rw [canonical, canonicalChildren_eq]
    rfl

end Drafted

end Node

end LivePreview
