import LivePreview.Proofs.Segments
import LivePreview.Proofs.Table
import LivePreview.Project.Flatten

namespace LivePreview

namespace Path

open Text

def Plain (p : String) : Prop := ∀ s ∈ splitAll '/' p.toList, Node.usable s = true

theorem Plain.join {p q : String} (hp : Plain p) (hq : Plain q) : Plain (p ++ "/" ++ q) := by
  intro s hs
  have hchars : (p ++ "/" ++ q).toList = p.toList ++ '/' :: q.toList := by
    simp [String.toList_append]
  rw [hchars, splitAll_append] at hs
  exact (List.mem_append.mp hs).elim (hp s) (hq s)

theorem Plain.ne_dot {p : String} (hp : Plain p) (q : String) : p ≠ "./" ++ q := by
  rintro rfl
  have hsegments : splitAll '/' ("./" ++ q).toList = ['.'] :: splitAll '/' q.toList := by
    rw [String.toList_append]
    exact splitAll_append '/' ['.'] q.toList
  have hdot : Node.usable ['.'] = true := hp ['.'] (hsegments ▸ List.mem_cons_self)
  cases hdot

end Path

namespace Node

open Text LivePreview.Path

theorem pathName?_plain {name n : String} (h : pathName? name = some n) : Plain n := by
  simp only [pathName?, Option.ite_none_right_eq_some, Option.some.injEq] at h
  obtain ⟨hall, rfl⟩ := h
  rw [List.all_eq_true] at hall
  intro s hs
  rw [String.toList_ofList] at hs
  exact hall s hs

def Root (parent : String) : Prop := parent = "" ∨ Plain parent

theorem under_plain {parent n : String} (hp : Root parent) (hn : Plain n) :
    Plain (under parent n) := by
  rw [under]
  split
  · exact hn
  · rename_i hne
    rcases hp with rfl | hp
    · exact absurd rfl hne
    · exact hp.join hn

mutual

theorem filesOf_plain {parent : String} (hp : Root parent) :
    ∀ n : Node, ∀ p ∈ filesOf parent n, Plain p.1
  | ⟨name, kind, content, children⟩ => by
    intro p h
    rw [filesOf] at h
    split at h
    · cases h
    · rename_i n hn
      have hplain : Plain (under parent n) := under_plain hp (pathName?_plain hn)
      split at h
      · rw [List.mem_singleton.mp h]
        exact hplain
      · exact filesOfChildren_plain (.inr hplain) children p h

theorem filesOfChildren_plain {parent : String} (hp : Root parent) :
    ∀ ns : Option (List Node), ∀ p ∈ filesOfChildren parent ns, Plain p.1
  | none => by simp [filesOfChildren]
  | some ns => by simpa [filesOfChildren] using filesOfEach_plain hp ns

theorem filesOfEach_plain {parent : String} (hp : Root parent) :
    ∀ ns : List Node, ∀ p ∈ filesOfEach parent ns, Plain p.1
  | [] => by simp [filesOfEach]
  | n :: ns => by
    intro p h
    rw [filesOfEach] at h
    exact (List.mem_append.mp h).elim (filesOf_plain hp n p) (filesOfEach_plain hp ns p)

end

theorem flatten_plain (project : List Node) : ∀ p ∈ (flatten project).keys, Plain p := by
  intro p hp
  obtain ⟨file, hfile, rfl⟩ := List.mem_map.mp (Table.mem_keys_ofList.mp hp)
  exact filesOfEach_plain (.inl rfl) project file hfile

end Node

end LivePreview
