import LivePreview.Proofs.Embedding
import LivePreview.Proofs.Precedence
import LivePreview.Proofs.Table
import Mathlib.Data.Finset.Card

namespace LivePreview

namespace Table

variable {β : Type} {k : String} {v : β}

def LastGiven (ps : List (String × β)) (k : String) (v : β) : Prop :=
  ∃ earlier later, ps = earlier ++ (k, v) :: later ∧ k ∉ later.map Prod.fst

theorem lastGiven_iff {ps : List (String × β)} :
    LastGiven ps k v ↔ (ofList ps).get? k = some v := by
  constructor
  · rintro ⟨earlier, later, rfl, hlater⟩
    have hnone : later.reverse.find? (fun p => p.1 = k) = none := by
      rw [List.find?_eq_none]
      rintro p hp hk
      exact hlater (List.mem_map.mpr ⟨p, List.mem_reverse.mp hp, of_decide_eq_true hk⟩)
    simp [get?_ofList, hnone]
  · intro h
    rw [get?_ofList] at h
    obtain ⟨⟨k', v'⟩, hfound, rfl⟩ := Option.map_eq_some_iff.mp h
    obtain ⟨earlier, later, hps, hk, hlater⟩ := ImportMap.find?_reverse_some hfound
    obtain rfl := of_decide_eq_true hk
    refine ⟨earlier, later, hps, fun hmem => ?_⟩
    obtain ⟨p, hp, hk⟩ := List.mem_map.mp hmem
    exact of_decide_eq_false (hlater p hp) hk

theorem get?_ofList_eq_none_iff {ps : List (String × β)} :
    (ofList ps).get? k = none ↔ k ∉ ps.map Prod.fst := by
  rw [← mem_keys_ofList, mem_keys_iff, Option.not_isSome_iff_eq_none]

theorem size_ofList (ps : List (String × β)) :
    (ofList ps).size = (ps.map Prod.fst).toFinset.card := by
  have hkeys : (ofList ps).keys.toFinset = (ps.map Prod.fst).toFinset := by
    ext k
    simp only [List.mem_toFinset, mem_keys_ofList]
  rw [← hkeys, List.toFinset_card_of_nodup (ofList_nodup ps), size, keys, List.length_map]

end Table

namespace ImportMap

open Table

section

variable {m : ImportMap} {s t : String}

theorem insertion_new_iff : m.insertion s t = .new ↔ m.get? s = none := by
  rw [insertion]
  cases m.get? s with
  | none => simp
  | some previous => by_cases h : previous = t <;> simp [h]

theorem insertion_unchanged_iff : m.insertion s t = .unchanged ↔ m.get? s = some t := by
  rw [insertion]
  cases m.get? s with
  | none => simp
  | some previous => by_cases h : previous = t <;> simp [h]

theorem insertion_replaced_iff {previous : String} :
    m.insertion s t = .replaced previous ↔ m.get? s = some previous ∧ previous ≠ t := by
  rw [insertion]
  cases m.get? s with
  | none => simp
  | some previous' =>
    by_cases h : previous' = t
    · simp only [h, if_true, reduceCtorEq, Option.some.injEq, false_iff, not_and, not_not]
      exact Eq.symm
    · simp only [h, if_false, Insertion.replaced.injEq, Option.some.injEq]
      exact ⟨fun he => ⟨he, he ▸ h⟩, fun he => he.1⟩

end

theorem parse_json (m : ImportMap) : Json.parse m.json = .ok m.table := by
  have hjson : m.json = String.ofList (m.written Json.escapeChar) := by
    rw [← json_written, String.ofList_toList]
  rw [hjson]
  exact parse_written m Json.escapeChar_spells

def reports (m : ImportMap) : List (String × String) → List Insertion
  | [] => []
  | (s, t) :: ps => m.insertion s t :: reports (m.insert s t) ps

theorem reports_append (m : ImportMap) (ps qs : List (String × String)) :
    m.reports (ps ++ qs) = m.reports ps ++ reports (m.insertAll ps) qs := by
  induction ps generalizing m with
  | nil => rfl
  | cons p ps ih => exact congrArg (m.insertion p.1 p.2 :: ·) (ih (m.insert p.1 p.2))

theorem length_reports (m : ImportMap) (ps : List (String × String)) :
    (m.reports ps).length = ps.length := by
  induction ps generalizing m with
  | nil => rfl
  | cons p ps ih => exact congrArg Nat.succ (ih (m.insert p.1 p.2))

theorem reports_at (before after : List (String × String)) (s t : String) :
    (reports Table.empty (before ++ (s, t) :: after))[before.length]? =
      some (insertion (ofList before) s t) := by
  rw [reports_append, List.getElem?_append_right (Nat.le_of_eq (length_reports _ _)),
    length_reports, Nat.sub_self]
  rfl

/-- After any history of insertions into a fresh map its specifiers stand in the order of their
first insertions and lead to the targets of their last, every insertion has reported what it found,
and the text of the map is read as its pairs in their order. -/
theorem history_recounted (ps : List (String × String)) :
    let m : ImportMap := ofList ps
    m.keys.Nodup ∧
      m.keys = (ps.map Prod.fst).eraseDups ∧
      (∀ s t, m.get? s = some t ↔ LastGiven ps s t) ∧
      (∀ s, m.get? s = none ↔ s ∉ ps.map Prod.fst) ∧
      m.size = (ps.map Prod.fst).toFinset.card ∧
      (∀ before s t after, ps = before ++ (s, t) :: after →
        ∃ report, (reports Table.empty ps)[before.length]? = some report ∧
          (report = .new ↔ s ∉ before.map Prod.fst) ∧
          (report = .unchanged ↔ LastGiven before s t) ∧
          ∀ previous, report = .replaced previous ↔
            LastGiven before s previous ∧ previous ≠ t) ∧
      Json.parse m.json =
        .ok (.obj [("imports", .obj (m.entries.map (fun p => (p.1, .str p.2))))]) := by
  intro m
  refine ⟨ofList_nodup ps, keys_ofList ps, fun s t => lastGiven_iff.symm,
    fun s => get?_ofList_eq_none_iff, size_ofList ps, ?_, parse_json m⟩
  rintro before s t after rfl
  refine ⟨_, reports_at before after s t, ?_, ?_, fun previous => ?_⟩
  · rw [insertion_new_iff, get?_ofList_eq_none_iff]
  · rw [insertion_unchanged_iff, lastGiven_iff]
  · rw [insertion_replaced_iff, lastGiven_iff]

example : reports Table.empty [("./x", "blob:a"), ("react", "u"), ("./x", "blob:a"), ("./x", "b")] =
    [.new, .new, .unchanged, .replaced "blob:a"] := by decide

end ImportMap

end LivePreview
