import Mathlib.Data.List.FinRange
import LivePreview.Options

namespace LivePreview

namespace Settings

def picked (es : List External) (P : Fin es.length → Prop) [DecidablePred P] : List External :=
  ((List.finRange es.length).filter P).map es.get

def IsLast (es : List External) (i : Fin es.length) : Prop :=
  ∀ j, i < j → es[j].specifier ≠ es[i].specifier

def IsSecond (es : List External) (i : Fin es.length) : Prop :=
  ((es.take i).map External.specifier).count es[i].specifier = 1

instance (es : List External) : DecidablePred (IsLast es) :=
  fun i => inferInstanceAs (Decidable (∀ j, i < j → es[j].specifier ≠ es[i].specifier))

instance (es : List External) : DecidablePred (IsSecond es) :=
  fun i => inferInstanceAs (Decidable (((es.take i).map External.specifier).count _ = 1))

def seconds (es : List External) : List String := (picked es (IsSecond es)).map External.specifier

variable {e : External} {es : List External} {s : String}

theorem picked_cons (P : Fin (e :: es).length → Prop) [DecidablePred P] :
    picked (e :: es) P = (if P 0 then [e] else []) ++ picked es (fun i => P i.succ) := by
  have hplaces : List.finRange (e :: es).length = 0 :: (List.finRange es.length).map Fin.succ :=
    List.finRange_succ
  simp only [picked, hplaces, List.filter_cons, List.filter_map]
  by_cases h : P 0 <;> simp [h, Function.comp_def]

theorem picked_congr {P Q : Fin es.length → Prop} [DecidablePred P] [DecidablePred Q]
    (h : ∀ i, P i ↔ Q i) : picked es P = picked es Q := by
  simp [picked, h]

theorem isLast_zero : IsLast (e :: es) 0 ↔ e.specifier ∉ es.map External.specifier := by
  constructor
  · intro h hmem
    obtain ⟨e', he', hs⟩ := List.mem_map.mp hmem
    obtain ⟨i, hi⟩ := List.mem_iff_get.mp he'
    exact h i.succ i.succ_pos ((congrArg External.specifier hi).trans hs)
  · intro h j hj
    obtain ⟨i, rfl⟩ := Fin.exists_succ_eq.mpr (Fin.pos_iff_ne_zero.mp hj)
    exact fun hs => h (hs ▸ List.mem_map_of_mem (List.get_mem es i))

theorem isLast_succ (i : Fin es.length) : IsLast (e :: es) i.succ ↔ IsLast es i := by
  simp [IsLast, Fin.forall_fin_succ]

theorem lastEntries_cons (e : External) (es : List External) : lastEntries (e :: es) =
    if e.specifier ∈ es.map External.specifier then lastEntries es else e :: lastEntries es := by
  simp [lastEntries]

theorem lastEntries_eq (es : List External) : lastEntries es = picked es (IsLast es) := by
  induction es with
  | nil => rfl
  | cons e es ih =>
    rw [lastEntries_cons, picked_cons, picked_congr isLast_succ, ← ih]
    by_cases h : e.specifier ∈ es.map External.specifier
    · rw [if_pos h, if_neg (fun hlast => isLast_zero.mp hlast h), List.nil_append]
    · rw [if_neg h, if_pos (isLast_zero.mpr h), List.singleton_append]

theorem repeated_eq (seen : List String) (es : List External) : repeated seen es =
    (picked es (fun i => seen.count es[i].specifier +
      ((es.take i).map External.specifier).count es[i].specifier = 1)).map External.specifier := by
  induction es generalizing seen with
  | nil => rfl
  | cons e es ih =>
    have hrest (i : Fin es.length) : (e.specifier :: seen).count es[i].specifier +
        ((es.take i).map External.specifier).count es[i].specifier = 1 ↔
          seen.count (e :: es)[i.succ].specifier +
            (((e :: es).take i.succ).map External.specifier).count (e :: es)[i.succ].specifier = 1 := by
      simp only [Fin.getElem_fin, Fin.val_succ, List.getElem_cons_succ, List.take_succ_cons,
        List.map_cons, List.count_cons]
      rw [Nat.add_assoc, Nat.add_comm (ite ..)]
    rw [repeated, ih, picked_cons, picked_congr hrest]
    by_cases h : seen.count e.specifier = 1 <;> simp [h]

theorem count_repeated (seen : List String) (es : List External) (s : String) :
    (repeated seen es).count s =
      if seen.count s ≤ 1 ∧ 2 ≤ seen.count s + (es.map External.specifier).count s then 1 else 0 := by
  induction es generalizing seen with
  | nil =>
    rw [repeated, List.map_nil, List.count_nil, if_neg]
    omega
  | cons e es ih =>
    have hcons : (repeated seen (e :: es)).count s = (repeated (e.specifier :: seen) es).count s +
        if seen.count s = 1 ∧ e.specifier = s then 1 else 0 := by
      rw [repeated]
      by_cases hs : e.specifier = s
      · subst hs
        split <;> simp [*]
      · split <;> simp [hs]
    rw [hcons, ih, List.map_cons, List.count_cons, List.count_cons]
    by_cases hs : e.specifier = s
    · simp only [hs, BEq.rfl, if_true, and_true]
      split_ifs <;> omega
    · simp [hs]

theorem specifiers_lastEntries :
    s ∈ (lastEntries es).map External.specifier ↔ s ∈ es.map External.specifier := by
  induction es with
  | nil => rfl
  | cons e es ih =>
    rw [lastEntries_cons]
    split
    · rename_i h
      rw [ih, List.map_cons, List.mem_cons]
      exact ⟨.inr, fun hs => hs.elim (fun he => he ▸ h) id⟩
    · rw [List.map_cons, List.mem_cons, ih, List.map_cons, List.mem_cons]

theorem lastEntries_nodup (es : List External) :
    ((lastEntries es).map External.specifier).Nodup := by
  induction es with
  | nil => exact .nil
  | cons e es ih =>
    rw [lastEntries_cons]
    split
    · exact ih
    · rename_i h
      exact List.nodup_cons.mpr ⟨fun hs => h (specifiers_lastEntries.mp hs), ih⟩

theorem lastEntries_of_nodup (h : (es.map External.specifier).Nodup) : lastEntries es = es := by
  induction es with
  | nil => rfl
  | cons e es ih =>
    obtain ⟨he, hes⟩ := List.nodup_cons.mp h
    rw [lastEntries_cons, if_neg he, ih hes]

theorem repeated_of_nodup (h : (es.map External.specifier).Nodup) : repeated [] es = [] := by
  rw [List.eq_nil_iff_forall_not_mem]
  intro s hs
  have hcount := count_repeated [] es s
  have hlisted := List.nodup_iff_count_le_one.mp h s
  have hpos := List.count_pos_iff.mpr hs
  rw [List.count_nil, if_neg (by omega)] at hcount
  omega

theorem repeated_eq_seconds (es : List External) : repeated [] es = seconds es := by
  rw [repeated_eq, seconds]
  exact congrArg _ (picked_congr (fun i => by rw [List.count_nil, Nat.zero_add]; rfl))

theorem count_seconds (es : List External) (s : String) :
    (seconds es).count s = if 2 ≤ (es.map External.specifier).count s then 1 else 0 := by
  simp [← repeated_eq_seconds, count_repeated]

end Settings

end LivePreview
