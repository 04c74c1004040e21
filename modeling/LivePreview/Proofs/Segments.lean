import LivePreview.Path

namespace LivePreview

namespace Text

theorem splitAll_cons_sep (c : Char) (xs : List Char) :
    splitAll c (c :: xs) = [] :: splitAll c xs := by
  rw [splitAll, if_pos rfl]

theorem splitAll_ne_nil (c : Char) (xs : List Char) : splitAll c xs ≠ [] := by
  cases xs with
  | nil => exact nofun
  | cons x xs =>
    rw [splitAll]
    split
    · exact nofun
    · split <;> exact nofun

theorem splitAll_append (c : Char) (xs ys : List Char) :
    splitAll c (xs ++ c :: ys) = splitAll c xs ++ splitAll c ys := by
  induction xs with
  | nil => exact splitAll_cons_sep c ys
  | cons x xs ih =>
    rw [List.cons_append, splitAll, splitAll]
    by_cases hx : x = c
    · rw [if_pos hx, if_pos hx, ih, List.cons_append]
    · rw [if_neg hx, if_neg hx, ih]
      cases hs : splitAll c xs with
      | nil => exact absurd hs (splitAll_ne_nil c xs)
      | cons s ss => rfl

theorem splitAll_of_not_mem {c : Char} {xs : List Char} (h : c ∉ xs) : splitAll c xs = [xs] := by
  induction xs with
  | nil => rfl
  | cons x xs ih =>
    obtain ⟨hx, hxs⟩ := not_or.mp (mt List.mem_cons.mpr h)
    rw [splitAll, if_neg (fun he => hx he.symm), ih hxs]

theorem not_mem_of_mem_splitAll {c : Char} {xs s : List Char} (h : s ∈ splitAll c xs) : c ∉ s := by
  induction xs generalizing s with
  | nil => simp_all [splitAll]
  | cons x xs ih =>
    rw [splitAll] at h
    split at h
    · rcases List.mem_cons.mp h with rfl | h
      · simp
      · exact ih h
    · rename_i hx
      split at h
      · rw [List.mem_singleton.mp h]
        simpa using fun he => hx he.symm
      · rename_i t ts hts
        rw [hts] at ih
        rcases List.mem_cons.mp h with rfl | h
        · have ht : c ∉ t := ih List.mem_cons_self
          simpa [ht] using fun he => hx he.symm
        · exact ih (List.mem_cons_of_mem t h)

theorem joinWith_cons {sep s : List Char} {ss : List (List Char)} (h : ss ≠ []) :
    joinWith sep (s :: ss) = s ++ sep ++ joinWith sep ss := by
  cases ss with
  | nil => exact absurd rfl h
  | cons t ss => rfl

theorem joinWith_splitAll (c : Char) (xs : List Char) : joinWith [c] (splitAll c xs) = xs := by
  induction xs with
  | nil => rfl
  | cons x xs ih =>
    rw [splitAll]
    split
    · rename_i hx
      rw [joinWith_cons (splitAll_ne_nil c xs), ih, hx]
      rfl
    · cases hs : splitAll c xs with
      | nil => exact absurd hs (splitAll_ne_nil c xs)
      | cons s ss =>
        rw [hs] at ih
        cases ss with
        | nil => exact congrArg (x :: ·) ih
        | cons t ss => exact congrArg (x :: ·) ih

theorem splitAll_joinWith {c : Char} {ss : List (List Char)} (hne : ss ≠ [])
    (h : ∀ s ∈ ss, c ∉ s) : splitAll c (joinWith [c] ss) = ss := by
  induction ss with
  | nil => exact absurd rfl hne
  | cons s ss ih =>
    obtain ⟨hs, hss⟩ := List.forall_mem_cons.mp h
    cases ss with
    | nil => exact splitAll_of_not_mem hs
    | cons t ss =>
      rw [joinWith_cons (by simp), List.append_assoc, List.singleton_append, splitAll_append,
        splitAll_of_not_mem hs, ih (by simp) hss]
      rfl

theorem splitLast_none {c : Char} {xs : List Char} (h : splitLast c xs = none) : c ∉ xs := by
  induction xs with
  | nil => exact List.not_mem_nil
  | cons x xs ih =>
    rw [splitLast] at h
    split at h
    · cases h
    · rename_i hrest
      split at h
      · cases h
      · rename_i hx
        exact fun hm => (List.mem_cons.mp hm).elim (fun he => hx he.symm) (ih hrest)

theorem splitLast_some {c : Char} {xs l r : List Char} (h : splitLast c xs = some (l, r)) :
    xs = l ++ c :: r ∧ c ∉ r := by
  induction xs generalizing l with
  | nil => cases h
  | cons x xs ih =>
    rw [splitLast] at h
    split at h
    · rename_i l' r' hrest
      cases h
      obtain ⟨hsplit, hr⟩ := ih hrest
      exact ⟨congrArg (List.cons x) hsplit, hr⟩
    · rename_i hrest
      split at h
      · rename_i hx
        cases h
        exact ⟨by rw [hx, List.nil_append], splitLast_none hrest⟩
      · cases h

theorem splitLast_of_not_mem {c : Char} {xs : List Char} (h : c ∉ xs) :
    splitLast c xs = none := by
  induction xs with
  | nil => rfl
  | cons x xs ih =>
    obtain ⟨hx, hxs⟩ := not_or.mp (mt List.mem_cons.mpr h)
    rw [splitLast, ih hxs]
    exact if_neg (fun he => hx he.symm)

theorem splitLast_append {c : Char} {r : List Char} (l : List Char) (h : c ∉ r) :
    splitLast c (l ++ c :: r) = some (l, r) := by
  induction l with
  | nil =>
    rw [List.nil_append, splitLast, splitLast_of_not_mem h]
    exact if_pos rfl
  | cons x l ih => rw [List.cons_append, splitLast, ih]

end Text

namespace Path

open Text

theorem lastSegment_no_slash (p : List Char) : '/' ∉ lastSegment p := by
  rw [lastSegment]
  split
  · rename_i dir name h
    exact (splitLast_some h).2
  · rename_i h
    exact splitLast_none h

theorem splitName_stem_subset (name : List Char) : (splitName name).1 ⊆ name := by
  rw [splitName]
  split
  · exact List.Subset.refl name
  · exact List.Subset.refl name
  · rename_i c cs ext h
    rw [(splitLast_some h).1]
    exact List.subset_append_left _ _

theorem fileName_no_slash (p : String) : '/' ∉ (fileName p).toList := by
  rw [fileName, String.toList_ofList]
  exact lastSegment_no_slash p.toList

theorem stem_no_slash (p : String) : '/' ∉ (stem p).toList := by
  rw [stem, String.toList_ofList]
  exact fun h => lastSegment_no_slash p.toList (splitName_stem_subset _ h)

theorem hasSeparator_iff {p : String} : hasSeparator p = true ↔ '/' ∈ p.toList := by
  rw [hasSeparator, List.contains_iff_mem]

end Path

end LivePreview
