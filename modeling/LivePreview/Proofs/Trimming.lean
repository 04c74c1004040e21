import Mathlib.Data.List.DropRight
import LivePreview.Text.Segments

namespace LivePreview.Text

section

variable {p : Char → Bool} {c : Char} {s t : List Char}

theorem dropEndWhile_cons (c : Char) (s : List Char) : dropEndWhile p (c :: s) =
    if dropEndWhile p s = [] then if p c then [] else [c] else c :: dropEndWhile p s := by
  rw [dropEndWhile]
  cases dropEndWhile p s with
  | nil => rw [if_pos rfl]
  | cons d ds => rw [if_neg (List.cons_ne_nil d ds)]

theorem dropEndWhile_eq (s : List Char) : dropEndWhile p s = s.rdropWhile p := by
  have hconcat (c : Char) (s : List Char) :
      dropEndWhile p (s ++ [c]) = if p c then dropEndWhile p s else s ++ [c] := by
    induction s with
    | nil => rw [List.nil_append, dropEndWhile_cons]; simp [dropEndWhile]
    | cons d s ih =>
      rw [List.cons_append, dropEndWhile_cons, ih, dropEndWhile_cons]
      by_cases hc : p c = true <;> simp [hc]
  induction s using List.reverseRecOn with
  | nil => rfl
  | append_singleton s c ih => rw [hconcat, ih, List.rdropWhile_concat]

theorem dropEndWhile_append (h : ∀ c ∈ s, p c = false) :
    dropEndWhile p (s ++ t) = s ++ dropEndWhile p t := by
  induction s with
  | nil => rfl
  | cons c s ih =>
    obtain ⟨hc, hs⟩ := List.forall_mem_cons.mp h
    rw [List.cons_append, dropEndWhile_cons, ih hs, List.cons_append]
    by_cases he : s ++ dropEndWhile p t = []
    · rw [if_pos he, he, hc]
      rfl
    · rw [if_neg he]

theorem head?_dropWhile (h : c ∈ (s.dropWhile p).head?) : p c = false := by
  have hnot := List.head?_dropWhile_not p s
  rw [Option.mem_def.mp h] at hnot
  exact hnot

theorem dropWhile_eq_self (h : ∀ c ∈ s.head?, p c = false) : s.dropWhile p = s := by
  cases s with
  | nil => rfl
  | cons c s => exact List.dropWhile_cons_of_neg (by simp [h c rfl])

theorem head?_of_front (hs : s <+: t) (h : c ∈ s.head?) : c ∈ t.head? := by
  obtain ⟨u, rfl⟩ := hs
  exact List.mem_head?_append_of_mem_head? h

theorem trimBoth_front (h : c ∈ (trimBoth p s).head?) : p c = false := by
  rw [trimBoth, dropEndWhile_eq] at h
  exact head?_dropWhile (head?_of_front (List.rdropWhile_prefix p _) h)

theorem trimBoth_back (h : c ∈ (trimBoth p s).getLast?) : p c = false := by
  rw [trimBoth, dropEndWhile_eq] at h
  obtain ⟨hne, rfl⟩ := List.mem_getLast?_eq_getLast h
  exact (Bool.not_eq_true _).mp (List.rdropWhile_last_not p _ hne)

theorem trimBoth_eq_self (hfront : ∀ c ∈ s.head?, p c = false)
    (hback : ∀ c ∈ s.getLast?, p c = false) : trimBoth p s = s := by
  rw [trimBoth, dropWhile_eq_self hfront, dropEndWhile_eq, List.rdropWhile_eq_self_iff]
  intro hne
  rw [hback _ (List.getLast_mem_getLast? hne)]
  exact nofun

theorem trimBoth_split (p : Char → Bool) (s : List Char) : ∃ front back,
    s = front ++ (trimBoth p s ++ back) ∧ (∀ c ∈ front, p c = true) ∧ ∀ c ∈ back, p c = true := by
  refine ⟨s.takeWhile p, (s.dropWhile p).rtakeWhile p, ?_, fun c hc => List.mem_takeWhile_imp hc,
    fun c hc => List.mem_rtakeWhile_imp hc⟩
  rw [trimBoth, dropEndWhile_eq, List.rdropWhile_append_rtakeWhile, List.takeWhile_append_dropWhile]

theorem trimBoth_eq_nil_iff : trimBoth p s = [] ↔ ∀ c ∈ s, p c = true := by
  constructor
  · intro h
    obtain ⟨front, back, hs, hfront, hback⟩ := trimBoth_split p s
    rw [h, List.nil_append] at hs
    rw [hs]
    exact List.forall_mem_append.mpr ⟨hfront, hback⟩
  · intro h
    rw [trimBoth, dropEndWhile_eq, List.rdropWhile_eq_nil_iff]
    exact fun c hc => h c ((List.dropWhile_suffix p).subset hc)

theorem trimBoth_cons_pos (h : p c = true) : trimBoth p (c :: s) = trimBoth p s := by
  rw [trimBoth, List.dropWhile_cons_of_pos h, ← trimBoth]

theorem length_trimBoth_le (p : Char → Bool) (s : List Char) :
    (trimBoth p s).length ≤ s.length := by
  obtain ⟨front, back, hs, -⟩ := trimBoth_split p s
  have hlength := congrArg List.length hs
  simp only [List.length_append] at hlength
  omega

end

end LivePreview.Text
