import LivePreview.Json.Skip

namespace LivePreview.Json

section

variable {α β : Type} {s t r : List Char}

theorem bind_ok {x : Reader α} {f : α → Reader β} {b : β}
    (h : (x >>= f) s = .ok (b, r)) : ∃ a t, x s = .ok (a, t) ∧ f a t = .ok (b, r) := by
  change (x s >>= fun p => f p.1 p.2) = .ok (b, r) at h
  cases hx : x s with
  | error e =>
    rw [hx] at h
    cases h
  | ok p =>
    rw [hx] at h
    exact ⟨p.1, p.2, rfl, h⟩

theorem bind_eq {x : Reader α} {a : α} (h : x s = .ok (a, t)) (f : α → Reader β) :
    (x >>= f) s = f a t := by
  change (x s >>= fun p => f p.1 p.2) = f a t
  rw [h]
  rfl

theorem bind_congr {x y : Reader α} (h : x s = y t) (f : α → Reader β) :
    (x >>= f) s = (y >>= f) t := by
  change (x s >>= fun p => f p.1 p.2) = (y t >>= fun p => f p.1 p.2)
  rw [h]

theorem pure_ok {a b : α} (h : (pure a : Reader α) s = .ok (b, t)) : b = a ∧ t = s := by
  cases h
  exact ⟨rfl, rfl⟩

theorem dropWhile_space (s : List Char) :
    (s.dropWhile isSpace).dropWhile isSpace = s.dropWhile isSpace := by
  induction s with
  | nil => rfl
  | cons c s ih =>
    by_cases hc : isSpace c = true
    · rw [List.dropWhile_cons_of_pos hc, ih]
    · rw [List.dropWhile_cons_of_neg hc, List.dropWhile_cons_of_neg hc]

theorem skipSpace_ok {a : Option Char} (h : skipSpace s = .ok (a, t)) :
    t = s.dropWhile isSpace ∧ a = t.head? := by
  cases h
  exact ⟨rfl, rfl⟩

theorem skipSpace_some {c : Char} (h : skipSpace s = .ok (some c, t)) :
    ∃ u, t = c :: u ∧ s.dropWhile isSpace = c :: u := by
  obtain ⟨rfl, hc⟩ := skipSpace_ok h
  obtain ⟨u, hu⟩ := List.head?_eq_some_iff.mp hc.symm
  exact ⟨u, hu, hu⟩

theorem skipSpace_cons {c : Char} {u : List Char} (h : s.dropWhile isSpace = c :: u) :
    skipSpace s = .ok (some c, c :: u) := by
  rw [skipSpace, h]
  rfl

theorem peek_ok {a : Option Char} (h : peek s = .ok (a, t)) : t = s ∧ a = s.head? := by
  cases h
  exact ⟨rfl, rfl⟩

theorem peek_again {a : Option Char} (h : peek s = .ok (a, t)) : peek t = .ok (a, t) := by
  cases h
  rfl

theorem next_ok {a : Option Char} (h : next s = .ok (a, t)) : t = s.drop 1 ∧ a = s.head? := by
  cases h
  exact ⟨rfl, rfl⟩

theorem next_some {c : Char} (h : next s = .ok (some c, t)) : s = c :: t := by
  obtain ⟨rfl, hc⟩ := next_ok h
  obtain ⟨u, rfl⟩ := List.head?_eq_some_iff.mp hc.symm
  rfl

theorem drop1_ok (h : drop1 s = .ok ((), t)) : t = s.drop 1 := by
  cases h
  rfl

theorem drop1_bind (f : Unit → Reader β) (s : List Char) : (drop1 >>= f) s = f () (s.drop 1) :=
  bind_eq rfl f

end

variable {s t r : List Char} {b : Bool}

theorem listEnd_ok (h : listEnd s = .ok ((), r)) : s.dropWhile isSpace = ']' :: r := by
  rw [listEnd] at h
  obtain ⟨a, t, ha, h⟩ := bind_ok h
  split at h
  · obtain ⟨u, rfl, hu⟩ := skipSpace_some ha
    rw [hu, drop1_ok h]
    rfl
  · rw [drop1_bind] at h
    obtain ⟨b, t'', -, h⟩ := bind_ok h
    split at h <;> cases h
  · cases h
  · cases h

theorem objectEnd_ok (h : objectEnd s = .ok ((), r)) : s.dropWhile isSpace = '\x7d' :: r := by
  rw [objectEnd] at h
  obtain ⟨a, t, ha, h⟩ := bind_ok h
  split at h
  · obtain ⟨u, rfl, hu⟩ := skipSpace_some ha
    rw [hu, drop1_ok h]
    rfl
  · cases h
  · cases h
  · cases h

inductive Continues (close : Char) (first : Bool) (s : List Char) : Bool → List Char → Prop
  | close (u : List Char) (h : s.dropWhile isSpace = close :: u) :
      Continues close first s false (close :: u)
  | first (c : Char) (u : List Char) (hf : first = true) (hc : c ≠ close)
      (h : s.dropWhile isSpace = c :: u) : Continues close first s true (c :: u)
  | comma (u : List Char) (hf : first = false) (h : s.dropWhile isSpace = ',' :: u) :
      Continues close first s true (u.dropWhile isSpace)

theorem Continues.length_le {close : Char} {first : Bool} (h : Continues close first s b t) :
    t.length ≤ s.length := by
  have hle := (s.dropWhile_suffix isSpace).length_le
  cases h with
  | close u h => exact h ▸ hle
  | first c u _ _ h => exact h ▸ hle
  | comma u _ h =>
    rw [h, List.length_cons] at hle
    exact Nat.le_trans (u.dropWhile_suffix isSpace).length_le (Nat.le_of_succ_le hle)

theorem moreElements_ok {first : Bool} (h : moreElements first s = .ok (b, t)) :
    Continues ']' first s b t := by
  rw [moreElements] at h
  obtain ⟨a, t', ha, h⟩ := bind_ok h
  split at h
  · cases h
  · obtain ⟨u, rfl, hu⟩ := skipSpace_some ha
    cases h
    exact .close u hu
  · obtain ⟨u, rfl, hu⟩ := skipSpace_some ha
    split at h
    · rename_i hf
      cases h
      exact .first ',' u hf (by decide) hu
    · rename_i hf
      rw [drop1_bind] at h
      obtain ⟨a', t'', ha', h⟩ := bind_ok h
      obtain ⟨rfl, -⟩ := skipSpace_ok ha'
      split at h
      · cases h
      · cases h
        exact .comma u (Bool.eq_false_iff.mpr hf) hu
      · cases h
  · rename_i c hclose _
    obtain ⟨u, rfl, hu⟩ := skipSpace_some ha
    split at h
    · rename_i hf
      cases h
      exact .first c u hf hclose hu
    · cases h

theorem moreMembers_ok {first : Bool} (h : moreMembers first s = .ok (b, t)) :
    Continues '\x7d' first s b t ∧ (b = true → ∃ u, t = '\x22' :: u) := by
  rw [moreMembers] at h
  obtain ⟨a, t', ha, h⟩ := bind_ok h
  split at h
  · cases h
  · obtain ⟨u, rfl, hu⟩ := skipSpace_some ha
    cases h
    exact ⟨.close u hu, nofun⟩
  · obtain ⟨u, rfl, hu⟩ := skipSpace_some ha
    split at h
    · cases h
    · rename_i hf
      rw [drop1_bind] at h
      obtain ⟨a', t'', ha', h⟩ := bind_ok h
      split at h
      · obtain ⟨v, rfl, hv⟩ := skipSpace_some ha'
        cases h
        exact ⟨hv ▸ .comma u (Bool.eq_false_iff.mpr hf) hu, fun _ => ⟨v, rfl⟩⟩
      · cases h
      · cases h
      · cases h
  · obtain ⟨u, rfl, hu⟩ := skipSpace_some ha
    split at h
    · rename_i hf
      cases h
      exact ⟨.first '\x22' u hf (by decide) hu, fun _ => ⟨u, rfl⟩⟩
    · cases h
  · split at h <;> cases h

end LivePreview.Json
