import LivePreview.Proofs.Reading

namespace LivePreview.Json

variable {s t r u : List Char} {v : Json} {p : Bool} {word : Nat} {start : Int}

theorem isDigit_of_digit? {c : Char} {d : Nat} (h : digit? c = some d) : isDigit c = true := by
  rw [isDigit, h, Option.isSome_some]

theorem not_isDigit_of_digit? {c : Char} (h : digit? c = none) : ¬isDigit c = true := by
  rw [isDigit, h]
  exact nofun

theorem wordDigits_rest (n count : Nat) (s : List Char) :
    (wordDigits n count s).2.2.dropWhile isDigit = s.dropWhile isDigit := by
  induction s generalizing n count with
  | nil => rfl
  | cons c s ih =>
    rw [wordDigits]
    split
    · rename_i d hd
      split
      · rw [ih, List.dropWhile_cons_of_pos (isDigit_of_digit? hd)]
      · rfl
    · rfl

theorem exponentDigits_some {e e' : Nat} {x : List Char}
    (h : exponentDigits e s = (some (e', r), x)) : r = s.dropWhile isDigit := by
  induction s generalizing e with
  | nil =>
    cases h
    rfl
  | cons c s ih =>
    rw [exponentDigits] at h
    split at h
    · rename_i d hd
      split at h
      · rw [List.dropWhile_cons_of_pos (isDigit_of_digit? hd), ih h]
      · cases h
    · rename_i hd
      cases h
      rw [List.dropWhile_cons_of_neg (not_isDigit_of_digit? hd)]

theorem exponentDigits_none {e : Nat} (h : exponentDigits e s = (none, r)) :
    r.dropWhile isDigit = s.dropWhile isDigit := by
  induction s generalizing e with
  | nil => cases h
  | cons c s ih =>
    rw [exponentDigits] at h
    split at h
    · rename_i d hd
      rw [List.dropWhile_cons_of_pos (isDigit_of_digit? hd)]
      split at h
      · exact ih h
      · cases h
        rfl
    · cases h

theorem floatValue_rest {e : Int} (h : floatValue p word e s = .ok (v, r)) : r = s := by
  rw [floatValue] at h
  cases hx : scaled p word e with
  | none =>
    rw [hx] at h
    cases h
  | some x =>
    rw [hx] at h
    cases h
    rfl

theorem skipSign_of_sign {down : Bool} (h : sign s = .ok (down, r)) : skipSign s = .ok ((), r) := by
  rw [sign] at h
  obtain ⟨a, t, ha, h⟩ := bind_ok h
  split at h
  · obtain ⟨_, t', hdrop, h⟩ := bind_ok h
    cases h
    rw [skipSign, bind_eq ha]
    exact hdrop
  · obtain ⟨_, t', hdrop, h⟩ := bind_ok h
    cases h
    rw [skipSign, bind_eq ha]
    exact hdrop
  · cases h
    rw [skipSign, bind_eq ha]
    split
    · contradiction
    · contradiction
    · rfl

theorem magnitude_digits {down : Bool} (h : magnitude p word start down s = .ok (v, r)) :
    ∃ c u, s = c :: u ∧ isDigit c = true ∧ r = u.dropWhile isDigit := by
  rw [magnitude] at h
  obtain ⟨a, t, ha, h⟩ := bind_ok h
  split at h
  · cases h
  · rename_i c
    cases hd : digit? c with
    | none =>
      rw [hd] at h
      cases h
    | some d =>
      refine ⟨c, t, next_some ha, isDigit_of_digit? hd, ?_⟩
      rw [hd] at h
      cases he : exponentDigits d t with
      | mk found x =>
        dsimp only at h
        rw [he] at h
        cases found with
        | some er => rw [floatValue_rest h, exponentDigits_some he]
        | none =>
          dsimp only at h
          split at h
          · cases h
          · cases h
            exact exponentDigits_none he

theorem skipExponent_of_exponent (h : exponent p word start s = .ok (v, r)) :
    skipExponent s = .ok ((), r) := by
  rw [exponent, drop1_bind] at h
  obtain ⟨down, t, hsign, h⟩ := bind_ok h
  obtain ⟨c, u, rfl, hc, rfl⟩ := magnitude_digits h
  rw [skipExponent, drop1_bind, bind_eq (skipSign_of_sign hsign), bind_eq (a := some c) (t := u) rfl]
  dsimp only
  rw [if_pos hc]
  rfl

theorem wordDigits_of_not_digit {n count : Nat} (h : (s.head?.map isDigit).getD false = false) :
    wordDigits n count s = (n, count, s) := by
  cases s with
  | nil => rfl
  | cons c s =>
    have hc : digit? c = none := Option.isSome_eq_false_iff.mp h |> Option.isNone_iff_eq_none.mp
    rw [wordDigits, hc]

theorem dropWhile_of_not_digit (h : (s.head?.map isDigit).getD false = false) :
    s.dropWhile isDigit = s := by
  cases s with
  | nil => rfl
  | cons c s => exact List.dropWhile_cons_of_neg (Bool.eq_false_iff.mp h)

theorem wordDigits_dropped (n count : Nat) (s : List Char) :
    (if ((wordDigits n count s).2.2.head?.map isDigit).getD false = true
      then (wordDigits n count s).2.2.dropWhile isDigit
      else (wordDigits n count s).2.2) = s.dropWhile isDigit := by
  split
  · exact wordDigits_rest n count s
  · rename_i hfull
    rw [← wordDigits_rest n count s, dropWhile_of_not_digit (Bool.eq_false_iff.mpr hfull)]

theorem skipScale_stay {a : Option Char} (ha : peek s = .ok (a, t)) (he : a ≠ some 'e')
    (hE : a ≠ some 'E') : skipScale s = .ok ((), t) := by
  rw [skipScale, bind_eq ha]
  split
  · contradiction
  · contradiction
  · rfl

theorem skipScale_of_exponent {k : Reader Json} (hk : ∀ s, k s = .ok (v, r) → r = s)
    (h : (do
      match ← peek with
      | some 'e' | some 'E' => exponent p word start
      | _ => k : Reader Json) s = .ok (v, r)) :
    skipScale s = .ok ((), r) := by
  obtain ⟨a, t, ha, h⟩ := bind_ok h
  split at h
  · rw [skipScale, bind_eq ha]
    exact skipExponent_of_exponent h
  · rw [skipScale, bind_eq ha]
    exact skipExponent_of_exponent h
  · rename_i he hE
    rw [hk t h]
    exact skipScale_stay ha he hE

theorem skipFraction_of_digit (h : ((s.drop 1).head?.map isDigit).getD false = true) :
    skipFraction s = .ok ((), (s.drop 1).dropWhile isDigit) := by
  rw [skipFraction, drop1_bind]
  cases hu : s.drop 1 with
  | nil =>
    rw [hu] at h
    cases h
  | cons c u =>
    rw [hu] at h
    rw [bind_eq (a := some c) (t := c :: u) rfl]
    exact congrFun (if_pos h) (c :: u)

theorem skipFraction_of_fraction (h : fraction p word start s = .ok (v, r)) :
    (skipFraction >>= fun _ => skipScale) s = .ok ((), r) := by
  rw [fraction, drop1_bind] at h
  obtain ⟨⟨n, count, full⟩, t, hread, h⟩ := bind_ok h
  obtain ⟨⟨rfl, rfl, rfl⟩, rfl⟩ := hread
  rw [wordDigits_dropped] at h
  dsimp only at h
  split at h
  · obtain ⟨a, t, ha, h⟩ := bind_ok h
    split at h <;> cases h
  · rename_i hread
    have hdigit : ((s.drop 1).head?.map isDigit).getD false = true := by
      rw [← Bool.not_eq_false]
      intro hnot
      rw [wordDigits_of_not_digit hnot] at hread
      exact hread ⟨rfl, hnot⟩
    rw [bind_eq (skipFraction_of_digit hdigit)]
    exact skipScale_of_exponent (fun s => floatValue_rest) h

theorem skipParts_of_parts {k : Reader Json} (hk : ∀ s, k s = .ok (v, r) → r = s)
    (h : (do
      match ← peek with
      | some '.' => fraction p word start
      | some 'e' | some 'E' => exponent p word start
      | _ => k : Reader Json) s = .ok (v, r)) :
    skipParts s = .ok ((), r) := by
  obtain ⟨a, t, ha, h⟩ := bind_ok h
  split at h
  · rw [skipParts, bind_eq ha]
    exact skipFraction_of_fraction h
  · have hscale : skipParts s = skipScale t := bind_eq ha _
    rw [hscale, skipScale, bind_eq (peek_again ha)]
    exact skipExponent_of_exponent h
  · have hscale : skipParts s = skipScale t := bind_eq ha _
    rw [hscale, skipScale, bind_eq (peek_again ha)]
    exact skipExponent_of_exponent h
  · rename_i hpoint he hE
    rw [hk t h, skipParts, bind_eq ha]
    split
    · contradiction
    · exact skipScale_stay (peek_again ha) he hE

theorem skipWhole_zero {b : Option Char} (hb : b = t.head?)
    (h : b.map isDigit ≠ some true) : skipWhole ('0' :: t) = .ok ((), t) := by
  cases t with
  | nil => rfl
  | cons c t =>
    subst hb
    exact congrFun (if_neg (fun hc => h (congrArg some hc))) (c :: t)

theorem skipWhole_digit {c : Char} (h : c ≠ '0') (hc : isDigit c = true) :
    skipWhole (c :: t) = .ok ((), t.dropWhile isDigit) := by
  rw [skipWhole, bind_eq (a := some c) (t := t) rfl]
  simp only [hc, if_true]
  rfl

theorem skipNumber_of_number (h : number p s = .ok (v, r)) : skipNumber s = .ok ((), r) := by
  rw [number] at h
  rw [skipNumber]
  obtain ⟨a, t, ha, h⟩ := bind_ok h
  split at h
  · cases h
  · obtain ⟨b, t', hb, hrest⟩ := bind_ok h
    obtain ⟨rfl, hb⟩ := peek_ok hb
    rw [next_some ha]
    split at hrest
    · split at hrest
      · cases hrest
      · rename_i hc
        rw [bind_eq (skipWhole_zero hb fun hd => hc (Option.some.inj hd))]
        exact skipParts_of_parts (fun s h => (pure_ok h).2) hrest
    · rw [bind_eq (skipWhole_zero hb nofun)]
      exact skipParts_of_parts (fun s h => (pure_ok h).2) hrest
  · rename_i c hzero
    rw [next_some ha]
    cases hd : digit? c with
    | none =>
      rw [hd] at h
      cases h
    | some d =>
      rw [hd] at h
      rw [bind_eq (skipWhole_digit hzero (isDigit_of_digit? hd)), ← wordDigits_dropped d 0 t]
      obtain ⟨⟨n, full⟩, t', hread, h⟩ := bind_ok h
      obtain ⟨⟨rfl, rfl⟩, rfl⟩ := hread
      dsimp only at h
      split at h
      · rename_i hfull
        rw [if_pos hfull]
        exact skipParts_of_parts (fun s => floatValue_rest) h
      · rename_i hfull
        rw [if_neg hfull]
        exact skipParts_of_parts (fun s h => (pure_ok h).2) h

theorem short_ne_ok {x : Nat × List Char} : hex4.short s ≠ .ok x := by
  rw [hex4.short]
  split <;> exact nofun

theorem hex4_ok {n : Nat} (h : hex4 s = .ok (n, r)) : r.length + 4 = s.length := by
  unfold hex4 at h
  split at h
  · split at h
    · cases h
      rfl
    · exact absurd h short_ne_ok
  · exact absurd h short_ne_ok

theorem expectEscape_ok {c : Char} (h : expectEscape c s = .ok ((), r)) : s = c :: r := by
  rw [expectEscape] at h
  obtain ⟨a, t, ha, h⟩ := bind_ok h
  split at h
  · cases h
  · split at h
    · rename_i hd
      cases h
      rw [next_some ha, hd]
    · cases h

theorem skipStringTail_escape {fuel : Nat} (h : skipEscape s = .ok ((), t)) :
    skipStringTail (fuel + 1) ('\\' :: s) = skipStringTail fuel t := by
  have hstep : skipStringTail (fuel + 1) ('\\' :: s) =
    (skipEscape >>= fun _ => skipStringTail fuel) s := rfl
  rw [hstep, bind_eq h]

theorem skipEscape_unicode {n : Nat} (h : hex4 s = .ok (n, t)) :
    skipEscape ('u' :: s) = .ok ((), t) := by
  have hstep : skipEscape ('u' :: s) = (hex4 >>= fun _ => pure ()) s := rfl
  rw [hstep, bind_eq h]
  rfl

theorem skipEscape_simple {c d : Char} (h : simpleEscape? c = some d) (hu : c ≠ 'u') :
    skipEscape (c :: s) = .ok ((), s) := by
  rw [skipEscape, bind_eq (a := some c) (t := s) rfl]
  simp only [h, Option.isSome_some, if_true]
  rfl

theorem skipStringTail_plain {fuel : Nat} {c : Char} (hquote : c ≠ '\x22') (hback : c ≠ '\\')
    (hc : ¬c.toNat < 32) :
    skipStringTail (fuel + 1) (c :: s) = skipStringTail fuel s := by
  rw [skipStringTail, bind_eq (a := some c) (t := c :: s) rfl]
  simp only [hc, if_false]
  rfl

theorem skipStringTail_of_unicode {c : Char} (h : unicodeEscape s = .ok (c, t)) {fuel : Nat}
    (hf : s.length < fuel) : ∃ fuel', t.length < fuel' ∧
      skipStringTail (fuel + 1) ('\\' :: 'u' :: s) = skipStringTail fuel' t := by
  rw [unicodeEscape] at h
  obtain ⟨n, u, hn, h⟩ := bind_ok h
  have hlength := hex4_ok hn
  split at h
  · cases h
  · split at h
    · obtain ⟨⟨⟩, u₁, hback, h⟩ := bind_ok h
      obtain ⟨⟨⟩, u₂, hletter, h⟩ := bind_ok h
      obtain ⟨low, u₃, hlow, h⟩ := bind_ok h
      split at h
      · obtain ⟨-, rfl⟩ := pure_ok h
        have hpair : u = '\\' :: 'u' :: u₂ := by
          rw [expectEscape_ok hback, expectEscape_ok hletter]
        have hrest := hex4_ok hlow
        rw [hpair, List.length_cons, List.length_cons] at hlength
        obtain ⟨fuel', rfl⟩ := Nat.exists_eq_add_one.mpr (Nat.zero_lt_of_lt hf)
        refine ⟨fuel', by omega, ?_⟩
        rw [skipStringTail_escape (skipEscape_unicode hn), hpair,
          skipStringTail_escape (skipEscape_unicode hlow)]
      · cases h
    · obtain ⟨-, rfl⟩ := pure_ok h
      exact ⟨fuel, by omega, skipStringTail_escape (skipEscape_unicode hn)⟩

theorem skipStringTail_of_escape {c : Char} (h : escape s = .ok (c, t)) {fuel : Nat}
    (hf : s.length < fuel) : ∃ fuel', t.length < fuel' ∧
      skipStringTail (fuel + 1) ('\\' :: s) = skipStringTail fuel' t := by
  rw [escape] at h
  obtain ⟨a, u, ha, h⟩ := bind_ok h
  split at h
  · cases h
  · rw [next_some ha] at hf ⊢
    exact skipStringTail_of_unicode h (Nat.lt_of_succ_lt hf)
  · rename_i c' hletter
    cases hd : simpleEscape? c' with
    | none =>
      rw [hd] at h
      cases h
    | some d =>
      rw [hd] at h
      obtain ⟨-, rfl⟩ := pure_ok h
      rw [next_some ha] at hf ⊢
      exact ⟨fuel, Nat.lt_of_succ_lt hf, skipStringTail_escape (skipEscape_simple hd hletter)⟩

theorem skipStringTail_of_stringTail {fuel : Nat} {seen : List Char} {x : String}
    (h : stringTail fuel seen s = .ok (x, r)) {limit : Nat} (hl : s.length < limit) :
    skipStringTail limit s = .ok ((), r) := by
  induction fuel generalizing seen s limit with
  | zero => cases h
  | succ fuel ih =>
    rw [stringTail] at h
    obtain ⟨limit, rfl⟩ := Nat.exists_eq_add_one.mpr (Nat.zero_lt_of_lt hl)
    obtain ⟨a, t, ha, h⟩ := bind_ok h
    split at h
    · cases h
    · cases h
      rw [next_some ha]
      rfl
    · obtain ⟨c, u, hc, h⟩ := bind_ok h
      rw [next_some ha] at hl ⊢
      obtain ⟨limit', hlimit, hskip⟩ := skipStringTail_of_escape hc (Nat.lt_of_succ_lt_succ hl)
      rw [hskip]
      exact ih h hlimit
    · rename_i c hquote hback
      split at h
      · cases h
      · rename_i hc
        rw [next_some ha] at hl ⊢
        rw [skipStringTail_plain hquote hback hc]
        exact ih h (Nat.lt_of_succ_lt_succ hl)

theorem skipString_of_string {x : String} (h : string s = .ok (x, r)) : skipString s = .ok ((), r) :=
  skipStringTail_of_stringTail h (Nat.lt_succ_self _)

end LivePreview.Json
