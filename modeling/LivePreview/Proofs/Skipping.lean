import LivePreview.Proofs.Scalars

namespace LivePreview.Json

section

variable {α β : Type} {s t u r : List Char}

def Reader.Shrinks (x : Reader α) : Prop :=
  ∀ s a t, x s = .ok (a, t) → t.length ≤ s.length

namespace Reader.Shrinks

theorem bind {x : Reader α} {f : α → Reader β} (hx : Shrinks x) (hf : ∀ a, Shrinks (f a)) :
    Shrinks (x >>= f) := by
  intro s b r h
  obtain ⟨a, t, ha, hb⟩ := bind_ok h
  exact Nat.le_trans (hf a t b r hb) (hx s a t ha)

theorem pure (a : α) : Shrinks (pure a : Reader α) := by
  intro s b t h
  exact Nat.le_of_eq (congrArg List.length (pure_ok h).2)

theorem fail (f : Fault) : Shrinks (Json.fail f : Reader α) :=
  fun _ _ _ h => by cases h

theorem failNext (f : Fault) : Shrinks (Json.failNext f : Reader α) :=
  fun _ _ _ h => by cases h

theorem drop1 : Shrinks Json.drop1 := by
  intro s _ t h
  rw [drop1_ok h]
  exact (s.drop_sublist 1).length_le

theorem next : Shrinks Json.next := by
  intro s a t h
  rw [(next_ok h).1]
  exact (s.drop_sublist 1).length_le

theorem peek : Shrinks Json.peek := by
  intro s a t h
  exact Nat.le_of_eq (congrArg List.length (peek_ok h).1)

theorem skipSpace : Shrinks Json.skipSpace := by
  intro s a t h
  rw [(skipSpace_ok h).1]
  exact (s.dropWhile_suffix _).length_le

theorem keyword (cs : List Char) : Shrinks (Json.keyword cs) := by
  induction cs with
  | nil => exact .pure ()
  | cons c cs ih =>
    rw [Json.keyword]
    refine .bind .next fun a => ?_
    split
    · exact .fail _
    · split
      · exact ih
      · exact .fail _

theorem skipDigits : Shrinks Json.skipDigits := by
  intro s a t h
  cases h
  exact (s.dropWhile_suffix _).length_le

theorem skipSign : Shrinks Json.skipSign := by
  rw [Json.skipSign]
  refine .bind .peek fun a => ?_
  split
  · exact .drop1
  · exact .drop1
  · exact .pure ()

theorem skipExponent : Shrinks Json.skipExponent := by
  rw [Json.skipExponent]
  refine .bind .drop1 fun _ => .bind .skipSign fun _ => .bind .next fun a => ?_
  split
  · split
    · exact .skipDigits
    · exact .fail _
  · exact .fail _

theorem skipFraction : Shrinks Json.skipFraction := by
  rw [Json.skipFraction]
  refine .bind .drop1 fun _ => .bind .peek fun a => ?_
  split
  · split
    · exact .skipDigits
    · exact .failNext _
  · exact .failNext _

theorem skipScale : Shrinks Json.skipScale := by
  rw [Json.skipScale]
  refine .bind .peek fun a => ?_
  split
  · exact .skipExponent
  · exact .skipExponent
  · exact .pure ()

theorem skipParts : Shrinks Json.skipParts := by
  rw [Json.skipParts]
  refine .bind .peek fun a => ?_
  split
  · exact .bind .skipFraction fun _ => .skipScale
  · exact .skipScale

theorem hex4 : Shrinks Json.hex4 := by
  intro s n t h
  have hlength := hex4_ok h
  omega

theorem skipEscape : Shrinks Json.skipEscape := by
  rw [Json.skipEscape]
  refine .bind .next fun a => ?_
  split
  · exact .fail _
  · exact .bind .hex4 fun _ => .pure ()
  · split
    · exact .pure ()
    · exact .fail _

theorem skipStringTail (fuel : Nat) : Shrinks (Json.skipStringTail fuel) := by
  induction fuel with
  | zero => exact .fail _
  | succ fuel ih =>
    rw [Json.skipStringTail]
    refine .bind .peek fun a => ?_
    split
    · exact .fail _
    · exact .drop1
    · exact .bind .drop1 fun _ => .bind .skipEscape fun _ => ih
    · split
      · exact .fail _
      · exact .bind .drop1 fun _ => ih

theorem skipString : Shrinks Json.skipString :=
  fun s => skipStringTail (s.length + 1) s

theorem colon : Shrinks Json.colon := by
  rw [Json.colon]
  refine .bind .skipSpace fun a => ?_
  split
  · exact .drop1
  · exact .failNext _
  · exact .failNext _

theorem skipKey : Shrinks Json.skipKey := by
  have hrest : Shrinks (Json.skipString >>= fun _ => Json.colon) :=
    .bind .skipString fun _ => .colon
  rw [Json.skipKey]
  refine .bind .skipSpace fun a => ?_
  dsimp only
  split
  · exact .bind .drop1 fun _ => hrest
  · exact .bind (.failNext _) fun _ => hrest
  · exact .bind (.failNext _) fun _ => hrest

end Reader.Shrinks

end

open Reader (Shrinks)

section

variable {s t u r : List Char}

theorem skipNumber_shorter (h : skipNumber s = .ok ((), r)) : r.length < s.length := by
  rw [skipNumber] at h
  obtain ⟨⟨⟩, t, hwhole, h⟩ := bind_ok h
  refine Nat.lt_of_le_of_lt (Shrinks.skipParts t () r h) ?_
  rw [skipWhole] at hwhole
  obtain ⟨a, u, ha, hwhole⟩ := bind_ok hwhole
  split at hwhole
  · rw [next_some ha]
    obtain ⟨b, u', hb, hwhole⟩ := bind_ok hwhole
    refine Nat.lt_succ_of_le (Nat.le_trans ?_ (Shrinks.peek u b u' hb))
    split at hwhole
    · split at hwhole
      · cases hwhole
      · exact Shrinks.pure () u' () t hwhole
    · exact Shrinks.pure () u' () t hwhole
  · rw [next_some ha]
    split at hwhole
    · exact Nat.lt_succ_of_le (Shrinks.skipDigits u () t hwhole)
    · cases hwhole
  · cases hwhole

theorem Reader.Shrinks.skipNumber : Shrinks Json.skipNumber :=
  fun _ _ _ h => Nat.le_of_lt (skipNumber_shorter h)

theorem shorter_of_space {c : Char} (h : s.dropWhile isSpace = c :: u) : u.length < s.length := by
  have hle := (s.dropWhile_suffix isSpace).length_le
  rw [h] at hle
  exact hle

theorem skipAtom_shorter {a : Option Bracket} (h : skipAtom s = .ok (a, r)) :
    r.length < s.length := by
  rw [skipAtom] at h
  obtain ⟨c, t, hc, h⟩ := bind_ok h
  have hdrop : ∀ {x : Reader (Option Bracket)} {c : Char}, skipSpace s = .ok (some c, t) →
      Shrinks x → (drop1 >>= fun _ => x) t = .ok (a, r) → r.length < s.length := by
    intro x c hc hx hrest
    obtain ⟨u, rfl, hu⟩ := skipSpace_some hc
    rw [drop1_bind] at hrest
    exact Nat.lt_of_le_of_lt (hx u a r hrest) (shorter_of_space hu)
  split at h
  · cases h
  · exact hdrop hc (.bind (.keyword _) fun _ => .pure none) h
  · exact hdrop hc (.bind (.keyword _) fun _ => .pure none) h
  · exact hdrop hc (.bind (.keyword _) fun _ => .pure none) h
  · exact hdrop hc (.bind .skipNumber fun _ => .pure none) h
  · exact hdrop hc (.bind .skipString fun _ => .pure none) h
  · exact hdrop hc (.pure _) h
  · exact hdrop hc (.pure _) h
  · split at h
    · obtain ⟨⟨⟩, t', hnumber, h⟩ := bind_ok h
      rw [(pure_ok h).2]
      exact Nat.lt_of_lt_of_le (skipNumber_shorter hnumber) (Shrinks.skipSpace s _ t hc)
    · cases h

end

inductive Part where
  | value
  | elements (first : Bool)
  | members (first : Bool)

/-- How a value, or the rest of an array or an object up to behind its bracket, is passed over. -/
inductive Skips : Part → List Char → List Char → Prop
  | atom {s r : List Char} (h : skipAtom s = .ok (none, r)) : Skips .value s r
  | array {s t r : List Char} (h : skipAtom s = .ok (some .square, t))
      (hs : Skips (.elements true) t r) : Skips .value s r
  | object {s t r : List Char} (h : skipAtom s = .ok (some .curly, t))
      (hs : Skips (.members true) t r) : Skips .value s r
  | lastElement {first : Bool} {s r : List Char} (h : s.dropWhile isSpace = ']' :: r) :
      Skips (.elements first) s r
  | element {first : Bool} {s t u r : List Char} (h : Continues ']' first s true t)
      (hv : Skips .value t u) (hs : Skips (.elements false) u r) : Skips (.elements first) s r
  | lastMember {first : Bool} {s r : List Char} (h : s.dropWhile isSpace = '\x7d' :: r) :
      Skips (.members first) s r
  | member {first : Bool} {s t u w r : List Char} (h : Continues '\x7d' first s true t)
      (hk : skipKey t = .ok ((), u)) (hv : Skips .value u w) (hs : Skips (.members false) w r) :
      Skips (.members first) s r

def Bracket.close : Bracket → Char
  | .square => ']'
  | .curly => '\x7d'

section

variable {s t u r : List Char} {comma : Bool} {opened : List Bracket} {b : Bracket} {fuel fuel' : Nat}

theorem skipClosers_fuel (hf : s.length < fuel) (hf' : s.length < fuel') :
    skipClosers fuel comma opened s = skipClosers fuel' comma opened s := by
  induction fuel generalizing fuel' s comma opened with
  | zero => cases hf
  | succ fuel ih =>
    obtain ⟨fuel', rfl⟩ := Nat.exists_eq_add_one.mpr (Nat.zero_lt_of_lt hf')
    cases opened with
    | nil => rfl
    | cons b bs =>
      obtain ⟨a, t, hs⟩ : ∃ a t, skipSpace s = .ok (a, t) := ⟨_, _, rfl⟩
      have hclose : ∀ c, a = some c → (drop1 >>= fun _ => skipClosers fuel true bs) t =
          (drop1 >>= fun _ => skipClosers fuel' true bs) t := by
        rintro c rfl
        obtain ⟨u, rfl, hu⟩ := skipSpace_some hs
        have hshorter := shorter_of_space hu
        rw [drop1_bind, drop1_bind]
        exact ih (by rw [List.drop_one, List.tail_cons]; omega)
          (by rw [List.drop_one, List.tail_cons]; omega)
      rw [skipClosers, skipClosers, bind_eq hs, bind_eq hs]
      split
      · rfl
      · split
        · exact hclose ']' rfl
        · rfl
      · split
        · exact hclose '\x7d' rfl
        · rfl
      · rfl
      · rfl

theorem skipClosers_close (h : s.dropWhile isSpace = b.close :: r) :
    skipClosers (fuel + 1) comma (b :: opened) s = skipClosers fuel true opened r := by
  rw [skipClosers, bind_eq (skipSpace_cons h)]
  cases b <;> rfl

theorem skipClosers_comma (h : s.dropWhile isSpace = ',' :: u) :
    skipClosers (fuel + 1) true (b :: opened) s = .ok (b :: opened, u) := by
  rw [skipClosers, bind_eq (skipSpace_cons h)]
  rfl

theorem skipClosers_item {c : Char} (h : s.dropWhile isSpace = c :: u) (hc : c ≠ b.close) :
    skipClosers (fuel + 1) false (b :: opened) s = .ok (b :: opened, c :: u) := by
  obtain ⟨a, ha, hs⟩ : ∃ a, a = some c ∧ skipSpace s = .ok (a, c :: u) :=
    ⟨some c, rfl, skipSpace_cons h⟩
  rw [skipClosers, bind_eq hs]
  split
  · rfl
  · split
    · rename_i hb
      obtain rfl := Option.some.inj ha
      exact absurd (hb ▸ rfl) hc
    · rfl
  · split
    · rename_i hb
      obtain rfl := Option.some.inj ha
      exact absurd (hb ▸ rfl) hc
    · rfl
  · rfl
  · cases ha

def enter (fuel : Nat) : List Bracket → Reader Unit
  | [] => pure ()
  | .curly :: bs => do skipKey; skipLoop fuel (.curly :: bs)
  | .square :: bs => skipLoop fuel (.square :: bs)

def resume (fuel : Nat) (comma : Bool) (opened : List Bracket) : Reader Unit := do
  let next ← fun s => skipClosers (s.length + 1) comma opened s
  enter fuel next

theorem skipLoop_atom (h : skipAtom s = .ok (none, t)) :
    skipLoop (fuel + 1) opened s = resume fuel true opened t := by
  rw [skipLoop, bind_eq h]
  rfl

theorem skipLoop_bracket (h : skipAtom s = .ok (some b, t)) :
    skipLoop (fuel + 1) opened s = resume fuel false (b :: opened) t := by
  rw [skipLoop, bind_eq h]
  rfl

theorem resume_close (h : s.dropWhile isSpace = b.close :: r) :
    resume fuel comma (b :: opened) s = resume fuel true opened r := by
  refine bind_congr ?_ (enter fuel)
  rw [skipClosers_close h]
  exact skipClosers_fuel (shorter_of_space h) (Nat.lt_succ_self _)

theorem resume_comma (h : s.dropWhile isSpace = ',' :: u) :
    resume fuel true (b :: opened) s = enter fuel (b :: opened) u :=
  bind_eq (skipClosers_comma h) (enter fuel)

theorem resume_item {c : Char} (h : s.dropWhile isSpace = c :: u) (hc : c ≠ b.close) :
    resume fuel false (b :: opened) s = enter fuel (b :: opened) (c :: u) :=
  bind_eq (skipClosers_item h hc) (enter fuel)

theorem skipSpace_again (s : List Char) : skipSpace s = skipSpace (s.dropWhile isSpace) := by
  rw [skipSpace, skipSpace, dropWhile_space]

theorem enter_space (fuel : Nat) (b : Bracket) (opened : List Bracket) (s : List Char) :
    enter (fuel + 1) (b :: opened) s = enter (fuel + 1) (b :: opened) (s.dropWhile isSpace) := by
  cases b with
  | square =>
    refine bind_congr ?_ _
    exact bind_congr (skipSpace_again s) _
  | curly =>
    refine bind_congr ?_ _
    exact bind_congr (skipSpace_again s) _

theorem resume_continues {first : Bool} (h : Continues b.close first s true t) :
    resume (fuel + 1) (!first) (b :: opened) s = enter (fuel + 1) (b :: opened) t := by
  cases h with
  | first c u hf hc h =>
    rw [hf]
    exact resume_item h hc
  | comma u hf h =>
    rw [hf, ← enter_space]
    exact resume_comma h

def Part.skip (fuel : Nat) (opened : List Bracket) : Part → Reader Unit
  | .value => skipLoop fuel opened
  | .elements first => resume fuel (!first) (.square :: opened)
  | .members first => resume fuel (!first) (.curly :: opened)

end

theorem Skips.leads {part : Part} {s r : List Char} (h : Skips part s r) (fuel : Nat)
    (opened : List Bracket) (hf : s.length < fuel) : ∃ fuel', r.length < fuel' ∧
      part.skip fuel opened s = resume fuel' true opened r := by
  -- An atom takes one unit of fuel and at least one character, so the fuel stays ahead of the text.
  induction h generalizing fuel opened with
  | atom h =>
    obtain ⟨fuel, rfl⟩ := Nat.exists_eq_add_one.mpr (Nat.zero_lt_of_lt hf)
    have hshorter := skipAtom_shorter h
    exact ⟨fuel, by omega, skipLoop_atom h⟩
  | array h _ ih =>
    obtain ⟨fuel, rfl⟩ := Nat.exists_eq_add_one.mpr (Nat.zero_lt_of_lt hf)
    have hshorter := skipAtom_shorter h
    rw [Part.skip, skipLoop_bracket h]
    exact ih fuel opened (by omega)
  | object h _ ih =>
    obtain ⟨fuel, rfl⟩ := Nat.exists_eq_add_one.mpr (Nat.zero_lt_of_lt hf)
    have hshorter := skipAtom_shorter h
    rw [Part.skip, skipLoop_bracket h]
    exact ih fuel opened (by omega)
  | lastElement h =>
    have hshorter := shorter_of_space h
    exact ⟨fuel, by omega, resume_close h⟩
  | lastMember h =>
    have hshorter := shorter_of_space h
    exact ⟨fuel, by omega, resume_close h⟩
  | @element first s t u r h _ _ ihv ihs =>
    obtain ⟨fuel, rfl⟩ := Nat.exists_eq_add_one.mpr (Nat.zero_lt_of_lt hf)
    obtain ⟨fuel', hf', hvalue⟩ := ihv (fuel + 1) (.square :: opened) (by have := h.length_le; omega)
    obtain ⟨fuel'', hf'', hrest⟩ := ihs fuel' opened hf'
    refine ⟨fuel'', hf'', ?_⟩
    calc resume (fuel + 1) (!first) (.square :: opened) s
      _ = skipLoop (fuel + 1) (.square :: opened) t := resume_continues (b := .square) h
      _ = resume fuel' true (.square :: opened) u := hvalue
      _ = resume fuel'' true opened r := hrest
  | @member first s t u w r h hk _ _ ihv ihs =>
    obtain ⟨fuel, rfl⟩ := Nat.exists_eq_add_one.mpr (Nat.zero_lt_of_lt hf)
    have hu : u.length < fuel + 1 :=
      Nat.lt_of_le_of_lt (Nat.le_trans (Shrinks.skipKey t () u hk) h.length_le) hf
    obtain ⟨fuel', hf', hvalue⟩ := ihv (fuel + 1) (.curly :: opened) hu
    obtain ⟨fuel'', hf'', hrest⟩ := ihs fuel' opened hf'
    refine ⟨fuel'', hf'', ?_⟩
    calc resume (fuel + 1) (!first) (.curly :: opened) s
      _ = enter (fuel + 1) (.curly :: opened) t := resume_continues (b := .curly) h
      _ = skipLoop (fuel + 1) (.curly :: opened) u := bind_eq hk _
      _ = resume fuel' true (.curly :: opened) w := hvalue
      _ = resume fuel'' true opened r := hrest

theorem Skips.skipValue {s r : List Char} (h : Skips .value s r) : skipValue s = .ok ((), r) := by
  obtain ⟨fuel, -, hloop⟩ := h.leads (s.length + 1) [] (Nat.lt_succ_self _)
  exact hloop

section

variable {s t u r : List Char}

theorem skipKey_of {k : String} (hk : string t = .ok (k, u)) (hc : colon u = .ok ((), r)) :
    skipKey ('\x22' :: t) = .ok ((), r) := by
  show (skipString >>= fun _ => colon) t = .ok ((), r)
  rw [bind_eq (skipString_of_string hk)]
  exact hc

theorem elements_skips {item : Reader Json} {fuel : Nat} {first : Bool} {xs : List Json}
    (hitem : ∀ s v r, item s = .ok (v, r) → Skips .value s r)
    (h : elements item fuel first s = .ok (xs, t)) (hend : listEnd t = .ok ((), r)) :
    Skips (.elements first) s r := by
  induction fuel generalizing first s xs with
  | zero => cases h
  | succ fuel ih =>
    rw [elements] at h
    obtain ⟨more, u, hmore, h⟩ := bind_ok h
    have hcontinues := moreElements_ok hmore
    split at h
    · rename_i hm
      obtain ⟨x, w, hx, h⟩ := bind_ok h
      obtain ⟨xs, t', hxs, h⟩ := bind_ok h
      obtain ⟨-, rfl⟩ := pure_ok h
      exact .element (hm ▸ hcontinues) (hitem u x w hx) (ih hxs)
    · obtain ⟨-, rfl⟩ := pure_ok h
      cases hcontinues with
      | close u hclose => exact .lastElement (hclose.trans (listEnd_ok hend))
      | first => contradiction
      | comma => contradiction

theorem members_skips {item : Reader Json} {fuel : Nat} {first : Bool} {ps : List (String × Json)}
    (hitem : ∀ s v r, item s = .ok (v, r) → Skips .value s r)
    (h : members item fuel first s = .ok (ps, t)) (hend : objectEnd t = .ok ((), r)) :
    Skips (.members first) s r := by
  induction fuel generalizing first s ps with
  | zero => cases h
  | succ fuel ih =>
    rw [members] at h
    obtain ⟨more, u, hmore, h⟩ := bind_ok h
    obtain ⟨hcontinues, hquote⟩ := moreMembers_ok hmore
    split at h
    · rename_i hm
      obtain ⟨w, rfl⟩ := hquote hm
      rw [drop1_bind] at h
      obtain ⟨k, t₁, hk, h⟩ := bind_ok h
      obtain ⟨⟨⟩, t₂, hcolon, h⟩ := bind_ok h
      obtain ⟨x, t₃, hx, h⟩ := bind_ok h
      obtain ⟨ps, t₄, hps, h⟩ := bind_ok h
      obtain ⟨-, rfl⟩ := pure_ok h
      exact .member (hm ▸ hcontinues) (skipKey_of hk hcolon) (hitem t₂ x t₃ hx) (ih hps)
    · obtain ⟨-, rfl⟩ := pure_ok h
      cases hcontinues with
      | close u hclose => exact .lastMember (hclose.trans (objectEnd_ok hend))
      | first => contradiction
      | comma => contradiction

theorem valueWith_skips {nested : Option (Reader Json)} {v : Json}
    (hnested : ∀ item ∈ nested, ∀ s v r, item s = .ok (v, r) → Skips .value s r)
    (h : valueWith nested s = .ok (v, r)) : Skips .value s r := by
  rw [valueWith.eq_def] at h
  obtain ⟨a, t, ha, h⟩ := bind_ok h
  have hatom : skipAtom s = _ := bind_eq ha _
  have hkeyword : ∀ {cs : List Char} {w : Json},
      (drop1 >>= fun _ => keyword cs >>= fun _ => pure w) t = .ok (v, r) →
      (drop1 >>= fun _ => keyword cs >>= fun _ => pure (none : Option Bracket)) t =
        .ok (none, r) := by
    intro cs w h
    rw [drop1_bind] at h ⊢
    obtain ⟨⟨⟩, u, hk, h⟩ := bind_ok h
    obtain ⟨-, rfl⟩ := pure_ok h
    exact bind_eq hk _
  split at h
  · cases h
  · exact .atom (hatom.trans (hkeyword h))
  · exact .atom (hatom.trans (hkeyword h))
  · exact .atom (hatom.trans (hkeyword h))
  · rw [drop1_bind] at h
    have hskip : (skipNumber >>= fun _ => pure (none : Option Bracket)) (t.drop 1) =
      .ok (none, r) := bind_eq (skipNumber_of_number h) _
    exact .atom (hatom.trans hskip)
  · rw [drop1_bind] at h
    obtain ⟨x, u, hx, h⟩ := bind_ok h
    obtain ⟨-, rfl⟩ := pure_ok h
    have hskip : (skipString >>= fun _ => pure (none : Option Bracket)) (t.drop 1) =
      .ok (none, r) := bind_eq (skipString_of_string hx) _
    exact .atom (hatom.trans hskip)
  · cases nested with
    | none => cases h
    | some item =>
      dsimp only at h
      rw [drop1_bind] at h
      obtain ⟨xs, u, hxs, h⟩ := bind_ok h
      obtain ⟨⟨⟩, u', hend, h⟩ := bind_ok h
      obtain ⟨-, rfl⟩ := pure_ok h
      exact .array (hatom.trans rfl) (elements_skips (hnested item rfl) hxs hend)
  · cases nested with
    | none => cases h
    | some item =>
      dsimp only at h
      rw [drop1_bind] at h
      obtain ⟨ps, u, hps, h⟩ := bind_ok h
      obtain ⟨⟨⟩, u', hend, h⟩ := bind_ok h
      obtain ⟨-, rfl⟩ := pure_ok h
      exact .object (hatom.trans rfl) (members_skips (hnested item rfl) hps hend)
  · split at h
    · rename_i hdigit
      refine .atom (hatom.trans ?_)
      simp only [hdigit, if_true]
      exact bind_eq (skipNumber_of_number h) _
    · cases h

theorem value_skips {depth : Nat} {v : Json} (h : value depth s = .ok (v, r)) :
    Skips .value s r := by
  induction depth generalizing s v r with
  | zero => exact valueWith_skips (by rintro item ⟨⟩) h
  | succ depth ih =>
    refine valueWith_skips ?_ h
    rintro item ⟨⟩ s v r hitem
    exact ih hitem

theorem skipValue_of_value {depth : Nat} {v : Json} (h : value depth s = .ok (v, r)) :
    skipValue s = .ok ((), r) :=
  (value_skips h).skipValue

end

end LivePreview.Json
