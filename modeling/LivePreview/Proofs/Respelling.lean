import LivePreview.Proofs.Embedding
import LivePreview.Proofs.Skipping

namespace LivePreview

namespace Markup

theorem scriptSafe_cons {c : Char} (hc : c ∉ scriptUnsafe) (s : List Char) :
    scriptSafe (c :: s) = c :: scriptSafe s := by
  rw [← List.singleton_append, scriptSafe_append,
    scriptSafe_of_clean (List.forall_mem_singleton.mpr hc), List.singleton_append]

theorem forall_scriptUnsafe {P : Char → Prop} (hopen : P '<') (hclose : P '>') (hampersand : P '&')
    (hline : P '\u2028') (hparagraph : P '\u2029') : ∀ c ∈ scriptUnsafe, P c := by
  simp only [scriptUnsafe, List.forall_mem_cons]
  exact ⟨hopen, hclose, hampersand, hline, hparagraph, List.forall_mem_nil _⟩

def escapeMarks : List Char := '\\' :: scriptUnsafe

theorem forall_escapeMarks {P : Char → Prop} (hback : P '\\') (hopen : P '<') (hclose : P '>')
    (hampersand : P '&') (hline : P '\u2028') (hparagraph : P '\u2029') :
    ∀ c ∈ escapeMarks, P c :=
  List.forall_mem_cons.mpr
    ⟨hback, forall_scriptUnsafe hopen hclose hampersand hline hparagraph⟩

theorem scriptSafe_backslash (s : List Char) :
    ∀ c ∈ scriptUnsafe, ∃ u, scriptSafe (c :: s) = '\\' :: u :=
  forall_scriptUnsafe ⟨_, rfl⟩ ⟨_, rfl⟩ ⟨_, rfl⟩ ⟨_, rfl⟩ ⟨_, rfl⟩

section

variable {p : Char → Bool} (hp : ∀ c ∈ escapeMarks, p c = false)

include hp

theorem not_unsafe_of {c : Char} (hc : p c = true) : c ∉ scriptUnsafe := fun hmem =>
  Bool.false_ne_true ((hp c (List.mem_cons_of_mem _ hmem)).symm.trans hc)

theorem scriptSafe_stop {c : Char} (hc : p c = false) (s : List Char) :
    ∃ d u, scriptSafe (c :: s) = d :: u ∧ p d = false := by
  by_cases hmem : c ∈ scriptUnsafe
  · obtain ⟨u, hu⟩ := scriptSafe_backslash s c hmem
    exact ⟨'\\', u, hu, hp '\\' List.mem_cons_self⟩
  · exact ⟨c, scriptSafe s, scriptSafe_cons hmem s, hc⟩

theorem scriptSafe_head (s : List Char) :
    ((scriptSafe s).head?.map p).getD false = (s.head?.map p).getD false := by
  cases s with
  | nil => rfl
  | cons c s =>
    cases hc : p c with
    | true => rw [scriptSafe_cons (not_unsafe_of hp hc), List.head?_cons, List.head?_cons]
    | false =>
      obtain ⟨d, u, hu, hd⟩ := scriptSafe_stop hp hc s
      rw [hu]
      exact hd.trans hc.symm

theorem dropWhile_scriptSafe (s : List Char) :
    (scriptSafe s).dropWhile p = scriptSafe (s.dropWhile p) := by
  induction s with
  | nil => rfl
  | cons c s ih =>
    cases hc : p c with
    | true =>
      rw [scriptSafe_cons (not_unsafe_of hp hc), List.dropWhile_cons_of_pos hc,
        List.dropWhile_cons_of_pos hc, ih]
    | false =>
      obtain ⟨d, u, hu, hd⟩ := scriptSafe_stop hp hc s
      rw [List.dropWhile_cons_of_neg (Bool.eq_false_iff.mp hc), hu,
        List.dropWhile_cons_of_neg (Bool.eq_false_iff.mp hd)]

theorem takeWhile_scriptSafe (s : List Char) : (scriptSafe s).takeWhile p = s.takeWhile p := by
  induction s with
  | nil => rfl
  | cons c s ih =>
    cases hc : p c with
    | true =>
      rw [scriptSafe_cons (not_unsafe_of hp hc), List.takeWhile_cons_of_pos hc,
        List.takeWhile_cons_of_pos hc, ih]
    | false =>
      obtain ⟨d, u, hu, hd⟩ := scriptSafe_stop hp hc s
      rw [List.takeWhile_cons_of_neg (Bool.eq_false_iff.mp hc), hu,
        List.takeWhile_cons_of_neg (Bool.eq_false_iff.mp hd)]

end

theorem length_le_scriptSafe (s : List Char) : s.length ≤ (scriptSafe s).length := by
  induction s with
  | nil => exact Nat.le_refl 0
  | cons c s ih =>
    rw [scriptSafe]
    repeat' split
    all_goals
      simp only [List.length_cons]
      omega

end Markup

namespace Json

open Markup

theorem isDigit_escapeMarks : ∀ c ∈ escapeMarks, isDigit c = false :=
  forall_escapeMarks rfl rfl rfl rfl rfl rfl

theorem isSpace_escapeMarks : ∀ c ∈ escapeMarks, isSpace c = false :=
  forall_escapeMarks rfl rfl rfl rfl rfl rfl

theorem spells_scriptSafe {c : Char} (hquote : c ≠ '\x22') (hback : c ≠ '\\')
    (hc : ¬c.toNat < 32) : Spells (scriptSafe [c]) c := by
  by_cases hmem : c ∈ scriptUnsafe
  · have hplain : ∀ c ∈ scriptUnsafe, escapeChar c = [c] :=
      forall_scriptUnsafe rfl rfl rfl rfl rfl
    exact hplain c hmem ▸ scriptSafe_spells c
  · rw [scriptSafe_of_clean (List.forall_mem_singleton.mpr hmem)]
    exact spells_plain hquote hback hc

theorem hexValue_eq_none : ∀ c ∈ scriptUnsafe, hexValue? c = none :=
  forall_scriptUnsafe rfl rfl rfl rfl rfl

theorem clean_of_hexValue {c : Char} {d : Nat} (h : hexValue? c = some d) : c ∉ scriptUnsafe :=
  fun hc => Option.some_ne_none d (h.symm.trans (hexValue_eq_none c hc))

theorem clean_of_digit {c : Char} {d : Nat} (h : digit? c = some d) : c ∉ scriptUnsafe :=
  not_unsafe_of isDigit_escapeMarks (isDigit_of_digit? h)

theorem wordDigits_scriptSafe (n count : Nat) (s : List Char) :
    wordDigits n count (scriptSafe s) = ((wordDigits n count s).1, (wordDigits n count s).2.1,
      scriptSafe (wordDigits n count s).2.2) := by
  induction s generalizing n count with
  | nil => rfl
  | cons c s ih =>
    cases hd : digit? c with
    | none =>
      have hstop : ((c :: s).head?.map isDigit).getD false = false :=
        Bool.eq_false_iff.mpr (not_isDigit_of_digit? hd)
      rw [wordDigits_of_not_digit hstop,
        wordDigits_of_not_digit ((scriptSafe_head isDigit_escapeMarks _).trans hstop)]
    | some d =>
      rw [scriptSafe_cons (clean_of_digit hd), wordDigits, wordDigits, hd]
      dsimp only
      split
      · exact ih _ _
      · rw [scriptSafe_cons (clean_of_digit hd)]

theorem exponentDigits_of_not_digit {e : Nat} {s : List Char}
    (h : (s.head?.map isDigit).getD false = false) : exponentDigits e s = (some (e, s), []) := by
  cases s with
  | nil => rfl
  | cons c s =>
    have hc : digit? c = none := Option.isNone_iff_eq_none.mp (Option.isSome_eq_false_iff.mp h)
    rw [exponentDigits, hc]

theorem exponentDigits_scriptSafe (e : Nat) (s : List Char) :
    exponentDigits e (scriptSafe s) =
      ((exponentDigits e s).1.map (fun p => (p.1, scriptSafe p.2)),
        scriptSafe (exponentDigits e s).2) := by
  induction s generalizing e with
  | nil => rfl
  | cons c s ih =>
    cases hd : digit? c with
    | none =>
      have hstop : ((c :: s).head?.map isDigit).getD false = false :=
        Bool.eq_false_iff.mpr (not_isDigit_of_digit? hd)
      rw [exponentDigits_of_not_digit hstop,
        exponentDigits_of_not_digit ((scriptSafe_head isDigit_escapeMarks _).trans hstop)]
      rfl
    | some d =>
      rw [scriptSafe_cons (clean_of_digit hd), exponentDigits, exponentDigits, hd]
      dsimp only
      split
      · exact ih _
      · rfl

/-- What the reader takes off the text, it also takes off the escaped text, of which it leaves the
escaped rest. -/
def Reader.Carries {α : Type} (x : Reader α) (s : List Char) : Prop :=
  ∀ a r, x s = .ok (a, r) → x (scriptSafe s) = .ok (a, scriptSafe r)

namespace Reader.Carries

section

variable {α β : Type} {s : List Char}

theorem bind {x : Reader α} {f : α → Reader β} (hx : Carries x s)
    (hf : ∀ a t, Carries (f a) t) : Carries (x >>= f) s := by
  intro b r h
  obtain ⟨a, t, ha, hb⟩ := bind_ok h
  exact (bind_eq (hx a t ha) f).trans (hf a t b r hb)

theorem pure (a : α) (s : List Char) : Carries (pure a : Reader α) s := by
  intro b t h
  obtain ⟨rfl, rfl⟩ := pure_ok h
  rfl

theorem fail (e : Fault) (s : List Char) : Carries (Json.fail e : Reader α) s :=
  fun _ _ h => by cases h

theorem failNext (e : Fault) (s : List Char) : Carries (Json.failNext e : Reader α) s :=
  fun _ _ h => by cases h

theorem drop1 {c : Char} (hc : c ∉ scriptUnsafe) (s : List Char) : Carries Json.drop1 (c :: s) := by
  intro _ t h
  rw [drop1_ok h, scriptSafe_cons hc]
  rfl

theorem peek {f : Option Char → Reader β} {g : Reader β} (hnil : Carries (f none) [])
    (hother : ∀ c ∈ escapeMarks, f (some c) = g) (hg : ∀ s, Carries g s)
    (hclean : ∀ c, c ∉ scriptUnsafe → ∀ s, Carries (f (some c)) (c :: s)) :
    Carries (Json.peek >>= f) s := by
  cases s with
  | nil => exact hnil
  | cons c s =>
    by_cases hc : c ∈ scriptUnsafe
    · -- `g` is run on the text behind the look, and the escaped text begins with a backslash
      obtain ⟨u, hu⟩ := scriptSafe_backslash s c hc
      intro b r h
      have hhere : g (c :: s) = .ok (b, r) := hother c (List.mem_cons_of_mem _ hc) ▸ h
      have hthere := hg (c :: s) b r hhere
      rw [hu] at hthere ⊢
      rw [← hother '\\' List.mem_cons_self] at hthere
      exact hthere
    · intro b r h
      have hthere := hclean c hc s b r h
      rw [scriptSafe_cons hc] at hthere ⊢
      exact hthere

theorem skipSpace {f : Option Char → Reader β} {g : Reader β} (hnil : Carries (f none) [])
    (hother : ∀ c ∈ escapeMarks, f (some c) = g) (hg : ∀ s, Carries g s)
    (hclean : ∀ c, c ∉ scriptUnsafe → ∀ s, Carries (f (some c)) (c :: s)) :
    Carries (Json.skipSpace >>= f) s := by
  intro b r h
  have hthere := peek hnil hother hg hclean b r h
  rw [← dropWhile_scriptSafe isSpace_escapeMarks] at hthere
  exact hthere

theorem next {f : Option Char → Reader β} {e : Fault} (hnil : Carries (f none) [])
    (hother : ∀ c ∈ scriptUnsafe, f (some c) = Json.fail e)
    (hclean : ∀ c, c ∉ scriptUnsafe → ∀ s, Carries (f (some c)) s) :
    Carries (Json.next >>= f) s := by
  cases s with
  | nil => exact hnil
  | cons c s =>
    intro b r h
    by_cases hc : c ∈ scriptUnsafe
    · have hhere : (Json.fail e : Reader β) s = .ok (b, r) := hother c hc ▸ h
      cases hhere
    · rw [scriptSafe_cons hc]
      exact hclean c hc s b r h

end

theorem keyword {cs : List Char} (h : ∀ c ∈ cs, c ∉ scriptUnsafe) (s : List Char) :
    Carries (Json.keyword cs) s := by
  induction cs generalizing s with
  | nil => exact .pure () s
  | cons c cs ih =>
    obtain ⟨hc, hcs⟩ := List.forall_mem_cons.mp h
    rw [Json.keyword]
    refine .next (.fail _ _) (fun d hd => if_neg (fun heq : d = c => hc (heq ▸ hd)))
      (fun d _ t => ?_)
    dsimp only
    split
    · exact ih hcs t
    · exact .fail _ t

theorem hex4 (s : List Char) : Carries Json.hex4 s := by
  intro n r h
  unfold Json.hex4 at h
  split at h
  · split at h
    · rename_i ha hb hc hd
      cases h
      rw [scriptSafe_cons (clean_of_hexValue ha), scriptSafe_cons (clean_of_hexValue hb),
        scriptSafe_cons (clean_of_hexValue hc), scriptSafe_cons (clean_of_hexValue hd)]
      simp only [Json.hex4, ha, hb, hc, hd]
    · exact absurd h short_ne_ok
  · exact absurd h short_ne_ok

theorem expectEscape {c : Char} (hc : c ∉ scriptUnsafe) (s : List Char) :
    Carries (Json.expectEscape c) s := by
  rw [Json.expectEscape]
  refine .next (.fail _ _) (fun d hd => if_neg (fun heq : d = c => hc (heq ▸ hd)))
    (fun d _ t => ?_)
  dsimp only
  split
  · exact .pure () t
  · exact .fail _ t

theorem unicodeEscape (s : List Char) : Carries Json.unicodeEscape s := by
  rw [Json.unicodeEscape]
  refine .bind (.hex4 s) fun n t => ?_
  split
  · exact .fail _ t
  · split
    · refine .bind (.expectEscape (by decide) t) fun _ t => .bind (.expectEscape (by decide) t)
        fun _ t => .bind (.hex4 t) fun low t => ?_
      split
      · exact .pure _ t
      · exact .fail _ t
    · exact .pure _ t

theorem escape (s : List Char) : Carries Json.escape s := by
  rw [Json.escape]
  refine .next (.fail _ _) (forall_scriptUnsafe rfl rfl rfl rfl rfl) (fun c _ t => ?_)
  split
  · contradiction
  · exact .unicodeEscape t
  · split
    · exact .pure _ t
    · exact .fail _ t

theorem stringTail {fuel fuel' : Nat} {seen s r : List Char} {x : String} (hf : fuel ≤ fuel')
    (h : stringTail fuel seen s = .ok (x, r)) :
    Json.stringTail fuel' seen (scriptSafe s) = .ok (x, scriptSafe r) := by
  -- On the fuel: an escape is read in one step, and so is what a character has been escaped to.
  induction fuel generalizing fuel' seen s with
  | zero => cases h
  | succ fuel ih =>
    obtain ⟨fuel', rfl⟩ := Nat.exists_eq_add_one.mpr (Nat.zero_lt_of_lt hf)
    have hf' := Nat.le_of_succ_le_succ hf
    rw [Json.stringTail] at h
    obtain ⟨a, t, ha, h⟩ := bind_ok h
    split at h
    · cases h
    · cases h
      rw [next_some ha]
      rfl
    · obtain ⟨c, u, hc, h⟩ := bind_ok h
      have hstep : Json.stringTail (fuel' + 1) seen ('\\' :: scriptSafe t) =
        (Json.escape >>= fun c => Json.stringTail fuel' (c :: seen)) (scriptSafe t) := rfl
      rw [next_some ha, scriptSafe_cons (by decide), hstep, bind_eq (escape t c u hc)]
      exact ih hf' h
    · rename_i c hquote hback
      split at h
      · cases h
      · rename_i hc
        rw [next_some ha, ← List.singleton_append, scriptSafe_append,
          spells_scriptSafe hquote hback hc]
        exact ih hf' h

theorem string (s : List Char) : Carries Json.string s := fun _ _ h =>
  stringTail (Nat.succ_le_succ (length_le_scriptSafe s)) h

theorem floatValue (positive : Bool) (word : Nat) (e : Int) (s : List Char) :
    Carries (Json.floatValue positive word e) s := by
  rw [Json.floatValue]
  split
  · exact .pure _ s
  · exact .fail _ s

theorem sign (s : List Char) : Carries Json.sign s := by
  rw [Json.sign]
  refine .peek (g := Pure.pure false) (.pure _ _)
    (forall_escapeMarks rfl rfl rfl rfl rfl rfl) (.pure false) (fun c hc t => ?_)
  split
  · exact .bind (.drop1 hc t) fun _ => .pure false
  · exact .bind (.drop1 hc t) fun _ => .pure true
  · exact .pure false _

theorem magnitude (positive : Bool) (word : Nat) (start : Int) (down : Bool) (s : List Char) :
    Carries (Json.magnitude positive word start down) s := by
  rw [Json.magnitude]
  refine .next (e := .invalidNumber) (.fail _ _) (forall_scriptUnsafe rfl rfl rfl rfl rfl)
    (fun c _ t => ?_)
  dsimp only
  split
  · exact .fail _ t
  · intro v r h
    dsimp only at h ⊢
    rw [exponentDigits_scriptSafe]
    split at h
    · rename_i he
      rw [he]
      exact floatValue _ _ _ _ v r h
    · rename_i he
      rw [he]
      dsimp only [Option.map_none]
      split at h
      · cases h
      · rename_i hin
        cases h
        rw [if_neg hin, dropWhile_scriptSafe isDigit_escapeMarks]

theorem exponent (positive : Bool) (word : Nat) (start : Int) {c : Char} (hc : c ∉ scriptUnsafe)
    (s : List Char) : Carries (Json.exponent positive word start) (c :: s) := by
  rw [Json.exponent]
  exact .bind (.drop1 hc s) fun _ t => .bind (.sign t) fun _ t => .magnitude _ _ _ _ t

theorem scale {x : Reader Json} {positive : Bool} {word : Nat} {start : Int}
    (hx : ∀ s, Carries x s) (s : List Char) :
    Carries (do
      match ← Json.peek with
      | some 'e' | some 'E' => Json.exponent positive word start
      | _ => x) s := by
  refine .peek (g := x) (hx _) (forall_escapeMarks rfl rfl rfl rfl rfl rfl) hx (fun c hc t => ?_)
  split
  · exact .exponent _ _ _ hc t
  · exact .exponent _ _ _ hc t
  · exact hx _

theorem fraction (positive : Bool) (word : Nat) (start : Int) {c : Char} (hc : c ∉ scriptUnsafe)
    (s : List Char) : Carries (Json.fraction positive word start) (c :: s) := by
  rw [Json.fraction]
  refine .bind (.drop1 hc s) fun _ t => .bind ?_ fun read t => ?_
  · intro read r h
    cases h
    dsimp only
    rw [wordDigits_dropped, wordDigits_dropped, wordDigits_scriptSafe,
      dropWhile_scriptSafe isDigit_escapeMarks]
    dsimp only
    rw [scriptSafe_head isDigit_escapeMarks]
  · obtain ⟨n, count, full⟩ := read
    dsimp only
    split
    · exact .peek (g := Json.failNext .invalidNumber) (.failNext _ _)
        (forall_escapeMarks rfl rfl rfl rfl rfl rfl) (.failNext _) (fun _ _ _ => .failNext _ _)
    · exact .scale (.floatValue _ _ _) t

theorem parts {x : Reader Json} {positive : Bool} {word : Nat} {start : Int}
    (hx : ∀ s, Carries x s) (s : List Char) :
    Carries (do
      match ← Json.peek with
      | some '.' => Json.fraction positive word start
      | some 'e' | some 'E' => Json.exponent positive word start
      | _ => x) s := by
  refine .peek (g := x) (hx _) (forall_escapeMarks rfl rfl rfl rfl rfl rfl) hx (fun c hc t => ?_)
  split
  · exact .fraction _ _ _ hc t
  · exact .exponent _ _ _ hc t
  · exact .exponent _ _ _ hc t
  · exact hx _

theorem afterDigits (positive : Bool) (word : Nat) (s : List Char) :
    Carries (Json.afterDigits positive word) s := by
  rw [Json.afterDigits]
  exact .parts (.pure _) s

theorem number (positive : Bool) (s : List Char) : Carries (Json.number positive) s := by
  rw [Json.number]
  refine .next (e := .invalidNumber) (.fail _ _) (forall_scriptUnsafe rfl rfl rfl rfl rfl)
    (fun c _ t => ?_)
  split
  · contradiction
  · refine .peek (g := Json.afterDigits positive 0) (.afterDigits _ _ _)
      (forall_escapeMarks rfl rfl rfl rfl rfl rfl) (.afterDigits _ _) (fun c _ t => ?_)
    dsimp only
    split
    · exact .failNext _ _
    · exact .afterDigits _ _ _
  · split
    · exact .fail _ t
    · refine .bind ?_ fun read t => ?_
      · intro read r h
        cases h
        dsimp only
        rw [wordDigits_scriptSafe, scriptSafe_head isDigit_escapeMarks]
      · obtain ⟨n, full⟩ := read
        dsimp only
        split
        · refine .bind ?_ fun dropped t => .parts (.floatValue _ _ _) t
          intro dropped r h
          cases h
          dsimp only [countDigits]
          rw [takeWhile_scriptSafe isDigit_escapeMarks,
            dropWhile_scriptSafe isDigit_escapeMarks]
        · exact .afterDigits _ _ t

theorem colon (s : List Char) : Carries Json.colon s := by
  rw [Json.colon]
  refine .skipSpace (g := Json.failNext .expectedColon) (.failNext _ _)
    (forall_escapeMarks rfl rfl rfl rfl rfl rfl) (.failNext _) (fun c hc t => ?_)
  split
  · exact .drop1 hc t
  · exact .failNext _ _
  · contradiction

theorem listEnd (s : List Char) : Carries Json.listEnd s := by
  rw [Json.listEnd]
  refine .skipSpace (g := Json.failNext .trailingCharacters) (.failNext _ _)
    (forall_escapeMarks rfl rfl rfl rfl rfl rfl) (.failNext _) (fun c hc t => ?_)
  split
  · exact .drop1 hc t
  · refine .bind (.drop1 hc t) fun _ t => .skipSpace (g := Json.failNext .trailingCharacters)
      (.failNext _ _) (forall_escapeMarks rfl rfl rfl rfl rfl rfl) (.failNext _) (fun c _ t => ?_)
    split <;> exact .failNext _ _
  · exact .failNext _ _
  · contradiction

theorem objectEnd (s : List Char) : Carries Json.objectEnd s := by
  rw [Json.objectEnd]
  refine .skipSpace (g := Json.failNext .trailingCharacters) (.failNext _ _)
    (forall_escapeMarks rfl rfl rfl rfl rfl rfl) (.failNext _) (fun c hc t => ?_)
  split
  · exact .drop1 hc t
  · exact .failNext _ _
  · exact .failNext _ _
  · contradiction

theorem endOfText (s : List Char) : Carries Json.endOfText s := by
  rw [Json.endOfText]
  exact .skipSpace (g := Json.failNext .trailingCharacters) (.pure _ _)
    (forall_escapeMarks rfl rfl rfl rfl rfl rfl) (.failNext _) (fun _ _ _ => .failNext _ _)

theorem moreElements (first : Bool) (s : List Char) : Carries (Json.moreElements first) s := by
  have hother (t : List Char) : Carries
      (if first = true then Pure.pure true else Json.failNext .expectedListEnd) t := by
    split
    · exact .pure true t
    · exact .failNext _ t
  rw [Json.moreElements]
  refine .skipSpace (.failNext _ _) (forall_escapeMarks rfl rfl rfl rfl rfl rfl) hother
    (fun c hc t => ?_)
  split
  · contradiction
  · exact .pure false _
  · split
    · exact .pure true _
    · refine .bind (.drop1 hc t) fun _ t => .skipSpace (g := Pure.pure true) (.failNext _ _)
        (forall_escapeMarks rfl rfl rfl rfl rfl rfl) (.pure true) (fun c _ t => ?_)
      split
      · exact .failNext _ _
      · exact .pure true _
      · contradiction
  · exact hother _

theorem moreMembers (first : Bool) (s : List Char) : Carries (Json.moreMembers first) s := by
  have hother (t : List Char) : Carries (if first = true then Json.failNext .keyNotString
      else Json.failNext .expectedObjectEnd : Reader Bool) t := by
    split <;> exact .failNext _ t
  rw [Json.moreMembers]
  refine .skipSpace (.failNext _ _) (forall_escapeMarks rfl rfl rfl rfl rfl rfl) hother
    (fun c hc t => ?_)
  split
  · contradiction
  · exact .pure false _
  · split
    · exact .failNext _ _
    · refine .bind (.drop1 hc t) fun _ t => .skipSpace (g := Json.failNext .keyNotString)
        (.failNext _ _) (forall_escapeMarks rfl rfl rfl rfl rfl rfl) (.failNext _)
        (fun c _ t => ?_)
      split
      · exact .pure true _
      · exact .failNext _ _
      · exact .failNext _ _
      · contradiction
  · split
    · exact .pure true _
    · exact .failNext _ _
  · exact hother _

section

variable {α : Type} {item : Reader α} {fuel fuel' : Nat} {first : Bool} {s r : List Char}

theorem elements (hitem : ∀ s, Carries item s) {xs : List α} (hf : fuel ≤ fuel')
    (h : Json.elements item fuel first s = .ok (xs, r)) :
    Json.elements item fuel' first (scriptSafe s) = .ok (xs, scriptSafe r) := by
  induction fuel generalizing fuel' first s xs with
  | zero => cases h
  | succ fuel ih =>
    obtain ⟨fuel', rfl⟩ := Nat.exists_eq_add_one.mpr (Nat.zero_lt_of_lt hf)
    rw [Json.elements] at h ⊢
    obtain ⟨more, t, hmore, h⟩ := bind_ok h
    rw [bind_eq (moreElements first s more t hmore)]
    split at h
    · rename_i hm
      obtain ⟨x, u, hx, h⟩ := bind_ok h
      obtain ⟨xs, w, hxs, h⟩ := bind_ok h
      obtain ⟨rfl, rfl⟩ := pure_ok h
      rw [if_pos hm, bind_eq (hitem t x u hx), bind_eq (ih (Nat.le_of_succ_le_succ hf) hxs)]
      rfl
    · rename_i hm
      obtain ⟨rfl, rfl⟩ := pure_ok h
      rw [if_neg hm]
      rfl

theorem members (hitem : ∀ s, Carries item s) {ps : List (String × α)} (hf : fuel ≤ fuel')
    (h : Json.members item fuel first s = .ok (ps, r)) :
    Json.members item fuel' first (scriptSafe s) = .ok (ps, scriptSafe r) := by
  induction fuel generalizing fuel' first s ps with
  | zero => cases h
  | succ fuel ih =>
    obtain ⟨fuel', rfl⟩ := Nat.exists_eq_add_one.mpr (Nat.zero_lt_of_lt hf)
    rw [Json.members] at h ⊢
    obtain ⟨more, t, hmore, h⟩ := bind_ok h
    obtain ⟨-, hquote⟩ := moreMembers_ok hmore
    rw [bind_eq (moreMembers first s more t hmore)]
    split at h
    · rename_i hm
      obtain ⟨t, rfl⟩ := hquote hm
      rw [drop1_bind] at h
      obtain ⟨k, t₁, hk, h⟩ := bind_ok h
      obtain ⟨⟨⟩, t₂, hcolon, h⟩ := bind_ok h
      obtain ⟨x, t₃, hx, h⟩ := bind_ok h
      obtain ⟨ps, t₄, hps, h⟩ := bind_ok h
      obtain ⟨rfl, rfl⟩ := pure_ok h
      rw [if_pos hm, scriptSafe_cons (by decide), drop1_bind, List.drop_succ_cons, List.drop_zero,
        bind_eq (string t k t₁ hk), bind_eq (colon t₁ () t₂ hcolon), bind_eq (hitem t₂ x t₃ hx),
        bind_eq (ih (Nat.le_of_succ_le_succ hf) hps)]
      rfl
    · rename_i hm
      obtain ⟨rfl, rfl⟩ := pure_ok h
      rw [if_neg hm]
      rfl

end

theorem valueWith {nested : Option (Reader Json)}
    (hnested : ∀ item ∈ nested, ∀ s, Carries item s) (s : List Char) :
    Carries (Json.valueWith nested) s := by
  have hlength (s : List Char) := Nat.succ_le_succ (length_le_scriptSafe s)
  rw [Json.valueWith.eq_def]
  refine .skipSpace (g := Json.failNext .expectedValue) (.failNext _ _)
    (forall_escapeMarks rfl rfl rfl rfl rfl rfl) (.failNext _) (fun c hc t => ?_)
  split
  · contradiction
  · exact .bind (.drop1 hc t) fun _ t => .bind (.keyword (by simp [scriptUnsafe]) t) fun _ => .pure _
  · exact .bind (.drop1 hc t) fun _ t => .bind (.keyword (by simp [scriptUnsafe]) t) fun _ => .pure _
  · exact .bind (.drop1 hc t) fun _ t => .bind (.keyword (by simp [scriptUnsafe]) t) fun _ => .pure _
  · exact .bind (.drop1 hc t) fun _ => .number false
  · exact .bind (.drop1 hc t) fun _ t => .bind (.string t) fun _ => .pure _
  · cases nested with
    | none => exact .failNext _ _
    | some item =>
      exact .bind (.drop1 hc t) fun _ t => .bind
        (fun _ _ h => elements (hnested item rfl) (hlength t) h)
        fun xs t => .bind (.listEnd t) fun _ => .pure _
  · cases nested with
    | none => exact .failNext _ _
    | some item =>
      exact .bind (.drop1 hc t) fun _ t => .bind
        (fun _ _ h => members (hnested item rfl) (hlength t) h)
        fun ps t => .bind (.objectEnd t) fun _ => .pure _
  · split
    · exact .number true _
    · exact .failNext _ _

theorem value (depth : Nat) (s : List Char) : Carries (Json.value depth) s := by
  induction depth generalizing s with
  | zero => exact .valueWith (by rintro item ⟨⟩) s
  | succ depth ih =>
    refine .valueWith ?_ s
    rintro item ⟨⟩
    exact ih

end Reader.Carries

end Json

end LivePreview
