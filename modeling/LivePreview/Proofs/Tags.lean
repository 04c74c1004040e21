import LivePreview.Document.Assembly
import Mathlib.Data.List.Forall2
import Mathlib.Data.List.TakeWhile

namespace LivePreview.Document

open LivePreview.Text

variable {name s rest : List Char}

theorem char_eq_some_iff {x : Char} : char x s = some rest ↔ s = x :: rest := by
  constructor
  · intro h
    cases s with
    | nil => cases h
    | cons c cs =>
      rw [char] at h
      split at h
      · rename_i hc
        rw [hc, Option.some.inj h]
      · cases h
  · rintro rfl
    rw [char, if_pos rfl]

theorem quote_eq_some_iff : quote s = some rest ↔ ∃ q, isQuote q = true ∧ s = q :: rest := by
  constructor
  · intro h
    cases s with
    | nil => cases h
    | cons q cs =>
      rw [quote] at h
      split at h
      · rename_i hq
        exact ⟨q, hq, by rw [Option.some.inj h]⟩
      · cases h
  · rintro ⟨q, hq, rfl⟩
    rw [quote, if_pos hq]

def Spelled (name letters : List Char) : Prop :=
  List.Forall₂ (fun l c => sameLetter l c = true) name letters

theorem toNat_toLower (c : Char) :
    c.toLower.toNat = if 65 ≤ c.toNat ∧ c.toNat ≤ 90 then c.toNat + 32 else c.toNat := by
  have hupper : (c.val ≥ 'A'.val ∧ c.val ≤ 'Z'.val) ↔ 65 ≤ c.toNat ∧ c.toNat ≤ 90 := by
    simp only [ge_iff_le, UInt32.le_iff_toNat_le]
    rfl
  delta Char.toLower
  by_cases h : 65 ≤ c.toNat ∧ c.toNat ≤ 90
  · have hadd : (c.val + ('a'.val - 'A'.val)).toNat = (c.toNat + 32) % 2 ^ 32 :=
      UInt32.toNat_add _ _
    rw [dif_pos (hupper.mpr h), if_pos h]
    exact hadd.trans (Nat.mod_eq_of_lt (by omega))
  · rw [dif_neg (mt hupper.mp h), if_neg h]

theorem isAsciiLetter_iff {c : Char} : isAsciiLetter c = true ↔
    (97 ≤ c.toNat ∧ c.toNat ≤ 122) ∨ (65 ≤ c.toNat ∧ c.toNat ≤ 90) := by
  simp only [isAsciiLetter, Bool.or_eq_true, Bool.and_eq_true, decide_eq_true_eq]
  rfl

theorem sameLetter_iff {l c : Char} (hlower : 97 ≤ l.toNat ∧ l.toNat ≤ 122) (hs : l ≠ 's') :
    sameLetter l c = true ↔ c.toLower = l := by
  have hlong : (l == 's') = false := beq_false_of_ne hs
  simp only [sameLetter, hlong, Bool.false_and, Bool.or_false, Bool.or_eq_true, Bool.and_eq_true,
    beq_iff_eq, isAsciiLetter_iff, ← Char.toNat_inj, toNat_toLower]
  split <;> omega

theorem spelled_iff_map {fold : Char → Char}
    (hfold : ∀ l ∈ name, ∀ c, sameLetter l c = true ↔ fold c = l) {w : List Char} :
    Spelled name w ↔ w.map fold = name := by
  induction name generalizing w with
  | nil => simp [Spelled]
  | cons l name ih =>
    obtain ⟨hl, hname⟩ := List.forall_mem_cons.mp hfold
    cases w with
    | nil => simp [Spelled]
    | cons c w =>
      rw [Spelled, List.forall₂_cons, hl, ← Spelled, ih hname, List.map_cons, List.cons.injEq]

theorem word_eq_some_iff : word name s = some rest ↔ ∃ w, Spelled name w ∧ s = w ++ rest := by
  induction name generalizing s with
  | nil =>
    constructor
    · intro h
      exact ⟨[], .nil, Option.some.inj h⟩
    · rintro ⟨w, ⟨⟩, rfl⟩
      rfl
  | cons l name ih =>
    constructor
    · intro h
      cases s with
      | nil => cases h
      | cons c cs =>
        rw [word] at h
        split at h
        · rename_i hc
          obtain ⟨w, hw, rfl⟩ := ih.mp h
          exact ⟨c :: w, .cons hc hw, rfl⟩
        · cases h
    · rintro ⟨w, hw, rfl⟩
      cases hw with
      | cons hc hw =>
        rw [List.cons_append, word, if_pos hc]
        exact ih.mpr ⟨_, hw, rfl⟩

theorem dropWhile_eq_cons_iff {p : Char → Bool} {x : Char} (hx : p x = false) :
    s.dropWhile p = x :: rest ↔ ∃ w, (∀ c ∈ w, p c = true) ∧ s = w ++ x :: rest := by
  constructor
  · intro h
    refine ⟨s.takeWhile p, fun c hc => List.mem_takeWhile_imp hc, ?_⟩
    rw [← h, List.takeWhile_append_dropWhile]
  · rintro ⟨w, hw, rfl⟩
    rw [List.dropWhile_append_of_pos hw, List.dropWhile_cons_of_neg (by rw [hx]; exact nofun)]

theorem tagEnd_eq_some_iff :
    tagEnd s = some rest ↔ ∃ inner, '>' ∉ inner ∧ s = inner ++ '>' :: rest := by
  have hbracket (w : List Char) : (∀ c ∈ w, (c != '>') = true) ↔ '>' ∉ w := by
    simp only [bne_iff_ne, ne_eq]
    exact ⟨fun h hm => h '>' hm rfl, fun h c hc he => h (he ▸ hc)⟩
  rw [tagEnd, char_eq_some_iff, dropWhile_eq_cons_iff rfl]
  simp only [hbracket]

inductive Closes (named : List Char → Prop) : List Char → Prop
  | intro {letters blanks : List Char} (hname : named letters)
      (hblanks : ∀ c ∈ blanks, isBlank c = true) :
      Closes named ('<' :: '/' :: (letters ++ (blanks ++ ['>'])))

inductive Opens (named : List Char → Prop) : List Char → Prop
  | intro {letters inner : List Char} (hname : named letters) (hword : atBoundary inner = true)
      (hinner : '>' ∉ inner) : Opens named ('<' :: (letters ++ (inner ++ ['>'])))

theorem closingTag_eq_some_iff :
    closingTag name s = some rest ↔ ∃ w, Closes (Spelled name) w ∧ s = w ++ rest := by
  simp only [closingTag, Option.bind_eq_bind, Option.bind_eq_some_iff, char_eq_some_iff,
    word_eq_some_iff, skipBlanks, dropWhile_eq_cons_iff (p := isBlank) (x := '>') rfl]
  constructor
  · rintro ⟨_, rfl, _, rfl, _, ⟨letters, hname, rfl⟩, blanks, hblanks, rfl⟩
    exact ⟨_, .intro hname hblanks, by simp⟩
  · rintro ⟨_, @⟨letters, blanks, hname, hblanks⟩, rfl⟩
    refine ⟨_, rfl, _, rfl, _, ⟨letters, hname, ?_⟩, blanks, hblanks, rfl⟩
    simp

theorem atBoundary_append {inner : List Char} :
    atBoundary (inner ++ '>' :: rest) = atBoundary inner := by
  cases inner with
  | nil => rfl
  | cons c inner => rfl

theorem headTag_eq_some_iff :
    headTag s = some rest ↔ ∃ w, Opens (Spelled headName) w ∧ s = w ++ rest := by
  simp only [headTag, Option.bind_eq_bind, Option.bind_eq_some_iff, char_eq_some_iff,
    word_eq_some_iff, Option.ite_none_right_eq_some, tagEnd_eq_some_iff]
  constructor
  · rintro ⟨_, rfl, _, ⟨letters, hname, rfl⟩, hword, inner, hinner, rfl⟩
    exact ⟨_, .intro hname (atBoundary_append.symm.trans hword) hinner, by simp⟩
  · rintro ⟨_, @⟨letters, inner, hname, hword, hinner⟩, rfl⟩
    refine ⟨_, rfl, _, ⟨letters, hname, ?_⟩, atBoundary_append.trans hword, inner, hinner, rfl⟩
    simp

def headed (letters : List Char) : Prop := letters.map Char.toLower = headName

theorem spelled_head : Spelled headName = headed := by
  have hlower : ∀ l ∈ headName, (97 ≤ l.toNat ∧ l.toNat ≤ 122) ∧ l ≠ 's' := by simp [headName]
  funext letters
  apply propext
  apply spelled_iff_map
  intro l hl c
  exact sameLetter_iff (hlower l hl).1 (hlower l hl).2

inductive NamesSource (src : List Char) : List Char → Prop
  | intro {space opening closing : Char} {letters before behind inner blanks close : List Char}
      (hspace : isBlank space = true) (hname : Spelled ['s', 'r', 'c'] letters)
      (hbefore : ∀ c ∈ before, isBlank c = true) (hbehind : ∀ c ∈ behind, isBlank c = true)
      (hopening : isQuote opening = true) (hsrc : src ≠ []) (hplain : ∀ c ∈ src, isQuote c = false)
      (hclosing : isQuote closing = true) (hinner : '>' ∉ inner)
      (hblanks : ∀ c ∈ blanks, isBlank c = true) (hclose : Closes (Spelled scriptName) close) :
      NamesSource src (space :: (letters ++ (before ++ '=' :: (behind ++ opening ::
        (src ++ closing :: (inner ++ '>' :: (blanks ++ close)))))))

theorem blank_not_quote {q : Char} (hq : isQuote q = true) : isBlank q = false := by
  simp only [isQuote, Bool.or_eq_true, beq_iff_eq] at hq
  rcases hq with rfl | rfl <;> rfl

theorem closes_blanks {named : List Char → Prop} {close : List Char} (h : Closes named close) :
    s.dropWhile isBlank = close ++ rest ↔
      ∃ blanks, (∀ c ∈ blanks, isBlank c = true) ∧ s = blanks ++ (close ++ rest) := by
  cases h with
  | intro hname hblanks => exact dropWhile_eq_cons_iff rfl

theorem sourceAt_eq_some_iff {src : List Char} :
    sourceAt s = some (src, rest) ↔ ∃ w, NamesSource src w ∧ s = w ++ rest := by
  have hquote {q : Char} (hq : isQuote q = true) : (!isQuote q) = false := by rw [hq]; rfl
  constructor
  · intro h
    cases s with
    | nil => cases h
    | cons c s =>
      simp only [sourceAt, Option.ite_none_right_eq_some, Option.bind_eq_bind,
        Option.bind_eq_some_iff, char_eq_some_iff, word_eq_some_iff, quote_eq_some_iff,
        closingTag_eq_some_iff, tagEnd_eq_some_iff, skipBlanks, Option.ite_none_left_eq_some] at h
      obtain ⟨hspace, _, ⟨letters, hname, rfl⟩, _, hequal, value, ⟨opening, hopening, hvalue⟩, hsrc,
        _, ⟨closing, hclosing, hend⟩, _, ⟨inner, hinner, rfl⟩, _, ⟨close, hclose, hlast⟩, heq⟩ := h
      obtain ⟨before, hbefore, rfl⟩ := (dropWhile_eq_cons_iff rfl).mp hequal
      obtain ⟨behind, hbehind, rfl⟩ := (dropWhile_eq_cons_iff (blank_not_quote hopening)).mp hvalue
      obtain ⟨blanks, hblanks, rfl⟩ := (closes_blanks hclose).mp hlast
      obtain ⟨rfl, rfl⟩ := Prod.mk.inj (Option.some.inj heq)
      refine ⟨_, .intro hspace hname hbefore hbehind hopening (mt List.isEmpty_iff.mpr hsrc) ?_
        hclosing hinner hblanks hclose, ?_⟩
      · intro c hc
        simpa using List.mem_takeWhile_imp hc
      · have hsplit := List.takeWhile_append_dropWhile (p := fun c => !isQuote c) (l := value)
        rw [hend] at hsplit
        conv_lhs => rw [← hsplit]
        simp
  · rintro ⟨_, @⟨space, opening, closing, letters, before, behind, inner, blanks, close, hspace,
      hname, hbefore, hbehind, hopening, hsrc, hplain, hclosing, hinner, hblanks, hclose⟩, rfl⟩
    have hvalue (more : List Char) :
        (src ++ closing :: more).takeWhile (fun c => !isQuote c) = src := by
      rw [List.takeWhile_append_of_pos (by simpa using hplain),
        List.takeWhile_cons_of_neg (by simp [hclosing]), List.append_nil]
    simp only [List.cons_append, List.append_assoc, sourceAt, Option.ite_none_right_eq_some,
      Option.bind_eq_bind, Option.bind_eq_some_iff, char_eq_some_iff, word_eq_some_iff,
      quote_eq_some_iff, closingTag_eq_some_iff, tagEnd_eq_some_iff, skipBlanks,
      Option.ite_none_left_eq_some]
    refine ⟨hspace, _, ⟨letters, hname, rfl⟩, _,
      (dropWhile_eq_cons_iff rfl).mpr ⟨before, hbefore, rfl⟩, _, ⟨opening, hopening,
        (dropWhile_eq_cons_iff (blank_not_quote hopening)).mpr ⟨behind, hbehind, rfl⟩⟩, ?_, _,
      ⟨closing, hclosing, (dropWhile_eq_cons_iff (hquote hclosing)).mpr
        ⟨src, by simpa using hplain, rfl⟩⟩, _, ⟨inner, hinner, rfl⟩, _,
      ⟨close, hclose, (closes_blanks hclose).mpr ⟨blanks, hblanks, rfl⟩⟩, ?_⟩
    · rw [hvalue]
      exact mt List.isEmpty_iff.mp hsrc
    · rw [hvalue]

section

variable {src : List Char}

theorem firstSource_cons (c : Char) (cs : List Char) :
    firstSource (c :: cs) = match sourceAt (c :: cs) with
      | some found => some found
      | none => if c = '>' then none else firstSource cs := by
  rfl

theorem firstSource_here {found : List Char × List Char} (h : sourceAt s = some found) :
    firstSource s = some found := by
  cases s with
  | nil => cases h
  | cons c cs => rw [firstSource_cons, h]

theorem firstSource_leads (h : firstSource s = some (src, rest)) :
    ∃ attrs tail, '>' ∉ attrs ∧ NamesSource src tail ∧ s = attrs ++ (tail ++ rest) ∧
      ∀ attrs' src' tail', NamesSource src' tail' → attrs' ++ tail' <+: s →
        attrs.length ≤ attrs'.length := by
  induction s with
  | nil => cases h
  | cons c cs ih =>
    rw [firstSource_cons] at h
    split at h
    · rename_i hsource
      cases h
      obtain ⟨tail, htail, heq⟩ := sourceAt_eq_some_iff.mp hsource
      exact ⟨[], tail, List.not_mem_nil, htail, heq, fun _ _ _ _ _ => Nat.zero_le _⟩
    · rename_i hsource
      split at h
      · cases h
      · rename_i hc
        obtain ⟨attrs, tail, hattrs, htail, rfl, hfirst⟩ := ih h
        refine ⟨c :: attrs, tail, ?_, htail, rfl, ?_⟩
        · exact fun hmem => (List.mem_cons.mp hmem).elim (fun he => hc he.symm) hattrs
        · rintro (_ | ⟨c', attrs'⟩) src' tail' htail' hahead
          · obtain ⟨more, hmore⟩ := hahead
            have hhere := sourceAt_eq_some_iff.mpr ⟨tail', htail', hmore.symm⟩
            cases hsource.symm.trans hhere
          · obtain ⟨-, hahead⟩ := List.cons_prefix_cons.mp hahead
            exact Nat.succ_le_succ (hfirst attrs' src' tail' htail' hahead)

theorem firstSource_ne_none {attrs w : List Char} (hattrs : '>' ∉ attrs) (hw : NamesSource src w) :
    firstSource (attrs ++ (w ++ rest)) ≠ none := by
  induction attrs with
  | nil =>
    rw [List.nil_append, firstSource_here (sourceAt_eq_some_iff.mpr ⟨w, hw, rfl⟩)]
    exact nofun
  | cons c attrs ih =>
    obtain ⟨hc, hattrs⟩ := not_or.mp (mt List.mem_cons.mpr hattrs)
    rw [List.cons_append, firstSource_cons]
    split
    · exact nofun
    · rw [if_neg (fun he => hc he.symm)]
      exact ih hattrs

inductive ScriptElement (src : List Char) : List Char → Prop
  | intro {letters attrs tail : List Char} (hname : Spelled scriptName letters)
      (hword : atBoundary (attrs ++ tail) = true) (hattrs : '>' ∉ attrs)
      (htail : NamesSource src tail) : ScriptElement src ('<' :: (letters ++ (attrs ++ tail)))

theorem boundary_source {attrs tail : List Char} (h : NamesSource src tail) :
    atBoundary (attrs ++ (tail ++ rest)) = atBoundary (attrs ++ tail) := by
  cases attrs with
  | nil => cases h with | intro => rfl
  | cons c attrs => rfl

theorem scriptAt_leads (h : scriptAt s = some (src, rest)) :
    ∃ letters attrs tail, Spelled scriptName letters ∧ atBoundary (attrs ++ tail) = true ∧
      '>' ∉ attrs ∧ NamesSource src tail ∧ s = '<' :: (letters ++ (attrs ++ tail)) ++ rest ∧
      ∀ attrs' src' tail', NamesSource src' tail' → attrs' ++ tail' <+: attrs ++ (tail ++ rest) →
        attrs.length ≤ attrs'.length := by
  simp only [scriptAt, Option.bind_eq_bind, Option.bind_eq_some_iff, char_eq_some_iff,
    word_eq_some_iff, Option.ite_none_right_eq_some] at h
  obtain ⟨_, rfl, _, ⟨letters, hname, rfl⟩, hword, hfirst⟩ := h
  obtain ⟨attrs, tail, hattrs, htail, rfl, hleads⟩ := firstSource_leads hfirst
  refine ⟨letters, attrs, tail, hname, ?_, hattrs, htail, ?_, hleads⟩
  · rw [← boundary_source htail, hword]
  · simp only [List.cons_append, List.append_assoc]

theorem scriptAt_some (h : scriptAt s = some (src, rest)) :
    ∃ w, ScriptElement src w ∧ s = w ++ rest := by
  obtain ⟨letters, attrs, tail, hname, hword, hattrs, htail, hs, -⟩ := scriptAt_leads h
  exact ⟨_, .intro hname hword hattrs htail, hs⟩

theorem scriptAt_eq_none_iff :
    scriptAt s = none ↔ ∀ src w, ScriptElement src w → ¬w <+: s := by
  constructor
  · rintro h src _ @⟨letters, attrs, tail, hname, hword, hattrs, htail⟩ ⟨rest, rfl⟩
    have hletters : word scriptName (letters ++ (attrs ++ (tail ++ rest))) =
        some (attrs ++ (tail ++ rest)) := word_eq_some_iff.mpr ⟨letters, hname, rfl⟩
    have hfirst : scriptAt ('<' :: (letters ++ (attrs ++ tail)) ++ rest) =
        firstSource (attrs ++ (tail ++ rest)) := by
      simp only [List.cons_append, List.append_assoc, scriptAt, char_eq_some_iff.mpr rfl,
        Option.bind_eq_bind, Option.bind_some, hletters, boundary_source htail, hword, if_true]
    exact firstSource_ne_none hattrs htail (hfirst.symm.trans h)
  · intro h
    cases hs : scriptAt s with
    | none => rfl
    | some found =>
      obtain ⟨w, hw, rfl⟩ := scriptAt_some hs
      exact absurd (List.prefix_append w found.2) (h found.1 w hw)

end

theorem pieces_char {c : Char} (h : scriptAt (c :: s) = none) :
    pieces (c :: s) = .char c :: pieces s := by
  rw [pieces, h]

theorem pieces_script {whole src : List Char} (hw : ScriptElement src whole)
    (h : scriptAt (whole ++ s) = some (src, s)) :
    pieces (whole ++ s) = .script whole src :: pieces s := by
  cases hw with
  | intro =>
    rw [List.cons_append] at h
    rw [List.cons_append, pieces, h]
    dsimp only
    rw [List.length_append, Nat.add_sub_cancel, List.take_left, List.drop_left]

end LivePreview.Document
