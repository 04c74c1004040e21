import LivePreview.Proofs.Placement

namespace LivePreview.Document

open LivePreview.Text

variable {s rest : List Char}

def folded (c : Char) : Char := if c = '\u017f' then 's' else c.toLower

theorem sameLetter_iff_folded {l c : Char} (hlower : 97 ≤ l.toNat ∧ l.toNat ≤ 122) :
    sameLetter l c = true ↔ folded c = l := by
  by_cases hs : l = 's'
  · subst hs
    rw [folded]
    by_cases hlong : c = '\u017f'
    · simp [hlong, sameLetter]
    · have hs : ('s' : Char).toNat = 115 := rfl
      simp only [sameLetter, hlong, beq_self_eq_true, beq_eq_false_iff_ne.mpr hlong, Bool.and_false,
        Bool.or_false, if_false, Bool.or_eq_true, Bool.and_eq_true, beq_iff_eq, isAsciiLetter_iff,
        ← Char.toNat_inj, toNat_toLower, hs]
      split <;> omega
  · rw [sameLetter_iff hlower hs, folded]
    split
    · rename_i hlong
      subst hlong
      have hlong : ('\u017f' : Char).toLower.toNat = 383 := by decide
      constructor
      · rintro rfl
        omega
      · exact fun h => absurd h.symm hs
    · rfl

theorem spelled_iff_folded {name w : List Char}
    (hlower : ∀ l ∈ name, 97 ≤ l.toNat ∧ l.toNat ≤ 122) :
    Spelled name w ↔ w.map folded = name :=
  spelled_iff_map (fun l hl _ => sameLetter_iff_folded (hlower l hl))

theorem spelled_script {w : List Char} : Spelled scriptName w ↔ w.map folded = scriptName :=
  spelled_iff_folded (by simp [scriptName])

theorem spelled_src {w : List Char} :
    Spelled ['s', 'r', 'c'] w ↔ w.map folded = ['s', 'r', 'c'] :=
  spelled_iff_folded (by simp)

def Boundary (front back : List Char) : Prop :=
  front.getLast?.any isWord ≠ back.head?.any isWord

theorem isWord_of_folded {c : Char} (h : folded c = 't') : isWord c = true := by
  have hletter : 116 = c.toNat ∨ 84 = c.toNat := by
    rw [folded] at h
    split at h
    · cases h
    · have hcode : c.toLower.toNat = 116 := congrArg Char.toNat h
      rw [toNat_toLower] at hcode
      split at hcode <;> omega
  rcases hletter with hc | hc
  · rw [← Char.toNat_inj.mp (show ('t' : Char).toNat = c.toNat from hc)]
    decide
  · rw [← Char.toNat_inj.mp (show ('T' : Char).toNat = c.toNat from hc)]
    decide

theorem boundary_iff {name more : List Char} (hname : name.map folded = scriptName) :
    Boundary name more ↔ atBoundary more = true := by
  have hlast : name.getLast?.any isWord = true := by
    have hfolded : name.getLast?.map folded = some 't' := by
      rw [← List.getLast?_map, hname]
      rfl
    obtain ⟨c, hc, ht⟩ := Option.map_eq_some_iff.mp hfolded
    rw [hc]
    exact isWord_of_folded ht
  rw [Boundary, hlast]
  cases more with
  | nil => simp [atBoundary]
  | cons c more => cases hc : isWord c <;> simp [atBoundary, hc]

theorem isQuote_iff {c : Char} : isQuote c = true ↔ c = '\x22' ∨ c = '\x27' := by
  simp [isQuote]

/-- A script element without text. In its tag, behind the name and a stretch `attrs`, white space
and the attribute with the source `src` follow. -/
inductive Element (attrs src : List Char) : List Char → Prop
  | intro {name word before behind inner blanks close last : List Char}
      {space opening closing : Char} (hname : name.map folded = scriptName)
      (hboundary : Boundary name (attrs ++ [space])) (hattrs : '>' ∉ attrs)
      (hspace : isBlank space = true) (hword : word.map folded = ['s', 'r', 'c'])
      (hbefore : ∀ c ∈ before, isBlank c = true) (hbehind : ∀ c ∈ behind, isBlank c = true)
      (hopening : opening = '\x22' ∨ opening = '\x27') (hsrc : src ≠ [])
      (hplain : ∀ c ∈ src, c ≠ '\x22' ∧ c ≠ '\x27') (hclosing : closing = '\x22' ∨ closing = '\x27')
      (hinner : '>' ∉ inner) (hblanks : ∀ c ∈ blanks, isBlank c = true)
      (hclose : close.map folded = scriptName) (hlast : ∀ c ∈ last, isBlank c = true) :
      Element attrs src ('<' :: (name ++ (attrs ++ space :: (word ++ (before ++ '=' :: (behind ++
        opening :: (src ++ closing :: (inner ++ '>' :: (blanks ++ '<' :: '/' :: (close ++ (last ++
          ['>'])))))))))))

theorem element_iff {attrs src w : List Char} : Element attrs src w ↔
    ∃ letters tail, Spelled scriptName letters ∧ atBoundary (attrs ++ tail) = true ∧ '>' ∉ attrs ∧
      NamesSource src tail ∧ w = '<' :: (letters ++ (attrs ++ tail)) := by
  have hboundary {name more : List Char} {space : Char} (hname : name.map folded = scriptName) :
      Boundary name (attrs ++ [space]) ↔ atBoundary (attrs ++ space :: more) = true := by
    rw [boundary_iff hname]
    cases attrs <;> rfl
  have hplain : (∀ c ∈ src, isQuote c = false) ↔ ∀ c ∈ src, c ≠ '\x22' ∧ c ≠ '\x27' := by
    simp [isQuote]
  constructor
  · rintro ⟨hname, hword, hattrs, hspace, hsrcWord, hbefore, hbehind, hopening, hsrc, hchars,
      hclosing, hinner, hblanks, hclose, hlast⟩
    exact ⟨_, _, spelled_script.mpr hname, (hboundary hname).mp hword, hattrs,
      .intro hspace (spelled_src.mpr hsrcWord) hbefore hbehind (isQuote_iff.mpr hopening) hsrc
        (hplain.mpr hchars) (isQuote_iff.mpr hclosing) hinner hblanks
        (.intro (spelled_script.mpr hclose) hlast), rfl⟩
  · rintro ⟨letters, _, hname, hword, hattrs, @⟨space, opening, closing, word, before, behind,
      inner, blanks, _, hspace, hsrcWord, hbefore, hbehind, hopening, hsrc, hchars, hclosing, hinner,
      hblanks, @⟨close, last, hclose, hlast⟩⟩, rfl⟩
    have hname := spelled_script.mp hname
    exact .intro hname ((hboundary hname).mpr hword) hattrs hspace
      (spelled_src.mp hsrcWord) hbefore hbehind (isQuote_iff.mp hopening) hsrc (hplain.mp hchars)
      (isQuote_iff.mp hclosing) hinner hblanks (spelled_script.mp hclose) hlast

theorem Element.scriptElement {attrs src w : List Char} (h : Element attrs src w) :
    ScriptElement src w := by
  obtain ⟨letters, tail, hname, hword, hattrs, htail, rfl⟩ := element_iff.mp h
  exact .intro hname hword hattrs htail

theorem scriptElement_iff {src w : List Char} :
    ScriptElement src w ↔ ∃ attrs, Element attrs src w := by
  constructor
  · rintro ⟨hname, hword, hattrs, htail⟩
    exact ⟨_, element_iff.mpr ⟨_, _, hname, hword, hattrs, htail, rfl⟩⟩
  · rintro ⟨attrs, h⟩
    exact h.scriptElement

theorem scriptAt_eq_none_iff_element :
    scriptAt s = none ↔ ∀ attrs src w, Element attrs src w → ¬w <+: s := by
  rw [scriptAt_eq_none_iff]
  constructor
  · exact fun h attrs src w hw => h src w hw.scriptElement
  · intro h src w hw
    obtain ⟨attrs, hw⟩ := scriptElement_iff.mp hw
    exact h attrs src w hw

/-- The element that `s` begins with: of all that can be read there, the one whose source comes
first. -/
inductive Begins (s src w : List Char) : Prop
  | intro {attrs : List Char} (hw : Element attrs src w) (hs : w <+: s)
      (hfirst : ∀ attrs' src' w', Element attrs' src' w' → w' <+: s →
        attrs.length ≤ attrs'.length) : Begins s src w

theorem name_agrees {letters letters' tail tail' : List Char} (h : Spelled scriptName letters)
    (h' : Spelled scriptName letters')
    (hahead : '<' :: (letters' ++ tail') <+: '<' :: (letters ++ tail)) :
    letters' = letters ∧ tail' <+: tail := by
  obtain ⟨more, hmore⟩ := hahead
  rw [List.cons_append, List.append_assoc] at hmore
  have hlength : letters'.length = letters.length := h'.length_eq.symm.trans h.length_eq
  obtain ⟨hname, htail⟩ := List.append_inj (List.cons.inj hmore).2 hlength
  exact ⟨hname, more, htail⟩

theorem begins_of_scriptAt {src : List Char} (h : scriptAt s = some (src, rest)) :
    ∃ w, Begins s src w ∧ s = w ++ rest := by
  obtain ⟨letters, attrs, tail, hname, hword, hattrs, htail, rfl, hleads⟩ := scriptAt_leads h
  have hw : Element attrs src ('<' :: (letters ++ (attrs ++ tail))) :=
    element_iff.mpr ⟨letters, tail, hname, hword, hattrs, htail, rfl⟩
  refine ⟨_, .intro hw ⟨rest, rfl⟩ ?_, rfl⟩
  intro attrs' src' w' hw' hahead
  obtain ⟨letters', tail', hname', -, -, htail', rfl⟩ := element_iff.mp hw'
  rw [List.cons_append, List.append_assoc, List.append_assoc] at hahead
  exact hleads attrs' src' tail' htail' (name_agrees hname hname' hahead).2

theorem Begins.unique {src src' w w' : List Char} (h : Begins s src w) (h' : Begins s src' w') :
    src = src' ∧ w = w' := by
  obtain ⟨hw, ⟨rest, rfl⟩, hfirst⟩ := h
  obtain ⟨hw', hahead, hfirst'⟩ := h'
  have hle := hfirst _ _ _ hw' hahead
  have hle' := hfirst' _ _ _ hw (List.prefix_append _ _)
  obtain ⟨letters, tail, hname, -, -, htail, rfl⟩ := element_iff.mp hw
  obtain ⟨letters', tail', hname', -, -, htail', rfl⟩ := element_iff.mp hw'
  rw [List.cons_append, List.append_assoc, List.append_assoc] at hahead
  obtain ⟨rfl, more, hmore⟩ := name_agrees hname hname' hahead
  rw [List.append_assoc] at hmore
  obtain ⟨rfl, hrest⟩ := List.append_inj hmore (Nat.le_antisymm hle' hle)
  -- the same text is read from the white space on
  have hread : sourceAt (tail ++ rest) = some (src, rest) :=
    sourceAt_eq_some_iff.mpr ⟨tail, htail, rfl⟩
  have hread' : sourceAt (tail ++ rest) = some (src', more) :=
    sourceAt_eq_some_iff.mpr ⟨tail', htail', hrest.symm⟩
  cases hread.symm.trans hread'
  exact ⟨rfl, by rw [List.append_cancel_right hrest]⟩

theorem scriptAt_of_begins {src w : List Char} (h : Begins (w ++ rest) src w) :
    scriptAt (w ++ rest) = some (src, rest) := by
  cases hs : scriptAt (w ++ rest) with
  | none =>
    obtain ⟨hw, hahead, -⟩ := h
    exact absurd hahead (scriptAt_eq_none_iff_element.mp hs _ _ _ hw)
  | some found =>
    obtain ⟨w', hw', heq⟩ := begins_of_scriptAt hs
    obtain ⟨rfl, rfl⟩ := h.unique hw'
    rw [List.append_cancel_left heq]

inductive Scans : List Char → List Piece → Prop
  | done : Scans [] []
  | element {src w s : List Char} {ps : List Piece} (h : Begins (w ++ s) src w)
      (hrest : Scans s ps) : Scans (w ++ s) (.script w src :: ps)
  | passed {c : Char} {s : List Char} {ps : List Piece}
      (h : ∀ attrs src w, Element attrs src w → ¬w <+: c :: s) (hrest : Scans s ps) :
      Scans (c :: s) (.char c :: ps)

theorem Begins.scriptElement {src w : List Char} (h : Begins s src w) : ScriptElement src w := by
  obtain ⟨hw, -, -⟩ := h
  exact hw.scriptElement

theorem Scans.pieces_eq {ps : List Piece} (h : Scans s ps) : pieces s = ps := by
  induction h with
  | done => rw [pieces]
  | element h _ ih => rw [pieces_script h.scriptElement (scriptAt_of_begins h), ih]
  | passed h _ ih => rw [pieces_char (scriptAt_eq_none_iff_element.mpr h), ih]

theorem ScriptElement.ne_nil {src w : List Char} (h : ScriptElement src w) : w ≠ [] := by
  cases h
  exact nofun

theorem scans_pieces (s : List Char) : Scans s (pieces s) := by
  induction s using pieces.induct with
  | case1 =>
    rw [pieces]
    exact .done
  | case2 c cs src rest h ih =>
    obtain ⟨w, hw, hs⟩ := begins_of_scriptAt h
    have hrest : cs.drop (cs.length - rest.length) = rest := by
      cases w with
      | nil => exact absurd rfl hw.scriptElement.ne_nil
      | cons c' w =>
        obtain ⟨-, rfl⟩ := List.cons.inj hs
        simp
    rw [hrest] at ih
    rw [hs] at h hw ⊢
    rw [pieces_script hw.scriptElement h]
    exact .element hw ih
  | case3 c cs h ih =>
    rw [pieces_char h]
    exact .passed (scriptAt_eq_none_iff_element.mp h) ih

def textOf (ps : List Piece) : List Char := ps.flatMap Piece.source

theorem length_textOf_cons (p : Piece) (ps : List Piece) :
    (textOf (p :: ps)).length = p.source.length + (textOf ps).length := by
  simp [textOf]

theorem Scans.text {ps : List Piece} (h : Scans s ps) : textOf ps = s := by
  induction h with
  | done => rfl
  | element _ _ ih => exact congrArg _ ih
  | passed _ _ ih => exact congrArg _ ih

theorem Scans.covers {ps : List Piece} (h : Scans s ps) {i : Nat} {attrs src w : List Char}
    (hw : Element attrs src w) (hi : w <+: s.drop i) :
    ∃ before whole found after, ps = before ++ .script whole found :: after ∧
      Begins (s.drop (textOf before).length) found whole ∧ (textOf before).length ≤ i ∧
      i < (textOf before).length + whole.length := by
  induction h generalizing i with
  | done =>
    rw [List.drop_nil, List.prefix_nil] at hi
    exact absurd hi hw.scriptElement.ne_nil
  | @element src' w' s ps h hrest ih =>
    by_cases hlt : i < w'.length
    · exact ⟨[], w', src', ps, rfl, h, Nat.zero_le i, by simpa [textOf] using hlt⟩
    · obtain ⟨j, rfl⟩ := Nat.exists_eq_add_of_le (Nat.le_of_not_lt hlt)
      rw [List.drop_length_add_append] at hi
      obtain ⟨before, whole, found, after, rfl, hbegins, hle, hlt⟩ := ih hi
      have hlength : (textOf (.script w' src' :: before)).length =
          w'.length + (textOf before).length := length_textOf_cons _ _
      refine ⟨.script w' src' :: before, whole, found, after, rfl, ?_, by omega, by omega⟩
      rw [hlength, List.drop_length_add_append]
      exact hbegins
  | @passed c s ps h hrest ih =>
    cases i with
    | zero => exact absurd hi (h _ _ _ hw)
    | succ i =>
      obtain ⟨before, whole, found, after, rfl, hbegins, hle, hlt⟩ := ih hi
      have hlength : (textOf (.char c :: before)).length = 1 + (textOf before).length :=
        length_textOf_cons _ _
      refine ⟨.char c :: before, whole, found, after, rfl, ?_, by omega, by omega⟩
      rw [hlength, Nat.add_comm]
      exact hbegins

theorem Scans.begins {before after : List Piece} {src w : List Char}
    (h : Scans s (before ++ .script w src :: after)) :
    Begins (s.drop (textOf before).length) src w := by
  induction before generalizing s with
  | nil =>
    cases h with
    | element h _ => exact h
  | cons p before ih =>
    rw [length_textOf_cons]
    cases h with
    | element _ hrest =>
      rw [Piece.source, List.drop_length_add_append]
      exact ih hrest
    | passed _ hrest =>
      rw [Piece.source, List.length_singleton, Nat.add_comm]
      exact ih hrest

section

variable (e : Entry) (resources : List PublishedResource)

/-- The script elements that are led to resources are those of a scan for elements from the start of
the entry: what it finds is the first that can be read behind the one before, and no element can be
read outside of them. -/
theorem relinked_recognises :
    (∀ ps, Scans e.source.toList ps ↔ pieces e.source.toList = ps) ∧
    textOf (pieces e.source.toList) = e.source.toList ∧
    (∀ i attrs src w, Element attrs src w → w <+: e.source.toList.drop i →
      ∃ before whole found after,
        pieces e.source.toList = before ++ .script whole found :: after ∧
        Begins (e.source.toList.drop (textOf before).length) found whole ∧
        (textOf before).length ≤ i ∧ i < (textOf before).length + whole.length) ∧
    ∀ before whole src after, pieces e.source.toList = before ++ .script whole src :: after →
      Begins (e.source.toList.drop (textOf before).length) src whole ∧
      relinked e resources = leading e resources before ++
        ((resolveSource src (Path.parent e.path) resources).elim whole moduleTag ++
          leading e resources after) := by
  have hscans := scans_pieces e.source.toList
  refine ⟨fun ps => ⟨Scans.pieces_eq, fun h => h ▸ hscans⟩, hscans.text,
    fun i attrs src w hw hi => hscans.covers hw hi, ?_⟩
  intro before whole src after hp
  rw [hp] at hscans
  refine ⟨hscans.begins, ?_⟩
  rw [relinked, hp, List.flatMap_append, List.flatMap_cons, renderPiece]
  cases resolveSource src (Path.parent e.path) resources <;> rfl

end

example : (pieces ("<script data-src=\"x.js\"></script>" ++
      "<script src=\"a.js\" src='b>.js'></SCRIPT >").toList).filterMap
        (fun p => match p with | .script _ src => some (String.ofList src) | .char _ => none) =
    ["b>.js"] := by decide +kernel

end LivePreview.Document
