import LivePreview.Document.Assembly
import LivePreview.Proofs.Duplicates
import LivePreview.Proofs.Trimming

namespace LivePreview

namespace Settings

open Text

structure Clean (name : String) : Prop where
  nonempty : name ≠ ""
  slash : '/' ∉ name.toList.head?
  front : ∀ c ∈ name.toList.head?, isBlank c = false
  back : ∀ c ∈ name.toList.getLast?, isBlank c = false

def Slashed (name : String) : Prop :=
  ∃ front slashes rest, name.toList = front ++ (slashes ++ rest) ∧ (∀ c ∈ front, isBlank c = true) ∧
    slashes ≠ [] ∧ (∀ c ∈ slashes, c = '/') ∧ ∀ c ∈ rest.head?, isBlank c = true

def Misnamed (o : Options) : Prop := ∃ name, o.entryName = some name ∧ Slashed name

variable {name : String}

theorem blank_iff : blank name = true ↔ ∀ c ∈ name.toList, isBlank c = true := List.all_eq_true

theorem standardEntry_clean : Clean standardEntry := by
  have hfirst : standardEntry.toList.head? = some 'i' := by decide +kernel
  have hlast : standardEntry.toList.getLast? = some 'l' := by decide +kernel
  refine ⟨by decide, ?_, ?_, ?_⟩
  · rw [hfirst]
    exact nofun
  · rw [hfirst]
    rintro c ⟨⟩
    rfl
  · rw [hlast]
    rintro c ⟨⟩
    rfl

theorem entryOf_blank (h : blank name = true) : entryOf (some name) = standardEntry := if_pos h

theorem entryOf_toList (h : blank name = false) : (entryOf (some name)).toList =
    (trimBoth isBlank name.toList).dropWhile (· == '/') := by
  simp [entryOf, h, trim]

theorem entryOf_cases (raw : Option String) : entryOf raw = standardEntry ∨
    ∃ name, raw = some name ∧ blank name = false ∧
      (entryOf raw).toList = (trimBoth isBlank name.toList).dropWhile (· == '/') := by
  cases raw with
  | none => exact .inl rfl
  | some name =>
    cases h : blank name with
    | true => exact .inl (entryOf_blank h)
    | false => exact .inr ⟨name, rfl, h, entryOf_toList h⟩

theorem entryOf_slash (raw : Option String) : '/' ∉ (entryOf raw).toList.head? := by
  rcases entryOf_cases raw with h | ⟨name, -, -, h⟩
  · rw [h]
    exact standardEntry_clean.slash
  · rw [h]
    exact fun hc => absurd (head?_dropWhile hc) (by decide)

theorem getLast?_of_suffix {s t : List Char} {c : Char} (hs : s <:+ t) (h : c ∈ s.getLast?) :
    c ∈ t.getLast? := by
  obtain ⟨u, rfl⟩ := hs
  exact List.mem_getLast?_append_of_mem_getLast? h

theorem entryOf_back (raw : Option String) :
    ∀ c ∈ (entryOf raw).toList.getLast?, isBlank c = false := by
  rcases entryOf_cases raw with h | ⟨name, -, -, h⟩
  · rw [h]
    exact standardEntry_clean.back
  · rw [h]
    exact fun c hc => trimBoth_back (getLast?_of_suffix (List.dropWhile_suffix _) hc)

theorem trimBoth_ne_nil (h : blank name = false) : trimBoth isBlank name.toList ≠ [] := by
  intro hnil
  rw [blank_iff.mpr (trimBoth_eq_nil_iff.mp hnil)] at h
  cases h

theorem slashed_of_front (h : blank name = false)
    (hfront : ∀ c ∈ (entryOf (some name)).toList.head?, isBlank c = true) : Slashed name := by
  rw [entryOf_toList h] at hfront
  obtain ⟨front, back, hname, hblank, hback⟩ := trimBoth_split isBlank name.toList
  have hne := trimBoth_ne_nil h
  have hkept : ∀ c ∈ (trimBoth isBlank name.toList).head?, isBlank c = false :=
    fun c hc => trimBoth_front hc
  generalize trimBoth isBlank name.toList = kept at *
  refine ⟨front, kept.takeWhile (· == '/'), kept.dropWhile (· == '/') ++ back, ?_, hblank, ?_,
    fun c hc => by simpa using List.mem_takeWhile_imp hc, ?_⟩
  · rw [hname, ← List.append_assoc (kept.takeWhile _), List.takeWhile_append_dropWhile]
  · -- without a slash in front the name itself would open with white space
    intro hnone
    have hall := List.takeWhile_append_dropWhile (p := (· == '/')) (l := kept)
    rw [hnone, List.nil_append] at hall
    rw [hall] at hfront
    obtain ⟨c, kept, rfl⟩ := List.exists_cons_of_ne_nil hne
    have hc : isBlank c = true := hfront c rfl
    rw [hkept c rfl] at hc
    cases hc
  · intro c hc
    rw [List.head?_append] at hc
    cases hd : (kept.dropWhile (· == '/')).head? with
    | some d =>
      rw [hd] at hc
      exact Option.some.inj hc ▸ hfront d hd
    | none =>
      rw [hd] at hc
      exact hback c (List.mem_of_mem_head? hc)

theorem blank_of_slashed (h : Slashed name) : blank name = false := by
  obtain ⟨front, slashes, rest, hname, -, hne, hslashes, -⟩ := h
  rw [Bool.eq_false_iff]
  intro hblank
  obtain ⟨c, slashes, rfl⟩ := List.exists_cons_of_ne_nil hne
  have hc : isBlank c = true := blank_iff.mp hblank c (by simp [hname])
  rw [hslashes c List.mem_cons_self] at hc
  cases hc

theorem trimBoth_slashes {front slashes rest : List Char} (hfront : ∀ c ∈ front, isBlank c = true)
    (hne : slashes ≠ []) (hslashes : ∀ c ∈ slashes, c = '/') :
    trimBoth isBlank (front ++ (slashes ++ rest)) = slashes ++ dropEndWhile isBlank rest := by
  have hkept : ∀ c ∈ slashes, isBlank c = false := by
    intro c hc
    rw [hslashes c hc]
    rfl
  have hstart : (slashes ++ rest).dropWhile isBlank = slashes ++ rest := by
    refine dropWhile_eq_self (fun c hc => ?_)
    rw [List.head?_append_of_ne_nil _ hne] at hc
    exact hkept c (List.mem_of_mem_head? hc)
  rw [trimBoth, List.dropWhile_append_of_pos hfront, hstart, dropEndWhile_append hkept]

theorem front_of_slashed (h : Slashed name) :
    ∀ c ∈ (entryOf (some name)).toList.head?, isBlank c = true := by
  rw [entryOf_toList (blank_of_slashed h)]
  obtain ⟨front, slashes, rest, hname, hfront, hne, hslashes, hrest⟩ := h
  have hopen : ∀ c ∈ (dropEndWhile isBlank rest).head?, isBlank c = true := by
    rw [dropEndWhile_eq]
    exact fun c hc => hrest c (head?_of_front (List.rdropWhile_prefix isBlank _) hc)
  rw [hname, trimBoth_slashes hfront hne hslashes,
    List.dropWhile_append_of_pos (by simpa using hslashes), dropWhile_eq_self]
  · exact hopen
  · intro c hc
    rw [beq_eq_false_iff_ne]
    rintro rfl
    cases hopen '/' hc

theorem misnamed_iff (o : Options) :
    Misnamed o ↔ ∀ c ∈ (ofOptions o).entryName.toList.head?, isBlank c = true := by
  constructor
  · rintro ⟨name, hname, h⟩
    rw [ofOptions, hname]
    exact front_of_slashed h
  · intro h
    have hstandard : (ofOptions o).entryName ≠ standardEntry := by
      intro he
      have hi : isBlank 'i' = true := h 'i' (by rw [he]; decide +kernel)
      cases hi
    cases hname : o.entryName with
    | none => simp [ofOptions, hname, entryOf] at hstandard
    | some name =>
      simp only [ofOptions, hname] at h hstandard
      refine ⟨name, hname, slashed_of_front ?_ h⟩
      exact (Bool.not_eq_true _).mp (fun hb => hstandard (entryOf_blank hb))

theorem exists_head (h : name ≠ "") : ∃ c, c ∈ name.toList.head? := by
  have hne : name.toList ≠ [] := by simpa using h
  obtain ⟨c, cs, hname⟩ := List.exists_cons_of_ne_nil hne
  exact ⟨c, by rw [hname]; rfl⟩

theorem clean_iff (o : Options) : Clean (ofOptions o).entryName ↔ ¬Misnamed o := by
  rw [misnamed_iff]
  constructor
  · intro hclean h
    obtain ⟨c, hc⟩ := exists_head hclean.nonempty
    have hblank := h c hc
    rw [hclean.front c hc] at hblank
    cases hblank
  · intro h
    obtain ⟨c, hc⟩ := not_forall.mp h
    obtain ⟨hc, hblank⟩ := Classical.not_imp.mp hc
    refine ⟨?_, entryOf_slash _, ?_, entryOf_back _⟩
    · intro he
      rw [he] at hc
      cases hc
    · intro d hd
      obtain rfl : c = d := Option.some.inj (hc.symm.trans hd)
      exact (Bool.not_eq_true _).mp hblank

theorem Clean.not_blank (h : Clean name) : blank name = false := by
  obtain ⟨c, hc⟩ := exists_head h.nonempty
  rw [Bool.eq_false_iff]
  intro hblank
  have hfront := h.front c hc
  rw [blank_iff.mp hblank c (List.mem_of_mem_head? hc)] at hfront
  cases hfront

theorem entryOf_clean (h : Clean name) : entryOf (some name) = name := by
  apply String.toList_injective
  rw [entryOf_toList h.not_blank, trimBoth_eq_self h.front h.back, dropWhile_eq_self]
  intro c hc
  rw [beq_eq_false_iff_ne]
  rintro rfl
  exact h.slash hc

theorem entryOf_ne_self (h : ∀ c ∈ name.toList.head?, isBlank c = true) :
    entryOf (some name) ≠ name := by
  intro heq
  rcases entryOf_cases (some name) with hstandard | ⟨_, ⟨⟩, hblank, hchars⟩
  · obtain ⟨c, hc⟩ := exists_head standardEntry_clean.nonempty
    have hfront := standardEntry_clean.front c hc
    rw [h c (heq.symm.trans hstandard ▸ hc)] at hfront
    cases hfront
  · rw [heq] at hchars
    rw [blank] at hblank
    cases hname : name.toList with
    | nil =>
      rw [hname] at hblank
      cases hblank
    | cons c cs =>
      have hc : isBlank c = true := h c (by rw [hname]; rfl)
      rw [hname, trimBoth_cons_pos hc] at hchars
      have hdropped := (List.dropWhile_suffix (· == '/') (l := trimBoth isBlank cs)).length_le
      have htrimmed := length_trimBoth_le isBlank cs
      rw [← hchars, List.length_cons] at hdropped
      omega

def options (s : Settings) : Options where
  entryName := some s.entryName
  externals := some s.externals
  injectLoader := some s.loader.isSome
  loader := s.loader
  policy := some s.policy
  timeout := some (s.timeout.getD 0)
  origin := some s.origin

/-- What settings in normal form keep to: read back as options they come out as they are. -/
structure Normal (s : Settings) : Prop where
  entry : Clean s.entryName
  loader : ∀ url ∈ s.loader, blank url = false
  timeout : s.timeout ≠ some 0
  externals : (s.externals.map External.specifier).Nodup
  again : ofOptions s.options = s
  quiet : warnings s.options = []

variable {s : Settings}

theorem loaderOf_options (h : ∀ url ∈ s.loader, blank url = false) :
    loaderOf (some s.loader.isSome) s.loader = s.loader := by
  cases hl : s.loader with
  | none => rfl
  | some url => simp [loaderOf, h url hl]

theorem timeoutOf_options (h : s.timeout ≠ some 0) :
    timeoutOf (some (s.timeout.getD 0)) = s.timeout := by
  cases ht : s.timeout with
  | none => rfl
  | some n =>
    cases n with
    | zero => exact absurd ht h
    | succ n => rfl

theorem normal_of_clean (hentry : Clean s.entryName) (hloader : ∀ url ∈ s.loader, blank url = false)
    (htimeout : s.timeout ≠ some 0) (hexternals : (s.externals.map External.specifier).Nodup) :
    Normal s where
  entry := hentry
  loader := hloader
  timeout := htimeout
  externals := hexternals
  again := by
    rw [ofOptions, options, entryOf_clean hentry, loaderOf_options hloader,
      timeoutOf_options htimeout, Option.getD_some, lastEntries_of_nodup hexternals]
    rfl
  quiet := by
    rw [warnings, options]
    simp [hentry.not_blank, repeated_of_nodup hexternals]

theorem loaderOf_not_blank (inject : Option Bool) (loader : Option String) :
    ∀ url ∈ loaderOf inject loader, blank url = false := by
  intro url h
  rw [loaderOf.eq_def] at h
  split at h
  · cases loader with
    | none =>
      obtain rfl := Option.some.inj h
      decide +kernel
    | some url' =>
      cases hblank : blank url' with
      | true => simp [hblank] at h
      | false =>
        simp only [hblank] at h
        exact Option.some.inj h ▸ hblank
  · cases h

theorem timeoutOf_ne_zero (timeout : Option Nat) : timeoutOf timeout ≠ some 0 := by
  cases timeout with
  | none => exact nofun
  | some n => cases n <;> simp [timeoutOf]

/-- All but the entry name always comes out in normal form. So does the entry name, unless behind
its slashes there is nothing or white space: then it is empty or opens with white space. -/
theorem ofOptions_normal_iff (o : Options) :
    (Normal (ofOptions o) ↔ ¬Misnamed o) ∧
      Normal { ofOptions o with entryName := standardEntry } ∧
      '/' ∉ (ofOptions o).entryName.toList.head? ∧
      (∀ c ∈ (ofOptions o).entryName.toList.getLast?, isBlank c = false) ∧
      (Misnamed o → (∀ c ∈ (ofOptions o).entryName.toList.head?, isBlank c = true) ∧
        ofOptions (ofOptions o).options ≠ ofOptions o) := by
  have hloader := loaderOf_not_blank o.injectLoader o.loader
  have htimeout := timeoutOf_ne_zero o.timeout
  have hexternals := lastEntries_nodup (o.externals.getD pinned)
  refine ⟨⟨fun h => (clean_iff o).mp h.entry, fun h => ?_⟩, ?_, entryOf_slash _, entryOf_back _, ?_⟩
  · exact normal_of_clean ((clean_iff o).mpr h) hloader htimeout hexternals
  · exact normal_of_clean standardEntry_clean hloader htimeout hexternals
  · intro h
    have hfront := (misnamed_iff o).mp h
    exact ⟨hfront, fun heq => entryOf_ne_self hfront (congrArg Settings.entryName heq)⟩

theorem ofOptions_normal_iff_slashes :
    let named : Options := { entryName := some " //docs/a.html " }
    let misnamed : Options := { entryName := some " // a.html " }
    ¬Misnamed named ∧ Normal (ofOptions named) ∧ Misnamed misnamed ∧
      (ofOptions misnamed).entryName = " a.html" ∧
      ofOptions (ofOptions misnamed).options ≠ ofOptions misnamed := by
  intro named misnamed
  have hnamed : ¬Misnamed named := by
    rw [misnamed_iff]
    intro h
    have hd : isBlank 'd' = true := h 'd' (by decide +kernel)
    cases hd
  have hmisnamed : Misnamed misnamed := by
    refine ⟨_, rfl, [' '], ['/', '/'], " a.html ".toList, by decide +kernel, ?_, nofun, by simp, ?_⟩
    · exact List.forall_mem_singleton.mpr rfl
    · rintro c ⟨⟩
      rfl
  obtain ⟨hnormal, -⟩ := ofOptions_normal_iff named
  obtain ⟨-, -, -, -, hchanged⟩ := ofOptions_normal_iff misnamed
  exact ⟨hnamed, hnormal.mpr hnamed, hmisnamed, by decide +kernel, (hchanged hmisnamed).2⟩

/-- A name of slashes passes for a name, and what is left of it is none: every file would do as the
entry. Read back, it is replaced by the standard name. -/
theorem slashes_leave_no_entry :
    let s := ofOptions { entryName := some "/" }
    s.entryName = "" ∧ warnings { entryName := some "/" } = [] ∧
      (∀ path, Document.endsWith s.entryName path = true) ∧
      (ofOptions s.options).entryName = "index.html" ∧
      warnings s.options = ["Empty entry filename, falling back to `index.html`"] ∧
      (ofOptions { entryName := some "/ a" }).entryName = " a" := by
  intro s
  have hnone : s.entryName = "" := by decide +kernel
  refine ⟨hnone, by decide +kernel, fun path => ?_, by decide +kernel, by decide +kernel,
    by decide +kernel⟩
  rw [hnone]
  rfl

end Settings

end LivePreview
