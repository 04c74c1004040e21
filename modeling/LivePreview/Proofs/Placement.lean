import LivePreview.Proofs.Tags

namespace LivePreview.Document

variable {d front back s rest : List Char}

theorem headTag_some (h : headTag s = some rest) : ∃ c w, s = c :: (w ++ rest) := by
  obtain ⟨_, hw, rfl⟩ := headTag_eq_some_iff.mp h
  cases hw with
  | intro => exact ⟨_, _, rfl⟩

def EndsHead (d : List Char) (i : Nat) : Prop := (closingTag headName (d.drop i)).isSome = true

theorem cutAtHeadEnd_eq_none_iff : cutAtHeadEnd d = none ↔ ∀ i, ¬EndsHead d i := by
  induction d with
  | nil =>
    refine ⟨fun _ i h => ?_, fun _ => rfl⟩
    rw [EndsHead, List.drop_nil] at h
    cases h
  | cons c cs ih =>
    rw [cutAtHeadEnd]
    constructor
    · intro h i
      split at h
      · cases h
      · rename_i hc
        cases i with
        | zero => exact hc
        | succ i => exact ih.mp (Option.map_eq_none_iff.mp h) i
    · intro h
      have hc : ¬(closingTag headName (c :: cs)).isSome = true := h 0
      rw [if_neg hc, ih.mpr (fun i => h (i + 1))]
      rfl

theorem cutAtHeadEnd_some (h : cutAtHeadEnd d = some (front, back)) :
    front ++ back = d ∧ EndsHead d front.length ∧ ∀ i < front.length, ¬EndsHead d i := by
  induction d generalizing front with
  | nil => cases h
  | cons c cs ih =>
    rw [cutAtHeadEnd] at h
    split at h
    · rename_i hc
      cases h
      exact ⟨rfl, hc, fun i hi => absurd hi (Nat.not_lt_zero i)⟩
    · rename_i hc
      obtain ⟨⟨f, b⟩, hcut, heq⟩ := Option.map_eq_some_iff.mp h
      cases heq
      obtain ⟨happ, hends, hfirst⟩ := ih hcut
      refine ⟨congrArg (c :: ·) happ, hends, fun i hi => ?_⟩
      cases i with
      | zero => exact hc
      | succ i => exact hfirst i (Nat.lt_of_succ_lt_succ hi)

theorem cutAfterHead_eq_none_iff : cutAfterHead d = none ↔ ∀ i, headTag (d.drop i) = none := by
  induction d with
  | nil => exact ⟨fun _ i => by rw [List.drop_nil]; rfl, fun _ => rfl⟩
  | cons c cs ih =>
    rw [cutAfterHead]
    constructor
    · intro h i
      split at h
      · cases h
      · rename_i hc
        cases i with
        | zero => exact hc
        | succ i => exact ih.mp (Option.map_eq_none_iff.mp h) i
    · intro h
      rw [show headTag (c :: cs) = none from h 0, ih.mpr (fun i => h (i + 1))]
      rfl

theorem cutAfterHead_some (h : cutAfterHead d = some (front, back)) :
    front ++ back = d ∧
      ∃ i, headTag (d.drop i) = some back ∧ ∀ i' < i, headTag (d.drop i') = none := by
  induction d generalizing front with
  | nil => cases h
  | cons c cs ih =>
    rw [cutAfterHead] at h
    split at h
    · rename_i rest hc
      cases h
      -- what the tag leaves is the end of the text, so its length gives back the text in front
      obtain ⟨c', w, heq⟩ := headTag_some hc
      obtain ⟨rfl, rfl⟩ := List.cons.inj heq
      refine ⟨?_, 0, hc, fun i hi => absurd hi (Nat.not_lt_zero i)⟩
      rw [List.length_append, Nat.add_sub_cancel, List.take_left, List.cons_append]
    · rename_i hc
      obtain ⟨⟨f, b⟩, hcut, heq⟩ := Option.map_eq_some_iff.mp h
      cases heq
      obtain ⟨happ, i, hopens, hfirst⟩ := ih hcut
      refine ⟨congrArg (c :: ·) happ, i + 1, hopens, fun i' hi' => ?_⟩
      cases i' with
      | zero => exact hc
      | succ i' => exact hfirst i' (Nat.lt_of_succ_lt_succ hi')

/-- The place `n` lies behind the start of a tag that ends the head; in a document without such a
tag, behind the first tag that begins the head; in one without either, anywhere. -/
inductive BehindHead (d : List Char) (n : Nat) : Prop
  | ended (i : Nat) (hi : i ≤ n) (h : EndsHead d i) : BehindHead d n
  | opened (hopen : ∀ i, ¬EndsHead d i) (i : Nat) (rest : List Char)
      (h : headTag (d.drop i) = some rest) (hfirst : ∀ i' < i, headTag (d.drop i') = none)
      (hn : d.length ≤ n + rest.length) : BehindHead d n
  | headless (hopen : ∀ i, ¬EndsHead d i) (h : ∀ i, headTag (d.drop i) = none) : BehindHead d n

theorem cut_append (d : List Char) : (cut d).1 ++ (cut d).2 = d := by
  rw [cut]
  cases he : cutAtHeadEnd d with
  | some p => exact (cutAtHeadEnd_some he).1
  | none =>
    cases hs : cutAfterHead d with
    | some p => exact (cutAfterHead_some hs).1
    | none => rfl

theorem cut_le_iff (d : List Char) (n : Nat) : (cut d).1.length ≤ n ↔ BehindHead d n := by
  rw [cut]
  cases he : cutAtHeadEnd d with
  | some p =>
    obtain ⟨-, hends, hfirst⟩ := cutAtHeadEnd_some he
    constructor
    · exact fun hle => .ended p.1.length hle hends
    · rintro (⟨i, hi, hi'⟩ | ⟨hopen, -⟩ | ⟨hopen, -⟩)
      · exact Nat.le_trans (Nat.le_of_not_lt (fun hlt => hfirst i hlt hi')) hi
      · exact absurd hends (hopen _)
      · exact absurd hends (hopen _)
  | none =>
    have hopen := cutAtHeadEnd_eq_none_iff.mp he
    cases hs : cutAfterHead d with
    | some p =>
      obtain ⟨happ, i, hi, hfirst⟩ := cutAfterHead_some hs
      have hlength : p.1.length + p.2.length = d.length := by rw [← List.length_append, happ]
      constructor
      · intro hle
        have hle : p.1.length ≤ n := hle
        exact .opened hopen i p.2 hi hfirst (by omega)
      · rintro (⟨i', -, hi'⟩ | ⟨-, i', rest, hi', hfirst', hn⟩ | ⟨-, hnone⟩)
        · exact absurd hi' (hopen i')
        -- both are the first opening tag
        · have hsame : i' = i := by
            refine Nat.le_antisymm (Nat.le_of_not_lt fun hlt => ?_) (Nat.le_of_not_lt fun hlt => ?_)
            · rw [hfirst' i hlt] at hi
              cases hi
            · rw [hfirst i' hlt] at hi'
              cases hi'
          subst hsame
          cases hi.symm.trans hi'
          show p.1.length ≤ n
          omega
        · rw [hnone i] at hi
          cases hi
    | none =>
      have hnone := cutAfterHead_eq_none_iff.mp hs
      exact ⟨fun _ => .headless hopen hnone, fun _ => Nat.zero_le n⟩

section Assembled

variable (e : Entry) (resources : List PublishedResource) (m : ImportMap) (settings : Settings)
  (generation : Nat)

def leading (ps : List Piece) : List Char :=
  ps.flatMap (renderPiece (fun src => resolveSource src (Path.parent e.path) resources))

def mapStart : Nat :=
  (cut (relinked e resources)).1.length +
    (loaderPart settings.loader (relinked e resources)).length

def movedTo (i : Nat) : Nat :=
  if i < (cut (relinked e resources)).1.length then i
  else i + (injection m settings.loader generation (relinked e resources)).length

def MapFirst : Prop :=
  ∀ before whole src after k, pieces e.source.toList = before ++ .script whole src :: after →
    resolveSource src (Path.parent e.path) resources = some k →
      mapStart e resources settings <
        movedTo e resources m settings generation (leading e resources before).length

theorem assemble_toList : (assemble e resources m settings generation).toList =
    (cut (relinked e resources)).1 ++
      injection m settings.loader generation (relinked e resources) ++
        (cut (relinked e resources)).2 := by
  rw [assemble]
  exact String.toList_ofList

theorem relinked_split {before after : List Piece} {whole src : List Char} {k : Handle}
    (hp : pieces e.source.toList = before ++ .script whole src :: after)
    (hk : resolveSource src (Path.parent e.path) resources = some k) :
    relinked e resources =
      leading e resources before ++ (moduleTag k ++ leading e resources after) := by
  rw [relinked, hp, List.flatMap_append, List.flatMap_cons, renderPiece, hk]
  rfl

theorem getElem?_splice (front new back : List Char) (i : Nat) :
    (front ++ new ++ back)[if i < front.length then i else i + new.length]? =
      (front ++ back)[i]? := by
  by_cases hi : i < front.length
  · rw [if_pos hi, List.append_assoc, List.getElem?_append_left hi, List.getElem?_append_left hi]
  · rw [if_neg hi, List.getElem?_append_right (by rw [List.length_append]; omega),
      List.getElem?_append_right (Nat.le_of_not_lt hi), List.length_append]
    congr 1
    omega

theorem mapStart_lt_iff (i : Nat) :
    mapStart e resources settings < movedTo e resources m settings generation i ↔
      (cut (relinked e resources)).1.length ≤ i := by
  have hmap : 0 < (importMapTag m).length := by
    refine List.length_pos_iff.mpr (fun hnil => ?_)
    have hfront := (List.append_eq_nil_iff.mp (List.append_eq_nil_iff.mp hnil).1).1
    exact absurd hfront (by decide +kernel)
  rw [mapStart, movedTo]
  by_cases hi : i < (cut (relinked e resources)).1.length
  · rw [if_pos hi]
    omega
  · rw [if_neg hi, injection, List.length_append, List.length_append]
    omega

/-- The import map begins before a tag that leads to a resource exactly when that tag stands behind
the head of the relinked text; all else is as in that text. -/
theorem assemble_map_first_iff :
    importMapTag m <+:
        (assemble e resources m settings generation).toList.drop (mapStart e resources settings) ∧
      (∀ i, (assemble e resources m settings generation).toList[
          movedTo e resources m settings generation i]? = (relinked e resources)[i]?) ∧
      ∀ before whole src after k, pieces e.source.toList = before ++ .script whole src :: after →
        resolveSource src (Path.parent e.path) resources = some k →
          moduleTag k <+: (relinked e resources).drop (leading e resources before).length ∧
          (mapStart e resources settings <
              movedTo e resources m settings generation (leading e resources before).length ↔
            BehindHead (relinked e resources) (leading e resources before).length) := by
  refine ⟨?_, fun i => ?_, fun before whole src after k hp hk => ⟨?_, ?_⟩⟩
  · rw [assemble_toList, injection, mapStart, ← List.length_append, List.append_assoc,
      List.append_assoc, List.append_assoc, ← List.append_assoc, List.drop_left]
    exact List.prefix_append _ _
  · rw [assemble_toList, movedTo, getElem?_splice, cut_append]
  · rw [relinked_split e resources hp hk, List.drop_left]
    exact List.prefix_append _ _
  · rw [mapStart_lt_iff, cut_le_iff]

end Assembled

def plainSettings : Settings := Settings.ofOptions { injectLoader := some false }

theorem assemble_map_first_iff_body :
    let e : Entry := ⟨"index.html",
      "<head><script src=\"a.js\"></script></head><script defer src='./b.js'></script>"⟩
    let resources : List PublishedResource :=
      [⟨"a.js", .script, ⟨"blob:livepack/1"⟩⟩, ⟨"b.js", .script, ⟨"blob:livepack/2"⟩⟩]
    let before := (pieces e.source.toList).take 14
    let whole := "<script defer src='./b.js'></script>".toList
    pieces e.source.toList = before ++ [.script whole "./b.js".toList] ∧
      resolveSource "./b.js".toList (Path.parent e.path) resources = some ⟨"blob:livepack/2"⟩ ∧
      mapStart e resources plainSettings <
        movedTo e resources Table.empty plainSettings 1 (leading e resources before).length := by
  intro e resources before whole
  have hp : pieces e.source.toList = before ++ [.script whole "./b.js".toList] := by
    decide +kernel
  have hk : resolveSource "./b.js".toList (Path.parent e.path) resources =
      some ⟨"blob:livepack/2"⟩ := by decide +kernel
  refine ⟨hp, hk, ?_⟩
  refine ((assemble_map_first_iff e resources Table.empty plainSettings 1).2.2 before whole
    "./b.js".toList [] ⟨"blob:livepack/2"⟩ hp hk).2.mpr ?_
  exact .ended 59 (by decide +kernel) (by rw [EndsHead]; decide +kernel)

/-- A script in the head comes before the import map, and so does one that stands in front of an
opening tag of a head that is never closed. -/
theorem script_before_map :
    let resources : List PublishedResource := [⟨"a.js", .script, ⟨"blob:livepack/1"⟩⟩]
    ¬MapFirst ⟨"index.html", "<head><script src=\"a.js\"></script></head>"⟩ resources Table.empty
        plainSettings 1 ∧
      ¬MapFirst ⟨"index.html", "<script src=\"a.js\"></script><head>"⟩ resources Table.empty
        plainSettings 1 := by
  intro resources
  constructor
  · intro h
    have hfirst := h ("<head>".toList.map .char) "<script src=\"a.js\"></script>".toList
      "a.js".toList ("</head>".toList.map .char) ⟨"blob:livepack/1"⟩ (by decide +kernel)
      (by decide +kernel)
    revert hfirst
    decide +kernel
  · intro h
    have hfirst := h [] "<script src=\"a.js\"></script>".toList "a.js".toList
      ("<head>".toList.map .char) ⟨"blob:livepack/1"⟩ (by decide +kernel) (by decide +kernel)
    revert hfirst
    decide +kernel

end LivePreview.Document
