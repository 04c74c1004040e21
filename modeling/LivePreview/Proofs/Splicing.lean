import LivePreview.Proofs.Placement
import LivePreview.Proofs.Shim

namespace LivePreview

namespace Text

theorem occursIn_iff {mark text : List Char} : occursIn mark text = true ↔ mark <:+: text := by
  rw [occursIn]
  induction text with
  | nil =>
    rw [afterFirst, List.infix_nil, ← List.isEmpty_iff]
    split <;> simp_all
  | cons c cs ih =>
    rw [afterFirst, List.infix_cons_iff, ← List.isPrefixOf_iff_prefix]
    by_cases hc : mark.isPrefixOf (c :: cs) = true
    · simp [hc]
    · rw [if_neg hc, ih]
      simp [hc]

end Text

namespace Document

open LivePreview.Text

variable {s : List Char}

theorem handleAt_some {path : String} {resources : List PublishedResource} {k : Handle}
    (h : handleAt path resources = some k) : ∃ r ∈ resources, r.path = path ∧ r.handle = k := by
  induction resources with
  | nil => cases h
  | cons r rs ih =>
    rw [handleAt] at h
    split at h
    · rename_i hlater
      cases h
      obtain ⟨r', hr', hfound⟩ := ih hlater
      exact ⟨r', List.mem_cons_of_mem r hr', hfound⟩
    · obtain ⟨hpath, hk⟩ := Option.ite_none_right_eq_some.mp h
      exact ⟨r, List.mem_cons_self, hpath, Option.some.inj hk⟩

theorem resolveSource_some {src : List Char} {dir : String} {resources : List PublishedResource}
    {k : Handle} (h : resolveSource src dir resources = some k) :
    ∃ r ∈ resources, r.handle = k := by
  have hpublished {path : String} {k : Handle} (h : handleAt path resources = some k) :
      ∃ r ∈ resources, r.handle = k := by
    obtain ⟨r, hr, -, hk⟩ := handleAt_some h
    exact ⟨r, hr, hk⟩
  rw [resolveSource] at h
  split at h
  · rename_i hclean
    cases h
    exact hpublished hclean
  · split at h
    · rename_i hwritten
      cases h
      exact hpublished hwritten
    · obtain ⟨path, -, hjoined⟩ := Option.bind_eq_some_iff.mp h
      exact hpublished hjoined

/-- The text `d` is the text `s` with every script element that leads to a resource replaced by the
tag of that resource, and all else as it is; elements are found from the left. -/
inductive Relinks (resolve : List Char → Option Handle) (resources : List PublishedResource) :
    List Char → List Char → Prop
  | nil : Relinks resolve resources [] []
  | keep {c : Char} {s d : List Char} (h : ∀ src w, ScriptElement src w → ¬w <+: c :: s)
      (hrest : Relinks resolve resources s d) : Relinks resolve resources (c :: s) (c :: d)
  | leave {whole src s d : List Char} (hw : ScriptElement src whole)
      (h : scriptAt (whole ++ s) = some (src, s)) (hsrc : resolve src = none)
      (hrest : Relinks resolve resources s d) :
      Relinks resolve resources (whole ++ s) (whole ++ d)
  | lead {whole src s d : List Char} {r : PublishedResource} (hw : ScriptElement src whole)
      (h : scriptAt (whole ++ s) = some (src, s)) (hr : r ∈ resources)
      (hsrc : resolve src = some r.handle) (hrest : Relinks resolve resources s d) :
      Relinks resolve resources (whole ++ s) (moduleTag r.handle ++ d)

theorem relinks_pieces {resolve : List Char → Option Handle} {resources : List PublishedResource}
    (hresolve : ∀ src k, resolve src = some k → ∃ r ∈ resources, r.handle = k) (s : List Char) :
    Relinks resolve resources s ((pieces s).flatMap (renderPiece resolve)) := by
  -- on the length, as an element is passed over as a whole
  induction hn : s.length using Nat.strong_induction_on generalizing s with
  | _ n ih =>
    subst hn
    cases s with
    | nil =>
      rw [pieces]
      exact .nil
    | cons c cs =>
      cases h : scriptAt (c :: cs) with
      | none =>
        rw [pieces_char h]
        exact .keep (scriptAt_eq_none_iff.mp h) (ih cs.length (Nat.lt_add_one _) cs rfl)
      | some found =>
        obtain ⟨src, rest⟩ := found
        obtain ⟨whole, hw, hwhole⟩ := scriptAt_some h
        have hshorter : rest.length < (whole ++ rest).length := by
          cases hw with
          | intro => simp only [List.length_append, List.length_cons]; omega
        rw [hwhole] at h ih ⊢
        have hrest := ih rest.length hshorter rest rfl
        rw [pieces_script hw h, List.flatMap_cons]
        cases hsrc : resolve src with
        | none =>
          rw [renderPiece, hsrc]
          exact .leave hw h hsrc hrest
        | some k =>
          obtain ⟨r, hr, rfl⟩ := hresolve src k hsrc
          rw [renderPiece, hsrc]
          exact .lead hw h hr hsrc hrest

theorem Relinks.unchanged {resolve : List Char → Option Handle}
    {resources : List PublishedResource} {s d : List Char} (h : Relinks resolve resources s d)
    (hnone : ∀ whole src, .script whole src ∈ pieces s → resolve src = none) : d = s := by
  induction h with
  | nil => rfl
  | keep h hrest ih =>
    rw [pieces_char (scriptAt_eq_none_iff.mpr h)] at hnone
    rw [ih (fun whole src hp => hnone whole src (List.mem_cons_of_mem _ hp))]
  | leave hw h hsrc hrest ih =>
    rw [pieces_script hw h] at hnone
    rw [ih (fun whole src hp => hnone whole src (List.mem_cons_of_mem _ hp))]
  | lead hw h hr hsrc hrest ih =>
    rw [pieces_script hw h] at hnone
    rw [hnone _ _ List.mem_cons_self] at hsrc
    cases hsrc

def StandsAt (tag : List Char → Prop) (d : List Char) (i : Nat) : Prop :=
  ∃ w, tag w ∧ w <+: d.drop i

theorem standsAt_iff {tag : List Char → Prop} {read : List Char → Option (List Char)}
    (hread : ∀ s rest, read s = some rest ↔ ∃ w, tag w ∧ s = w ++ rest) {d : List Char} {i : Nat} :
    (read (d.drop i)).isSome = true ↔ StandsAt tag d i := by
  simp only [Option.isSome_iff_exists, hread, StandsAt]
  constructor
  · rintro ⟨rest, w, hw, heq⟩
    exact ⟨w, hw, rest, heq.symm⟩
  · rintro ⟨w, hw, rest, heq⟩
    exact ⟨rest, w, hw, heq.symm⟩

theorem endsHead_iff {d : List Char} {i : Nat} : EndsHead d i ↔ StandsAt (Closes headed) d i := by
  rw [← spelled_head]
  exact standsAt_iff (fun _ _ => closingTag_eq_some_iff)

theorem headTag_none_iff {d : List Char} {i : Nat} :
    headTag (d.drop i) = none ↔ ¬StandsAt (Opens headed) d i := by
  rw [← spelled_head, ← standsAt_iff (fun _ _ => headTag_eq_some_iff),
    Option.not_isSome_iff_eq_none]

/-- The place at which text is put into a head: where its first closing tag begins; without one,
where its first opening tag ends; without either, the start. -/
inductive PutAt (d : List Char) : Nat → Prop
  | closed {n : Nat} (h : StandsAt (Closes headed) d n)
      (hfirst : ∀ i < n, ¬StandsAt (Closes headed) d i) : PutAt d n
  | opened {i : Nat} {w : List Char} (hunclosed : ∀ i, ¬StandsAt (Closes headed) d i)
      (hw : Opens headed w) (h : w <+: d.drop i)
      (hfirst : ∀ i' < i, ¬StandsAt (Opens headed) d i') : PutAt d (i + w.length)
  | bare (hunclosed : ∀ i, ¬StandsAt (Closes headed) d i)
      (hunopened : ∀ i, ¬StandsAt (Opens headed) d i) : PutAt d 0

theorem putAt_cut (d : List Char) : PutAt d (cut d).1.length := by
  rw [cut]
  cases he : cutAtHeadEnd d with
  | some p =>
    obtain ⟨-, hends, hfirst⟩ := cutAtHeadEnd_some he
    exact .closed (endsHead_iff.mp hends) (fun i hi => mt endsHead_iff.mpr (hfirst i hi))
  | none =>
    have hunclosed (i : Nat) : ¬StandsAt (Closes headed) d i :=
      mt endsHead_iff.mpr (cutAtHeadEnd_eq_none_iff.mp he i)
    cases hs : cutAfterHead d with
    | some p =>
      obtain ⟨happ, i, hi, hfirst⟩ := cutAfterHead_some hs
      obtain ⟨w, hw, hdrop⟩ := headTag_eq_some_iff.mp hi
      rw [spelled_head] at hw
      have hlength : p.1.length = i + w.length := by
        have hdocument := congrArg List.length happ
        have hrest := congrArg List.length hdrop
        have hpos : 0 < w.length := by
          cases hw with
          | intro => exact Nat.zero_lt_succ _
        simp only [List.length_append, List.length_drop] at hdocument hrest
        omega
      have hput : PutAt d (i + w.length) := .opened hunclosed hw ⟨p.2, hdrop.symm⟩
        (fun i' hi' => headTag_none_iff.mp (hfirst i' hi'))
      rw [← hlength] at hput
      exact hput
    | none =>
      exact .bare hunclosed (fun i => headTag_none_iff.mp (cutAfterHead_eq_none_iff.mp hs i))

/-- The tag of the loader is put into a document that a loader is set for and its marker is not
found in. -/
inductive Loads (document : List Char) : Option String → List Char → Prop
  | unset : Loads document none []
  | present {url : String} (h : loaderMarker url.toList <:+: document) :
      Loads document (some url) []
  | missing {url : String} (h : ¬loaderMarker url.toList <:+: document) :
      Loads document (some url) (loaderTag url)

theorem loads_loaderPart (loader : Option String) (document : List Char) :
    Loads document loader (loaderPart loader document) := by
  cases loader with
  | none => exact .unset
  | some url =>
    rw [loaderPart]
    split
    · rename_i h
      exact .present (occursIn_iff.mp h)
    · rename_i h
      exact .missing (mt occursIn_iff.mpr h)

section

variable (e : Entry) (resources : List PublishedResource) (m : ImportMap) (settings : Settings)
  (generation : Nat)

/-- The assembled document is the entry with its script elements led to the resources, and with one
stretch of text put into its head: the loader, the import map and the reporter, in this order. -/
theorem assemble_splices :
    ∃ front loader opening ending back,
      (assemble e resources m settings generation).toList =
        front ++ (loader ++ importMapTag m ++ ("<script>\n".toList ++
          (opening ++ (Nat.toDigits 10 generation ++ ending)) ++ "</script>\n".toList)) ++ back ∧
      Relinks (fun src => resolveSource src (Path.parent e.path) resources) resources
        e.source.toList (front ++ back) ∧
      ((∀ whole src, .script whole src ∈ pieces e.source.toList →
          resolveSource src (Path.parent e.path) resources = none) →
        front ++ back = e.source.toList) ∧
      PutAt (front ++ back) front.length ∧
      Loads (front ++ back) settings.loader loader ∧
      shimTemplate.toList = opening ++ (placeholder.toList ++ ending) := by
  obtain ⟨opening, ending, htemplate, hshim⟩ := shim_split
  have hrelinks : Relinks (fun src => resolveSource src (Path.parent e.path) resources) resources
      e.source.toList (relinked e resources) :=
    relinks_pieces (fun _ _ h => resolveSource_some h) e.source.toList
  refine ⟨(cut (relinked e resources)).1, loaderPart settings.loader (relinked e resources),
    opening, ending, (cut (relinked e resources)).2, ?_, ?_⟩
  · rw [← hshim]
    exact assemble_toList e resources m settings generation
  · rw [cut_append]
    exact ⟨hrelinks, hrelinks.unchanged, putAt_cut _, loads_loaderPart _ _, htemplate⟩

end

end Document

end LivePreview
