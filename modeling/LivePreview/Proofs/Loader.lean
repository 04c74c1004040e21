import LivePreview.Proofs.Attributes
import Mathlib.Data.List.Chain

namespace LivePreview

namespace Text

theorem afterFirst_suffix {mark s rest : List Char} (h : afterFirst mark s = some rest) :
    rest <:+ s := by
  induction s with
  | nil =>
    rw [afterFirst] at h
    obtain ⟨-, hrest⟩ := Option.ite_none_right_eq_some.mp h
    cases hrest
    exact List.suffix_refl []
  | cons c s ih =>
    rw [afterFirst] at h
    split at h
    · cases h
      exact List.drop_suffix _ _
    · exact (ih h).trans (List.suffix_cons c s)

theorem infix_of_getLast? {w s t : List Char} {c : Char} (hlast : w.getLast? = some c)
    (hc : c ∉ t) (h : w <:+: s ++ t) : w <:+: s := by
  rcases List.infix_append_iff_ne_nil.mp h with hs | ht | ⟨u, v, -, hv, rfl, -, hahead⟩
  · exact hs
  · exact absurd (ht.subset (List.mem_of_getLast? hlast)) hc
  · rw [List.getLast?_append_of_ne_nil _ hv] at hlast
    exact absurd (hahead.subset (List.mem_of_getLast? hlast)) hc

end Text

namespace Document

open Markup LivePreview.Text

theorem loaderMarker_suffix (url : List Char) : loaderMarker url <:+ url := by
  rw [loaderMarker]
  cases h : afterFirst [':', '/', '/'] url with
  | none => exact List.suffix_refl url
  | some rest => exact afterFirst_suffix h

def loaderElement (url : String) : List Char :=
  "<script src=\"".toList ++ attributeSafe url.toList ++ "\"></script>".toList

theorem loaderElement_eq (url : String) : loaderElement url =
    "<script src=\"".toList ++ (attributeSafe url.toList ++ "\"></script>".toList) :=
  List.append_assoc _ _ _

theorem loaderTag_eq (url : String) : loaderTag url = loaderElement url ++ ['\n'] := by
  have htag : loaderTag url =
      "<script src=\"".toList ++ attributeSafe url.toList ++ "\"></script>\n".toList := rfl
  have hend : "\"></script>\n".toList = "\"></script>".toList ++ ['\n'] := by decide +kernel
  rw [htag, hend, loaderElement_eq, List.append_assoc, List.append_assoc, List.append_assoc]

theorem marker_in_element {url : String}
    (hplain : ∀ c ∈ loaderMarker url.toList, c ∉ attributeUnsafe) :
    loaderMarker url.toList <:+: loaderElement url := by
  obtain ⟨scheme, hurl⟩ := loaderMarker_suffix url.toList
  have hsafe : attributeSafe url.toList = attributeSafe scheme ++ loaderMarker url.toList := by
    rw [← attributeSafe_eq_self hplain, ← attributeSafe_append, hurl]
  rw [loaderElement_eq, hsafe]
  exact (List.infix_append _ _ _).trans (List.suffix_append _ _).isInfix

def Follows (c d : Char) : Prop := c = '&' → d ∈ ['q', 'a', 'l']

theorem isChain_plain_append {s t : List Char} (hs : '&' ∉ s) (ht : t.IsChain Follows) :
    (s ++ t).IsChain Follows := by
  induction s with
  | nil => exact ht
  | cons c s ih =>
    obtain ⟨hc, hs⟩ := not_or.mp (mt List.mem_cons.mpr hs)
    exact List.isChain_cons.mpr ⟨fun _ _ he => absurd he (Ne.symm hc), ih hs⟩

theorem isChain_safe_append (s : List Char) {t : List Char} (ht : t.IsChain Follows) :
    (attributeSafe s ++ t).IsChain Follows := by
  have hreference {c : Char} {name rest : List Char} (hc : c ∈ ['q', 'a', 'l'])
      (hname : '&' ∉ c :: name) (hrest : rest.IsChain Follows) :
      ('&' :: c :: name ++ rest).IsChain Follows :=
    List.IsChain.cons_cons (fun _ => hc) (isChain_plain_append hname hrest)
  induction s with
  | nil => exact ht
  | cons c s ih =>
    rcases attributeSafe_cases c s with ⟨-, h⟩ | ⟨-, h⟩ | ⟨-, h⟩ | ⟨hc, h⟩
    · rw [h, List.append_assoc]
      exact hreference (by decide) (by decide) ih
    · rw [h, List.append_assoc]
      exact hreference (by decide) (by decide) ih
    · rw [h, List.append_assoc]
      exact hreference (by decide) (by decide) ih
    · have hplain : '&' ∉ [c] := fun hmem => hc (List.mem_singleton.mp hmem ▸ by decide)
      rw [h]
      exact isChain_plain_append (s := [c]) hplain ih

theorem isChain_loaderElement (url : String) : (loaderElement url).IsChain Follows := by
  have hliterals : '&' ∉ "<script src=\"".toList ∧ '&' ∉ "\"></script>".toList := by
    decide +kernel
  have hclose : "\"></script>".toList.IsChain Follows := by
    rw [← List.append_nil "\"></script>".toList]
    exact isChain_plain_append hliterals.2 .nil
  rw [loaderElement_eq]
  exact isChain_plain_append hliterals.1 (isChain_safe_append _ hclose)

theorem resolveSource_nil (src : List Char) (dir : String) : resolveSource src dir [] = none := by
  cases h : resolveSource src dir [] with
  | none => rfl
  | some k =>
    obtain ⟨r, hr, -⟩ := resolveSource_some h
    cases hr

theorem relinked_nil (e : Entry) : relinked e [] = e.source.toList :=
  (relinks_pieces (fun _ _ h => resolveSource_some h) e.source.toList).unchanged
    (fun _ _ _ => resolveSource_nil _ _)

section

variable (e : Entry) (resources : List PublishedResource) (m : ImportMap) (settings : Settings)
  (generation : Nat)

def Unloaded : Prop :=
  (assemble e resources m settings generation).toList =
    (cut (relinked e resources)).1 ++ (importMapTag m ++ shimTag generation) ++
      (cut (relinked e resources)).2

def Loaded (url : String) : Prop :=
  (assemble e resources m settings generation).toList =
    (cut (relinked e resources)).1 ++ (loaderTag url ++ (importMapTag m ++ shimTag generation)) ++
      (cut (relinked e resources)).2

variable {e resources m settings generation} {url : String}

theorem assemble_loads (hurl : settings.loader = some url) :
    (loaderMarker url.toList <:+: relinked e resources ∧
      Unloaded e resources m settings generation) ∨
    (¬loaderMarker url.toList <:+: relinked e resources ∧
      Loaded e resources m settings generation url) := by
  have hloads := loads_loaderPart settings.loader (relinked e resources)
  have htext := assemble_toList e resources m settings generation
  rw [injection, List.append_assoc (loaderPart _ _)] at htext
  rw [hurl] at hloads htext
  generalize loaderPart (some url) (relinked e resources) = loader at hloads htext
  cases hloads with
  | present h => exact .inl ⟨h, htext⟩
  | missing h => exact .inr ⟨h, htext⟩

theorem Loaded.not_unloaded (h : Loaded e resources m settings generation url) :
    ¬Unloaded e resources m settings generation := by
  intro hun
  rw [Unloaded, h, List.append_left_inj, List.append_right_inj] at hun
  have hempty := List.append_left_eq_self.mp hun
  rw [loaderTag_eq] at hempty
  exact List.append_ne_nil_of_right_ne_nil _ (List.cons_ne_nil _ _) hempty

theorem Loaded.element_in_text (h : Loaded e resources m settings generation url) :
    loaderElement url <:+: (assemble e resources m settings generation).toList := by
  rw [h, loaderTag_eq, List.append_assoc _ ['\n']]
  exact ((List.prefix_append _ _).isInfix.trans (List.suffix_append _ _).isInfix).trans
    (List.prefix_append _ _).isInfix

theorem unloaded_iff (hurl : settings.loader = some url) :
    Unloaded e resources m settings generation ↔
      loaderMarker url.toList <:+: relinked e resources := by
  rcases assemble_loads hurl with ⟨hmarker, hun⟩ | ⟨hmarker, hloaded⟩
  · exact iff_of_true hun hmarker
  · exact iff_of_false hloaded.not_unloaded hmarker

theorem loaded_iff (hurl : settings.loader = some url) :
    Loaded e resources m settings generation url ↔
      ¬loaderMarker url.toList <:+: relinked e resources := by
  rcases assemble_loads hurl with ⟨hmarker, hun⟩ | ⟨hmarker, hloaded⟩
  · exact iff_of_false (fun hloaded => hloaded.not_unloaded hun) (not_not.mpr hmarker)
  · exact iff_of_true hloaded hmarker

end

/-- The loader is put into a document exactly if its marker is not found there. So a document that
holds the very tag is left without a second one exactly if the tag holds the marker, and then
neither does a rewritten document get a second one. A tag does hold the marker if that is written
without a reference, and does not if an ampersand in it is followed by what begins none. -/
theorem loader_single_iff (url : String) :
    (∀ e resources m settings generation, settings.loader = some url →
      (Unloaded e resources m settings generation ↔
        loaderMarker url.toList <:+: relinked e resources) ∧
      (Loaded e resources m settings generation url ↔
        ¬loaderMarker url.toList <:+: relinked e resources)) ∧
    ((∀ e resources m settings generation, settings.loader = some url →
        loaderElement url <:+: relinked e resources →
          Unloaded e resources m settings generation) ↔
      loaderMarker url.toList <:+: loaderElement url) ∧
    (loaderMarker url.toList <:+: loaderElement url →
      ∀ e resources m settings generation path m' settings' generation',
        settings.loader = some url → settings'.loader = some url →
          Unloaded e resources m settings generation ∨
          Unloaded ⟨path, assemble e resources m settings generation⟩ [] m' settings'
            generation') ∧
    ((∀ c ∈ loaderMarker url.toList, c ∉ attributeUnsafe) →
      loaderMarker url.toList <:+: loaderElement url) ∧
    ∀ s c t, loaderMarker url.toList = s ++ '&' :: c :: t → c ∉ ['q', 'a', 'l'] →
      ¬loaderMarker url.toList <:+: loaderElement url := by
  refine ⟨fun e resources m settings generation hurl => ⟨unloaded_iff hurl, loaded_iff hurl⟩,
    ⟨fun h => ?_, fun hmarker e resources m settings generation hurl helement => ?_⟩,
    fun hmarker e resources m settings generation path m' settings' generation' hurl hurl' => ?_,
    marker_in_element, fun s c t hsplit hc hmarker => ?_⟩
  · -- the document that is nothing but the tag
    obtain ⟨e, htext⟩ : ∃ e, relinked e [] = loaderElement url :=
      ⟨⟨"", String.ofList (loaderElement url)⟩, (relinked_nil _).trans String.toList_ofList⟩
    obtain ⟨settings, hurl⟩ : ∃ settings : Settings, settings.loader = some url :=
      ⟨{ plainSettings with loader := some url }, rfl⟩
    have hun := h e [] Table.empty settings 0 hurl
    rw [unloaded_iff hurl, htext] at hun
    exact hun (List.infix_refl _)
  · exact (unloaded_iff hurl).mpr (hmarker.trans helement)
  · rcases assemble_loads hurl with ⟨-, hun⟩ | ⟨-, hloaded⟩
    · exact .inl hun
    · refine .inr ((unloaded_iff hurl').mpr ?_)
      rw [relinked_nil]
      exact hmarker.trans hloaded.element_in_text
  · have hchain := List.IsChain.infix (isChain_loaderElement url) hmarker
    exact hc (List.isChain_iff_forall_rel_of_append_cons_cons.mp hchain hsplit rfl)

def queriedUrl : String := "https://cdn.dev/x.js?a=1&b=2"

theorem two_not_mem_shimTag : '2' ∉ shimTag 1 := by
  obtain ⟨opening, ending, htemplate, hshim⟩ := shim_split
  have htag : shimTag 1 = "<script>\n".toList ++ shim 1 ++ "</script>\n".toList := rfl
  have hliterals : '2' ∉ "<script>\n".toList ∧ '2' ∉ "</script>\n".toList := by decide +kernel
  have htext : '2' ∉ shimTemplate.toList := by
    refine not_mem_intercalate (not_mem_ofList (by decide)) ?_
    repeat refine List.forall_mem_cons.mpr ⟨not_mem_ofList (by decide), ?_⟩
    exact List.forall_mem_nil _
  rw [htemplate, List.mem_append, List.mem_append, not_or, not_or] at htext
  rw [htag, hshim]
  simp only [List.mem_append, not_or]
  exact ⟨⟨hliterals.1, htext.1, by decide, htext.2.2⟩, hliterals.2⟩

/-- The tag of a url with an ampersand is put into a document that is this tag, and again into one
that it was just put into. -/
theorem queried_loader_repeated :
    let settings : Settings := { plainSettings with loader := some queriedUrl }
    let tagged : Entry :=
      ⟨"index.html", "<script src=\"https://cdn.dev/x.js?a=1&amp;b=2\"></script>"⟩
    let bare : Entry := ⟨"index.html", "<head></head>"⟩
    relinked tagged [] = loaderElement queriedUrl ∧
      Loaded tagged [] Table.empty settings 1 queriedUrl ∧
      Loaded bare [] Table.empty settings 1 queriedUrl ∧
      Loaded ⟨"index.html", assemble bare [] Table.empty settings 1⟩ [] Table.empty settings 2
        queriedUrl := by
  intro settings tagged bare
  have htagged : relinked tagged [] = loaderElement queriedUrl := by
    rw [relinked_nil]
    decide +kernel
  have hloaded {e : Entry} {generation : Nat}
      (h : ¬loaderMarker queriedUrl.toList <:+: relinked e []) :
      Loaded e [] Table.empty settings generation queriedUrl := (loaded_iff rfl).mpr h
  have hbare : Loaded bare [] Table.empty settings 1 queriedUrl := by
    refine hloaded (mt occursIn_iff.mpr ?_)
    rw [relinked_nil]
    decide +kernel
  have hcut : cut (relinked bare []) = ("<head>".toList, "</head>".toList) := by
    rw [relinked_nil]
    decide +kernel
  refine ⟨htagged, hloaded (mt occursIn_iff.mpr ?_), hbare, hloaded (fun hin => ?_)⟩
  · rw [htagged]
    decide +kernel
  · rw [relinked_nil, hbare, hcut, ← List.append_assoc, List.append_assoc] at hin
    have hbehind : '2' ∉ importMapTag Table.empty ++ shimTag 1 ++ "</head>".toList := by
      simp only [List.mem_append, not_or]
      exact ⟨⟨by decide +kernel, two_not_mem_shimTag⟩, by decide +kernel⟩
    have hfront := infix_of_getLast? (by decide +kernel) hbehind hin
    exact absurd (occursIn_iff.mpr hfront) (by decide +kernel)

end Document

end LivePreview
