import LivePreview.Proofs.Attributes
import LivePreview.Proofs.Splicing

namespace LivePreview

namespace Document

open Markup

def moduleOpening (k : Handle) : OpeningTag :=
  ⟨"script", [("type", "module"), ("src", k.uri)]⟩

theorem moduleOpening_named (k : Handle) : (moduleOpening k).Named := by
  have hnames : IsName "script" ∧ IsName "type" ∧ IsName "src" := by
    simp only [IsName]
    decide +kernel
  refine ⟨hnames.1, ?_⟩
  simp only [moduleOpening, List.forall_mem_cons]
  exact ⟨hnames.2.1, hnames.2.2, List.forall_mem_nil _⟩

theorem moduleTag_written (k : Handle) :
    moduleTag k = (moduleOpening k).written ++ "</script>".toList := by
  have htag : moduleTag k = "<script type=\"module\" src=\"".toList ++ attributeSafe k.uri.toList ++
      "\"></script>".toList := rfl
  have hopen : "<script type=\"module\" src=\"".toList =
      '<' :: ("script".toList ++ (writtenAttribute ("type", "module") ++
        ' ' :: ("src".toList ++ ['=', '\x22']))) := by decide +kernel
  have hclose : "\"></script>".toList = '\x22' :: '>' :: "</script>".toList := by decide +kernel
  simp only [htag, hopen, hclose, moduleOpening, OpeningTag.written, OpeningTag.inner,
    List.flatMap_cons, List.flatMap_nil, writtenAttribute, List.append_assoc, List.cons_append,
    List.nil_append]

/-- The first tag that opens a head, in a document where none closes it, begins no later than the
place and ends behind it. -/
def Overrun (d : List Char) (place : Nat) : Prop :=
  (∀ i, ¬StandsAt (Closes headed) d i) ∧ ∃ i w, Opens headed w ∧ w <+: d.drop i ∧
    (∀ i' < i, ¬StandsAt (Opens headed) d i') ∧ i ≤ place ∧ place < i + w.length

theorem getElem?_of_ahead {d w : List Char} {i j : Nat} (h : w <+: d.drop i) (hj : j < w.length) :
    d[i + j]? = w[j]? := by
  obtain ⟨rest, hrest⟩ := h
  rw [← List.getElem?_drop, ← hrest, List.getElem?_append_left hj]

theorem Opens.bracket_last {w : List Char} (h : Opens headed w) :
    ∃ body, w = body ++ ['>'] ∧ '>' ∉ body := by
  obtain @⟨letters, inner, hname, -, hinner⟩ := h
  have hletters : '>' ∉ letters := by
    intro hmem
    have hlower := List.mem_map_of_mem (f := Char.toLower) hmem
    rw [show letters.map Char.toLower = headName from hname] at hlower
    exact absurd hlower (by decide)
  refine ⟨'<' :: (letters ++ inner), by simp, ?_⟩
  simp [hletters, hinner]

theorem Opens.unique {s w w' : List Char} (h : Opens headed w) (h' : Opens headed w')
    (hs : w <+: s) (hs' : w' <+: s) : w = w' := by
  rw [← spelled_head] at h h'
  obtain ⟨rest, rfl⟩ := hs
  obtain ⟨rest', hrest'⟩ := hs'
  have hread : headTag (w ++ rest) = some rest := headTag_eq_some_iff.mpr ⟨w, h, rfl⟩
  cases hread.symm.trans (headTag_eq_some_iff.mpr ⟨w', h', hrest'.symm⟩)
  exact (List.append_cancel_right hrest').symm

theorem PutAt.eq_of_opened {d w : List Char} {i n : Nat} (hput : PutAt d n)
    (hunclosed : ∀ i, ¬StandsAt (Closes headed) d i) (hw : Opens headed w) (h : w <+: d.drop i)
    (hfirst : ∀ i' < i, ¬StandsAt (Opens headed) d i') : n = i + w.length := by
  cases hput with
  | closed hclosed => exact absurd hclosed (hunclosed n)
  | @opened i' w' _ hw' h' hfirst' =>
    have hsame : i' = i := by
      refine Nat.le_antisymm (Nat.le_of_not_lt fun hlt => ?_) (Nat.le_of_not_lt fun hlt => ?_)
      · exact hfirst' i hlt ⟨w, hw, h⟩
      · exact hfirst i' hlt ⟨w', hw', h'⟩
    subst hsame
    rw [hw.unique hw' h h']
  | bare _ hunopened => exact absurd ⟨w, hw, h⟩ (hunopened i)

theorem Opens.bracket_ahead {d w : List Char} {i : Nat} (hw : Opens headed w) (h : w <+: d.drop i) :
    d[i]? = some '<' := by
  obtain ⟨⟩ := hw
  exact getElem?_of_ahead h (j := 0) (by simp)

theorem Closes.bracket_ahead {d w : List Char} {i : Nat} (hw : Closes headed w)
    (h : w <+: d.drop i) : d[i]? = some '<' := by
  obtain ⟨⟩ := hw
  exact getElem?_of_ahead h (j := 0) (by simp)

/-- A tag with the text `inner` between its brackets, in which none opens, stands at the place. -/
structure TagAt (d inner : List Char) (start : Nat) : Prop where
  ahead : '<' :: (inner ++ ['>']) <+: d.drop start
  bracket_not_mem : '<' ∉ inner

namespace TagAt

variable {d inner w : List Char} {start i : Nat}

theorem bracket (ht : TagAt d inner start) : d[start]? = some '<' :=
  getElem?_of_ahead ht.ahead (j := 0) (by simp)

theorem inside (ht : TagAt d inner start) {j : Nat} (hj : j < inner.length + 1) :
    d[start + (j + 1)]? = (inner ++ ['>'])[j]? := by
  rw [getElem?_of_ahead ht.ahead (by simpa using hj), List.getElem?_cons_succ]

theorem not_bracket (ht : TagAt d inner start) (hi : start < i)
    (hend : i < start + (inner.length + 2)) : d[i]? ≠ some '<' := by
  intro hbracket
  obtain ⟨j, rfl⟩ : ∃ j, i = start + (j + 1) := ⟨i - start - 1, by omega⟩
  rw [ht.inside (by omega)] at hbracket
  have hmem := List.mem_of_getElem? hbracket
  simp [ht.bracket_not_mem] at hmem

/-- An opening that ends between the brackets begins in front of them and ends with a bracket that
stands there. -/
theorem close_mem (ht : TagAt d inner start) (hw : Opens headed w) (hahead : w <+: d.drop i)
    (hlow : start < i + w.length) (hhigh : i + w.length < start + (inner.length + 2)) :
    i ≤ start ∧ '>' ∈ inner := by
  obtain ⟨body, hbody, -⟩ := hw.bracket_last
  have hlength : w.length = body.length + 1 := by simp [hbody]
  have hi : i ≤ start :=
    Nat.le_of_not_lt fun hlt => ht.not_bracket hlt (by omega) (hw.bracket_ahead hahead)
  have hclose : d[i + body.length]? = some '>' := by
    rw [getElem?_of_ahead hahead (by omega), hbody, List.getElem?_concat_length]
  have hbehind : i + body.length ≠ start := by
    intro heq
    rw [heq, ht.bracket] at hclose
    cases hclose
  obtain ⟨j, hj⟩ : ∃ j, i + body.length = start + (j + 1) := ⟨i + body.length - start - 1, by omega⟩
  rw [hj, ht.inside (by omega), List.getElem?_append_left (by omega)] at hclose
  exact ⟨hi, List.mem_of_getElem? hclose⟩

/-- An opening that runs into the tag ends no later than at the first bracket it finds there. -/
theorem ends_within (ht : TagAt d inner start) (hmem : '>' ∈ inner) (hw : Opens headed w)
    (hahead : w <+: d.drop i) (hi : i ≤ start) :
    i + w.length < start + (inner.length + 2) := by
  obtain ⟨body, rfl, hbody⟩ := hw.bracket_last
  obtain ⟨j, hj⟩ := List.getElem?_of_mem hmem
  obtain ⟨hlt, -⟩ := List.getElem?_eq_some_iff.mp hj
  refine Nat.lt_of_not_le fun hbeyond => ?_
  rw [List.length_append, List.length_singleton] at hbeyond
  obtain ⟨l, hl⟩ : ∃ l, start + (j + 1) = i + l := ⟨start + (j + 1) - i, by omega⟩
  have hlast : (body ++ ['>'])[l]? = body[l]? := List.getElem?_append_left (by omega)
  have hbracket : body[l]? = some '>' := by
    rw [← hlast, ← getElem?_of_ahead hahead (by simp; omega), ← hl, ht.inside (by omega),
      List.getElem?_append_left hlt, hj]
  exact hbody (List.mem_of_getElem? hbracket)

end TagAt

/-- Text is put between the brackets of a tag exactly when a tag that opens the head runs into that
tag and finds its own bracket there. -/
theorem PutAt.within_iff {d inner : List Char} {start n : Nat} (hput : PutAt d n)
    (ht : TagAt d inner start) :
    (start < n ∧ n < start + (inner.length + 2)) ↔ '>' ∈ inner ∧ Overrun d start := by
  constructor
  · rintro ⟨hlow, hhigh⟩
    cases hput with
    | closed h =>
      obtain ⟨w, hw, hahead⟩ := h
      exact absurd (hw.bracket_ahead hahead) (ht.not_bracket hlow hhigh)
    | @opened i w hunclosed hw hahead hfirst =>
      obtain ⟨hi, hmem⟩ := ht.close_mem hw hahead hlow hhigh
      exact ⟨hmem, hunclosed, i, w, hw, hahead, hfirst, hi, hlow⟩
    | bare => exact absurd hlow (Nat.not_lt_zero start)
  · rintro ⟨hmem, hunclosed, i, w, hw, hahead, hfirst, hi, hover⟩
    rw [hput.eq_of_opened hunclosed hw hahead hfirst]
    exact ⟨hover, ht.ends_within hmem hw hahead hi⟩

theorem prefix_splice {front back w : List Char} (new : List Char) {i : Nat}
    (hw : w <+: (front ++ back).drop i) (hne : w ≠ [])
    (hout : front.length ≤ i ∨ i + w.length ≤ front.length) :
    w <+: (front ++ new ++ back).drop (if i < front.length then i else i + new.length) := by
  have hpos := List.length_pos_iff.mpr hne
  by_cases hi : i < front.length
  · have hfits : w.length ≤ (front.drop i).length := by
      rw [List.length_drop]
      omega
    rw [List.drop_append_of_le_length (Nat.le_of_lt hi)] at hw
    rw [if_pos hi, List.append_assoc, List.drop_append_of_le_length (Nat.le_of_lt hi)]
    exact (List.prefix_of_prefix_length_le hw (List.prefix_append _ _) hfits).trans
      (List.prefix_append _ _)
  · obtain ⟨j, rfl⟩ := Nat.exists_eq_add_of_le (Nat.le_of_not_lt hi)
    have hdrop : (front ++ new ++ back).drop (front.length + j + new.length) = back.drop j := by
      rw [Nat.add_right_comm, ← List.length_append, List.drop_length_add_append]
    rw [List.drop_length_add_append] at hw
    rw [if_neg hi, hdrop]
    exact hw

section

variable (e : Entry) (resources : List PublishedResource) (m : ImportMap) (settings : Settings)
  (generation : Nat)

theorem relinked_module {before after : List Piece} {whole src : List Char} {k : Handle}
    (hp : pieces e.source.toList = before ++ .script whole src :: after)
    (hk : resolveSource src (Path.parent e.path) resources = some k) :
    (relinked e resources).drop (leading e resources before).length =
      (moduleOpening k).written ++ ("</script>".toList ++ leading e resources after) := by
  rw [relinked_split e resources hp hk, List.drop_left, moduleTag_written, List.append_assoc]

theorem injection_bracket (loader : Option String) (document : List Char) :
    ['<'] <+: injection m loader generation document := by
  have hmap : ['<'] <+: "<script type=\"importmap\">".toList := by decide +kernel
  have hloader : ['<'] <+: "<script src=\"".toList := by decide +kernel
  have hmapTag : ['<'] <+: importMapTag m :=
    hmap.trans ((List.prefix_append _ _).trans (List.prefix_append _ _))
  have hloaderTag (url : String) : ['<'] <+: loaderTag url :=
    hloader.trans ((List.prefix_append _ _).trans (List.prefix_append _ _))
  have hloads := loads_loaderPart loader document
  rewrite [injection, List.append_assoc]
  generalize loaderPart loader document = part at hloads ⊢
  cases hloads with
  | unset => exact hmapTag.trans (List.prefix_append _ _)
  | present h => exact hmapTag.trans (List.prefix_append _ _)
  | missing h => exact (hloaderTag _).trans (List.prefix_append _ _)

theorem close_mem_safe_iff {s : List Char} : '>' ∈ attributeSafe s ↔ '>' ∈ s := by
  induction s with
  | nil => exact Iff.rfl
  | cons c s ih =>
    rcases attributeSafe_cases c s with ⟨rfl, h⟩ | ⟨rfl, h⟩ | ⟨rfl, h⟩ | ⟨-, h⟩
    · simp [h, ih]
    · simp [h, ih]
    · simp [h, ih]
    · rw [h, List.mem_cons, List.mem_cons, ih]

theorem close_mem_moduleOpening_iff {k : Handle} :
    '>' ∈ (moduleOpening k).inner ↔ '>' ∈ k.uri.toList := by
  simp [OpeningTag.inner, moduleOpening, writtenAttribute, close_mem_safe_iff]

theorem assembled_module_iff {before after : List Piece} {whole src : List Char} {k : Handle}
    (hp : pieces e.source.toList = before ++ .script whole src :: after)
    (hk : resolveSource src (Path.parent e.path) resources = some k) :
    (moduleOpening k).written <+: (assemble e resources m settings generation).toList.drop
        (movedTo e resources m settings generation (leading e resources before).length) ↔
      ¬('>' ∈ k.uri.toList ∧ Overrun (relinked e resources) (leading e resources before).length) := by
  have hstands := relinked_module e resources hp hk
  have hbracket := (moduleOpening_named k).bracket_not_mem
  have htag : TagAt (relinked e resources) (moduleOpening k).inner
      (leading e resources before).length := ⟨hstands ▸ List.prefix_append _ _, hbracket⟩
  have hwithin := (putAt_cut (relinked e resources)).within_iff htag
  have hlength : (moduleOpening k).written.length = (moduleOpening k).inner.length + 2 := by
    simp [OpeningTag.written]
  rw [← close_mem_moduleOpening_iff, ← hwithin, assemble_toList, movedTo]
  constructor
  · rintro hwhole ⟨hlow, hhigh⟩
    rw [if_pos hlow] at hwhole
    obtain ⟨j, hj⟩ : ∃ j, (cut (relinked e resources)).1.length =
        (leading e resources before).length + (j + 1) :=
      ⟨(cut (relinked e resources)).1.length - (leading e resources before).length - 1, by omega⟩
    have hput := getElem?_of_ahead hwhole (j := j + 1) (by omega)
    obtain ⟨more, hmore⟩ := injection_bracket m generation settings.loader (relinked e resources)
    rw [← hj, List.append_assoc, List.getElem?_append_right (Nat.le_refl _), Nat.sub_self,
      ← hmore] at hput
    have hmem : '<' ∈ (moduleOpening k).inner ++ ['>'] := List.mem_of_getElem? hput.symm
    simp [hbracket] at hmem
  · intro hout
    refine prefix_splice _ ?_ (List.cons_ne_nil _ _) (by omega)
    rw [cut_append, hstands]
    exact List.prefix_append _ _

end

/-- Escaping a value is undone by reading it. So whatever characters a handle holds, the tag of its
frame has the three attributes that it is meant to have and the frame holds nothing, and the tag of
every relinked script names the handle. The text that is put into the document leaves such a tag
whole unless the handle holds a bracket and the script stands between the brackets of a tag that
opens a head. -/
theorem attributes_read_back :
    (∀ v : String, '\x22' ∉ (escapeAttribute v).toList ∧ '<' ∉ (escapeAttribute v).toList ∧
      String.ofList (decoded (escapeAttribute v).toList) = v) ∧
    Function.Injective escapeAttribute ∧
    (∀ m : Mount, openingTag m.markup.toList = some
      (⟨"iframe", [("src", m.source.uri), ("title", "App Preview"),
        ("sandbox", m.policy.sandboxTokens)]⟩, "</iframe>".toList)) ∧
    ∀ (e : Entry) (resources : List PublishedResource) before whole src after k,
      pieces e.source.toList = before ++ .script whole src :: after →
      resolveSource src (Path.parent e.path) resources = some k →
        let place := (leading e resources before).length
        let overrun := '>' ∈ k.uri.toList ∧ Overrun (relinked e resources) place
        openingTag ((relinked e resources).drop place) = some
          (⟨"script", [("type", "module"), ("src", k.uri)]⟩,
            "</script>".toList ++ leading e resources after) ∧
        ∀ m settings generation,
          let shown := (assemble e resources m settings generation).toList.drop
            (movedTo e resources m settings generation place)
          ((moduleOpening k).written <+: shown ↔ ¬overrun) ∧
          (¬overrun → ∃ rest, openingTag shown = some
            (⟨"script", [("type", "module"), ("src", k.uri)]⟩, rest)) := by
  refine ⟨fun v => ?_, escapeAttribute_injective, fun m => ?_, ?_⟩
  · rw [escapeAttribute_toList, decoded_attributeSafe, String.ofList_toList]
    exact ⟨quote_not_mem_safe _, bracket_not_mem_safe _, rfl⟩
  · rw [m.markup_written]
    exact openingTag_written m.frameTag_named _
  · intro e resources before whole src after k hp hk place overrun
    have hread (rest : List Char) := openingTag_written (moduleOpening_named k) rest
    refine ⟨?_, fun m settings generation => ?_⟩
    · rw [relinked_module e resources hp hk]
      exact hread _
    · have hwhole := assembled_module_iff e resources m settings generation hp hk
      refine ⟨hwhole, fun hout => ?_⟩
      obtain ⟨rest, hrest⟩ := hwhole.mpr hout
      rw [← hrest]
      exact ⟨rest, hread rest⟩

def unclosedHead : Entry := ⟨"index.html", "<head <script src=\"a.js\"></script>"⟩

theorem unclosedHead_pieces : pieces unclosedHead.source.toList = "<head ".toList.map Piece.char ++
    [.script "<script src=\"a.js\"></script>".toList "a.js".toList] := by
  decide +kernel

theorem attributes_read_back_unclosed :
    let k : Handle := ⟨"blob:\"a<b&/1"⟩
    let resources : List PublishedResource := [⟨"a.js", .script, k⟩]
    let before := "<head ".toList.map Piece.char
    let place := (leading unclosedHead resources before).length
    pieces unclosedHead.source.toList =
        before ++ [.script "<script src=\"a.js\"></script>".toList "a.js".toList] ∧
      resolveSource "a.js".toList (Path.parent unclosedHead.path) resources = some k ∧
      ¬('>' ∈ k.uri.toList ∧ Overrun (relinked unclosedHead resources) place) ∧
      ∃ rest, openingTag ((assemble unclosedHead resources Table.empty plainSettings 1).toList.drop
          (movedTo unclosedHead resources Table.empty plainSettings 1 place)) =
        some (⟨"script", [("type", "module"), ("src", k.uri)]⟩, rest) := by
  intro k resources before place
  have hk : resolveSource "a.js".toList (Path.parent unclosedHead.path) resources = some k := by
    decide +kernel
  have hout : ¬('>' ∈ k.uri.toList ∧ Overrun (relinked unclosedHead resources) place) :=
    fun h => absurd h.1 (by decide +kernel)
  refine ⟨unclosedHead_pieces, hk, hout, ?_⟩
  clear_value k resources
  have hread := attributes_read_back.2.2.2 unclosedHead resources before _ _ [] k
    unclosedHead_pieces hk
  exact (hread.2 Table.empty plainSettings 1).2 hout

/-- With a bracket in the handle the import map is put into the value of the tag, which is then read
up to the first quote in the map's own tag. -/
theorem overrun_source_lost :
    let k : Handle := ⟨"blob:a>b/1"⟩
    let resources : List PublishedResource := [⟨"a.js", .script, k⟩]
    let document := (assemble unclosedHead resources Table.empty plainSettings 1).toList
    let opening := "<head <script type=\"module\" src=\"".toList
    pieces unclosedHead.source.toList = "<head ".toList.map Piece.char ++
        [.script "<script src=\"a.js\"></script>".toList "a.js".toList] ∧
      resolveSource "a.js".toList (Path.parent unclosedHead.path) resources = some k ∧
      opening <+: document ∧
      String.ofList (decoded ((document.drop opening.length).takeWhile (· ≠ '\x22'))) =
        "blob:a><script type=" ∧
      "blob:a><script type=" ≠ k.uri := by
  intro k resources document opening
  have hk : resolveSource "a.js".toList (Path.parent unclosedHead.path) resources = some k := by
    decide +kernel
  have hfront : (cut (relinked unclosedHead resources)).1 = opening ++ "blob:a>".toList := by
    decide +kernel
  obtain ⟨more, hmore⟩ : ∃ more, importMapTag Table.empty =
      "<script type=".toList ++ '\x22' :: more :=
    ⟨"importmap\">".toList ++ scriptSafe (ImportMap.json Table.empty).toList ++
      "</script>\n".toList, by decide +kernel⟩
  obtain ⟨rest, hdocument⟩ : ∃ rest, document =
      opening ++ ("blob:a><script type=".toList ++ '\x22' :: rest) := by
    have hmeet : "blob:a><script type=".toList = "blob:a>".toList ++ "<script type=".toList := by
      decide +kernel
    have hloader : plainSettings.loader = none := rfl
    refine ⟨more ++ (shimTag 1 ++ (cut (relinked unclosedHead resources)).2), ?_⟩
    rewrite [show document = _ from assemble_toList .., hfront, hloader, injection, loaderPart,
      hmore, hmeet]
    simp only [List.append_assoc, List.cons_append, List.nil_append]
  have hunquoted : '\x22' ∉ "blob:a><script type=".toList := by decide +kernel
  have hplain : decoded "blob:a><script type=".toList = "blob:a><script type=".toList := by
    decide +kernel
  have hopen : ∀ c ∈ "blob:a><script type=".toList, decide (c ≠ '\x22') = true :=
    fun c hc => decide_eq_true (fun he => hunquoted (he ▸ hc))
  refine ⟨unclosedHead_pieces, hk, ⟨_, hdocument.symm⟩, ?_, by decide +kernel⟩
  rw [hdocument, List.drop_left, List.takeWhile_append_of_pos hopen,
    List.takeWhile_cons_of_neg (by decide), List.append_nil, hplain, String.ofList_toList]

end Document

end LivePreview
