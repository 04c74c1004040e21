import LivePreview.Command
import LivePreview.Proofs.Joining

namespace LivePreview

namespace Disk

open LivePreview.Path

variable {d : Disk} {place place' : List String}

theorem walk_ok {ns : List String} (h : d.walk place ns = .ok place') :
    place' = ns.foldl child place := by
  induction ns generalizing place with
  | nil =>
    cases h
    rfl
  | cons n ns ih =>
    rw [walk] at h
    split at h
    · cases h
    · split at h
      · cases h
      · split at h
        · cases h
        · exact ih h

theorem locate_ok {path : String} (h : d.locate path = .ok place) :
    path ≠ "" ∧
      place = (names path).foldl child (if isAbsolute path.toList then [root] else []) := by
  rw [locate] at h
  split at h
  · cases h
  split at h
  · cases h
  split at h
  · cases h
  rename_i hempty
  refine ⟨fun he => hempty (he ▸ rfl), ?_⟩
  split at h
  · rename_i habsolute
    rw [isAbsolute, if_pos habsolute]
    exact walk_ok h
  · rename_i hrelative
    rw [isAbsolute, if_neg hrelative]
    exact walk_ok h

theorem child_name {s : Segment} (h : IsName s) :
    child place (String.ofList s) = place ++ [String.ofList s] := by
  obtain ⟨hempty, hdot, hup, -⟩ := h
  have hne {t : List Char} (ht : s ≠ t) : String.ofList s ≠ String.ofList t :=
    fun he => ht (String.ofList_injective he)
  have h1 : String.ofList s ≠ "" := hne hempty
  have h2 : String.ofList s ≠ "." := hne hdot
  have h3 : String.ofList s ≠ Disk.up := hne hup
  simp [child, h1, h2, h3]

theorem child_names {ss : List Segment} (h : ∀ s ∈ ss, IsName s) :
    (ss.map String.ofList).foldl child place = place ++ ss.map String.ofList := by
  induction ss generalizing place with
  | nil => simp
  | cons s ss ih =>
    obtain ⟨hs, hss⟩ := List.forall_mem_cons.mp h
    rw [List.map_cons, List.foldl_cons, child_name hs, ih hss, List.append_assoc]
    rfl

end Disk

namespace Command

open Text LivePreview.Path

variable {folder p : String}

theorem inFolder_cases (folder p : String) :
    folder = "" ∧ inFolder folder p = p ∨
      (∃ f, folder.toList = f ++ ['/'] ∧ (inFolder folder p).toList = f ++ '/' :: p.toList) ∨
      folder ≠ "" ∧ (inFolder folder p).toList = folder.toList ++ '/' :: p.toList := by
  rw [inFolder]
  by_cases hempty : folder = ""
  · subst hempty
    simp
  · by_cases hlast : folder.toList.getLast? = some '/'
    · obtain ⟨f, hf⟩ := List.getLast?_eq_some_iff.mp hlast
      simp [hf]
    · simp [hempty, hlast]

theorem parts_inFolder (folder p : String) :
    parts (inFolder folder p).toList = parts folder.toList ++ parts p.toList := by
  rcases inFolder_cases folder p with ⟨rfl, h⟩ | ⟨f, hf, h⟩ | ⟨-, h⟩
  · rw [h]
    rfl
  · rw [h, hf, parts_append, parts_append, show parts [] = [] from rfl, List.append_nil]
  · rw [h, parts_append]

theorem isAbsolute_inFolder (folder : String) (hp : isAbsolute p.toList = false) :
    isAbsolute (inFolder folder p).toList = isAbsolute folder.toList := by
  rcases inFolder_cases folder p with ⟨rfl, h⟩ | ⟨f, hf, h⟩ | ⟨hne, h⟩
  · rw [h, hp]
    rfl
  · rw [h, hf]
    cases f <;> rfl
  · rw [h]
    cases hchars : folder.toList with
    | nil => exact absurd (String.toList_eq_nil_iff.mp hchars) hne
    | cons c cs => rfl

theorem names_inFolder (hne : folder ≠ "") (p : String) (place : List String) :
    (Disk.names (inFolder folder p)).foldl Disk.child place =
      (Disk.names p).foldl Disk.child ((Disk.names folder).foldl Disk.child place) := by
  have hslash (f q : List Char) : (splitAll '/' (f ++ '/' :: q)).map String.ofList =
      (splitAll '/' f).map String.ofList ++ (splitAll '/' q).map String.ofList := by
    rw [splitAll_append, List.map_append]
  have hend (place : List String) :
      ((splitAll '/' []).map String.ofList).foldl Disk.child place = place := rfl
  rcases inFolder_cases folder p with ⟨he, -⟩ | ⟨f, hf, h⟩ | ⟨-, h⟩
  · exact absurd he hne
  · rw [Disk.names, Disk.names, Disk.names, h, hf, hslash, hslash, List.foldl_append,
      List.foldl_append, hend]
  · rw [Disk.names, Disk.names, Disk.names, h, hslash, List.foldl_append]

structure Below (folder : String) (ss : List Segment) (t : String) : Prop where
  parts : parts t.toList = parts folder.toList ++ ss
  absolute : isAbsolute t.toList = isAbsolute folder.toList
  place : ∀ (d d' : Disk) (place place' : List String), d.locate folder = .ok place →
    d'.locate t = .ok place' → place' = place ++ ss.map String.ofList

theorem below_inFolder (folder : String) {ss : List Segment} (hne : ss ≠ [])
    (h : ∀ s ∈ ss, IsName s) :
    Below folder ss (inFolder folder (String.ofList (joinWith ['/'] ss))) := by
  have hchars : (String.ofList (joinWith ['/'] ss)).toList = joinWith ['/'] ss :=
    String.toList_ofList
  have hsteps : ∀ s ∈ ss, IsStep s := fun s hs => (h s hs).isStep
  have habsolute := isAbsolute_inFolder folder (hchars ▸ joinWith_not_absolute hsteps)
  constructor
  case parts => rw [parts_inFolder, hchars, parts_joinWith hne hsteps]
  case absolute => exact habsolute
  case place =>
    intro d d' place place' hd hd'
    obtain ⟨hfolder, rfl⟩ := Disk.locate_ok hd
    obtain ⟨-, rfl⟩ := Disk.locate_ok hd'
    have hnames : Disk.names (String.ofList (joinWith ['/'] ss)) = ss.map String.ofList := by
      rw [Disk.names, hchars, splitAll_joinWith hne (fun s hs => (h s hs).2.2.2)]
    rw [habsolute, names_inFolder hfolder, hnames, Disk.child_names h]

theorem target_eq_some_iff {path t : String} : target folder path = some t ↔
    ∃ ss, ss ≠ [] ∧ joinSegments [] path.toList = some ss ∧
      t = inFolder folder (String.ofList (joinWith ['/'] ss)) := by
  have hjoin : Path.join "" path =
      (joinSegments [] path.toList).map (fun ss => String.ofList (render ss)) := rfl
  rw [target, hjoin]
  cases hss : joinSegments [] path.toList with
  | none => simp
  | some ss =>
    cases ss with
    | nil =>
      constructor
      · exact nofun
      · rintro ⟨ss, hne, hss, -⟩
        exact absurd (Option.some.inj hss).symm hne
    | cons s ss =>
      obtain ⟨hempty, hdot⟩ := joinWith_ne (by simp) (joinSegments_isStep hss)
      have hempty : String.ofList (joinWith ['/'] (s :: ss)) ≠ "" :=
        fun he => hempty (String.ofList_injective he)
      have hdot : String.ofList (joinWith ['/'] (s :: ss)) ≠ "." :=
        fun he => hdot (String.ofList_injective he)
      simp only [Option.map_some, render, Bool.or_eq_true, beq_iff_eq, hempty, hdot, or_self,
        if_false, Option.some.injEq]
      constructor
      · rintro rfl
        exact ⟨s :: ss, by simp, rfl, rfl⟩
      · rintro ⟨_, -, rfl, rfl⟩
        rfl

theorem target_eq_none_iff {path : String} : target folder path = none ↔
    Path.join "" path = none ∨ Path.join "" path = some "." := by
  rw [Option.eq_none_iff_forall_ne_some]
  constructor
  · intro h
    cases hjoin : Path.join "" path with
    | none => exact .inl rfl
    | some r =>
      obtain ⟨ss, hss, rfl⟩ := join_eq_some_iff.mp hjoin
      cases ss with
      | nil => exact .inr rfl
      | cons s ss => exact absurd (target_eq_some_iff.mpr ⟨s :: ss, by simp, hss, rfl⟩) (h _)
  · rintro hjoin t ht
    obtain ⟨ss, hne, hss, -⟩ := target_eq_some_iff.mp ht
    have hsome : Path.join "" path = some (String.ofList (render ss)) :=
      join_eq_some_iff.mpr ⟨ss, hss, rfl⟩
    rcases hjoin with h | h
    · cases h.symm.trans hsome
    · cases ss with
      | nil => exact hne rfl
      | cons s ss =>
        have hdot := String.ofList_injective (Option.some.inj (h.symm.trans hsome))
        exact (joinWith_ne hne (joinSegments_isStep hss)).2 hdot.symm

/-- What a join gives is a path of names from the start, or the start itself; so a published file is
written strictly below the output folder, if at all. -/
theorem target_confined :
    (∀ base spec r, Path.join base spec = some r ↔
      isAbsolute base.toList = false ∧ isAbsolute spec.toList = false ∧ ∃ ss,
        follow [] (splitAll '/' base.toList ++ splitAll '/' spec.toList) = some ss ∧
        ¬Dotted ss ∧ (∀ s ∈ ss, IsName s) ∧
        (ss = [] ∧ r = "." ∨ ss ≠ [] ∧ r.toList = joinWith ['/'] ss)) ∧
    (∀ base spec, isAbsolute base.toList = true ∨ isAbsolute spec.toList = true ∨
      follow [] (splitAll '/' base.toList ++ splitAll '/' spec.toList) = none →
      Path.join base spec = none) ∧
    ∀ folder path,
      (target folder path = none ↔ Path.join "" path = none ∨ Path.join "" path = some ".") ∧
      ∀ t, target folder path = some t → ∃ ss, ss ≠ [] ∧ (∀ s ∈ ss, IsName s) ∧
        follow [] (splitAll '/' path.toList) = some ss ∧ Below folder ss t := by
  refine ⟨fun base spec r => ?_, fun base spec hrefused => ?_, fun folder path =>
    ⟨target_eq_none_iff, fun t ht => ?_⟩⟩
  · rw [join_eq_some_iff]
    constructor
    · rintro ⟨ss, hss, hr⟩
      obtain ⟨hbase, hspec, hfollow, hdotted⟩ := joinSegments_eq_some_iff.mp hss
      exact ⟨hbase, hspec, ss, hfollow, hdotted, joinSegments_isName hss, render_iff.mp hr⟩
    · rintro ⟨hbase, hspec, ss, hfollow, hdotted, -, hr⟩
      exact ⟨ss, joinSegments_eq_some_iff.mpr ⟨hbase, hspec, hfollow, hdotted⟩, render_iff.mpr hr⟩
  · rw [Option.eq_none_iff_forall_ne_some]
    intro r h
    obtain ⟨ss, hss, -⟩ := join_eq_some_iff.mp h
    obtain ⟨hbase, hspec, hfollow, -⟩ := joinSegments_eq_some_iff.mp hss
    simp [hbase, hspec, hfollow] at hrefused
  · obtain ⟨ss, hne, hss, rfl⟩ := target_eq_some_iff.mp ht
    have hnames := joinSegments_isName hss
    refine ⟨ss, hne, hnames, ?_, below_inFolder folder hne hnames⟩
    -- the empty base adds one empty segment, which is passed over
    exact (joinSegments_eq_some_iff.mp hss).2.2.1

example : Path.join "pages" "./../img//a.b/.." = some "img" ∧ Path.join "pages" ".." = some "." ∧
    Path.join "pages" "../../img" = none ∧ target "out/" "a/../b.js" = some "out/b.js" := by
  decide +kernel

end Command

end LivePreview
