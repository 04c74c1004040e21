import LivePreview.Proofs.Atomicity
import LivePreview.Proofs.Joining
import LivePreview.Proofs.Splicing

namespace LivePreview

namespace Path

open Text

variable {k : Nat} {dir file : List Segment} {p : String}

/-- From a directory to a file through the directory of the first `k` names, which they share. -/
structure Way (k : Nat) (dir file : List Segment) : Prop where
  above : k ≤ dir.length
  shared : dir.take k <+: file
  below : k < file.length

def relative (k : Nat) (dir file : List Segment) : List Segment :=
  List.replicate (dir.length - k) up ++ file.drop k

theorem Way.take_eq (h : Way k dir file) : dir.take k = file.take k := by
  have hlength : (dir.take k).length = k := List.length_take_of_le h.above
  have htake := List.prefix_iff_eq_take.mp h.shared
  rwa [hlength] at htake

theorem Way.relative_ne_nil (h : Way k dir file) : relative k dir file ≠ [] := by
  intro hnil
  have hdrop := (List.append_eq_nil_iff.mp hnil).2
  have hbelow := h.below
  rw [List.drop_eq_nil_iff] at hdrop
  omega

theorem follow_relative (h : Way k dir file) (hfile : ∀ s ∈ file, IsName s) :
    follow dir (relative k dir file) = some file := by
  have hup : follow dir (List.replicate (dir.length - k) up) = some (dir.take k) := by
    rw [follow_up (Nat.sub_le _ _), Nat.sub_sub_self h.above]
  have hdrop : ∀ s ∈ file.drop k, IsName s := fun s hs => hfile s (List.mem_of_mem_drop hs)
  rw [relative, follow_append, hup, Option.bind_some, follow_names hdrop, h.take_eq,
    List.take_append_drop]

theorem relative_isStep (hfile : ∀ s ∈ file, IsName s) :
    ∀ s ∈ relative k dir file, IsStep s := by
  intro s hs
  rcases List.mem_append.mp hs with hs | hs
  · rw [List.eq_of_mem_replicate hs]
    exact ⟨by decide, by decide, by decide⟩
  · exact (hfile s (List.mem_of_mem_drop hs)).isStep

theorem parent_root (hp : Plain p) : Node.Root (parent p) := by
  rw [parent]
  split
  · rename_i dir name h
    right
    intro s hs
    rw [String.toList_ofList] at hs
    have hsplit := (splitLast_some h).1
    refine hp s ?_
    rw [hsplit, splitAll_append]
    exact List.mem_append_left _ hs
  · exact .inl rfl

theorem follow_root {d : String} (hd : Node.Root d) :
    follow [] (splitAll '/' d.toList) = some (parts d.toList) := by
  rcases hd with rfl | hd
  · rfl
  · rw [hd.parts_eq]
    exact follow_names hd.isName

end Path

namespace Document

open Text LivePreview.Path

variable {rs : List PublishedResource} {dir : String} {src : List Char}

theorem handleAt_eq_none {path : String} (h : ∀ r ∈ rs, r.path ≠ path) :
    handleAt path rs = none := by
  rw [Option.eq_none_iff_forall_ne_some]
  intro k hk
  obtain ⟨r, hr, hpath, -⟩ := handleAt_some hk
  exact h r hr hpath

theorem handleAt_of_mem (hn : (rs.map PublishedResource.path).Nodup) {r : PublishedResource}
    (hr : r ∈ rs) : handleAt r.path rs = some r.handle := by
  induction rs with
  | nil => cases hr
  | cons r' rs ih =>
    rw [List.map_cons, List.nodup_cons] at hn
    rw [handleAt]
    rcases List.mem_cons.mp hr with rfl | hr
    · have hlater : handleAt r.path rs = none :=
        handleAt_eq_none (fun r' hr' he => hn.1 (he ▸ List.mem_map_of_mem hr'))
      rw [hlater, if_pos rfl]
    · rw [ih hn.2 hr]

theorem resolveSource_eq (src : List Char) (dir : String) (rs : List PublishedResource) :
    resolveSource src dir rs =
      ((handleAt (String.ofList (bareSource src)) rs).or (handleAt (String.ofList src) rs)).or
        ((Path.join dir (String.ofList (bareSource src))).bind (handleAt · rs)) := by
  rw [resolveSource]
  cases handleAt (String.ofList (bareSource src)) rs with
  | some k => rfl
  | none => cases handleAt (String.ofList src) rs <;> rfl

theorem bareSource_joinWith {ss : List Segment} (h : ∀ s ∈ ss, IsStep s) :
    bareSource (joinWith ['/'] ss) = joinWith ['/'] ss := by
  cases hne : ss with
  | nil => rfl
  | cons s' ss' =>
    rw [← hne]
    have hsplit : splitAll '/' (joinWith ['/'] ss) = ss :=
      splitAll_joinWith (by simp [hne]) (fun s hs => (h s hs).2.2)
    rw [bareSource.eq_def]
    split
    · rename_i rest hrest
      rw [hrest, show '.' :: '/' :: rest = ['.'] ++ '/' :: rest from rfl, splitAll_append] at hsplit
      have hdot : ['.'] ∈ ss := hsplit ▸ List.mem_cons_self
      exact absurd rfl (h _ hdot).2.1
    · rename_i rest hrest
      rw [hrest, splitAll_cons_sep] at hsplit
      have hempty : [] ∈ ss := hsplit ▸ List.mem_cons_self
      exact absurd rfl (h _ hempty).1
    · rfl

theorem resolveSource_climbs (hdir : Node.Root dir) (hrs : ∀ r ∈ rs, Plain r.path)
    (hsrc : isAbsolute src = false)
    (hclimbs : follow [] (splitAll '/' dir.toList ++ splitAll '/' src) = none) :
    resolveSource src dir rs = none := by
  rw [follow_append, follow_root hdir, Option.bind_some] at hclimbs
  have hclean : follow (parts dir.toList) (splitAll '/' (bareSource src)) = none := by
    rw [bareSource.eq_def]
    split
    · exact hclimbs
    · cases hsrc
    · exact hclimbs
  have hfile {s : List Char} (hs : follow (parts dir.toList) (splitAll '/' s) = none) :
      handleAt (String.ofList s) rs = none := by
    apply handleAt_eq_none
    rintro r hr hpath
    have hnames := (hrs r hr).isName
    rw [hpath, String.toList_ofList] at hnames
    rw [follow_names hnames] at hs
    cases hs
  have hjoin : Path.join dir (String.ofList (bareSource src)) = none := by
    rw [Option.eq_none_iff_forall_ne_some]
    intro r h
    obtain ⟨ss, hss, -⟩ := join_eq_some_iff.mp h
    obtain ⟨-, -, hfollow, -⟩ := joinSegments_eq_some_iff.mp hss
    rw [follow_append, follow_root hdir, Option.bind_some, String.toList_ofList, hclean] at hfollow
    cases hfollow
  rw [resolveSource_eq, hfile hclean, hfile hclimbs, hjoin]
  rfl

def relativeSource (k : Nat) (dir path : String) : List Char :=
  joinWith ['/'] (relative k (parts dir.toList) (parts path.toList))

section

variable {k : Nat} {r : PublishedResource} (hdir : Node.Root dir) (hr : Plain r.path)
  (hd : ¬Dotted (parts r.path.toList)) (hway : Way k (parts dir.toList) (parts r.path.toList))

include hr in
theorem relativeSource_isStep :
    ∀ s ∈ relative k (parts dir.toList) (parts r.path.toList), IsStep s := by
  apply relative_isStep
  rw [hr.parts_eq]
  exact hr.isName

include hr hway in
theorem splitAll_relativeSource : splitAll '/' (relativeSource k dir r.path) =
    relative k (parts dir.toList) (parts r.path.toList) :=
  splitAll_joinWith hway.relative_ne_nil (fun s hs => (relativeSource_isStep hr s hs).2.2)

include hdir hr hd hway in
theorem join_relativeSource :
    Path.join dir (String.ofList (relativeSource k dir r.path)) = some r.path := by
  have hbase : isAbsolute dir.toList = false := by
    rcases hdir with rfl | hdir
    · rfl
    · exact hdir.not_absolute
  have hspec : isAbsolute (relativeSource k dir r.path) = false :=
    joinWith_not_absolute (relativeSource_isStep hr)
  have hnames : ∀ s ∈ parts r.path.toList, IsName s := by
    rw [hr.parts_eq]
    exact hr.isName
  have hfollow : follow [] (splitAll '/' dir.toList ++ splitAll '/' (relativeSource k dir r.path)) =
      some (parts r.path.toList) := by
    rw [follow_append, follow_root hdir, Option.bind_some, splitAll_relativeSource hr hway]
    exact follow_relative hway hnames
  have hne : parts r.path.toList ≠ [] :=
    List.ne_nil_of_length_pos (Nat.zero_lt_of_lt hway.below)
  have htext : r.path.toList = joinWith ['/'] (parts r.path.toList) := by
    rw [hr.parts_eq, joinWith_splitAll]
  apply join_eq_some_iff.mpr
  refine ⟨_, ?_, render_iff.mpr (.inr ⟨hne, htext⟩)⟩
  rw [String.toList_ofList]
  exact joinSegments_eq_some_iff.mpr ⟨hbase, hspec, hfollow, hd⟩

include hdir hr hd hway in
theorem resolveSource_relative (hrs : ∀ r ∈ rs, Plain r.path)
    (hn : (rs.map PublishedResource.path).Nodup) (hmem : r ∈ rs)
    (hsrc : src = relativeSource k dir r.path ∨ src = '.' :: '/' :: relativeSource k dir r.path) :
    resolveSource src dir rs =
      (handleAt (String.ofList (relativeSource k dir r.path)) rs).or (some r.handle) := by
  have hbare : bareSource (relativeSource k dir r.path) = relativeSource k dir r.path :=
    bareSource_joinWith (relativeSource_isStep hr)
  have hdotted :
      handleAt (String.ofList ('.' :: '/' :: relativeSource k dir r.path)) rs = none := by
    apply handleAt_eq_none
    intro r' hr' hpath
    apply (hrs r' hr').ne_dot (String.ofList (relativeSource k dir r.path))
    rw [hpath]
    exact String.toList_injective (by simp)
  have hjoined : (Path.join dir (String.ofList (relativeSource k dir r.path))).bind
      (handleAt · rs) = some r.handle := by
    rw [join_relativeSource hdir hr hd hway, Option.bind_some, handleAt_of_mem hn hmem]
  rcases hsrc with rfl | rfl
  · rw [resolveSource_eq, hbare, hjoined, Option.or_self]
  · have hclean : bareSource ('.' :: '/' :: relativeSource k dir r.path) =
        relativeSource k dir r.path := rfl
    rw [resolveSource_eq, hclean, hdotted, hjoined, Option.or_none]

include hr hway in
theorem handleAt_upward (hrs : ∀ r ∈ rs, Plain r.path) (hup : k < (parts dir.toList).length) :
    handleAt (String.ofList (relativeSource k dir r.path)) rs = none := by
  apply handleAt_eq_none
  intro r' hr' hpath
  have hnames := (hrs r' hr').isName
  rw [hpath, String.toList_ofList, splitAll_relativeSource hr hway] at hnames
  have hmem : up ∈ relative k (parts dir.toList) (parts r.path.toList) := by
    apply List.mem_append_left
    exact List.mem_replicate.mpr ⟨by omega, rfl⟩
  exact (hnames up hmem).2.2.1 rfl

end

/-- A script of an entry leads to a file when it names the way from the directory of the entry to
that file, unless the way is also the path of a file; and one that leads above the root leads to no
file. -/
theorem relative_source_resolves (project : List Node) (e : Entry) (rs : List PublishedResource)
    (he : e.path ∈ (Node.flatten project).keys)
    (hrs : ∀ r ∈ rs, r.path ∈ (Node.flatten project).keys)
    (hn : (rs.map PublishedResource.path).Nodup) :
    let dir := Path.parent e.path
    (∀ r ∈ rs, ¬Dotted (parts r.path.toList) → ∀ k,
      Way k (parts dir.toList) (parts r.path.toList) →
      ∀ src, (src = relativeSource k dir r.path ∨ src = '.' :: '/' :: relativeSource k dir r.path) →
        (k < (parts dir.toList).length → resolveSource src dir rs = some r.handle) ∧
        (k = (parts dir.toList).length →
          (∀ r' ∈ rs, r'.path.toList = relativeSource k dir r.path →
            resolveSource src dir rs = some r'.handle) ∧
          ((∀ r' ∈ rs, r'.path.toList ≠ relativeSource k dir r.path) →
            resolveSource src dir rs = some r.handle))) ∧
    ∀ src, src.head? ≠ some '/' →
      follow [] (splitAll '/' dir.toList ++ splitAll '/' src) = none →
      resolveSource src dir rs = none := by
  intro dir
  have hplain : ∀ p ∈ (Node.flatten project).keys, Plain p := Node.flatten_plain project
  have hfiles : ∀ r ∈ rs, Plain r.path := fun r hr => hplain r.path (hrs r hr)
  have hdir : Node.Root dir := parent_root (hplain e.path he)
  constructor
  · intro r hr hd k hway src hsrc
    have hresolve := resolveSource_relative hdir (hfiles r hr) hd hway hfiles hn hr hsrc
    refine ⟨fun hup => ?_, fun _ => ⟨fun r' hr' hpath => ?_, fun hnone => ?_⟩⟩
    · rw [hresolve, handleAt_upward (hfiles r hr) hway hfiles hup]
      rfl
    · rw [hresolve, ← hpath, String.ofList_toList, handleAt_of_mem hn hr']
      rfl
    · rw [hresolve, handleAt_eq_none]
      · rfl
      · intro r' hr' he
        apply hnone r' hr'
        rw [he, String.toList_ofList]
  · intro src hslash hclimbs
    exact resolveSource_climbs hdir hfiles (by simpa [isAbsolute] using hslash) hclimbs

theorem relative_source_resolves_shadowed :
    let project : List Node :=
      [⟨"app.js", .file, some "1", none⟩,
        ⟨"pages", .directory, none, some [⟨"deep/index.html", .file, some "<p></p>", none⟩,
          ⟨"deep/app.js", .file, some "2", none⟩, ⟨"lib.js", .file, some "3", none⟩]⟩]
    let e : Entry := ⟨"pages/deep/index.html", "<p></p>"⟩
    let rs : List PublishedResource := [⟨"app.js", .script, ⟨"blob:livepack/1"⟩⟩,
      ⟨"pages/deep/app.js", .script, ⟨"blob:livepack/2"⟩⟩,
      ⟨"pages/lib.js", .script, ⟨"blob:livepack/3"⟩⟩]
    e.path ∈ (Node.flatten project).keys ∧ (∀ r ∈ rs, r.path ∈ (Node.flatten project).keys) ∧
      (rs.map PublishedResource.path).Nodup ∧
      resolveSource "app.js".toList (Path.parent e.path) rs = some ⟨"blob:livepack/1"⟩ ∧
      resolveSource "./../lib.js".toList (Path.parent e.path) rs = some ⟨"blob:livepack/3"⟩ := by
  intro project e rs
  have he : e.path ∈ (Node.flatten project).keys := by decide +kernel
  have hrs : ∀ r ∈ rs, r.path ∈ (Node.flatten project).keys := by decide +kernel
  have hn : (rs.map PublishedResource.path).Nodup := by decide +kernel
  have hresolves := (relative_source_resolves project e rs he hrs hn).1
  have hnext : Way 2 (parts (Path.parent e.path).toList) (parts "pages/deep/app.js".toList) :=
    ⟨by decide +kernel, by decide +kernel, by decide +kernel⟩
  have habove : Way 1 (parts (Path.parent e.path).toList) (parts "pages/lib.js".toList) :=
    ⟨by decide +kernel, by decide +kernel, by decide +kernel⟩
  have happ := hresolves ⟨"pages/deep/app.js", .script, ⟨"blob:livepack/2"⟩⟩ (by decide +kernel)
    (by decide +kernel) 2 hnext "app.js".toList (.inl (by decide +kernel))
  have hlib := hresolves ⟨"pages/lib.js", .script, ⟨"blob:livepack/3"⟩⟩ (by decide +kernel)
    (by decide +kernel) 1 habove "./../lib.js".toList (.inr (by decide +kernel))
  refine ⟨he, hrs, hn, ?_, hlib.1 (by decide +kernel)⟩
  exact (happ.2 (by decide +kernel)).1 ⟨"app.js", .script, ⟨"blob:livepack/1"⟩⟩ (by decide +kernel)
    (by decide +kernel)

end Document

end LivePreview
