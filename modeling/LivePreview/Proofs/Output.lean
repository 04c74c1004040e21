import LivePreview.Proofs.Containment
import LivePreview.Proofs.Importing

namespace LivePreview

namespace Path

open Text

variable {p : String}

theorem Plain.joinSegments (hp : Plain p) (hd : ¬Dotted (parts p.toList)) :
    joinSegments [] p.toList = some (parts p.toList) := by
  refine joinSegments_eq_some_iff.mpr ⟨rfl, hp.not_absolute, ?_, hd⟩
  rw [hp.parts_eq]
  exact follow_names hp.isName

theorem Plain.join_start (hp : Plain p) (hd : ¬Dotted (parts p.toList)) :
    Path.join "" p = some p := by
  refine join_eq_some_iff.mpr ⟨_, hp.joinSegments hd, render_iff.mpr (.inr ⟨?_, ?_⟩)⟩
  · rw [hp.parts_eq]
    exact splitAll_ne_nil '/' p.toList
  · rw [hp.parts_eq, joinWith_splitAll]

theorem Plain.join_dotted (hp : Plain p) (hd : Dotted (parts p.toList)) :
    Path.join "" p = none := by
  rw [Option.eq_none_iff_forall_ne_some]
  intro r h
  obtain ⟨ss, hss, -⟩ := join_eq_some_iff.mp h
  obtain ⟨-, -, hfollow, hplain⟩ := joinSegments_eq_some_iff.mp hss
  have hparts : some (splitAll '/' p.toList) = some ss :=
    (follow_names hp.isName).symm.trans hfollow
  rw [hp.parts_eq, Option.some.inj hparts] at hd
  exact hplain hd

end Path

namespace Command

open Text LivePreview.Path

variable {p p' folder t : String}

theorem target_plain (folder : String) (hp : Plain p) (hd : ¬Dotted (parts p.toList)) :
    target folder p = some (inFolder folder p) ∧
      Below folder (parts p.toList) (inFolder folder p) := by
  have hne : parts p.toList ≠ [] := by
    rw [hp.parts_eq]
    exact splitAll_ne_nil '/' p.toList
  have hnames : ∀ s ∈ parts p.toList, IsName s := by
    rw [hp.parts_eq]
    exact hp.isName
  have htext : String.ofList (joinWith ['/'] (parts p.toList)) = p := by
    rw [hp.parts_eq, joinWith_splitAll, String.ofList_toList]
  have hbelow := below_inFolder folder hne hnames
  rw [htext] at hbelow
  exact ⟨target_eq_some_iff.mpr ⟨_, hne, hp.joinSegments hd, by rw [htext]⟩, hbelow⟩

theorem target_dotted (folder : String) (hp : Plain p) (hd : Dotted (parts p.toList)) :
    target folder p = none :=
  target_eq_none_iff.mpr (.inl (hp.join_dotted hd))

theorem target_inj (hp : Plain p) (hp' : Plain p') (h : target folder p = some t)
    (h' : target folder p' = some t) : p = p' := by
  have hd : ¬Dotted (parts p.toList) := fun hd => by simp [target_dotted folder hp hd] at h
  have hd' : ¬Dotted (parts p'.toList) := fun hd => by simp [target_dotted folder hp' hd] at h'
  obtain ⟨ht, hbelow⟩ := target_plain folder hp hd
  obtain ⟨ht', hbelow'⟩ := target_plain folder hp' hd'
  have heq : inFolder folder p = inFolder folder p' :=
    Option.some.inj ((ht.symm.trans h).trans (h'.symm.trans ht'))
  have hparts := hbelow.parts.symm.trans ((congrArg _ (congrArg _ heq)).trans hbelow'.parts)
  have hsplit := List.append_cancel_left hparts
  rw [hp.parts_eq, hp'.parts_eq] at hsplit
  have htext := congrArg (joinWith ['/']) hsplit
  rw [joinWith_splitAll, joinWith_splitAll] at htext
  exact String.toList_injective htext

end Command

namespace Engine

variable {e : Engine} {h h' : Host} {project : List Node} {n : Nat} {g : Generation}
  {before after : List (String × String)} {entry : Document.Entry}

theorem Built.resources_paths (hb : e.Built project n h h' g before entry after) :
    (g.resources.map PublishedResource.path).Perm (Node.flatten project).keys := by
  have hpaths : g.resources.map PublishedResource.path =
      (before.map Prod.fst ++ after.map Prod.fst) ++ [entry.path] := by
    rw [Generation.resources, List.map_append, serves_paths hb.modules, List.map_append,
      List.map_singleton, hb.named.2.1]
  have hkeys : (Node.flatten project).keys =
      before.map Prod.fst ++ entry.path :: after.map Prod.fst := by
    rw [Table.keys, hb.flattened, List.map_append, List.map_cons]
  rw [hpaths, hkeys]
  exact (List.perm_append_singleton _ _).trans List.perm_middle.symm

end Engine

namespace Command

open LivePreview.Path

/-- The files of a build have places of their own below the output folder, but those whose first
name opens with two dots are refused. -/
structure Placed (project : List Node) (g : Generation) (folder : String) : Prop where
  joined : ∀ p ∈ (Node.flatten project).keys, (Dotted (parts p.toList) → Path.join "" p = none) ∧
    (¬Dotted (parts p.toList) → Path.join "" p = some p)
  refused : ∀ r ∈ g.resources, target folder r.path = none ↔ Dotted (parts r.path.toList)
  placed : ∀ r ∈ g.resources, ¬Dotted (parts r.path.toList) →
    target folder r.path = some (inFolder folder r.path) ∧
      Below folder (parts r.path.toList) (inFolder folder r.path)
  apart : ∀ r ∈ g.resources, ∀ r' ∈ g.resources, ∀ t, target folder r.path = some t →
    target folder r'.path = some t → r = r'

theorem build_placed (o : Options) (t : Transpiler) (project : List Node) (n : Nat)
    (ms : List Moment) {origin : String} {h h' : Host} {g : Generation} (made : h.Made origin)
    (hb : (Engine.new o t).build h project n ms = (h', some (.ok g))) (folder : String) :
    Placed project g folder := by
  have hplain : ∀ p ∈ (Node.flatten project).keys, Plain p := Node.flatten_plain project
  obtain ⟨before, entry, after, hbuilt⟩ := Engine.built_of_build made.sound hb
  have hpaths := hbuilt.resources_paths
  have hresource : ∀ r ∈ g.resources, Plain r.path :=
    fun r hr => hplain r.path (hpaths.mem_iff.mp (List.mem_map_of_mem hr))
  constructor
  case joined => exact fun p hp => ⟨(hplain p hp).join_dotted, (hplain p hp).join_start⟩
  case refused =>
    intro r hr
    constructor
    · intro hnone
      by_contra hd
      simp [(target_plain folder (hresource r hr) hd).1] at hnone
    · exact target_dotted folder (hresource r hr)
  case placed => exact fun r hr => target_plain folder (hresource r hr)
  case apart =>
    intro r hr r' hr' t ht ht'
    have hnodup := hpaths.nodup_iff.mpr (Node.flatten_nodup project)
    have hpath := target_inj (hresource r hr) (hresource r' hr') ht ht'
    exact List.inj_on_of_nodup_map hnodup hr hr' hpath

theorem build_placed_nested :
    let project : List Node :=
      [⟨"/pages/..old", .directory, none, some [⟨"index.html", .file, some "<p></p>", none⟩]⟩,
        ⟨"..main.ts", .file, some "1", none⟩, ⟨"...", .file, none, none⟩]
    let h : Host := (({ origin := "http://localhost" } : Host).create ⟨.document, "kept"⟩).1
    h.Made "http://localhost" ∧ ∃ h' g,
      (Engine.new {} .scripted).build h project 1 [{}] = (h', some (.ok g)) ∧
        Placed project g "dist/" := by
  intro project h
  have made : h.Made "http://localhost" := .create _ .empty _
  have hok : ((Engine.new {} .scripted).build h project 1 [{}]).2.map Except.isOk = some true := by
    decide +kernel
  rcases hb : (Engine.new {} .scripted).build h project 1 [{}] with ⟨h', _ | err | g⟩
  · rw [hb] at hok
    cases hok
  · rw [hb] at hok
    cases hok
  · exact ⟨made, h', g, rfl, build_placed {} .scripted project 1 [{}] made hb "dist/"⟩

/-- A name that merely opens with two dots stays below the start, but it is refused. -/
theorem dotted_file_refused :
    let project : List Node :=
      [⟨"index.html", .file, some "<p></p>", none⟩, ⟨"..notes.css", .file, some "", none⟩]
    ∃ h' g, (Engine.new {} .scripted).build { origin := "livepack" } project 1 [{}] =
        (h', some (.ok g)) ∧
      follow [] (parts "..notes.css".toList) = some ["..notes.css".toList] ∧
      ∃ r ∈ g.resources, r.path = "..notes.css" ∧ Path.join "" r.path = none ∧
        target "out" r.path = none := by
  intro project
  have hpaths : ((Engine.new {} .scripted).build { origin := "livepack" } project 1 [{}]).2.map
      (fun r => r.toOption.map (fun g => g.resources.map PublishedResource.path)) =
        some (some ["..notes.css", "index.html"]) := by decide +kernel
  rcases hb : (Engine.new {} .scripted).build { origin := "livepack" } project 1 [{}] with
    ⟨h', _ | err | g⟩
  · rw [hb] at hpaths
    cases hpaths
  · rw [hb] at hpaths
    cases hpaths
  · rw [hb] at hpaths
    have hlist : g.resources.map PublishedResource.path = ["..notes.css", "index.html"] :=
      Option.some.inj (Option.some.inj hpaths)
    have hmem : "..notes.css" ∈ g.resources.map PublishedResource.path := by simp [hlist]
    obtain ⟨r, hr, hpath⟩ := List.mem_map.mp hmem
    refine ⟨h', g, rfl, by decide +kernel, r, hr, hpath, ?_, ?_⟩
    · rw [hpath]
      decide +kernel
    · rw [hpath]
      decide +kernel

end Command

end LivePreview
