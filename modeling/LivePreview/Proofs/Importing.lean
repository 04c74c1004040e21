import LivePreview.Proofs.Atomicity
import LivePreview.Proofs.Resolution

namespace LivePreview

namespace Host

inductive Keeps (ks : List Handle) (h : Host) : Host → Prop
  | same : Keeps ks h h
  | create (h' : Host) (hk : Keeps ks h h') (b : Blob) : Keeps ks h (h'.create b).1
  | release (h' : Host) (hk : Keeps ks h h') (k : Handle) (hnot : k ∉ ks) :
      Keeps ks h (h'.release k).1

theorem Keeps.fetch {ks : List Handle} {h h' : Host} (hk : h.Keeps ks h') {k : Handle} {b : Blob}
    (hmem : k ∈ ks) (hb : h.fetch k = some b) : h'.fetch k = some b := by
  induction hk with
  | same => exact hb
  | create h' _ c ih =>
    show lookup k (h'.blobs ++ _) = some b
    rw [lookup_append, show lookup k h'.blobs = some b from ih]
    rfl
  | release h' _ k' hnot ih =>
    have hne : k ≠ k' := fun he => hnot (he ▸ hmem)
    rw [Arena.fetch_release, if_neg hne, ih]

end Host

namespace Engine

variable {e : Engine} {h h' : Host} {project : List Node} {n : Nat} {g : Generation}
  {before after : List (String × String)} {entry : Document.Entry}

theorem serves_paths {t : Transpiler} {host : Host} {files : List (String × String)}
    {rs : List PublishedResource} (hs : List.Forall₂ (Serves t host) files rs) :
    rs.map PublishedResource.path = files.map Prod.fst := by
  induction hs with
  | nil => rfl
  | cons hr _ ih => rw [List.map_cons, List.map_cons, ih, hr.1]

theorem Serves.kept {t : Transpiler} {ks : List Handle} {file : String × String}
    {r : PublishedResource} (hs : Serves t h file r) (hr : r.handle ∈ ks) (hk : h.Keeps ks h') :
    Serves t h' file r := by
  obtain ⟨hpath, hmedia, text, hunit, hfetch⟩ := hs
  exact ⟨hpath, hmedia, text, hunit, hk.fetch hr hfetch⟩

theorem Built.sources (hb : e.Built project n h h' g before entry after) :
    Node.sources project g.entry.path = before ++ after := by
  rw [hb.named.2.1]
  exact Node.sources_split hb.flattened

theorem Built.modules_keys (hb : e.Built project n h h' g before entry after) :
    (g.modules.map PublishedResource.path).Nodup ∧
      ∀ r ∈ g.modules, r.path ∈ (Node.flatten project).keys := by
  have hpaths : g.modules.map PublishedResource.path = (before ++ after).map Prod.fst :=
    serves_paths hb.modules
  have hkeys : (Node.flatten project).keys =
      before.map Prod.fst ++ entry.path :: after.map Prod.fst := by
    rw [Table.keys, hb.flattened, List.map_append, List.map_cons]
  have hn := hb.distinct
  rw [hkeys, List.nodup_middle, ← List.map_append, ← hpaths] at hn
  refine ⟨(List.nodup_cons.mp hn).2, fun r hr => ?_⟩
  have hmem := List.mem_map_of_mem (f := PublishedResource.path) hr
  rw [hpaths, List.map_append, List.mem_append] at hmem
  rw [hkeys, List.mem_append, List.mem_cons]
  exact hmem.imp_right .inr

theorem Built.modules_owned (hb : e.Built project n h h' g before entry after) :
    ∀ r ∈ g.modules, r.handle ∈ g.arena.handles := by
  intro r hr
  rw [← hb.owned]
  exact List.mem_map_of_mem (List.mem_append_left _ hr)

theorem Built.kept (hb : e.Built project n h h' g before entry after) {held : Host}
    (hk : h'.Keeps g.arena.handles held) :
    List.Forall₂ (Serves e.transpiler held) (before ++ after) g.modules := by
  have howned := hb.modules_owned
  have hserves := hb.modules
  generalize before ++ after = files at hserves
  generalize g.modules = rs at hserves howned
  induction hserves with
  | nil => exact .nil
  | cons hr _ ih =>
    exact .cons (hr.kept (howned _ List.mem_cons_self) hk)
      (ih (fun r hr' => howned r (List.mem_cons_of_mem _ hr')))

/-- Each file but the entry is a module that its path leads to, and whatever else the map leads to
inside the project is a module that stays live until its handle is released. -/
structure Reachable (o : Options) (t : Transpiler) (project : List Node) (h : Host)
    (g : Generation) : Prop where
  complete : g.modules.map PublishedResource.path =
    (Node.sources project g.entry.path).map Prod.fst
  reached : ∀ r ∈ g.modules, g.targets.Reaches r
  inside : ∀ s target, g.targets.get? s = some target →
    (∀ x ∈ (Settings.ofOptions o).externals, x.specifier ≠ s) →
    ∃ r ∈ g.modules, target = r.handle.uri
  live : ∀ held, h.Keeps g.arena.handles held →
    List.Forall₂ (Serves t held) (Node.sources project g.entry.path) g.modules

theorem build_reaches_modules (o : Options) (t : Transpiler) (project : List Node) (n : Nat)
    (ms : List Moment) {origin : String} {h h' : Host} {g : Generation} (made : h.Made origin)
    (hb : (Engine.new o t).build h project n ms = (h', some (.ok g))) :
    Reachable o t project h' g := by
  obtain ⟨before, entry, after, hbuilt⟩ := built_of_build made.sound hb
  obtain ⟨hn, hkeys⟩ := hbuilt.modules_keys
  have hplain : ∀ r ∈ g.modules, Path.Plain r.path :=
    fun r hr => Node.flatten_plain project r.path (hkeys r hr)
  constructor
  case complete =>
    rw [hbuilt.sources]
    exact serves_paths hbuilt.modules
  case reached =>
    rw [hbuilt.targets]
    exact ImportMap.build_reaches_files _ hplain hn
  case inside =>
    intro s target hget hs
    rw [hbuilt.targets] at hget
    exact ImportMap.owner_of_get? hget hs
  case live =>
    intro held hk
    rw [hbuilt.sources]
    exact hbuilt.kept hk

theorem build_reaches_modules_shadowed :
    let o : Options :=
      { externals := some [⟨"lib/a.ts", "https://esm.sh/a"⟩, ⟨"./lib/a.ts", "https://esm.sh/b"⟩] }
    let project : List Node :=
      [⟨"index.html", .file, some "<p></p>", none⟩, ⟨"a.ts", .file, some "1", none⟩,
        ⟨"lib", .directory, none, some [⟨"a.ts", .file, some "2", none⟩,
          ⟨"a", .directory, none, some [⟨"a", .file, some "3", none⟩]⟩]⟩]
    let h : Host := (({ origin := "http://localhost" } : Host).create ⟨.document, "kept"⟩).1
    h.Made "http://localhost" ∧ ∃ h' g,
      (Engine.new o .marked).build h project 1 [{}] = (h', some (.ok g)) ∧
        Reachable o .marked project h' g := by
  intro o project h
  have made : h.Made "http://localhost" := .create _ .empty _
  have hok : ((Engine.new o .marked).build h project 1 [{}]).2.map Except.isOk = some true := by
    decide +kernel
  rcases hb : (Engine.new o .marked).build h project 1 [{}] with ⟨h', _ | err | g⟩
  · rw [hb] at hok
    cases hok
  · rw [hb] at hok
    cases hok
  · exact ⟨made, h', g, rfl, build_reaches_modules o .marked project 1 [{}] made hb⟩

end Engine

end LivePreview
