import LivePreview.Proofs.Table
import LivePreview.Proofs.Turn

namespace LivePreview

namespace Host

inductive Made (origin : String) : Host → Prop where
  | empty : Made origin { origin := origin }
  | create (h : Host) (hm : Made origin h) (b : Blob) : Made origin (h.create b).1
  | release (h : Host) (hm : Made origin h) (k : Handle) : Made origin (h.release k).1

theorem Made.sound {origin : String} {h : Host} (hm : h.Made origin) : h.Sound := by
  induction hm with
  | empty => exact ⟨List.nodup_nil, nofun⟩
  | create h _ b ih => exact ih.extend [b]
  | release h _ k ih => exact ih.release k

end Host

theorem Document.findEntry_ok {files : FileTable} {name : String} {entry : Document.Entry}
    (h : Document.findEntry files name = .ok entry) : ∃ before after,
      files.entries = before ++ (entry.path, entry.source) :: after ∧
        endsWith name entry.path = true ∧ ∀ p ∈ before, endsWith name p.1 = false := by
  rw [findEntry] at h
  split at h
  · rename_i path source hfind
    cases h
    obtain ⟨hends, before, after, hsplit, hbefore⟩ := List.find?_eq_some_iff_append.mp hfind
    exact ⟨before, after, hsplit, hends, fun p hp => by simpa using hbefore p hp⟩
  · cases h

theorem Node.flatten_nodup (project : List Node) : (Node.flatten project).keys.Nodup :=
  Table.ofList_nodup _

theorem Node.sources_split {project : List Node} {before after : List (String × String)}
    {path source : String}
    (h : (Node.flatten project).entries = before ++ (path, source) :: after) :
    Node.sources project path = before ++ after := by
  have hn := Node.flatten_nodup project
  rw [Table.keys, h, List.map_append, List.map_cons, List.nodup_middle] at hn
  obtain ⟨hpath, -⟩ := List.nodup_cons.mp hn
  have hkeep : ∀ ps : List (String × String), (∀ p ∈ ps, p ∈ before ++ after) →
      ps.filter (fun p => decide (p.1 ≠ path)) = ps := by
    intro ps hps
    rw [List.filter_eq_self]
    rintro p hp
    refine decide_eq_true (fun he => hpath ?_)
    rw [← he, ← List.map_append]
    exact List.mem_map.mpr ⟨p, hps p hp, rfl⟩
  rw [sources, h, List.filter_append, List.filter_cons_of_neg (by simp),
    hkeep before (fun p hp => List.mem_append_left _ hp),
    hkeep after (fun p hp => List.mem_append_right _ hp)]

theorem Transpiler.unit?_eq {t : Transpiler} {file : String × String} {u : CompiledUnit}
    (h : t.unit? file = some u) : u = ⟨file.1, (SourceKind.ofPath file.1).media, u.text⟩ := by
  rw [unit?] at h
  split at h
  · split at h
    · cases h
      rfl
    · cases h
  · cases h
    rfl

namespace Engine

variable {e : Engine} {h : Host} {project : List Node} {entry : Document.Entry}
  {us : List CompiledUnit}

theorem outputs_keyed (e : Engine) (h : Host) (entry : Document.Entry) (n : Nat)
    (us : List CompiledUnit) :
    (h.next (e.outputs h entry n us).length).zip (e.outputs h entry n us) =
      (h.next us.length).zip (us.map Arena.blobOf) ++
        [(h.handleOf (h.created + us.length + 1),
          ⟨.document, Document.assemble entry (modules h us) (e.claims h us).targets e.settings n⟩)]
    := by
  rw [outputs_length, next_concat, outputs,
    List.zip_append (by rw [Host.next_length, List.length_map])]
  rfl

theorem fetch_output (hs : h.Sound) (n : Nat) {p : Handle × Blob}
    (hp : p ∈ (h.next (e.outputs h entry n us).length).zip (e.outputs h entry n us)) :
    (h.extend (e.outputs h entry n us)).fetch p.1 = some p.2 := by
  refine (hs.extend _).fetch_of_mem ?_
  rw [(Host.extend_spec h _).2.2]
  exact List.mem_append_right _ hp

def Serves (t : Transpiler) (host : Host) (file : String × String) (r : PublishedResource) :
    Prop :=
  r.path = file.1 ∧ r.media = (SourceKind.ofPath file.1).media ∧
    ∃ text, t.unit? file = some ⟨file.1, r.media, text⟩ ∧ host.fetch r.handle = some ⟨r.media, text⟩

theorem modules_serve {t : Transpiler} {host : Host} {files : List (String × String)}
    (hus : List.Forall₂ (fun file u => t.unit? file = some u) files us)
    (hfetch : ∀ p ∈ (h.next us.length).zip (us.map Arena.blobOf), host.fetch p.1 = some p.2) :
    List.Forall₂ (Serves t host) files (modules h us) := by
  -- Each file takes the next handle, so the rest is published to a host that has moved on by one.
  induction hus generalizing h with
  | nil => exact .nil
  | @cons file u files us hu _ ih =>
    have hrest := ih (h := (h.create (Arena.blobOf u)).1)
    rw [modules] at hrest ⊢
    rw [List.length_cons, Host.next_succ h (Arena.blobOf u), List.map_cons, List.zip_cons_cons]
      at hfetch
    rw [List.length_cons, Host.next_succ h (Arena.blobOf u), List.zipWith_cons_cons]
    refine .cons ?_ (hrest (fun p hp => hfetch p (List.mem_cons_of_mem _ hp)))
    have hblob := hfetch _ List.mem_cons_self
    have heq := Transpiler.unit?_eq hu
    rw [heq] at hu hblob ⊢
    exact ⟨rfl, rfl, u.text, hu, hblob⟩

def drive (e : Engine) (h : Host) :
    Flight → List Moment → Host × Option (Except BuildError Generation)
  | _, [] => (h, none)
  | f, m :: ms => match f.advance e h m with
      | (h, .pending j, _) => e.drive h (.running j) ms
      | (h, .finished r, _) => (h, some r)

def build (e : Engine) (h : Host) (project : List Node) (n : Nat) (ms : List Moment) :
    Host × Option (Except BuildError Generation) :=
  e.drive h (.fresh n project) ms

theorem drive_cases {f : Flight} (hb : f.Builds e project) (ms : List Moment) :
    e.drive h f ms = (h, none) ∨ (∃ err, e.drive h f ms = (h, some (.error err))) ∨
      ∃ entry us, e.Produces project entry us ∧ e.drive h f ms =
        (h.extend (e.outputs h entry f.generation us),
          some (.ok (e.assembled h entry f.generation us))) := by
  induction ms generalizing f with
  | nil => exact .inl rfl
  | cons m ms ih =>
    rw [drive]
    rcases hf : f.advance e h m with ⟨h', j | r, t⟩
    · obtain ⟨rfl, hg⟩ := Flight.advance_pending hf
      have hj : (Flight.running j).Builds e project := Flight.advance_builds hb hf
      have hrest := ih hj
      rwa [show (Flight.running j).generation = f.generation from hg] at hrest
    · rcases Flight.advance_finished hb hf with ⟨err, rfl, rfl, -⟩ | ⟨entry, us, hus, rfl, rfl⟩
      · exact .inr (.inl ⟨err, rfl⟩)
      · exact .inr (.inr ⟨entry, us, hus, rfl⟩)

/-- What a build leaves that turned the host `h` into `h'`: all files but the entry as modules, and
the entry that leads to them, each under a handle of its own. -/
structure Built (e : Engine) (project : List Node) (n : Nat) (h h' : Host) (g : Generation)
    (before : List (String × String)) (entry : Document.Entry)
    (after : List (String × String)) : Prop where
  flattened : (Node.flatten project).entries = before ++ (entry.path, entry.source) :: after
  distinct : (Node.flatten project).keys.Nodup
  chosen : Document.endsWith e.settings.entryName entry.path = true ∧
    ∀ p ∈ before, Document.endsWith e.settings.entryName p.1 = false
  named : g.id = n ∧ g.entry.path = entry.path ∧ g.entry.media = .document
  modules : List.Forall₂ (Serves e.transpiler h') (before ++ after) g.modules
  targets : g.targets = (ImportMap.build e.settings.externals g.modules).targets
  document : h'.fetch g.entry.handle =
    some ⟨.document, Document.assemble entry g.modules g.targets e.settings n⟩
  owned : g.resources.map PublishedResource.handle = g.arena.handles
  fresh : g.arena.handles.Nodup ∧ ∀ k ∈ g.arena.handles, k ∉ h.handles
  counted : g.arena.handles.length = (Node.flatten project).size
  live : h'.handles = h.handles ++ g.arena.handles
  intact : ∀ k, k ∉ g.arena.handles → h'.fetch k = h.fetch k
  released : ∀ (host : Host) (k : Handle),
    (g.arena.discard host).1.fetch k = if k ∈ g.arena.handles then none else host.fetch k
  restored : (g.arena.discard h').1.blobs = h.blobs

theorem assembled_built (hs : h.Sound) (hp : e.Produces project entry us) (n : Nat) :
    ∃ before after, e.Built project n h (h.extend (e.outputs h entry n us))
      (e.assembled h entry n us) before entry after := by
  obtain ⟨before, after, hsplit, hends, hbefore⟩ := Document.findEntry_ok hp.found
  have hunits := hp.units
  rw [Node.sources_split hsplit] at hunits
  have hkeys := e.assembled_handles h entry n us
  have houtput := e.outputs_keyed h entry n us
  refine ⟨before, after, ?_⟩
  constructor
  case flattened => exact hsplit
  case distinct => exact Node.flatten_nodup project
  case chosen => exact ⟨hends, hbefore⟩
  case named => exact ⟨rfl, rfl, rfl⟩
  case modules =>
    refine modules_serve hunits (fun p hm => fetch_output hs n ?_)
    rw [houtput]
    exact List.mem_append_left _ hm
  case targets => rfl
  case document =>
    refine fetch_output (p := (_, _)) hs n ?_
    rw [houtput]
    exact List.mem_append_right _ List.mem_cons_self
  case owned => exact e.resources_handles h entry n us
  case fresh =>
    rw [hkeys]
    exact ⟨h.next_nodup _, fun k hk => hs.next_not_live hk⟩
  case counted =>
    rw [hkeys, Host.next_length, outputs_length, ← hunits.length_eq, Table.size, hsplit]
    simp only [List.length_append, List.length_cons]
    omega
  case live => rw [hkeys, Host.extend_handles]
  case intact =>
    rw [hkeys]
    exact fun k hk => Host.fetch_extend hk
  case released =>
    intro host k
    rw [Arena.discard_host, Arena.withoutHandles_fetch]
  case restored =>
    rw [Arena.discard_host, hkeys, ← Arena.discard_host ⟨_⟩]
    exact Arena.discard_next hs _

theorem built_of_build {h' : Host} {g : Generation} {n : Nat} {ms : List Moment} (hs : h.Sound)
    (hb : e.build h project n ms = (h', some (.ok g))) :
    ∃ before entry after, e.Built project n h h' g before entry after := by
  have hproject : (Flight.fresh n project).Builds e project := rfl
  rw [build] at hb
  rcases drive_cases (h := h) hproject ms with hd | ⟨err, hd⟩ | ⟨entry, us, hus, hd⟩
  · rw [hd] at hb
    cases hb
  · rw [hd] at hb
    cases hb
  · rw [hd] at hb
    cases hb
    obtain ⟨before, after, hbuilt⟩ := assembled_built hs hus n
    exact ⟨before, entry, after, hbuilt⟩

theorem build_done {m : Moment}
    (hfound : Document.findEntry (Node.flatten project) e.settings.entryName = .ok entry)
    (ha : e.transpiler.Answers m (Node.sources project entry.path)) (h : Host) (n : Nat)
    (ms : List Moment) : ∃ h' g, e.build h project n (m :: ms) = (h', some (.ok g)) := by
  obtain ⟨us, hus⟩ := Compilation.exists_done ha
  obtain ⟨trace, hbegin⟩ := begin_done hfound hus h n
  have hadvance : (Flight.fresh n project).advance e h m =
      (h.extend (e.outputs h entry n us), .finished (.ok (e.assembled h entry n us)), trace) :=
    hbegin
  rw [build, drive, hadvance]
  exact ⟨_, _, rfl⟩

theorem build_all_or_nothing (o : Options) (t : Transpiler) (project : List Node) (n : Nat)
    (ms : List Moment) {origin : String} {h : Host} (made : h.Made origin) :
    (match (Engine.new o t).build h project n ms with
      | (h', some (.ok g)) => ∃ before entry after,
          (Engine.new o t).Built project n h h' g before entry after
      | (h', some (.error _)) => h' = h
      | (h', none) => h' = h) ∧
    ∀ entry m, Document.findEntry (Node.flatten project) (Settings.entryOf o.entryName) =
        .ok entry →
      t.Answers m (Node.sources project entry.path) →
      ∃ h' g, (Engine.new o t).build h project n (m :: ms) = (h', some (.ok g)) := by
  have hproject : (Flight.fresh n project).Builds (Engine.new o t) project := rfl
  refine ⟨?_, fun entry m hfound ha => build_done (e := Engine.new o t) hfound ha h n ms⟩
  rw [build]
  rcases drive_cases (h := h) hproject ms with hd | ⟨err, hd⟩ | ⟨entry, us, hus, hd⟩
  · rw [hd]
  · rw [hd]
  · rw [hd]
    obtain ⟨before, after, hbuilt⟩ := assembled_built made.sound hus n
    exact ⟨before, entry, after, hbuilt⟩

theorem build_all_or_nothing_two_entries :
    let h : Host := (({ origin := "http://localhost" } : Host).create ⟨.document, "kept"⟩).1
    let project : List Node :=
      [⟨"main.ts", .file, some "old", none⟩,
        ⟨"public", .directory, none, some [⟨"index.html", .file, some "<p></p>", none⟩]⟩,
        ⟨"main.ts", .file, some "!wait:gate\nlet x = 1", none⟩,
        ⟨"index.html", .file, some "second", none⟩]
    h.Made "http://localhost" ∧ ∃ h' g before entry after,
      (Engine.new {} .scripted).build h project 3 [{}, { opened := ["gate"] }] =
        (h', some (.ok g)) ∧
      (Engine.new {} .scripted).Built project 3 h h' g before entry after := by
  intro h project
  have made : h.Made "http://localhost" := .create _ .empty _
  have hok : ((Engine.new {} .scripted).build h project 3
      [{}, { opened := ["gate"] }]).2.map Except.isOk = some true := by decide +kernel
  have hbuilt :=
    (build_all_or_nothing {} .scripted project 3 [{}, { opened := ["gate"] }] made).1
  rcases hb : (Engine.new {} .scripted).build h project 3 [{}, { opened := ["gate"] }] with
    ⟨h', _ | err | g⟩
  · rw [hb] at hok
    cases hok
  · rw [hb] at hok
    cases hok
  · rw [hb] at hbuilt
    obtain ⟨before, entry, after, hbuilt⟩ := hbuilt
    exact ⟨made, h', g, before, entry, after, rfl, hbuilt⟩

end Engine

end LivePreview
