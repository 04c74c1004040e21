import LivePreview.Proofs.Accounting
import LivePreview.Proofs.Handing
import LivePreview.Proofs.Renaming

namespace LivePreview

open ImportMap

inductive Target where
  | module (path : String)
  | url (text : String)
  deriving DecidableEq, Repr

namespace Generation

def target? (g : Generation) (specifier : String) : Option Target :=
  (g.targets.get? specifier).map (fun t =>
    match g.modules.find? (fun r => r.handle.uri == t) with
    | some r => .module r.path
    | none => .url t)

structure Alike (h : Host) (g : Generation) (h' : Host) (g' : Generation) : Prop where
  entry : g.entry.path = g'.entry.path ∧ g.entry.media = g'.entry.media
  modules : g.modules.map (fun r => (r.path, r.media)) = g'.modules.map (fun r => (r.path, r.media))
  texts : List.Forall₂
    (fun r r' => r.handle ∈ h.handles → h.fetch r.handle = h'.fetch r'.handle) g.modules g'.modules
  specifiers : g.targets.keys = g'.targets.keys
  targets : ∀ specifier, g.target? specifier = g'.target? specifier
  warnings : g.warnings = g'.warnings

end Generation

theorem Table.keys_keyed {R : String → String → Prop} {t t' : Table String}
    (h : List.Forall₂ (Keyed R) t.entries t'.entries) : t.keys = t'.keys := by
  rw [keys, keys]
  generalize t.entries = ps at h
  generalize t'.entries = ps' at h
  induction h with
  | nil => rfl
  | cons hp _ ih => rw [List.map_cons, List.map_cons, hp.1, ih]

theorem ImportMap.find_renamed {R : String → String → Prop} (hr : Distinguishes R)
    {rs rs' : List PublishedResource} (h : List.Forall₂ (SameFile R) rs rs') {t t' : String}
    (ht : R t t') :
    (rs.find? (fun r => r.handle.uri == t)).map PublishedResource.path =
      (rs'.find? (fun r => r.handle.uri == t')).map PublishedResource.path := by
  induction h with
  | nil => rfl
  | @cons r r' rs rs' hres _ ih =>
    rw [List.find?_cons, List.find?_cons]
    by_cases he : r.handle.uri = t
    · rw [beq_iff_eq.mpr he, beq_iff_eq.mpr ((hr _ _ _ _ hres.2.2 ht).mp he)]
      exact congrArg some hres.1
    · rw [beq_eq_false_iff_ne.mpr he,
        beq_eq_false_iff_ne.mpr (fun he' => he ((hr _ _ _ _ hres.2.2 ht).mpr he'))]
      exact ih

namespace Engine

def Apart (e : Engine) (h : Host) : Prop :=
  ∀ x ∈ e.settings.externals, ∀ n, x.url ≠ (h.handleOf n).uri

def Renames (e : Engine) (h h' : Host) (n : Nat) (t t' : String) : Prop :=
  (t = t' ∧ ∃ x ∈ e.settings.externals, x.url = t) ∨
    ∃ i < n, t = (h.handleOf (h.created + i + 1)).uri ∧ t' = (h'.handleOf (h'.created + i + 1)).uri

variable {e : Engine} {h h' : Host} {entry : Document.Entry} {us : List CompiledUnit}

theorem uri_inj (h : Host) {i j : Nat} :
    (h.handleOf (h.created + i + 1)).uri = (h.handleOf (h.created + j + 1)).uri ↔ i = j := by
  constructor
  · intro he
    have hk : h.handleOf (h.created + i + 1) = h.handleOf (h.created + j + 1) :=
      congrArg Handle.mk he
    have := h.handleOf_injective hk
    omega
  · rintro rfl
    rfl

theorem renames_distinguishes (ha : e.Apart h) (ha' : e.Apart h') (n : Nat) :
    Distinguishes (e.Renames h h' n) := by
  rintro a a' b b' (⟨rfl, x, hx, hxa⟩ | ⟨i, -, rfl, rfl⟩) (⟨rfl, y, hy, hyb⟩ | ⟨j, -, rfl, rfl⟩)
  · exact Iff.rfl
  · exact ⟨fun he => absurd (hxa.trans he) (ha x hx _),
      fun he => absurd (hxa.trans he) (ha' x hx _)⟩
  · exact ⟨fun he => absurd (hyb.trans he.symm) (ha y hy _),
      fun he => absurd (hyb.trans he.symm) (ha' y hy _)⟩
  · exact (uri_inj h).trans (uri_inj h').symm

theorem mem_next {i n : Nat} (hi : i < n) : h.handleOf (h.created + i + 1) ∈ h.next n :=
  List.mem_map_of_mem (List.mem_range.mpr hi)

theorem modules_eq (h : Host) (us : List CompiledUnit) :
    modules h us = (us.zip (List.range us.length)).map
      (fun p => Arena.resourceOf p.1 (h.handleOf (h.created + p.2 + 1))) := by
  rw [modules, Host.next, List.zipWith_map_right, List.zip_eq_zipWith, List.map_zipWith]

theorem mem_indexed {u : CompiledUnit} {i : Nat} (hp : (u, i) ∈ us.zip (List.range us.length)) :
    us[i]? = some u := by
  obtain ⟨j, hj, he⟩ := List.mem_iff_getElem.mp hp
  rw [List.getElem_zip, Prod.mk.injEq, List.getElem_range] at he
  obtain ⟨rfl, rfl⟩ := he
  exact List.getElem?_eq_getElem _

theorem modules_pairwise {Q : PublishedResource → PublishedResource → Prop} (h h' : Host)
    (us : List CompiledUnit) (hQ : ∀ u i, us[i]? = some u →
      Q (Arena.resourceOf u (h.handleOf (h.created + i + 1)))
        (Arena.resourceOf u (h'.handleOf (h'.created + i + 1)))) :
    List.Forall₂ Q (modules h us) (modules h' us) := by
  rw [modules_eq, modules_eq, List.forall₂_map_left_iff, List.forall₂_map_right_iff,
    List.forall₂_same]
  exact fun p hp => hQ p.1 p.2 (mem_indexed hp)

theorem lt_of_indexed {u : CompiledUnit} {i : Nat} (hu : us[i]? = some u) : i < us.length :=
  (List.getElem?_eq_some_iff.mp hu).1

theorem modules_renamed (e : Engine) (h h' : Host) (us : List CompiledUnit) :
    List.Forall₂ (SameFile (e.Renames h h' us.length)) (modules h us) (modules h' us) :=
  modules_pairwise h h' us
    (fun _ i hu => ⟨rfl, rfl, .inr ⟨i, lt_of_indexed hu, rfl, rfl⟩⟩)

theorem claims_renamed (ha : e.Apart h) (ha' : e.Apart h') (us : List CompiledUnit) :
    (e.claims h us).Renamed (e.Renames h h' us.length) (e.claims h' us) :=
  build_renamed (renames_distinguishes ha ha' us.length) (fun x hx => .inl ⟨rfl, x, hx, rfl⟩)
    (modules_renamed e h h' us)

theorem target_renamed (ha : e.Apart h) (ha' : e.Apart h') (n n' : Nat) (specifier : String) :
    (e.assembled h entry n us).target? specifier =
      (e.assembled h' entry n' us).target? specifier := by
  have hget : Option.Rel (e.Renames h h' us.length) ((e.claims h us).targets.get? specifier)
      ((e.claims h' us).targets.get? specifier) :=
    Table.lookup_keyed specifier (claims_renamed ha ha' us).targets
  show ((e.claims h us).targets.get? specifier).map _ =
    ((e.claims h' us).targets.get? specifier).map _
  generalize (e.claims h us).targets.get? specifier = x at hget
  generalize (e.claims h' us).targets.get? specifier = x' at hget
  cases hget with
  | none => rfl
  | @some t t' ht =>
    have hfind := find_renamed (renames_distinguishes ha ha' us.length)
      (modules_renamed e h h' us) ht
    -- A target that is no file's handle is an external's address, which both builds share.
    have hnone : (modules h us).find? (fun r => r.handle.uri == t) = none → t = t' := by
      intro hno
      rcases ht with ⟨he, -⟩ | ⟨i, hi, rfl, -⟩
      · exact he
      · obtain ⟨r, hr, hk⟩ := List.mem_map.mp (modules_handles h us ▸ mem_next hi)
        exact absurd (beq_iff_eq.mpr (congrArg Handle.uri hk)) (List.find?_eq_none.mp hno r hr)
    show some _ = some _
    cases hx : (modules h us).find? (fun r => r.handle.uri == t) with
    | none =>
      rw [hx] at hfind
      cases hx' : (modules h' us).find? (fun r => r.handle.uri == t') with
      | none =>
        obtain rfl := hnone hx
        simp only [assembled, hx, hx']
      | some r' =>
        rw [hx'] at hfind
        cases hfind
    | some r =>
      rw [hx] at hfind
      cases hx' : (modules h' us).find? (fun r => r.handle.uri == t') with
      | none =>
        rw [hx'] at hfind
        cases hfind
      | some r' =>
        rw [hx'] at hfind
        simp only [assembled, hx, hx', Option.some.inj hfind]

theorem outputs_get {u : CompiledUnit} {i : Nat} (n : Nat) (hu : us[i]? = some u) :
    (e.outputs h entry n us)[i]? = some (Arena.blobOf u) := by
  have hi : i < (us.map Arena.blobOf).length := by
    rw [List.length_map]
    exact lt_of_indexed hu
  rw [outputs, List.getElem?_append_left hi, List.getElem?_map, hu]
  rfl

theorem fetch_module {host : Host} (hs : host.Sound) {n : Nat}
    (hkept : ∀ p ∈ host.blobs, p.1 ∈ h.next (us.length + 1) →
      p ∈ (h.next (us.length + 1)).zip (e.outputs h entry n us))
    {u : CompiledUnit} {i : Nat} (hu : us[i]? = some u)
    (hl : h.handleOf (h.created + i + 1) ∈ host.handles) :
    host.fetch (h.handleOf (h.created + i + 1)) = some (Arena.blobOf u) := by
  obtain ⟨⟨k, b⟩, hp, hk⟩ := List.mem_map.mp hl
  obtain rfl : k = h.handleOf (h.created + i + 1) := hk
  have hin : h.handleOf (h.created + i + 1) ∈ h.next (us.length + 1) :=
    mem_next (Nat.lt_succ_of_lt (lt_of_indexed hu))
  obtain ⟨j, hj, he⟩ := List.mem_iff_getElem.mp (hkept _ hp hin)
  rw [List.getElem_zip, Prod.mk.injEq] at he
  obtain ⟨hkey, hblob⟩ := he
  have hij : j = i := by
    simp only [Host.next, List.getElem_map, List.getElem_range] at hkey
    exact (uri_inj h).mp (congrArg Handle.uri hkey)
  subst hij
  have hout : (e.outputs h entry n us)[j]? = some (Arena.blobOf u) := outputs_get n hu
  have hb : some b = some (Arena.blobOf u) := by
    rw [← hout, ← hblob]
    exact (List.getElem?_eq_getElem _).symm
  rw [← Option.some.inj hb]
  exact hs.fetch_of_mem hp

theorem assembled_alike (ha : e.Apart h) (ha' : e.Apart h') {host : Host} (hs : host.Sound)
    (hs' : h'.Sound) {n : Nat} (n' : Nat)
    (hkept : ∀ p ∈ host.blobs, p.1 ∈ h.next (us.length + 1) →
      p ∈ (h.next (us.length + 1)).zip (e.outputs h entry n us)) :
    Generation.Alike host (e.assembled h entry n us) (h'.extend (e.outputs h' entry n' us))
      (e.assembled h' entry n' us) := by
  have hclaims := claims_renamed ha ha' us
  refine ⟨⟨rfl, rfl⟩, ?_, ?_, Table.keys_keyed hclaims.targets, target_renamed ha ha' n n', ?_⟩
  · show (modules h us).map _ = (modules h' us).map _
    rw [modules_eq, modules_eq, List.map_map, List.map_map]
    rfl
  · refine modules_pairwise h h' us (fun u i hu hl => ?_)
    have hblobs := (Host.extend_spec h' (e.outputs h' entry n' us)).2.2
    have hlive : h'.handleOf (h'.created + i + 1) ∈
        (h'.extend (e.outputs h' entry n' us)).handles := by
      rw [Host.extend_handles, outputs_length]
      exact List.mem_append_right _ (mem_next (Nat.lt_succ_of_lt (lt_of_indexed hu)))
    have hown : ∀ p ∈ (h'.extend (e.outputs h' entry n' us)).blobs,
        p.1 ∈ h'.next (us.length + 1) →
          p ∈ (h'.next (us.length + 1)).zip (e.outputs h' entry n' us) := by
      intro p hp hk
      rw [hblobs, outputs_length, List.mem_append] at hp
      exact hp.resolve_left (fun hold => hs'.next_not_live hk (List.mem_map_of_mem hold))
    exact (fetch_module hs hkept hu hl).trans (fetch_module (hs'.extend _) hown hu hlive).symm
  · exact congrArg (List.map Shadow.text) hclaims.shadows

end Engine

namespace Session

open Occurrence

structure Isolated (s : Session) (ms : List Move) (g : Generation) (project : List Node) :
    Prop where
  handed : Handed (s.history ms) g.id project
  alone : ∃ h g' t,
    s.controller.engine.prompt.begin { origin := s.controller.host.origin } {} project g.id =
        (h, .finished (.ok g'), t) ∧
      Generation.Alike (s.run ms).controller.host g h g'
  agrees : ∀ h m n h' g' t, h.Sound → h.origin = s.controller.host.origin →
    s.controller.engine.begin h m project n = (h', .finished (.ok g'), t) →
      Generation.Alike (s.run ms).controller.host g h' g'
  created : ∀ k ∈ g.arena.handles, .published g.id k ∈ s.history ms
  unshared : ∀ k ∈ g.arena.handles, ∀ n, .published n k ∈ s.history ms → n = g.id
  covered : g.resources.map PublishedResource.handle = g.arena.handles
  live : (∀ m ∈ ms, m.foreign = false) → ∀ k ∈ g.arena.handles,
    k ∈ (s.run ms).controller.host.handles

theorem run_isolated (e : Engine) (origin : String) (ms : List Move)
    (apart : e.Apart { origin := origin }) (g : Generation)
    (hg : ((start e origin).run ms).controller.current = some g) :
    ∃ project, (start e origin).Isolated ms g project := by
  obtain ⟨hpublished, htraced⟩ := run_traced e origin ms
  obtain ⟨project, entry, us, base, hi⟩ := htraced.installed g hg
  have hapart : ∀ h : Host, h.origin = origin → e.Apart h := by
    intro h ho x hx n he
    exact apart x hx n (he.trans (congrArg Handle.uri (Host.handleOf_congr ho n)))
  have halike : ∀ (h : Host) (n : Nat), h.Sound → h.origin = origin → Generation.Alike
      ((start e origin).run ms).controller.host g (h.extend (e.outputs h entry n us))
      (e.assembled h entry n us) := by
    intro h n hs ho
    have hkept : ∀ p ∈ ((start e origin).run ms).controller.host.blobs,
        p.1 ∈ base.next (us.length + 1) →
          p ∈ (base.next (us.length + 1)).zip (e.outputs base entry g.id us) :=
      fun p hp hk => hi.kept p hp (by rw [hi.assembled]; exact hk)
    have hall := Engine.assembled_alike (hapart base hi.based) (hapart h ho)
      (run_sound e origin ms) hs n hkept
    rwa [← hi.assembled] at hall
  refine ⟨project, ?_⟩
  constructor
  case handed => exact hi.handed
  case alone =>
    obtain ⟨t, hbegin⟩ := e.prompt_begin hi.produces { origin := origin } {} g.id
    exact ⟨_, _, t, hbegin, halike _ g.id ⟨List.nodup_nil, nofun⟩ rfl⟩
  case agrees =>
    intro h m n h' g' t hs ho hbegin
    have hproject : (Flight.fresh n project).Builds e project := rfl
    rcases Flight.advance_finished hproject hbegin with ⟨err, hr, -⟩ | ⟨entry', us', hus, hr, rfl⟩
    · cases hr
    · obtain ⟨rfl, rfl⟩ := hi.produces.unique hus
      cases hr
      exact halike h n hs ho
  case created => exact hi.published
  case unshared => exact fun k hk n hn => hpublished.unique hn (hi.published k hk)
  case covered =>
    rw [hi.assembled]
    exact e.resources_handles base entry g.id us
  case live =>
    intro own k hk
    have hlive := (own_run_accounted e origin ms own).1.of_current hg
    exact hlive ▸ hk

theorem pinned_apart (t : Transpiler) (origin : String) :
    (Engine.new {} t).Apart { origin := origin } := by
  have hpinned : ∀ x ∈ (Settings.ofOptions {}).externals, x.url.toList.head? = some 'h' := by
    decide
  have hblob : ∀ cs, ("blob:".toList ++ cs).head? = some 'b' := fun _ => rfl
  intro x hx n he
  have hhead := hpinned x hx
  rw [he, Host.handleOf, String.append_assoc, String.append_assoc, String.toList_append,
    hblob] at hhead
  exact absurd (Option.some.inj hhead) (by decide)

theorem run_isolated_overlapping_builds :
    let s := start (Engine.new {} .scripted) "http://localhost"
    let page : Node := ⟨"index.html", .file, some "<p></p>", none⟩
    let held : Node := ⟨"main.ts", .file, some "!wait:a\nlet x = 1", none⟩
    let script : Node := ⟨"main.ts", .file, some "let x = 2", none⟩
    let ms : List Move :=
      [.command (.setProject "a" [page, held]), .poll 0,
        .command (.setProject "b" [page, script]), .poll 1, .command (.openGate "a"), .poll 0]
    (Engine.new {} .scripted).Apart { origin := "http://localhost" } ∧
      ∃ g, (s.run ms).controller.current = some g ∧ g.id = 2 ∧
        g.modules.map PublishedResource.path = ["main.ts"] ∧
        g.target? "./main.ts" = some (.module "main.ts") ∧
        ∃ project, s.Isolated ms g project := by
  have hsome : (((start (Engine.new {} .scripted) "http://localhost").run
      [.command (.setProject "a" [⟨"index.html", .file, some "<p></p>", none⟩,
          ⟨"main.ts", .file, some "!wait:a\nlet x = 1", none⟩]), .poll 0,
        .command (.setProject "b" [⟨"index.html", .file, some "<p></p>", none⟩,
          ⟨"main.ts", .file, some "let x = 2", none⟩]), .poll 1,
        .command (.openGate "a"), .poll 0]).controller.current.map
      (fun g => (g.id, g.modules.map PublishedResource.path, g.target? "./main.ts"))) =
        some (2, ["main.ts"], some (.module "main.ts")) := by decide +kernel
  obtain ⟨g, hg, hshape⟩ := Option.map_eq_some_iff.mp hsome
  obtain ⟨hid, hmodules, htarget⟩ :
      g.id = 2 ∧ g.modules.map PublishedResource.path = ["main.ts"] ∧
        g.target? "./main.ts" = some (.module "main.ts") := by
    simpa only [Prod.mk.injEq] using hshape
  exact ⟨pinned_apart _ _, g, hg, hid, hmodules, htarget,
    run_isolated _ _ _ (pinned_apart _ _) g hg⟩

end Session

end LivePreview
