import LivePreview.Proofs.Growth
import LivePreview.Proofs.Tally

namespace LivePreview

namespace Occurrence

def store (project : Option (List Node)) : Occurrence → Option (List Node)
  | .given project => some project
  | .shutdown => none
  | _ => project

def stored (hist : List Occurrence) : Option (List Node) := hist.foldl store none

def Handed (hist : List Occurrence) (n : Nat) (project : List Node) : Prop :=
  ∃ P Q, hist = P ++ .claimed n :: Q ∧ stored P = some project

def published? : Occurrence → Option (Nat × Handle)
  | .published n k => some (n, k)
  | _ => none

def publications (hist : List Occurrence) : List (Nat × Handle) := hist.filterMap published?

variable {hist xs : List Occurrence} {n : Nat} {project : List Node}

theorem Handed.append (h : Handed hist n project) (xs : List Occurrence) :
    Handed (hist ++ xs) n project := by
  obtain ⟨P, Q, rfl, hp⟩ := h
  exact ⟨P, Q ++ xs, by rw [List.append_assoc, List.cons_append], hp⟩

theorem stored_append (hist xs : List Occurrence) :
    stored (hist ++ xs) = xs.foldl store (stored hist) := List.foldl_append

theorem stored_concat (hist : List Occurrence) (x : Occurrence) :
    stored (hist ++ [x]) = store (stored hist) x := stored_append hist [x]

theorem stored_made (hist : List Occurrence) (g : Option Nat) (old new : Host) (o : Outcome) :
    stored (hist ++ (made g old new ++ [.completed o])) = stored hist := by
  have hmade : ∀ (xs : List Occurrence), (∀ x ∈ xs, ∃ n k, x = .published n k) →
      xs.foldl store (stored hist) = stored hist := by
    intro xs hxs
    induction xs with
    | nil => rfl
    | cons x xs ih =>
      obtain ⟨n, k, rfl⟩ := hxs x List.mem_cons_self
      exact ih (fun y hy => hxs y (List.mem_cons_of_mem _ hy))
  rw [stored_append, List.foldl_append, hmade _ (fun _ hx => made_published hx)]
  rfl

theorem publications_append (xs ys : List Occurrence) :
    publications (xs ++ ys) = publications xs ++ publications ys := List.filterMap_append

theorem made_eq {h h' : Host} {ks : List Handle} (hi : h'.issued = h.issued ++ ks) (n : Nat) :
    made (some n) h h' = ks.map (.published n) := by
  have hlen : h.issued.length = h.created := by rw [Host.issued, List.length_map, List.length_range]
  rw [made, hi, ← hlen, List.drop_left]

theorem made_publications {h h' : Host} {ks : List Handle} (hi : h'.issued = h.issued ++ ks)
    (n : Nat) : publications (made (some n) h h') = ks.map (fun k => (n, k)) := by
  rw [made_eq hi, publications, List.filterMap_map]
  exact congrFun (List.filterMap_eq_map (f := fun k => (n, k))) ks

end Occurrence

open Occurrence

namespace Stage

structure Published (a : Stage) (hist : List Occurrence) : Prop where
  known : ∀ p ∈ publications hist, p.2 ∈ a.controller.host.issued
  once : ((publications hist).map Prod.snd).Nodup

variable {a b : Stage} {hist xs : List Occurrence} {es : List Event}

theorem landed_issued {c : Controller} {f : Flight} {h : Host} {m : Moment} {project : List Node}
    {r : Except BuildError Generation} {t : Trace} (hb : f.Builds c.engine project)
    (hf : f.advance c.engine c.host m = (h, .finished r, t)) :
    ∃ n, (c.landed h f.generation r).1.host.issued = c.host.issued ++ c.host.next n := by
  rcases Controller.landed_cases hb hf with ⟨-, -, bs, hc⟩ | ⟨-, -, entry, us, -, hc⟩ |
    ⟨-, -, err, -, hc⟩
  · rw [hc]
    exact ⟨_, Host.extend_issued c.host bs⟩
  · rw [hc]
    exact ⟨_, Host.extend_issued c.host _⟩
  · rw [hc]
    exact ⟨0, (List.append_nil _).symm⟩

theorem published_turn (hv : a.Valid) (ht : Turn a xs es b) :
    ∃ n ks, b.controller.host.issued = a.controller.host.issued ++ ks ∧ ks.Nodup ∧
      (∀ k ∈ ks, k ∉ a.controller.host.issued) ∧ publications xs = ks.map (fun k => (n, k)) := by
  have hquiet (hi : b.controller.host.issued = a.controller.host.issued)
      (hx : publications xs = []) : ∃ n ks,
        b.controller.host.issued = a.controller.host.issued ++ ks ∧ ks.Nodup ∧
        (∀ k ∈ ks, k ∉ a.controller.host.issued) ∧
        publications xs = ks.map (fun k => ((n : Nat), k)) :=
    ⟨0, [], by rw [hi, List.append_nil], .nil, nofun, hx⟩
  cases ht with
  | finish c fs f gs m h r t hf =>
    obtain ⟨project, hb⟩ := hv.building f (Flight.mem_here fs gs f)
    obtain ⟨n, hi⟩ := landed_issued hb hf
    refine ⟨f.generation, _, hi, c.host.next_nodup n, fun k => Host.next_not_issued, ?_⟩
    rw [publications_append, made_publications hi]
    exact List.append_nil _
  | claim c fs gs project hp =>
    refine hquiet ?_ rfl
    show c.claim.1.host.issued = c.host.issued
    rw [Controller.claim_fst]
    rfl
  | receive c fs e es hi =>
    obtain ⟨s, v, hc⟩ := (c.withInbox es).handle_frame e
    exact hquiet (congrArg (fun c => c.host.issued) hc :) rfl
  | handle c fs e =>
    obtain ⟨s, v, hc⟩ := c.handle_frame e
    exact hquiet (congrArg (fun c => c.host.issued) hc :) rfl
  | shutdown c fs =>
    refine hquiet ?_ rfl
    show c.shutdown.1.host.issued = c.host.issued
    rw [Controller.shutdown_fst]
    rfl
  | close c =>
    refine hquiet ?_ rfl
    show c.releaseCurrent.1.host.issued = c.host.issued
    rw [Controller.releaseCurrent_fst]
    rfl
  | give => exact hquiet rfl rfl
  | wait => exact hquiet rfl rfl
  | abandon => exact hquiet rfl rfl
  | answer => exact hquiet rfl rfl
  | post => exact hquiet rfl rfl
  | deny => exact hquiet rfl rfl

theorem Published.turn (hv : a.Valid) (h : a.Published hist) (ht : Turn a xs es b) :
    b.Published (hist ++ xs) := by
  obtain ⟨n, ks, hi, hn, hfresh, hx⟩ := published_turn hv ht
  constructor
  · intro p hp
    rw [publications_append, hx, List.mem_append, List.mem_map] at hp
    rw [hi, List.mem_append]
    rcases hp with hp | ⟨k, hk, rfl⟩
    · exact .inl (h.known p hp)
    · exact .inr hk
  · rw [publications_append, hx, List.map_append, List.map_map]
    have hks : ks.map (Prod.snd ∘ fun k => (n, k)) = ks := List.map_id ks
    rw [hks]
    refine List.nodup_append.mpr ⟨h.once, hn, ?_⟩
    rintro k hk k' hk' rfl
    obtain ⟨p, hp, rfl⟩ := List.mem_map.mp hk
    exact hfresh _ hk' (h.known p hp)

theorem Published.unique (h : a.Published hist) {n n' : Nat} {k : Handle}
    (hn : .published n k ∈ hist) (hn' : .published n' k ∈ hist) : n = n' := by
  have hmem : ∀ m, .published m k ∈ hist → (m, k) ∈ publications hist :=
    fun m hm => List.mem_filterMap.mpr ⟨_, hm, rfl⟩
  exact congrArg Prod.fst (List.inj_on_of_nodup_map h.once (hmem n hn) (hmem n' hn') rfl)

structure Installed (e : Engine) (origin : String) (host : Host) (hist : List Occurrence)
    (g : Generation) (project : List Node) (entry : Document.Entry) (us : List CompiledUnit)
    (base : Host) : Prop where
  handed : Handed hist g.id project
  produces : e.Produces project entry us
  based : base.origin = origin
  assembled : g = e.assembled base entry g.id us
  published : ∀ k ∈ g.arena.handles, .published g.id k ∈ hist
  kept : ∀ p ∈ host.blobs, p.1 ∈ g.arena.handles →
    p ∈ (base.next (us.length + 1)).zip (e.outputs base entry g.id us)

theorem Installed.mono {e : Engine} {origin : String} {host host' : Host} {g : Generation}
    {project : List Node} {entry : Document.Entry} {us : List CompiledUnit} {base : Host}
    (h : Installed e origin host hist g project entry us base)
    (hb : ∀ p ∈ host'.blobs, p.1 ∈ g.arena.handles → p ∈ host.blobs) (xs : List Occurrence) :
    Installed e origin host' (hist ++ xs) g project entry us base :=
  ⟨h.handed.append xs, h.produces, h.based, h.assembled,
    fun k hk => List.mem_append_left xs (h.published k hk), fun p hp hk => h.kept p (hb p hp hk) hk⟩

structure Traced (e : Engine) (origin : String) (a : Stage) (hist : List Occurrence) : Prop where
  engine : a.controller.engine = e
  rooted : a.controller.host.origin = origin
  project : a.controller.project = stored hist
  handed : ∀ f ∈ a.flights, ∃ project, Handed hist f.generation project ∧ f.Builds e project
  installed : ∀ g, a.controller.current = some g → ∃ project entry us base,
    Installed e origin a.controller.host hist g project entry us base

section

variable {e : Engine} {origin : String} {c c' : Controller} {fs fs' gs : List Flight} {f : Flight}
  {alive alive' : Bool}

theorem Traced.later (h : Traced e origin ⟨c, fs, alive⟩ hist) (xs : List Occurrence) :
    ∀ f ∈ fs, ∃ project, Handed (hist ++ xs) f.generation project ∧ f.Builds e project := by
  intro f hf
  obtain ⟨project, hh, hb⟩ := h.handed f hf
  exact ⟨project, hh.append xs, hb⟩

theorem Traced.keep (h : Traced e origin ⟨c, fs, alive⟩ hist) (he : c'.engine = c.engine)
    (ho : c'.host.origin = c.host.origin) (hp : c'.project = stored (hist ++ xs))
    (hfs : ∀ f ∈ fs', ∃ project, Handed (hist ++ xs) f.generation project ∧ f.Builds e project)
    (hc : ∀ g, c'.current = some g → c.current = some g ∧
      ∀ p ∈ c'.host.blobs, p.1 ∈ g.arena.handles → p ∈ c.host.blobs) :
    Traced e origin ⟨c', fs', alive'⟩ (hist ++ xs) := by
  refine ⟨he.trans h.engine, ho.trans h.rooted, hp, hfs, fun g hg => ?_⟩
  obtain ⟨hcur, hb⟩ := hc g hg
  obtain ⟨project, entry, us, base, hi⟩ := h.installed g hcur
  exact ⟨project, entry, us, base, hi.mono hb xs⟩

theorem Traced.same (h : Traced e origin ⟨c, fs, alive⟩ hist) (he : c'.engine = c.engine)
    (hh : c'.host = c.host) (hc : c'.current = c.current) (hp : c'.project = stored (hist ++ xs))
    (hfs : ∀ f ∈ fs', ∃ project, Handed (hist ++ xs) f.generation project ∧ f.Builds e project) :
    Traced e origin ⟨c', fs', alive'⟩ (hist ++ xs) :=
  h.keep he (congrArg Host.origin hh) hp hfs
    (fun _ hg => ⟨hc.symm.trans hg, fun _ hp _ => hh ▸ hp⟩)

theorem Traced.emptied (h : Traced e origin ⟨c, fs, alive⟩ hist) (he : c'.engine = c.engine)
    (hh : c'.host = c.emptied.host) (hc : c'.current = none) (hp : c'.project = stored (hist ++ xs))
    (hfs : ∀ f ∈ fs', ∃ project, Handed (hist ++ xs) f.generation project ∧ f.Builds e project) :
    Traced e origin ⟨c', fs', alive'⟩ (hist ++ xs) :=
  h.keep he (congrArg Host.origin hh :) hp hfs (fun g hg => by rw [hc] at hg; cases hg)

theorem Traced.install (h : Traced e origin ⟨c, fs ++ f :: gs, true⟩ hist) (hs : c.host.Sound)
    {project : List Node} (hproject : Handed hist f.generation project) {entry : Document.Entry}
    {us : List CompiledUnit} (hus : c.engine.Produces project entry us) (o : Outcome) :
    Traced e origin
      ⟨c.installed (c.host.extend (c.engine.outputs c.host entry f.generation us))
        (c.engine.assembled c.host entry f.generation us), fs ++ gs, true⟩
      (hist ++ (made (some f.generation) c.host
        (c.host.extend (c.engine.outputs c.host entry f.generation us)) ++ [.completed o])) := by
  obtain rfl : c.engine = e := h.engine
  obtain ⟨hor, -, hblobs⟩ := Host.extend_spec c.host
    (c.engine.outputs c.host entry f.generation us)
  have hkeys := c.engine.assembled_handles c.host entry f.generation us
  refine ⟨rfl, hor.trans h.rooted, h.project.trans (stored_made hist _ _ _ o).symm, ?_, ?_⟩
  · exact fun f' hf' => h.later _ f' (Flight.mem_around.mpr (.inr hf'))
  · intro g hg
    cases hg
    refine ⟨project, entry, us, c.host, hproject.append _, hus, h.rooted, rfl, ?_, ?_⟩
    · intro k hk
      rw [hkeys] at hk
      refine List.mem_append_right _ (List.mem_append_left _ ?_)
      rw [made_eq (Host.extend_issued c.host _)]
      exact List.mem_map_of_mem hk
    · intro p hp hk
      rw [hkeys] at hk
      have hp : p ∈ (c.host.extend _).blobs := hp
      rw [hblobs, List.mem_append] at hp
      rcases hp with hold | hnew
      · exact absurd (List.mem_map_of_mem hold) (hs.next_not_live hk)
      · rwa [c.engine.outputs_length] at hnew

theorem Traced.turn {a b : Stage} {es : List Event} (hv : a.Valid) (hs : a.controller.host.Sound)
    (h : Traced e origin a hist) (ht : Turn a xs es b) : Traced e origin b (hist ++ xs) := by
  cases ht with
  | give c fs project =>
    exact h.same rfl rfl rfl (stored_concat hist (.given project)).symm (h.later _)
  | claim c fs gs project hp =>
    rw [Controller.claim_fst]
    refine h.emptied rfl rfl rfl
      (h.project.trans (stored_concat hist (.claimed (c.latest + 1))).symm) ?_
    intro f hf
    rcases Flight.mem_around.mp hf with rfl | hf
    · exact ⟨project, ⟨hist, [], rfl, h.project.symm.trans hp⟩, rfl⟩
    · exact h.later _ f hf
  | wait c fs f gs m j t hf =>
    refine h.same rfl rfl rfl (h.project.trans (stored_append hist []).symm) ?_
    intro f' hf'
    rcases Flight.mem_around.mp hf' with rfl | hf'
    · obtain ⟨project, hh, hb⟩ := h.later [] f (Flight.mem_here fs gs f)
      obtain rfl : c.engine = e := h.engine
      refine ⟨project, ?_, Flight.advance_builds hb hf⟩
      rwa [show (Flight.running j).generation = f.generation from (Flight.advance_pending hf).2]
    · exact h.later _ f' (Flight.mem_around.mpr (.inr hf'))
  | finish c fs f gs m host r t hf =>
    obtain ⟨project, hproject, hb⟩ := h.handed f (Flight.mem_here fs gs f)
    obtain rfl : c.engine = e := h.engine
    have hrest : ∀ xs, ∀ f' ∈ fs ++ gs, ∃ project, Handed (hist ++ xs) f'.generation project ∧
        f'.Builds c.engine project :=
      fun xs f' hf' => h.later xs f' (Flight.mem_around.mpr (.inr hf'))
    have hstored := fun host o => h.project.trans
      (stored_made hist (some f.generation) c.host host o).symm
    rcases Controller.landed_cases hb hf with ⟨-, -, bs, hc⟩ | ⟨-, -, entry, us, hus, hc⟩ |
      ⟨-, -, err, -, hc⟩
    · rw [hc]
      have hblobs : (c.discarded bs).host.blobs = c.host.blobs := Controller.discarded_blobs hs bs
      exact h.keep rfl (Host.extend_spec c.host bs).1 (hstored _ _) (hrest _)
        (fun g hg => ⟨hg, fun p hp _ => hblobs ▸ hp⟩)
    · rw [hc]
      exact h.install hs hproject hus _
    · rw [hc]
      exact h.same rfl rfl rfl (hstored _ _) (hrest _)
  | abandon c fs f gs =>
    exact h.same rfl rfl rfl (h.project.trans (stored_concat hist (.dropped _)).symm)
      (fun f' hf' => h.later _ f' (Flight.mem_around.mpr (.inr hf')))
  | answer st o ho =>
    exact h.same rfl rfl rfl (h.project.trans (stored_concat hist (.completed o)).symm) (h.later _)
  | post c fs e es port payload ha =>
    exact h.same rfl rfl rfl (h.project.trans (stored_concat hist (.posted e)).symm) (h.later _)
  | deny st port payload =>
    exact h.same rfl rfl rfl (h.project.trans (stored_append hist []).symm) (h.later _)
  | receive c fs e es hi =>
    obtain ⟨s, v, hc⟩ := (c.withInbox es).handle_frame e
    rw [hc]
    exact h.same rfl rfl rfl (h.project.trans (stored_concat hist (.received e _)).symm) (h.later _)
  | handle c fs e =>
    obtain ⟨s, v, hc⟩ := c.handle_frame e
    rw [hc]
    exact h.same rfl rfl rfl (h.project.trans (stored_concat hist (.handled e _)).symm) (h.later _)
  | shutdown c fs =>
    rw [Controller.shutdown_fst]
    exact h.emptied rfl rfl rfl (stored_concat hist .shutdown).symm (h.later _)
  | close c =>
    rw [Controller.releaseCurrent_fst]
    exact h.emptied rfl rfl rfl (h.project.trans (stored_append hist []).symm) (h.later _)

theorem Traced.meddle {h' : Host} (h : Traced e origin ⟨c, fs, alive⟩ hist)
    (hp : Published ⟨c, fs, alive⟩ hist) (hm : c.host.Meddled h') :
    Traced e origin ⟨c.withHost h', fs, alive⟩ hist := by
  have hkeep : Traced e origin ⟨c.withHost h', fs, alive⟩ (hist ++ []) := by
    refine h.keep rfl ?_ (h.project.trans (stored_append hist []).symm) (h.later []) ?_
    · cases hm <;> rfl
    · refine fun g hg => ⟨hg, fun p hb hk => ?_⟩
      cases hm with
      | none => exact hb
      | release k => exact (List.mem_filter.mp hb).1
      | create b =>
        obtain ⟨project, entry, us, base, hi⟩ := h.installed g hg
        have hissued : p.1 ∈ c.host.issued := by
          have hpub := hi.published p.1 hk
          exact hp.known (g.id, p.1) (List.mem_filterMap.mpr ⟨_, hpub, rfl⟩)
        rcases List.mem_append.mp hb with hold | hnew
        · exact hold
        · rw [List.mem_singleton.mp hnew] at hissued
          exact absurd hissued (Host.next_not_issued (n := 1) List.mem_cons_self)
  simpa using hkeep

end

end Stage

theorem Session.run_traced (e : Engine) (origin : String) (ms : List Move) :
    ((start e origin).run ms).stage.Published ((start e origin).history ms) ∧
      Stage.Traced e origin ((start e origin).run ms).stage ((start e origin).history ms) := by
  have hpublished : (start e origin).stage.Published [] := ⟨nofun, .nil⟩
  have htraced : Stage.Traced e origin (start e origin).stage [] :=
    ⟨rfl, rfl, rfl, nofun, nofun⟩
  have hrun := run_preserves
    (P := fun a hist => a.Valid ∧ a.controller.host.Sound ∧ a.Published hist ∧
      Stage.Traced e origin a hist)
    (fun a hist xs es b ha ht => ⟨ha.1.turn ht, (ht.grows ha.1).sound ha.2.1,
      ha.2.2.1.turn ha.1 ht, ha.2.2.2.turn ha.1 ha.2.1 ht⟩)
    (fun a hist h ha hm => ⟨ha.1.frame rfl rfl rfl rfl rfl rfl,
      (Host.Grows.meddled hm).sound ha.2.1,
      ⟨fun p hp => by
        obtain ⟨ks, hks⟩ := (Host.Grows.meddled hm).issued
        exact hks ▸ List.mem_append_left ks (ha.2.2.1.known p hp), ha.2.2.1.once⟩,
      ha.2.2.2.meddle ha.2.2.1 hm⟩)
    _ (start_closed e origin) []
    ⟨Stage.start_valid e origin, start_sound e origin, hpublished, htraced⟩ ms
  exact hrun.2.2

end LivePreview
