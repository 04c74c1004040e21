import LivePreview.Proofs.Reach

namespace LivePreview

namespace Controller

inductive Shown (n : Nat) : Option Generation → Snapshot → Prop where
  | idle : Shown n none {}
  | building : Shown n none { status := .building, generation := some n }
  | ready (g : Generation) :
      Shown n (some g)
        { status := .ready, generation := some n, handle := some g.entry.handle,
          warnings := g.warnings }
  | failed (text : String) (kind : ErrorKind) (hk : kind ≠ .runtime) :
      Shown n none
        { status := .failed, generation := some n, message := some text, kind := some kind }
  | broken (g : Generation) (text : String) :
      Shown n (some g)
        { status := .failed, generation := some n, message := some text, kind := some .runtime,
          handle := some g.entry.handle, warnings := g.warnings }

structure Coherent (c : Controller) : Prop where
  mounted : c.mounted = c.current.map (fun g => ⟨g.id, g.entry.handle, c.engine.settings.policy⟩)
  newest : ∀ g ∈ c.current, g.id = c.latest
  shown : Shown c.latest c.current c.snapshot

def Awaited (c : Controller) : Prop :=
  c.current = none ∧ c.snapshot = { status := .building, generation := some c.latest }

end Controller

namespace Stage

structure Valid (a : Stage) : Prop where
  building : ∀ f ∈ a.flights, ∃ project, f.Builds a.controller.engine project
  bounded : ∀ f ∈ a.flights, f.generation ≤ a.controller.latest
  distinct : (a.flights.map Flight.generation).Nodup
  counted : a.controller.inFlight = a.flights.length
  awaited : ∀ f ∈ a.flights, f.generation = a.controller.latest → a.controller.Awaited
  closed : a.alive = false → a.flights = [] ∧ a.controller.current = none
  coherent : a.alive = true → a.controller.Coherent

theorem Valid.frame {c c' : Controller} {fs : List Flight} {alive : Bool}
    (hv : Valid ⟨c, fs, alive⟩) (he : c'.engine = c.engine) (hl : c'.latest = c.latest)
    (hc : c'.current = c.current) (hm : c'.mounted = c.mounted) (hn : c'.inFlight = c.inFlight)
    (hs : c'.snapshot = c.snapshot) : Valid ⟨c', fs, alive⟩ := by
  obtain ⟨e, h, l, p, cu, mo, i, sn, v, ib⟩ := c
  obtain ⟨e', h', l', p', cu', mo', i', sn', v', ib'⟩ := c'
  dsimp only at he hl hc hm hn hs
  subst he hl hc hm hn hs
  refine ⟨hv.building, hv.bounded, hv.distinct, hv.counted, hv.awaited, hv.closed, ?_⟩
  exact fun ha => ⟨(hv.coherent ha).mounted, (hv.coherent ha).newest, (hv.coherent ha).shown⟩

theorem start_valid (e : Engine) (origin : String) : (Session.start e origin).stage.Valid := by
  have hnone : (Session.start e origin).stage.flights = [] := rfl
  refine ⟨?_, ?_, ?_, rfl, ?_, nofun, fun _ => ⟨rfl, ?_, .idle⟩⟩
  · rw [hnone]
    simp
  · rw [hnone]
    simp
  · rw [hnone]
    exact List.nodup_nil
  · rw [hnone]
    simp
  · intro g hg
    cases hg

section

variable {c : Controller} {fs gs : List Flight} {f : Flight}

theorem Valid.claim (hv : Valid ⟨c, fs ++ gs, true⟩) (project : List Node) :
    Valid ⟨c.claim.1, fs ++ .fresh (c.latest + 1) project :: gs, true⟩ := by
  rw [Controller.claim_fst]
  have hnew : c.latest + 1 ∉ (fs ++ gs).map Flight.generation := by
    intro hmem
    obtain ⟨f, hf, hg⟩ := List.mem_map.mp hmem
    have := hv.bounded f hf
    dsimp only at this
    omega
  refine ⟨?_, ?_, ?_, ?_, fun _ _ _ => ⟨rfl, rfl⟩, nofun,
    fun _ => ⟨rfl, nofun, .building⟩⟩
  · intro f hf
    rcases Flight.mem_around.mp hf with rfl | hold
    · exact ⟨project, rfl⟩
    · exact hv.building f hold
  · intro f hf
    rcases Flight.mem_around.mp hf with rfl | hold
    · exact Nat.le_refl _
    · exact Nat.le_succ_of_le (hv.bounded f hold)
  · have hperm : (fs ++ .fresh (c.latest + 1) project :: gs).Perm
        (.fresh (c.latest + 1) project :: (fs ++ gs)) := List.perm_middle
    rw [(hperm.map Flight.generation).nodup_iff, List.map_cons]
    exact List.nodup_cons.mpr ⟨hnew, hv.distinct⟩
  · have := hv.counted
    simp only [List.length_append, List.length_cons] at this ⊢
    omega

theorem Valid.wait (hv : Valid ⟨c, fs ++ f :: gs, true⟩) {j : Job}
    (hb : ∀ project, f.Builds c.engine project → j.For c.engine project)
    (hg : j.generation = f.generation) : Valid ⟨c, fs ++ .running j :: gs, true⟩ := by
  have hf : f ∈ fs ++ f :: gs := Flight.mem_here fs gs f
  have hrest : ∀ f' ∈ fs ++ gs, f' ∈ fs ++ f :: gs := fun f' hf' => Flight.mem_around.mpr (.inr hf')
  refine ⟨?_, ?_, ?_, ?_, ?_, nofun, hv.coherent⟩
  · intro f' hf'
    rcases Flight.mem_around.mp hf' with rfl | hold
    · obtain ⟨project, hp⟩ := hv.building f hf
      exact ⟨project, hb project hp⟩
    · exact hv.building f' (hrest f' hold)
  · intro f' hf'
    rcases Flight.mem_around.mp hf' with rfl | hold
    · exact le_of_eq_of_le hg (hv.bounded f hf)
    · exact hv.bounded f' (hrest f' hold)
  · have := hv.distinct
    simp only [List.map_append, List.map_cons] at this ⊢
    rwa [show (Flight.running j).generation = f.generation from hg]
  · have := hv.counted
    simp only [List.length_append, List.length_cons] at this ⊢
    exact this
  · intro f' hf' he
    rcases Flight.mem_around.mp hf' with rfl | hold
    · exact hv.awaited f hf (hg.symm.trans he)
    · exact hv.awaited f' (hrest f' hold) he

theorem Valid.others (hv : Valid ⟨c, fs ++ f :: gs, true⟩) :
    (∀ f' ∈ fs ++ gs, ∃ project, f'.Builds c.engine project) ∧
      (∀ f' ∈ fs ++ gs, f'.generation ≤ c.latest ∧ f'.generation ≠ f.generation) ∧
      ((fs ++ gs).map Flight.generation).Nodup ∧ c.inFlight = (fs ++ gs).length + 1 := by
  have hperm : (fs ++ f :: gs).Perm (f :: (fs ++ gs)) := List.perm_middle
  have hsub : ∀ f' ∈ fs ++ gs, f' ∈ fs ++ f :: gs :=
    fun f' hf' => hperm.mem_iff.mpr (List.mem_cons_of_mem f hf')
  have hd := (hperm.map Flight.generation).nodup_iff.mp hv.distinct
  rw [List.map_cons, List.nodup_cons] at hd
  refine ⟨fun f' hf' => hv.building f' (hsub f' hf'), fun f' hf' => ⟨hv.bounded f' (hsub f' hf'),
    fun he => hd.1 (he ▸ List.mem_map_of_mem hf')⟩, hd.2, ?_⟩
  rw [show c.inFlight = _ from hv.counted, hperm.length_eq]
  rfl

theorem Valid.discard (hv : Valid ⟨c, fs ++ f :: gs, true⟩) {c' : Controller}
    (he : c'.engine = c.engine) (hl : c'.latest = c.latest) (hc : c'.current = c.current)
    (hm : c'.mounted = c.mounted) (hn : c'.inFlight = c.inFlight - 1)
    (hs : c'.snapshot = c.snapshot) : Valid ⟨c', fs ++ gs, true⟩ := by
  obtain ⟨hb, hbound, hd, hcount⟩ := hv.others
  have hkeep : Valid ⟨{ c with inFlight := c.inFlight - 1 }, fs ++ gs, true⟩ := by
    refine ⟨hb, fun f' hf' => (hbound f' hf').1, hd, ?_, ?_, nofun, fun ha =>
      ⟨(hv.coherent ha).mounted, (hv.coherent ha).newest, (hv.coherent ha).shown⟩⟩
    · show c.inFlight - 1 = (fs ++ gs).length
      omega
    · intro f' hf' hg
      exact hv.awaited f' (Flight.mem_around.mpr (.inr hf')) hg
  exact hkeep.frame he hl hc hm hn hs

theorem Valid.install (hv : Valid ⟨c, fs ++ f :: gs, true⟩) (hl : c.latest = f.generation)
    (h : Host) {g : Generation} (hg : g.id = f.generation) :
    Valid ⟨c.installed h g, fs ++ gs, true⟩ := by
  obtain ⟨hb, hbound, hd, hcount⟩ := hv.others
  refine ⟨hb, fun f' hf' => (hbound f' hf').1, hd, ?_, ?_, nofun, fun _ =>
    ⟨rfl, ?_, ?_⟩⟩
  · show c.inFlight - 1 = (fs ++ gs).length
    omega
  · exact fun f' hf' he => absurd (he.trans hl) (hbound f' hf').2
  · intro g' hg'
    cases hg'
    exact hg.trans hl.symm
  · have hn : g.id = c.latest := hg.trans hl.symm
    have hs : Controller.Shown g.id (some g) (c.installed h g).snapshot := .ready g
    exact hn ▸ hs

theorem Valid.refuse (hv : Valid ⟨c, fs ++ f :: gs, true⟩) (hl : c.latest = f.generation)
    {err : BuildError} (herr : err.kind ≠ .runtime) : Valid ⟨c.refused err, fs ++ gs, true⟩ := by
  obtain ⟨hb, hbound, hd, hcount⟩ := hv.others
  have hf : f ∈ fs ++ f :: gs := Flight.mem_here fs gs f
  -- This build is the newest, so its start has torn down whatever was installed.
  have hnone : c.current = none := (hv.awaited f hf hl.symm).1
  refine ⟨hb, fun f' hf' => (hbound f' hf').1, hd, ?_, ?_, nofun, fun ha =>
    ⟨(hv.coherent ha).mounted, (hv.coherent ha).newest, ?_⟩⟩
  · show c.inFlight - 1 = (fs ++ gs).length
    omega
  · exact fun f' hf' he => absurd (he.trans hl) (hbound f' hf').2
  · show Controller.Shown c.latest c.current _
    rw [hnone]
    exact .failed _ _ herr

theorem Valid.hear (hv : Valid ⟨c, fs, true⟩) (e : Envelope) :
    Valid ⟨(c.handle e).1, fs, true⟩ := by
  cases hh : c.hears e with
  | false =>
    rw [Controller.handle_of_not_hears hh]
    exact hv
  | true =>
    rw [Controller.handle_of_hears hh]
    obtain ⟨hm, hnew, hshown⟩ := hv.coherent rfl
    cases hc : c.current with
    | none => rw [Controller.hears, hm, hc] at hh; cases hh
    | some g =>
      refine ⟨hv.building, hv.bounded, hv.distinct, hv.counted, ?_, fun ha => Bool.noConfusion ha,
        fun _ => ⟨hm, hnew, ?_⟩⟩
      · intro f hf he
        have hnone : c.current = none := (hv.awaited f hf he).1
        rw [hc] at hnone
        cases hnone
      · show Controller.Shown c.latest c.current (Controller.broken c.snapshot e)
        rw [hc] at hshown ⊢
        generalize c.snapshot = sn at hshown
        cases hshown with
        | ready => exact .broken g _
        | broken => exact .broken g _

theorem Valid.shutdown (hv : Valid ⟨c, fs, true⟩) : Valid ⟨c.shutdown.1, fs, true⟩ := by
  rw [Controller.shutdown_fst]
  refine ⟨hv.building, fun f hf => Nat.le_succ_of_le (hv.bounded f hf), hv.distinct, hv.counted,
    ?_, nofun, fun _ => ⟨rfl, nofun, .idle⟩⟩
  intro f hf he
  have := hv.bounded f hf
  dsimp only at this he
  omega

theorem Valid.close (hv : Valid ⟨c, [], true⟩) :
    Valid ⟨{ c.releaseCurrent.1 with mounted := none }, [], false⟩ := by
  rw [Controller.releaseCurrent_fst]
  exact ⟨hv.building, hv.bounded, hv.distinct, hv.counted, nofun,
    fun _ => ⟨rfl, rfl⟩, nofun⟩

end

theorem Valid.turn {a b : Stage} {xs : List Occurrence} {es : List Event} (hv : a.Valid)
    (ht : Turn a xs es b) : b.Valid := by
  cases ht with
  | give c fs project => exact hv.frame rfl rfl rfl rfl rfl rfl
  | claim c fs gs project hp => exact hv.claim project
  | wait c fs f gs m j t hf =>
    exact hv.wait (fun _ hb => Flight.advance_builds hb hf) (Flight.advance_pending hf).2
  | finish c fs f gs m h r t hf =>
    obtain ⟨project, hb⟩ := hv.building f (Flight.mem_here fs gs f)
    rcases Controller.landed_cases hb hf with ⟨-, -, bs, hc⟩ | ⟨hl, -, entry, us, -, hc⟩ |
      ⟨hl, -, err, herr, hc⟩
    · rw [hc]
      exact hv.discard rfl rfl rfl rfl rfl rfl
    · rw [hc]
      exact hv.install hl _ rfl
    · rw [hc]
      exact hv.refuse hl herr
  | abandon c fs f gs => exact hv.discard rfl rfl rfl rfl rfl rfl
  | answer st o ho => exact hv
  | post c fs e es port payload ha => exact hv.frame rfl rfl rfl rfl rfl rfl
  | deny st port payload => exact hv
  | receive c fs e es hi =>
    exact Valid.hear (c := c.withInbox es) (hv.frame rfl rfl rfl rfl rfl rfl) e
  | handle c fs e => exact hv.hear e
  | shutdown c fs => exact hv.shutdown
  | close c => exact hv.close

end Stage

theorem Session.run_valid (s : Session) (hs : s.Closed) (hv : s.stage.Valid) (ms : List Move) :
    (s.run ms).stage.Valid :=
  run_preserves (P := fun a _ => a.Valid) (fun _ _ _ _ _ ha ht => ha.turn ht)
    (fun _ _ _ ha _ => ha.frame rfl rfl rfl rfl rfl rfl) s hs [] hv ms

end LivePreview
