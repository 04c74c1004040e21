import LivePreview.Proofs.Coherence
import LivePreview.Proofs.Supersession

namespace LivePreview

def Occurrence.awaits (n : Nat) (x : Occurrence) : Prop :=
  x.bumps = false ∧ x ≠ .completed (.ready n) ∧ x ≠ .completed (.failed n)

open Occurrence

namespace Snapshot

variable {a b : Nat × Snapshot} {x : Occurrence} {hist xs : List Occurrence}

structure Loading (hist : List Occurrence) (a : Nat × Snapshot) : Prop where
  shown : a.2.status = .building → a.2 = { status := .building, generation := some a.1 }
  awaited : a.2.status = .building ↔
    ∃ P Q, hist = P ++ .claimed a.1 :: Q ∧ ∀ x ∈ Q, x.awaits a.1

theorem awaits_of_still (hx : x.still = true) (n : Nat) : x.awaits n := by
  refine ⟨?_, ?_, ?_⟩
  · cases x <;> first | rfl | cases hx
  · rintro rfl
    cases hx
  · rintro rfl
    cases hx

theorem ne_building {s : Snapshot}
    (hs : s.status = .ready ∨ s.status = .failed ∧ s.kind = some .runtime) :
    s.status ≠ .building := by
  intro hb
  rcases hs with hs | ⟨hs, -⟩ <;> rw [hs] at hb <;> cases hb

theorem awaited_concat {n : Nat} (hx : x ≠ .claimed n) :
    (∃ P Q, hist ++ [x] = P ++ .claimed n :: Q ∧ ∀ y ∈ Q, y.awaits n) ↔
      (∃ P Q, hist = P ++ .claimed n :: Q ∧ ∀ y ∈ Q, y.awaits n) ∧ x.awaits n := by
  constructor
  · rintro ⟨P, Q, heq, hQ⟩
    rcases List.eq_nil_or_concat Q with rfl | ⟨Q', y, rfl⟩
    · exact absurd (List.cons.inj (List.append_inj' heq rfl).2).1 hx
    · have hlast : hist ++ [x] = (P ++ .claimed n :: Q') ++ [y] := by simpa using heq
      obtain ⟨rfl, hxy⟩ := List.append_inj' hlast rfl
      cases hxy
      exact ⟨⟨P, Q', rfl, fun z hz => hQ z (by simp [hz])⟩, hQ x (by simp)⟩
  · rintro ⟨⟨P, Q, rfl, hQ⟩, hxn⟩
    refine ⟨P, Q ++ [x], by simp, fun y hy => ?_⟩
    rcases List.mem_append.mp hy with hy | hy
    · exact hQ y hy
    · rw [List.mem_singleton.mp hy]
      exact hxn

theorem Loading.edge (h : Loading hist a) (he : Edge x a b) : Loading (hist ++ [x]) b := by
  cases he with
  | claim n s => exact ⟨fun _ => rfl, fun _ => ⟨hist, [], rfl, nofun⟩, fun _ => rfl⟩
  | ready n k warnings =>
    refine ⟨nofun, ?_⟩
    rw [awaited_concat (by nofun)]
    exact ⟨nofun, fun hw => absurd rfl hw.2.2.1⟩
  | fail n text kind hk =>
    refine ⟨nofun, ?_⟩
    rw [awaited_concat (by nofun)]
    exact ⟨nofun, fun hw => absurd rfl hw.2.2.2⟩
  | report x e s hx hs hm =>
    refine ⟨nofun, ?_⟩
    rw [awaited_concat (by rcases hx with rfl | rfl <;> nofun)]
    exact ⟨nofun, fun hw => absurd (h.awaited.mpr hw.1) (ne_building hm)⟩
  | shutdown n s =>
    refine ⟨nofun, ?_⟩
    rw [awaited_concat (by nofun)]
    exact ⟨nofun, fun hw => Bool.noConfusion hw.2.1⟩
  | still x hx a =>
    refine ⟨h.shown, ?_⟩
    rw [awaited_concat (by rintro rfl; cases hx)]
    exact ⟨fun hb => ⟨h.awaited.mp hb, awaits_of_still hx a.1⟩, fun hw => h.awaited.mpr hw.1⟩

theorem Loading.trail (h : Loading hist a) (ht : Trail xs a b) : Loading (hist ++ xs) b := by
  induction ht generalizing hist with
  | nil => simpa using h
  | cons he _ ih => simpa using ih (h.edge he)

theorem Trail.awaiting (ht : Trail xs a b) (hb : a.2.status = .building)
    (hxs : ∀ x ∈ xs, x.awaits a.1) : b = a := by
  induction ht with
  | nil => rfl
  | @cons x xs a b c he _ ih =>
    have hstay : b = a := by
      have hx := hxs x List.mem_cons_self
      cases he with
      | claim => exact absurd hx.1 Bool.noConfusion
      | ready => exact absurd rfl hx.2.1
      | fail => exact absurd rfl hx.2.2
      | report x e s _ _ hm => exact absurd hb (ne_building hm)
      | shutdown => exact absurd hx.1 Bool.noConfusion
      | still => rfl
    subst hstay
    exact ih hb (fun y hy => hxs y (List.mem_cons_of_mem x hy))

end Snapshot

namespace Stage

def Running (a : Stage) (hist : List Occurrence) : Prop :=
  a.controller.snapshot.status = .building →
    (∃ f ∈ a.flights, f.generation = a.controller.latest) ∨
      .dropped a.controller.latest ∈ hist

variable {a b : Stage} {hist xs : List Occurrence} {es : List Event}

theorem Running.keep (h : a.Running hist)
    (hs : b.controller.snapshot = a.controller.snapshot)
    (hl : b.controller.latest = a.controller.latest)
    (hf : ∀ f ∈ a.flights, f.generation = a.controller.latest →
      (∃ f' ∈ b.flights, f'.generation = f.generation) ∨ .dropped f.generation ∈ xs) :
    b.Running (hist ++ xs) := by
  intro hb
  rw [hl]
  rcases h (hs ▸ hb) with ⟨f, hmem, hg⟩ | hd
  · rw [← hg]
    rcases hf f hmem hg with hstay | hd
    · exact .inl hstay
    · exact .inr (List.mem_append_right hist hd)
  · exact .inr (List.mem_append_left xs hd)

theorem Running.hear {c : Controller} {fs : List Flight} {alive : Bool}
    (h : Running ⟨c, fs, alive⟩ hist) (e : Envelope) (x : Occurrence) :
    Running ⟨(c.handle e).1, fs, alive⟩ (hist ++ [x]) := by
  cases hh : c.hears e with
  | true =>
    rw [Controller.handle_of_hears hh]
    exact fun hb => Status.noConfusion hb
  | false =>
    rw [Controller.handle_of_not_hears hh]
    exact h.keep rfl rfl (fun f hf _ => .inl ⟨f, hf, rfl⟩)

theorem Running.turn (hv : a.Valid) (h : a.Running hist) (ht : Turn a xs es b) :
    b.Running (hist ++ xs) := by
  cases ht with
  | claim c fs gs project hp =>
    intro _
    rw [Controller.claim_fst]
    exact .inl ⟨_, Flight.mem_here fs gs _, rfl⟩
  | wait c fs f gs m j t hf =>
    refine h.keep rfl rfl (fun f' hf' _ => .inl ?_)
    rcases Flight.mem_around.mp hf' with rfl | hold
    · exact ⟨.running j, Flight.mem_here fs gs _, (Flight.advance_pending hf).2⟩
    · exact ⟨f', Flight.mem_around.mpr (.inr hold), rfl⟩
  | finish c fs f gs m host r t hf =>
    obtain ⟨project, hb⟩ := hv.building f (Flight.mem_here fs gs f)
    rcases Controller.landed_cases hb hf with ⟨hne, -, bs, hc⟩ | ⟨-, -, entry, us, -, hc⟩ |
      ⟨-, -, err, -, hc⟩
    · rw [hc]
      refine h.keep rfl rfl (fun f' hf' hg => .inl ?_)
      rcases Flight.mem_around.mp hf' with rfl | hold
      · exact absurd hg.symm hne
      · exact ⟨f', hold, rfl⟩
    · rw [hc]
      exact fun hbuilding => Status.noConfusion hbuilding
    · rw [hc]
      exact fun hbuilding => Status.noConfusion hbuilding
  | abandon c fs f gs =>
    -- The only way for a build to go that tells the snapshot nothing.
    refine h.keep rfl rfl (fun f' hf' _ => ?_)
    rcases Flight.mem_around.mp hf' with rfl | hold
    · exact .inr List.mem_cons_self
    · exact .inl ⟨f', hold, rfl⟩
  | receive c fs e es hi => exact Running.hear (c := c.withInbox es) h e _
  | handle c fs e => exact h.hear e _
  | shutdown c fs =>
    rw [Controller.shutdown_fst]
    exact fun hbuilding => Status.noConfusion hbuilding
  | close c =>
    rw [Controller.releaseCurrent_fst]
    exact h.keep rfl rfl nofun
  | give => exact h.keep rfl rfl (fun f hf _ => .inl ⟨f, hf, rfl⟩)
  | answer => exact h.keep rfl rfl (fun f hf _ => .inl ⟨f, hf, rfl⟩)
  | post => exact h.keep rfl rfl (fun f hf _ => .inl ⟨f, hf, rfl⟩)
  | deny => exact h.keep rfl rfl (fun f hf _ => .inl ⟨f, hf, rfl⟩)

end Stage

namespace Session

theorem run_trail (s : Session) (hs : s.Closed) (hv : s.stage.Valid) (ms : List Move) :
    Snapshot.Trail (s.history ms) s.controller.shows (s.run ms).controller.shows := by
  induction ms generalizing s with
  | nil => exact .nil _
  | cons m ms ih =>
    have hclosed : (s.move m).Closed := run_closed s hs [m]
    have hvalid : (s.move m).stage.Valid := run_valid s hs hv [m]
    exact (s.move_trail hs hv m).append (ih (s.move m) hclosed hvalid)

theorem run_running (e : Engine) (origin : String) (ms : List Move) :
    ((start e origin).run ms).stage.Running ((start e origin).history ms) :=
  run_invariant e origin (P := Stage.Running) nofun (fun _ _ _ _ _ hv _ hr ht => hr.turn hv ht)
    (fun _ _ _ hr => hr) ms

theorem mem_flights {s : Session} {f : Flight} :
    f ∈ s.flights ↔ ∃ p ∈ s.pending, ∃ j, p.work = .building j ∧ f = .running j := by
  simp only [flights, List.mem_filterMap]
  constructor
  · rintro ⟨p, hp, hf⟩
    obtain ⟨j, hj, rfl⟩ := Option.map_eq_some_iff.mp hf
    refine ⟨p, hp, j, ?_, rfl⟩
    cases hw : p.work <;> rw [hw] at hj <;> cases hj
    rfl
  · rintro ⟨p, hp, j, hw, rfl⟩
    exact ⟨p, hp, by rw [flight?, hw]; rfl⟩

/-- What the snapshot says of a running build is true until that build is dropped; from then on
it stays as it is, though nothing runs, until another build starts or everything is shut down. -/
structure Loads (s : Session) (ms : List Move) : Prop where
  loading_iff : (s.run ms).controller.snapshot.loading = true ↔
    ∃ P Q, s.history ms = P ++ .claimed (s.run ms).controller.latest :: Q ∧
      ∀ x ∈ Q, x.awaits (s.run ms).controller.latest
  newest : (s.run ms).controller.snapshot.loading = true →
    (s.run ms).controller.snapshot.generation = some (s.run ms).controller.latest
  in_flight_iff : (s.run ms).controller.snapshot.loading = true →
    ((∃ p ∈ (s.run ms).pending, ∃ j, p.work = .building j ∧
        j.generation = (s.run ms).controller.latest) ↔
      .dropped (s.run ms).controller.latest ∉ s.history ms)
  kept : ∀ ns, (s.run ms).controller.snapshot.loading = true →
    (∀ x ∈ (s.run ms).history ns, x.awaits (s.run ms).controller.latest) →
    (s.run (ms ++ ns)).controller.snapshot = (s.run ms).controller.snapshot
  stranded : ∀ ns, (s.run ms).controller.snapshot.loading = true →
    .dropped (s.run ms).controller.latest ∈ s.history ms →
    (∀ x ∈ (s.run ms).history ns, x.bumps = false) →
    (s.run (ms ++ ns)).controller.snapshot = (s.run ms).controller.snapshot

theorem loading_iff_building {c : Controller} :
    c.snapshot.loading = true ↔ c.snapshot.status = .building := by
  rw [Snapshot.loading, beq_iff_eq]

theorem awaits_after_drop {e : Engine} {origin : String} {ms ns : List Move} {n : Nat}
    {x : Occurrence} (hd : .dropped n ∈ (start e origin).history ms)
    (hx : x ∈ ((start e origin).run ms).history ns) (hb : x.bumps = false) : x.awaits n := by
  have hnodup := (run_tallied e origin (ms ++ ns)).ends_nodup
  rw [history_append, ends_append] at hnodup
  have hold : n ∈ ends ((start e origin).history ms) := List.mem_filterMap.mpr ⟨_, hd, rfl⟩
  have honce (hend : x.end? = some n) : False :=
    List.disjoint_of_nodup_append hnodup hold (List.mem_filterMap.mpr ⟨x, hx, hend⟩)
  refine ⟨hb, ?_, ?_⟩
  · rintro rfl
    exact honce rfl
  · rintro rfl
    exact honce rfl

theorem run_loads (e : Engine) (origin : String) (ms : List Move) :
    (start e origin).Loads ms := by
  have hvalid := run_valid _ (start_closed e origin) (Stage.start_valid e origin) ms
  have hclosed := run_closed _ (start_closed e origin) ms
  have hstart : Snapshot.Loading [] (start e origin).controller.shows :=
    ⟨nofun, nofun, by rintro ⟨P, Q, h, -⟩; simp at h⟩
  have hloading : Snapshot.Loading ((start e origin).history ms)
      ((start e origin).run ms).controller.shows :=
    hstart.trail (run_trail _ (start_closed e origin) (Stage.start_valid e origin) ms)
  have hkept (ns : List Move)
      (hb : ((start e origin).run ms).controller.snapshot.status = .building)
      (hns : ∀ x ∈ ((start e origin).run ms).history ns,
        x.awaits ((start e origin).run ms).controller.latest) :
      ((start e origin).run (ms ++ ns)).controller.snapshot =
        ((start e origin).run ms).controller.snapshot := by
    have htrail := run_trail _ hclosed hvalid ns
    rw [run_append]
    exact congrArg Prod.snd (htrail.awaiting hb hns)
  constructor
  case loading_iff => exact loading_iff_building.trans hloading.awaited
  case newest =>
    exact fun hl => congrArg Snapshot.generation (hloading.shown (loading_iff_building.mp hl))
  case in_flight_iff =>
    intro hl
    have htally := run_tallied e origin ms
    constructor
    · rintro ⟨p, hp, j, hw, hg⟩ hd
      refine htally.flying_not_ended (mem_flights.mpr ⟨p, hp, j, hw, rfl⟩) ?_
      exact List.mem_filterMap.mpr ⟨_, hd, congrArg some hg.symm⟩
    · intro hd
      rcases run_running e origin ms (loading_iff_building.mp hl) with ⟨f, hf, hg⟩ | hd'
      · obtain ⟨p, hp, j, hw, rfl⟩ := mem_flights.mp hf
        exact ⟨p, hp, j, hw, hg⟩
      · exact absurd hd' hd
  case kept => exact fun ns hl hns => hkept ns (loading_iff_building.mp hl) hns
  case stranded =>
    exact fun ns hl hd hns => hkept ns (loading_iff_building.mp hl)
      (fun x hx => awaits_after_drop hd hx (hns x hx))

theorem cancelled_build_left_loading : ¬ ∀ (e : Engine) (origin : String) (ms : List Move),
    ((start e origin).run ms).controller.snapshot.loading = true →
    ∃ p ∈ ((start e origin).run ms).pending, ∃ j, p.work = .building j ∧
      ((start e origin).run ms).controller.snapshot.generation = some j.generation := by
  intro h
  let page : Node := ⟨"index.html", .file, some "<p></p>", none⟩
  let script : Node := ⟨"main.ts", .file, some "!wait:gate\nlet x = 1;", none⟩
  let ms : List Move :=
    [.command (.setProject "a" [page, script]), .poll 0, .command (.cancel "a")]
  let e := Engine.new {} .scripted
  have hnone : ((start e "http://localhost").run ms).pending.length = 0 := by decide +kernel
  obtain ⟨p, hp, -⟩ := h e "http://localhost" ms (by decide +kernel)
  rw [List.length_eq_zero_iff.mp hnone] at hp
  cases hp

end Session

end LivePreview
