import LivePreview.Proofs.Growth
import LivePreview.Proofs.Logging
import LivePreview.Proofs.Tally

namespace LivePreview

open Occurrence

theorem Host.live_of_empty {h : Host} (hl : h.handles = []) : h.live = 0 := by
  rw [live, List.map_eq_nil_iff.mp hl, List.length_nil]

namespace Controller

theorem emptied_handles {c : Controller} (hl : c.host.handles = c.held) :
    c.emptied.host.handles = [] := by
  rw [emptied, Arena.withoutHandles_handles, hl, List.filter_eq_nil_iff]
  exact fun k hk => by simpa using hk

theorem shutdown_snd (c : Controller) :
    c.shutdown.2 = c.releaseCurrent.2 ++ c.shutdown.1.leakEvents := by
  cases hc : c.current <;> simp [shutdown, releaseCurrent, hc]

theorem leakEvents_of_empty {c : Controller} (hl : c.host.handles = []) : c.leakEvents = [] :=
  if_neg (fun h => h.2 (Host.live_of_empty hl))

theorem finish_regular {c : Controller} (n : Nat) {r : Except BuildError Generation}
    (hr : ∀ g, r = .ok g →
      g.arena.handles.Nodup ∧ ∀ k ∈ g.arena.handles, k ∈ c.host.handles) :
    ∀ x ∈ (c.finish n r).2.2, x.Regular := by
  intro x hx
  rw [finish.eq_def] at hx
  dsimp only at hx
  split at hx
  · cases r with
    | ok g =>
      obtain ⟨hn, hl⟩ := hr g rfl
      rcases List.mem_cons.mp hx with rfl | hx
      · exact Event.regular_of_phrase (by decide)
      · exact released_regular (Arena.discard_quiet hn hl x hx)
    | error err =>
      rw [List.mem_singleton.mp hx]
      exact Event.regular_of_phrase (by decide)
  · cases r with
    | ok g =>
      rw [List.mem_singleton.mp hx]
      exact Event.regular_of_phrase (by decide)
    | error err =>
      rw [List.mem_singleton.mp hx]
      exact .inr ⟨err.message, rfl⟩

theorem landed_regular {c : Controller} {f : Flight} {h : Host} {m : Moment} {project : List Node}
    {r : Except BuildError Generation} {t : Trace} (hb : f.Builds c.engine project)
    (hf : f.advance c.engine c.host m = (h, .finished r, t)) :
    ∀ x ∈ (c.landed h f.generation r).2.2, x.Regular := by
  refine finish_regular f.generation (fun g hg => ?_)
  rcases Flight.advance_finished hb hf with ⟨err, rfl, -, -⟩ | ⟨entry, us, -, rfl, rfl⟩
  · cases hg
  · cases hg
    rw [Engine.assembled_handles]
    refine ⟨Host.next_nodup _ _, fun k hk => ?_⟩
    show k ∈ (c.host.extend _).handles
    rw [Host.extend_handles]
    exact List.mem_append_right _ hk

end Controller

namespace Stage

structure Accounted (a : Stage) : Prop where
  sound : a.controller.host.Sound
  live : a.controller.host.handles = a.controller.held

variable {a b : Stage} {xs : List Occurrence} {es : List Event}

theorem Accounted.held_nodup (h : a.Accounted) : a.controller.held.Nodup := h.live ▸ h.sound.nodup

theorem Accounted.held_live (h : a.Accounted) :
    ∀ k ∈ a.controller.held, k ∈ a.controller.host.handles := fun _ hk => h.live ▸ hk

theorem Accounted.of_current (h : a.Accounted) {g : Generation}
    (hg : a.controller.current = some g) : a.controller.host.handles = g.arena.handles := by
  rw [h.live, Controller.held, hg]

theorem Accounted.of_none (h : a.Accounted) (hn : a.controller.current = none) :
    a.controller.host.handles = [] := by
  rw [h.live, Controller.held, hn]

theorem live_turn (hv : a.Valid) (h : a.Accounted) (ht : Turn a xs es b) :
    b.controller.host.handles = b.controller.held := by
  cases ht with
  | claim c fs gs project hp =>
    show c.claim.1.host.handles = c.claim.1.held
    rw [Controller.claim_fst]
    exact Controller.emptied_handles h.live
  | finish c fs f gs m host r t hf =>
    have hmem : f ∈ fs ++ f :: gs := Flight.mem_here fs gs f
    obtain ⟨project, hb⟩ := hv.building f hmem
    show (c.landed host f.generation r).1.host.handles = (c.landed host f.generation r).1.held
    rcases Controller.landed_cases hb hf with ⟨-, -, bs, hc⟩ | ⟨hl, -, entry, us, -, hc⟩ |
      ⟨-, -, err, -, hc⟩
    · rw [hc, Host.handles, Controller.discarded_blobs h.sound]
      exact h.live
    · -- While the newest build is awaited nothing is installed, so the host was empty before.
      have hnone : c.current = none := (hv.awaited f hmem hl.symm).1
      have hempty : c.host.handles = [] := h.of_none hnone
      rw [hc]
      show (c.host.extend _).handles = (c.engine.assembled _ _ _ _).arena.handles
      rw [Host.extend_handles, hempty, List.nil_append, Engine.assembled_handles]
    · rw [hc]
      exact h.live
  | receive c fs e es hi =>
    obtain ⟨s, v, hc⟩ := (c.withInbox es).handle_frame e
    rw [hc]
    exact h.live
  | handle c fs e =>
    obtain ⟨s, v, hc⟩ := c.handle_frame e
    rw [hc]
    exact h.live
  | shutdown c fs =>
    show c.shutdown.1.host.handles = c.shutdown.1.held
    rw [Controller.shutdown_fst]
    exact Controller.emptied_handles h.live
  | close c =>
    show c.releaseCurrent.1.host.handles = c.releaseCurrent.1.held
    rw [Controller.releaseCurrent_fst]
    exact Controller.emptied_handles h.live
  | give => exact h.live
  | wait => exact h.live
  | abandon => exact h.live
  | answer => exact h.live
  | post => exact h.live
  | deny => exact h.live

theorem Accounted.turn (hv : a.Valid) (h : a.Accounted) (ht : Turn a xs es b) : b.Accounted :=
  ⟨(ht.grows hv).sound h.sound, live_turn hv h ht⟩

theorem Accounted.regular (hv : a.Valid) (h : a.Accounted) (ht : Turn a xs es b) :
    ∀ x ∈ es, x.Regular := by
  cases ht with
  | claim c fs gs project hp => exact Controller.claim_regular h.held_nodup h.held_live
  | wait c fs f gs m j t hf =>
    have := f.advance_regular c.engine c.host m
    rwa [hf] at this
  | finish c fs f gs m host r t hf =>
    obtain ⟨project, hb⟩ := hv.building f (Flight.mem_here fs gs f)
    have hadvance := f.advance_regular c.engine c.host m
    rw [hf] at hadvance
    intro x hx
    exact (List.mem_append.mp hx).elim (hadvance x) (Controller.landed_regular hb hf x)
  | post c fs e es port payload ha =>
    have := Controller.acceptPost_regular port payload
    rwa [ha] at this
  | deny st port payload => exact Controller.acceptPost_regular port payload
  | receive c fs e es hi => exact (c.withInbox es).handle_regular e
  | handle c fs e => exact c.handle_regular e
  | shutdown c fs =>
    have hempty : c.shutdown.1.host.handles = [] := by
      rw [Controller.shutdown_fst]
      exact Controller.emptied_handles h.live
    intro x hx
    rw [Controller.shutdown_snd, Controller.leakEvents_of_empty hempty, List.append_nil] at hx
    exact Controller.released_regular (c.releaseCurrent_quiet h.held_nodup h.held_live x hx)
  | close c =>
    exact fun x hx =>
      Controller.released_regular (c.releaseCurrent_quiet h.held_nodup h.held_live x hx)
  | give => exact nofun
  | abandon => exact nofun
  | answer => exact nofun

theorem Accounted.path (hv : a.Valid) (h : a.Accounted) (hp : Path a xs es b) :
    b.Valid ∧ b.Accounted ∧ ∀ x ∈ es, x.Regular := by
  induction hp with
  | refl => exact ⟨hv, h, nofun⟩
  | head ht _ ih =>
    obtain ⟨hv', h', hrest⟩ := ih (hv.turn ht) (h.turn hv ht)
    refine ⟨hv', h', fun x hx => ?_⟩
    exact (List.mem_append.mp hx).elim (h.regular hv ht x) (hrest x)

end Stage

namespace Session

theorem start_accounted (e : Engine) (origin : String) : (start e origin).stage.Accounted :=
  ⟨start_sound e origin, rfl⟩

theorem own_run_accounted (e : Engine) (origin : String) (ms : List Move)
    (own : ∀ m ∈ ms, m.foreign = false) :
    ((start e origin).run ms).stage.Accounted ∧ ∀ x ∈ (start e origin).runLog ms, x.Regular :=
  (Stage.Accounted.path (Stage.start_valid e origin) (start_accounted e origin)
    (own_run_path _ (start_closed e origin) ms own)).2

theorem drop_alive (s : Session) : (s.move (.command .drop)).alive = false := by
  show s.drop.1.alive = false
  rw [drop]
  split
  · rfl
  · rename_i ha
    simpa using ha

theorem own_run_drop_live (e : Engine) (origin : String) (ms : List Move)
    (own : ∀ m ∈ ms, m.foreign = false) :
    (((start e origin).run ms).move (.command .drop)).controller.host.live = 0 := by
  have hrun : ((start e origin).run ms).move (.command .drop) =
      (start e origin).run (ms ++ [.command .drop]) := by
    rw [run_append]
    rfl
  have hown : ∀ m ∈ ms ++ [.command .drop], m.foreign = false := by
    intro m hm
    rcases List.mem_append.mp hm with hm | hm
    · exact own m hm
    · rw [List.mem_singleton.mp hm]
      rfl
  obtain ⟨hacc, -⟩ := own_run_accounted e origin _ hown
  have hvalid := run_valid _ (start_closed e origin) (Stage.start_valid e origin)
    (ms ++ [.command .drop])
  rw [← hrun] at hacc hvalid
  exact Host.live_of_empty (hacc.of_none (hvalid.closed (drop_alive _)).2)

structure Accounts (s : Session) (ms : List Move) : Prop where
  installed : ∀ g, (s.run ms).controller.current = some g →
    (s.run ms).controller.host.handles = g.arena.handles
  empty : (s.run ms).controller.current = none → (s.run ms).controller.host.live = 0
  live_once : (s.run ms).controller.host.handles.Nodup
  released_once : (s.released ms).Nodup
  live_or_released : (s.run ms).controller.host.issued.Perm
    ((s.run ms).controller.host.handles ++ s.released ms)
  never_live_again : ∀ ns, ∀ k ∈ (s.run ms).controller.host.issued,
    k ∉ (s.run ms).controller.host.handles → k ∉ (s.run (ms ++ ns)).controller.host.handles
  in_flight : (s.run ms).controller.inFlight = (unfinished (s.history ms)).length
  no_underflow : (s.run ms).controller.inFlight + (ends (s.history ms)).length =
    (claims (s.history ms)).length
  no_double_release : ∀ x ∈ s.runLog ms, x.message ≠ "resource was already released"
  no_leak : ∀ x ∈ s.runLog ms, ∀ n, x.message ≠ (Cause.leak n).text
  dropped : ((s.run ms).move (.command .drop)).controller.host.live = 0

theorem own_run_accounts (e : Engine) (origin : String) (ms : List Move)
    (own : ∀ m ∈ ms, m.foreign = false) : (start e origin).Accounts ms := by
  have hclosed := start_closed e origin
  have hstart := Stage.start_valid e origin
  have hvalid := run_valid _ hclosed hstart ms
  have htally := run_tallied e origin ms
  have hdead := released_perm _ hclosed hstart ms
  obtain ⟨hacc, hlog⟩ := own_run_accounted e origin ms own
  have hreleased : ((start e origin).run ms).controller.host.dead.Perm
      ((start e origin).released ms) := hdead
  have hcount : ((start e origin).run ms).controller.inFlight =
      (((start e origin).run ms).stage.flights.map Flight.generation).length := by
    rw [List.length_map]
    exact hvalid.counted
  constructor
  case installed => exact fun g hg => hacc.of_current hg
  case empty => exact fun hnone => Host.live_of_empty (hacc.of_none hnone)
  case live_once => exact hacc.sound.nodup
  case released_once => exact hreleased.nodup_iff.mp (Host.dead_nodup _)
  case live_or_released =>
    exact hacc.sound.issued_perm.trans (hreleased.append_left _)
  case never_live_again =>
    intro ns k hi hn hlive
    rw [run_append] at hlive
    exact hn ((run_grows _ (run_closed _ hclosed ms) hvalid ns).final k hlive hi)
  case in_flight => rw [hcount, htally.unfinished_perm.length_eq]
  case no_underflow =>
    rw [hcount, ← List.length_append]
    exact htally.balance.length_eq
  case no_double_release => exact fun x hx => (hlog x hx).not_released_twice
  case no_leak => exact fun x hx => (hlog x hx).not_leak
  case dropped => exact own_run_drop_live e origin ms own

theorem own_run_accounts_replaced_build :
    let s := start (Engine.new {} .marked) "http://localhost"
    let page : Node := ⟨"index.html", .file, some "<p></p>", none⟩
    let ms : List Move :=
      [.command (.setProject "a" [page]), .poll 0, .command (.rebuild "b"), .poll 0]
    (∀ m ∈ ms, m.foreign = false) ∧ s.Accounts ms ∧
      (s.run ms).controller.host.live = 1 ∧ (s.released ms).length = 1 := by
  refine ⟨by decide, own_run_accounts _ _ _ (by decide), ?_, ?_⟩ <;> decide +kernel

end Session

end LivePreview
