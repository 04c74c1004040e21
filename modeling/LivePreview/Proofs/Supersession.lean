import LivePreview.Proofs.Growth
import LivePreview.Proofs.Tally

namespace LivePreview

namespace Occurrence

def Lawful (hist : List Occurrence) : Occurrence → Prop
  | .claimed g => g = hist.countP bumps + 1
  | .completed o => ∀ g, o.generation? = some g → .claimed g ∈ hist ∧
      (o = .superseded g ∧ g ≠ hist.countP bumps ∨
        (o = .ready g ∨ o = .failed g) ∧ g = hist.countP bumps)
  | _ => True

def AllLawful (hist : List Occurrence) : Prop := ∀ P x R, hist = P ++ x :: R → Lawful P x

variable {hist P Q R xs : List Occurrence} {x : Occurrence} {g : Nat} {o : Outcome}

theorem AllLawful.concat (h : AllLawful hist) (hx : Lawful hist x) : AllLawful (hist ++ [x]) :=
  Throughout.concat h hx

theorem AllLawful.append (h : AllLawful hist) (hxs : ∀ x ∈ xs, ∀ P, Lawful P x) :
    AllLawful (hist ++ xs) :=
  Throughout.append h hxs

theorem mem_claims : g ∈ claims hist ↔ .claimed g ∈ hist := by
  simp only [claims, List.mem_filterMap]
  constructor
  · rintro ⟨x, hx, hg⟩
    cases x <;> cases hg
    exact hx
  · exact fun h => ⟨_, h, rfl⟩

theorem AllLawful.superseded_iff (h : AllLawful (P ++ .claimed g :: Q ++ .completed o :: R))
    (ho : o.generation? = some g) :
    (o = .superseded g ↔ ∃ x ∈ Q, x.bumps = true) ∧
      (o = .superseded g ∨ o = .ready g ∨ o = .failed g) := by
  have hg : g = P.countP bumps + 1 :=
    h P (.claimed g) (Q ++ .completed o :: R) (by simp)
  obtain ⟨-, hcase⟩ := h (P ++ .claimed g :: Q) _ R rfl g ho
  -- Ids count the starts and shutdowns, so an id is still the newest iff none came since.
  have hcount : (P ++ .claimed g :: Q).countP bumps = g + Q.countP bumps := by
    rw [List.countP_append, List.countP_cons_of_pos rfl, hg]
    omega
  rw [hcount] at hcase
  have hpos : 0 < Q.countP bumps ↔ ∃ x ∈ Q, x.bumps = true := List.countP_pos_iff
  rcases hcase with ⟨rfl, hne⟩ | ⟨rfl | rfl, he⟩
  · exact ⟨⟨fun _ => hpos.mp (by omega), fun _ => rfl⟩, .inl rfl⟩
  · exact ⟨⟨nofun, fun hx => by have := hpos.mpr hx; omega⟩, .inr (.inl rfl)⟩
  · exact ⟨⟨nofun, fun hx => by have := hpos.mpr hx; omega⟩, .inr (.inr rfl)⟩

end Occurrence

open Occurrence

namespace Stage

variable {a b : Stage} {hist xs : List Occurrence} {es : List Event}

theorem lawful_turn (hv : a.Valid) (hn : a.Tallied hist) (hl : AllLawful hist)
    (ht : Turn a xs es b) : AllLawful (hist ++ xs) := by
  cases ht with
  | claim c fs gs project hp => exact hl.concat (congrArg (· + 1) hn.latest)
  | finish c fs f gs m h r t hf =>
    have hmem : f ∈ fs ++ f :: gs := Flight.mem_here fs gs f
    obtain ⟨project, hb⟩ := hv.building f hmem
    have hmade : AllLawful
        (hist ++ made (some f.generation) c.host (c.landed h f.generation r).1.host) := by
      refine hl.append (fun x hx P => ?_)
      obtain ⟨n, k, rfl⟩ := made_published hx
      trivial
    rw [← List.append_assoc]
    refine hmade.concat (fun g hg => ?_)
    have hgen := c.landed_generation h f.generation r
    obtain rfl : f.generation = g := Option.some.inj (hgen.symm.trans hg)
    have hclaimed : .claimed f.generation ∈ hist := by
      refine mem_claims.mp (hn.balance.mem_iff.mp ?_)
      exact List.mem_append_left _ (List.mem_map_of_mem hmem)
    refine ⟨List.mem_append_left _ hclaimed, ?_⟩
    rw [List.countP_append, made_bumps, Nat.add_zero,
      show hist.countP bumps = c.latest from hn.latest.symm]
    rcases Controller.landed_cases hb hf with ⟨hne, ho, -⟩ | ⟨he, ho, -⟩ | ⟨he, ho, -⟩
    · exact .inl ⟨ho, Ne.symm hne⟩
    · exact .inr ⟨.inl ho, he.symm⟩
    · exact .inr ⟨.inr ho, he.symm⟩
  | answer st o ho =>
    refine hl.concat (fun g hg => ?_)
    rw [ho] at hg
    cases hg
  | give => exact hl.concat trivial
  | wait => simpa using hl
  | abandon => exact hl.concat trivial
  | post => exact hl.concat trivial
  | deny => simpa using hl
  | receive => exact hl.concat trivial
  | handle => exact hl.concat trivial
  | shutdown => exact hl.concat trivial
  | close => simpa using hl

end Stage

namespace Session

theorem run_lawful (e : Engine) (origin : String) (ms : List Move) :
    AllLawful ((start e origin).history ms) :=
  run_invariant e origin (P := fun _ hist => AllLawful hist) Throughout.nil
    (fun _ _ _ _ _ hv hn hl ht => Stage.lawful_turn hv hn hl ht) (fun _ _ _ hl => hl) ms

variable {s : Session} {i : Nat} {p : Pending} {j : Job} {g : Nat}

theorem flight_of_building (hi : s.pending[i]? = some p) (hw : p.work = .building j) :
    .running j ∈ s.flights :=
  List.mem_filterMap.mpr ⟨p, List.mem_of_getElem? hi, by rw [flight?, hw]; rfl⟩

theorem in_flight_of_building (hv : s.stage.Valid) (hi : s.pending[i]? = some p)
    (hw : p.work = .building j) : 0 < s.controller.inFlight := by
  have hcount : s.controller.inFlight = s.flights.length := hv.counted
  rw [hcount]
  exact List.length_pos_of_mem (flight_of_building hi hw)

theorem ofStep_ok {x : Controller × Controller.Step × Trace} {o : Outcome}
    (h : (s.ofStep x).2.1 = .ok o) : x.2.1 = .done o := by
  obtain ⟨c, st, t⟩ := x
  cases st <;> cases h
  rfl

theorem proceed_superseded {c : Controller} {f : Flight} {m : Moment} {project : List Node}
    (hb : f.Builds c.engine project)
    (h : (c.proceed f.generation (f.advance c.engine c.host m)).2.1 = .done (.superseded g)) :
    c.latest ≠ f.generation ∧ ∃ bs,
      (c.proceed f.generation (f.advance c.engine c.host m)).1 = c.discarded bs := by
  rcases hf : f.advance c.engine c.host m with ⟨host, j | r, t⟩
  · rw [hf] at h
    cases h
  · rw [hf] at h
    have ho : (c.landed host f.generation r).2.1 = .superseded g := Controller.Step.done.inj h
    rcases Controller.landed_cases hb hf with ⟨hne, -, bs, hc⟩ | ⟨-, ho', -⟩ | ⟨-, ho', -⟩
    · exact ⟨hne, bs, hc⟩
    · rw [ho] at ho'
      cases ho'
    · rw [ho] at ho'
      cases ho'

theorem build_not_superseded (c : Controller) (m : Moment) (project : List Node) :
    (c.build m project).2.1 ≠ .done (.superseded g) := by
  intro h
  have hbuilds : (Flight.fresh c.claim.1.latest project).Builds c.claim.1.engine project := rfl
  obtain ⟨hne, -⟩ := proceed_superseded hbuilds h
  exact hne rfl

theorem listening_not_superseded (s : Session) (id : Nat) :
    (pollOne.listening s id).2.1 ≠ .ok (.superseded g) := by
  intro h
  obtain ⟨-, htarget, -⟩ := listening_path s [] id
  rw [h] at htarget
  cases htarget

theorem building_of_superseded (ho : (s.pollOne p).2.1 = .ok (.superseded g)) :
    ∃ j, p.work = .building j := by
  obtain ⟨id, name, w⟩ := p
  cases w with
  | building j => exact ⟨j, rfl⟩
  | setProject project => exact absurd (ofStep_ok ho) (build_not_superseded _ _ _)
  | rebuild =>
    have hstep := ofStep_ok ho
    rw [Controller.rebuild] at hstep
    split at hstep
    · exact absurd hstep (build_not_superseded _ _ _)
    · cases hstep
  | listen => exact absurd ho (listening_not_superseded _ id)
  | listening => exact absurd ho (listening_not_superseded s id)

theorem poll_superseded (hv : s.stage.Valid) (hs : s.controller.host.Sound)
    (hi : s.pending[i]? = some p) (ho : (s.pollOne p).2.1 = .ok (.superseded g)) :
    ∃ h, h.blobs = s.controller.host.blobs ∧ 0 < s.controller.inFlight ∧
      (s.move (.poll i)).controller =
        { s.controller with inFlight := s.controller.inFlight - 1, host := h } := by
  obtain ⟨j, hw⟩ := building_of_superseded ho
  have hpoll : s.pollOne p = s.ofStep (s.controller.resume s.moment j) := by rw [pollOne, hw]
  obtain ⟨project, hb⟩ := hv.building _ (flight_of_building hi hw)
  rw [hpoll] at ho
  obtain ⟨-, bs, hc⟩ := proceed_superseded (f := .running j) hb (ofStep_ok ho)
  refine ⟨_, Controller.discarded_blobs hs bs, in_flight_of_building hv hi hw, ?_⟩
  simp only [move, hi, hpoll, ho, settle, (ofStep_fields s _).1]
  exact hc

theorem forget_building (hi : s.pending[i]? = some p) (hw : p.work = .building j) :
    (s.move (.forget i)).controller =
      { s.controller with inFlight := s.controller.inFlight - 1 } := by
  simp only [move, hi, forget, hw]
  rfl

theorem foldl_forget_controller (s : Session) (ps : List Pending) :
    (ps.foldl forget s).controller =
      { s.controller with inFlight := s.controller.inFlight - (lost ps).length } := by
  induction ps generalizing s with
  | nil => rfl
  | cons p ps ih =>
    rw [List.foldl_cons, ih, (forget_controller s p).1, lost, lost, List.filterMap_cons]
    cases p.work.job? with
    | none => rfl
    | some j =>
      simp only [Controller.abandon, List.map_cons, List.length_cons, Nat.sub_sub]
      rw [Nat.add_comm]

theorem cancel_building (s : Session) (name : String) :
    (s.move (.command (.cancel name))).controller =
      { s.controller with
        inFlight := s.controller.inFlight -
          (lost (s.pending.filter (fun p => p.name == name))).length } := by
  show (s.cancel name).1.controller = _
  simp only [cancel, List.partition_eq_filter_filter]
  exact foldl_forget_controller _ _

theorem lost_le (s : Session) (hv : s.stage.Valid) (drop : Pending → Bool) :
    (lost (s.pending.filter drop)).length ≤ s.controller.inFlight := by
  have hflights : s.flights = (s.pending.filterMap (fun p => p.work.job?)).map .running :=
    List.map_filterMap.symm
  have hsub : (s.pending.filter drop).Sublist s.pending := List.filter_sublist
  rw [show s.controller.inFlight = s.flights.length from hv.counted, hflights, lost,
    List.length_map, List.length_map]
  exact (hsub.filterMap _).length_le

theorem rebuild_without_project (hi : s.pending[i]? = some p) (hw : p.work = .rebuild)
    (hp : s.controller.project = none) : s.pollOne p = (s, .ok .noProject, {}) ∧
      s.move (.poll i) = { s with pending := s.pending.eraseIdx i } := by
  have hpoll : s.pollOne p = (s, .ok .noProject, {}) := by
    rw [pollOne, hw, Controller.rebuild, hp]
    rfl
  simp only [move, hi, hpoll, settle]
  exact ⟨trivial, trivial⟩

structure Supersedes (s : Session) (ms : List Move) : Prop where
  rising : (claims (s.history ms)).Pairwise (· < ·)
  numbered : ∀ P g Q, s.history ms = P ++ .claimed g :: Q → g = P.countP bumps + 1
  claimed_first : ∀ P o R g, s.history ms = P ++ .completed o :: R → o.generation? = some g →
    .claimed g ∈ P
  superseded_iff : ∀ P g Q o R, s.history ms = P ++ .claimed g :: Q ++ .completed o :: R →
    o.generation? = some g → (o = .superseded g ↔ ∃ x ∈ Q, x.bumps = true)
  otherwise : ∀ P g Q o R, s.history ms = P ++ .claimed g :: Q ++ .completed o :: R →
    o.generation? = some g → o ≠ .superseded g → o = .ready g ∨ o = .failed g
  superseded_quiet : ∀ i p g, (s.run ms).pending[i]? = some p →
    ((s.run ms).pollOne p).2.1 = .ok (.superseded g) →
    ∃ h, h.blobs = (s.run ms).controller.host.blobs ∧ 0 < (s.run ms).controller.inFlight ∧
      ((s.run ms).move (.poll i)).controller = { (s.run ms).controller with
        inFlight := (s.run ms).controller.inFlight - 1, host := h }
  cancelled_quiet : ∀ i p j, (s.run ms).pending[i]? = some p → p.work = .building j →
    0 < (s.run ms).controller.inFlight ∧
      ((s.run ms).move (.forget i)).controller = { (s.run ms).controller with
        inFlight := (s.run ms).controller.inFlight - 1 }
  cancelled_together : ∀ name,
    (lost ((s.run ms).pending.filter (fun p => p.name == name))).length ≤
      (s.run ms).controller.inFlight ∧
    ((s.run ms).move (.command (.cancel name))).controller = { (s.run ms).controller with
      inFlight := (s.run ms).controller.inFlight -
        (lost ((s.run ms).pending.filter (fun p => p.name == name))).length }
  no_project : ∀ i p, (s.run ms).pending[i]? = some p → p.work = .rebuild →
    (s.run ms).controller.project = none →
    (s.run ms).pollOne p = (s.run ms, .ok .noProject, {}) ∧
      (s.run ms).move (.poll i) =
        { s.run ms with pending := (s.run ms).pending.eraseIdx i }

theorem run_supersedes (e : Engine) (origin : String) (ms : List Move) :
    (start e origin).Supersedes ms := by
  have hvalid := run_valid _ (start_closed e origin) (Stage.start_valid e origin) ms
  have hlawful := run_lawful e origin ms
  constructor
  case rising => exact (run_tallied e origin ms).rising
  case numbered => exact fun P g Q h => hlawful P (.claimed g) Q h
  case claimed_first => exact fun P o R g h ho => (hlawful P (.completed o) R h g ho).1
  case superseded_iff =>
    intro P g Q o R h ho
    rw [h] at hlawful
    exact (hlawful.superseded_iff ho).1
  case otherwise =>
    intro P g Q o R h ho hne
    rw [h] at hlawful
    exact (hlawful.superseded_iff ho).2.resolve_left hne
  case superseded_quiet =>
    exact fun i p g hi ho => poll_superseded hvalid (run_sound e origin ms) hi ho
  case cancelled_quiet =>
    exact fun i p j hi hw => ⟨in_flight_of_building hvalid hi hw, forget_building hi hw⟩
  case cancelled_together => exact fun name => ⟨lost_le _ hvalid _, cancel_building _ name⟩
  case no_project => exact fun i p hi hw hp => rebuild_without_project hi hw hp

end Session

end LivePreview
