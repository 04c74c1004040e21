import Mathlib.Data.List.Induction
import LivePreview.Proofs.Coherence
import LivePreview.Proofs.Delivery
import LivePreview.Proofs.Supersession

namespace LivePreview

/-- What the port of a generation lets through: a report of an error that is tagged with no
generation or with that one. -/
def Admits (port : Nat) (payload : Json) : Prop :=
  ∃ ps, payload = .obj ps ∧ Json.member "type" ps = some (.str "preview-error") ∧
    ∀ n : Int, Json.member "generation" ps = some (.int n) → 0 ≤ n → n < 18446744073709551616 →
      n = port

theorem Json.text?_eq_some_iff {v : Json} {t : String} : v.text? = some t ↔ v = .str t := by
  cases v <;> simp [text?]

theorem Json.unsigned?_eq_some_iff {v : Json} {g : Nat} :
    v.unsigned? = some g ↔ v = .int g ∧ g < 18446744073709551616 := by
  cases v with
  | int n =>
    simp only [unsigned?, int.injEq]
    constructor
    · intro h
      split at h
      · simp only [Option.some.injEq] at h
        omega
      · cases h
    · rintro ⟨rfl, hg⟩
      rw [if_pos (by omega)]
      simp
  | _ => simp [unsigned?]

theorem SandboxMessage.ofJson?_eq_some_iff {payload : Json} {m : SandboxMessage} :
    ofJson? payload = some m ↔ ∃ ps, payload = .obj ps ∧
      Json.member "type" ps = some (.str "preview-error") ∧
      m = ⟨textOf (Json.member "message" ps),
        (Json.member "generation" ps).bind Json.unsigned?⟩ := by
  cases payload with
  | obj ps =>
    have htype : (((Json.obj ps).get? "type").bind Json.text? = some reportType) ↔
        Json.member "type" ps = some (.str "preview-error") := by
      rw [Json.get?, Option.bind_eq_some_iff]
      simp only [Json.text?_eq_some_iff, exists_eq_right, reportType]
    by_cases ht : Json.member "type" ps = some (.str "preview-error")
    · rw [ofJson?, if_pos (htype.mpr ht)]
      constructor
      · intro h
        exact ⟨ps, rfl, ht, (Option.some.inj h).symm⟩
      · rintro ⟨ps', hps, -, rfl⟩
        cases hps
        rfl
    · rw [ofJson?, if_neg (fun h => ht (htype.mp h))]
      constructor
      · intro h
        cases h
      · rintro ⟨ps', hps, ht', -⟩
        cases hps
        exact absurd ht' ht
  | _ => simp [ofJson?, Json.get?]

theorem acceptPost_some {port : Nat} {payload : Json} {e : Envelope}
    (h : (acceptPost port payload).1 = some e) :
    e.generation = port ∧ SandboxMessage.ofJson? payload = some e.content := by
  rw [acceptPost] at h
  cases hm : SandboxMessage.ofJson? payload with
  | none =>
    rw [hm] at h
    cases h
  | some m =>
    rw [hm] at h
    have he : e = ⟨port, m⟩ := by
      dsimp only at h
      repeat' split at h
      all_goals cases h
      all_goals rfl
    exact ⟨by rw [he], by rw [he]⟩

theorem acceptPost_isSome_iff (port : Nat) (payload : Json) :
    (acceptPost port payload).1.isSome ↔ Admits port payload := by
  rw [acceptPost]
  cases hm : SandboxMessage.ofJson? payload with
  | none =>
    simp only [Option.isSome_none, Bool.false_eq_true, false_iff]
    rintro ⟨ps, hps, ht, -⟩
    have hsome := SandboxMessage.ofJson?_eq_some_iff.mpr ⟨ps, hps, ht, rfl⟩
    rw [hm] at hsome
    cases hsome
  | some m =>
    obtain ⟨ps, rfl, ht, rfl⟩ := SandboxMessage.ofJson?_eq_some_iff.mp hm
    dsimp only
    have hadmits : Admits port (.obj ps) ↔
        ∀ g, (Json.member "generation" ps).bind Json.unsigned? = some g → g = port := by
      constructor
      · rintro ⟨ps', hps, -, htag⟩ g hg
        cases hps
        obtain ⟨v, hv, hu⟩ := Option.bind_eq_some_iff.mp hg
        obtain ⟨rfl, hlt⟩ := Json.unsigned?_eq_some_iff.mp hu
        have := htag g hv (by omega) (by omega)
        omega
      · intro htag
        refine ⟨ps, rfl, ht, fun n hn hpos hlt => ?_⟩
        have hg : (Json.member "generation" ps).bind Json.unsigned? = some n.toNat := by
          rw [hn, Option.bind_some, Json.unsigned?_eq_some_iff]
          exact ⟨by rw [Int.toNat_of_nonneg hpos], by omega⟩
        have := htag n.toNat hg
        omega
    rw [hadmits]
    cases hg : (Json.member "generation" ps).bind Json.unsigned? with
    | none => simp
    | some g => by_cases he : g = port <;> simp [he]

theorem Controller.Coherent.deaf {c : Controller} (hc : c.Coherent)
    (hr : c.snapshot.status ≠ .ready)
    (hf : ¬ (c.snapshot.status = .failed ∧ c.snapshot.kind = some .runtime))
    (es : List Envelope) : c.heed es = c := by
  obtain ⟨hm, -, hshown⟩ := hc
  have hnone : c.current = none := by
    generalize c.snapshot = s at *
    generalize c.current = cur at *
    cases hshown with
    | ready => exact absurd rfl hr
    | broken => exact absurd ⟨rfl, rfl⟩ hf
    | _ => rfl
  refine heed_of_stale (fun e _ => ?_)
  rw [hears, hm, hnone]
  rfl

namespace Occurrence

def heeded? : Occurrence → Option Envelope
  | .received e true => some e
  | .handled e true => some e
  | _ => none

def Fresh (hist : List Occurrence) (x : Occurrence) : Prop :=
  ∀ e, x.heeded? = some e →
    .completed (.ready e.generation) ∈ hist ∧ e.generation = hist.countP bumps

variable {hist xs : List Occurrence} {x : Occurrence} {e : Envelope} {g : Nat}

theorem Fresh.of_silent (hx : x.heeded? = none) (P : List Occurrence) : Fresh P x := by
  intro e he
  rw [hx] at he
  cases he

theorem fresh_append (h : Throughout Fresh hist) (hxs : ∀ x ∈ xs, x.heeded? = none) :
    Throughout Fresh (hist ++ xs) :=
  h.append (fun x hx => .of_silent (hxs x hx))

theorem ready_last {P : List Occurrence} (hl : AllLawful P)
    (hr : .completed (.ready g) ∈ P) (hg : g = P.countP bumps) :
    ∃ A B, P = A ++ .completed (.ready g) :: B ∧ ∀ y ∈ B, y.bumps = false := by
  obtain ⟨A, B, rfl⟩ := List.append_of_mem hr
  refine ⟨A, B, rfl, ?_⟩
  obtain ⟨-, hcase⟩ := hl A _ B rfl g rfl
  have hA : g = A.countP bumps := by
    rcases hcase with ⟨h, -⟩ | ⟨-, h⟩
    · cases h
    · exact h
  rw [List.countP_append, List.countP_cons_of_neg Bool.false_ne_true] at hg
  have hB : B.countP bumps = 0 := by omega
  exact fun y hy => Bool.eq_false_iff.mpr (List.countP_eq_zero.mp hB y hy)

end Occurrence

open Occurrence

namespace Stage

def Announced (a : Stage) (hist : List Occurrence) : Prop :=
  ∀ m, a.controller.mounted = some m →
    .completed (.ready m.generation) ∈ hist ∧ m.generation = a.controller.latest

variable {a b : Stage} {hist xs : List Occurrence} {es : List Event}

theorem Announced.keep (h : a.Announced hist) (hm : b.controller.mounted = a.controller.mounted)
    (hl : b.controller.latest = a.controller.latest) : b.Announced (hist ++ xs) := by
  intro m hmm
  obtain ⟨hr, hg⟩ := h m (hm ▸ hmm)
  exact ⟨List.mem_append_left xs hr, hl ▸ hg⟩

theorem Announced.bare (hm : a.controller.mounted = none) : a.Announced hist := by
  intro m hmm
  rw [hm] at hmm
  cases hmm

theorem Announced.turn (hv : a.Valid) (h : a.Announced hist) (ht : Turn a xs es b) :
    b.Announced (hist ++ xs) := by
  cases ht with
  | claim c fs gs project hp =>
    refine .bare ?_
    show c.claim.1.mounted = none
    rw [Controller.claim_fst]
  | finish c fs f gs m host r t hf =>
    obtain ⟨project, hb⟩ := hv.building f (Flight.mem_here fs gs f)
    rcases Controller.landed_cases hb hf with ⟨-, -, bs, hc⟩ | ⟨hl, ho, entry, us, -, hc⟩ |
      ⟨-, -, err, -, hc⟩
    · rw [hc]
      exact h.keep rfl rfl
    · rw [ho, hc]
      intro m hm
      cases hm
      exact ⟨List.mem_append_right _ (List.mem_append_right _ List.mem_cons_self), hl.symm⟩
    · rw [hc]
      exact h.keep rfl rfl
  | receive c fs e es hi =>
    obtain ⟨s, v, hc⟩ := (c.withInbox es).handle_frame e
    exact h.keep (congrArg Controller.mounted hc :) (congrArg Controller.latest hc :)
  | handle c fs e =>
    obtain ⟨s, v, hc⟩ := c.handle_frame e
    exact h.keep (congrArg Controller.mounted hc :) (congrArg Controller.latest hc :)
  | shutdown c fs =>
    refine .bare ?_
    show c.shutdown.1.mounted = none
    rw [Controller.shutdown_fst]
  | close c => exact .bare rfl
  | give => exact h.keep rfl rfl
  | wait => exact h.keep rfl rfl
  | abandon => exact h.keep rfl rfl
  | answer => exact h.keep rfl rfl
  | post => exact h.keep rfl rfl
  | deny => exact h.keep rfl rfl

theorem Announced.fresh {c : Controller} {fs : List Flight} {alive : Bool}
    (h : Announced ⟨c, fs, alive⟩ hist) (hn : Tallied ⟨c, fs, alive⟩ hist) {e : Envelope}
    (he : c.hears e = true) :
    .completed (.ready e.generation) ∈ hist ∧ e.generation = hist.countP bumps := by
  obtain ⟨m, hm, hg⟩ := Controller.hears_iff.mp he
  obtain ⟨hr, hl⟩ := h m hm
  rw [← hg]
  exact ⟨hr, hl.trans hn.latest⟩

theorem fresh_heard {c : Controller} {fs : List Flight} {alive : Bool}
    (h : Announced ⟨c, fs, alive⟩ hist) (hn : Tallied ⟨c, fs, alive⟩ hist) {e : Envelope}
    {x : Occurrence}
    (hx : x = .received e (c.handle e).2.1 ∨ x = .handled e (c.handle e).2.1) : Fresh hist x := by
  rw [(c.handle_eq_heed e).2] at hx
  cases hh : c.hears e with
  | true =>
    intro e' he'
    obtain rfl : e = e' := by
      rw [hh] at hx
      rcases hx with rfl | rfl <;> exact Option.some.inj he'
    exact h.fresh hn hh
  | false =>
    rw [hh] at hx
    exact .of_silent (by rcases hx with rfl | rfl <;> rfl) hist

theorem fresh_turn (h : a.Announced hist) (hn : a.Tallied hist)
    (hf : Throughout Fresh hist) (ht : Turn a xs es b) : Throughout Fresh (hist ++ xs) := by
  cases ht with
  | finish c fs f gs m host r t hadv =>
    refine fresh_append hf (fun x hx => ?_)
    rcases List.mem_append.mp hx with hx | hx
    · obtain ⟨n, k, rfl⟩ := made_published hx
      rfl
    · rw [List.mem_singleton.mp hx]
      rfl
  | receive c fs e es hi =>
    have hheard : Announced ⟨c.withInbox es, fs, true⟩ hist := h
    exact hf.concat (fresh_heard hheard ⟨hn.balance, hn.rising, hn.bounded, hn.latest⟩ (.inl rfl))
  | handle c fs e => exact hf.concat (fresh_heard h hn (.inr rfl))
  | give => exact fresh_append hf (by simp [heeded?])
  | claim => exact fresh_append hf (by simp [heeded?])
  | wait => exact fresh_append hf (by simp)
  | abandon => exact fresh_append hf (by simp [heeded?])
  | answer => exact fresh_append hf (by simp [heeded?])
  | post => exact fresh_append hf (by simp [heeded?])
  | deny => exact fresh_append hf (by simp)
  | shutdown => exact fresh_append hf (by simp [heeded?])
  | close => exact fresh_append hf (by simp)

end Stage

namespace Session

theorem run_announced (e : Engine) (origin : String) (ms : List Move) :
    ((start e origin).run ms).stage.Announced ((start e origin).history ms) ∧
      Throughout Fresh ((start e origin).history ms) :=
  run_invariant e origin (P := fun a hist => a.Announced hist ∧ Throughout Fresh hist)
    ⟨.bare rfl, .nil⟩
    (fun _ _ _ _ _ hv hn ha ht => ⟨ha.1.turn hv ht, Stage.fresh_turn ha.1 hn ha.2 ht⟩)
    (fun _ _ _ ha => ha) ms

variable {s : Session} {p : Pending} {i g : Nat}

theorem ofStep_ports (s : Session) (x : Controller × Controller.Step × Trace) :
    (s.ofStep x).1.ports = s.ports := by
  obtain ⟨c, st, t⟩ := x
  cases st <;> rfl

theorem listening_ports (s : Session) (id : Nat) :
    (pollOne.listening s id).1.ports = s.ports := by
  rw [pollOne.listening]
  rcases listenTurn_cases s id with hno | ⟨e, es, rest, -, -, hyes⟩
  · rw [hno]
  · rw [hyes]

theorem pollOne_ports (s : Session) (p : Pending) : (s.pollOne p).1.ports = s.ports := by
  obtain ⟨id, name, w⟩ := p
  cases w with
  | setProject project => exact ofStep_ports s _
  | rebuild => exact ofStep_ports s _
  | building j => exact ofStep_ports s _
  | listen => exact listening_ports { s with turns := s.turns ++ [id] } id
  | listening => exact listening_ports s id

theorem forget_ports (s : Session) (p : Pending) : (s.forget p).ports = s.ports := by
  obtain ⟨id, name, w⟩ := p
  cases w <;> rfl

theorem foldl_forget_ports (s : Session) (ps : List Pending) :
    (ps.foldl forget s).ports = s.ports := by
  induction ps generalizing s with
  | nil => rfl
  | cons p ps ih => exact (ih (s.forget p)).trans (s.forget_ports p)

theorem act_ports (s : Session) (k : Command) : (s.act k).1.ports = s.ports ∨
    ∃ m, s.controller.mounted = some m ∧ (s.act k).1.ports = s.ports ++ [m.generation] := by
  cases k with
  | takePort =>
    cases ha : s.alive with
    | false => exact .inl (by rw [act, live_of_dead ha])
    | true =>
      rw [act, live_of_alive ha]
      cases hm : s.controller.mounted with
      | none => exact .inl rfl
      | some m => exact .inr ⟨m, rfl, rfl⟩
  | cancel name =>
    simp only [act, cancel, List.partition_eq_filter_filter]
    exact .inl (foldl_forget_ports _ _)
  | drop =>
    simp only [act, drop]
    split
    · exact .inl (foldl_forget_ports _ _)
    · exact .inl rfl
  | _ =>
    refine .inl ?_
    simp only [act, live]
    repeat' split
    all_goals rfl

theorem move_ports (s : Session) (m : Move) : (s.move m).ports = s.ports ∨
    ∃ mt, s.controller.mounted = some mt ∧ (s.move m).ports = s.ports ++ [mt.generation] := by
  cases m with
  | command k => exact s.act_ports k
  | poll i =>
    refine .inl ?_
    simp only [move]
    cases s.pending[i]? with
    | none => rfl
    | some p =>
      rw [← s.pollOne_ports p]
      dsimp only
      cases (s.pollOne p).2.1 <;> rfl
  | forget i =>
    refine .inl ?_
    simp only [move]
    cases s.pending[i]? with
    | none => rfl
    | some p => exact forget_ports _ p

theorem run_ports (e : Engine) (origin : String) (ms : List Move) :
    ∀ g ∈ ((start e origin).run ms).ports,
      .completed (.ready g) ∈ (start e origin).history ms := by
  induction ms using List.reverseRecOn with
  | nil => nofun
  | append_singleton ms m ih =>
    intro g hg
    rw [run_append] at hg
    rw [history_append]
    refine List.mem_append_left _ ?_
    rcases ((start e origin).run ms).move_ports m with hp | ⟨mt, hm, hp⟩
    · exact ih g (hp ▸ hg)
    · rcases List.mem_append.mp (hp ▸ hg : g ∈ _ ++ _) with hg | hg
      · exact ih g hg
      · rw [List.mem_singleton.mp hg]
        exact ((run_announced e origin ms).1 mt hm).1

theorem post_admitted {payload : Json} (hp : s.ports[i]? = some g) (ha : s.alive = true)
    (hadm : Admits g payload) :
    ∃ m, SandboxMessage.ofJson? payload = some m ∧
      (s.act (.post i payload)).1 =
        { s with controller :=
          s.controller.withInbox (s.controller.inbox ++ [⟨g, m⟩]) } ∧
      (s.act (.post i payload)).2.1 = .flag true ∧ s.told (.post i payload) = [.posted ⟨g, m⟩] := by
  obtain ⟨e, he⟩ := Option.isSome_iff_exists.mp ((acceptPost_isSome_iff g payload).mpr hadm)
  obtain ⟨rfl, hm⟩ := acceptPost_some he
  rcases hacc : acceptPost e.generation payload with ⟨o, es⟩
  rw [hacc] at he
  obtain rfl : o = some e := he
  refine ⟨e.content, hm, ?_⟩
  simp only [act, told, hp, Controller.post, hacc, if_pos ha]
  exact ⟨rfl, trivial, rfl⟩

theorem post_refused {payload : Json} (hp : s.ports[i]? = some g)
    (hno : ¬ (s.alive = true ∧ Admits g payload)) :
    (s.act (.post i payload)).1 = s ∧ (s.act (.post i payload)).2.1 = .flag false ∧
      s.told (.post i payload) = [] := by
  simp only [act, told, hp]
  by_cases ha : s.alive = true
  · have hnone : (acceptPost g payload).1 = none := by
      rw [← Option.not_isSome_iff_eq_none, acceptPost_isSome_iff]
      exact fun hadm => hno ⟨ha, hadm⟩
    rcases hacc : acceptPost g payload with ⟨o, es⟩
    rw [hacc] at hnone
    obtain rfl : o = none := hnone
    simp only [Controller.post, hacc, if_pos ha]
    exact ⟨trivial, trivial, rfl⟩
  · simp only [if_neg ha]
    exact ⟨trivial, trivial, trivial⟩

theorem retired_deaf {e : Engine} {origin : String} {ms ns : List Move} {x : Envelope}
    (hb : ∃ y ∈ ((start e origin).run ms).history ns, y.bumps = true)
    (hx : x.generation ∈ ((start e origin).run ms).ports) :
    ((start e origin).run (ms ++ ns)).controller.hears x = false := by
  cases hh : ((start e origin).run (ms ++ ns)).controller.hears x with
  | false => rfl
  | true =>
    obtain ⟨A, B, hhist⟩ := List.append_of_mem (run_ports e origin ms _ hx)
    -- What was ready then bears a number that the history had reached by then.
    have hold : x.generation ≤ ((start e origin).history ms).countP bumps := by
      obtain ⟨-, hcase⟩ := run_lawful e origin ms A _ B hhist x.generation rfl
      rw [hhist, List.countP_append]
      rcases hcase with ⟨h, -⟩ | ⟨-, h⟩
      · cases h
      · omega
    obtain ⟨-, hnew⟩ :=
      (run_announced e origin (ms ++ ns)).1.fresh (run_tallied e origin (ms ++ ns)) hh
    have hpos := List.countP_pos_iff.mpr hb
    rw [history_append, List.countP_append] at hnew
    omega

theorem drain_cases (ha : s.alive = true) :
    s.move (.command .drain) =
      if s.turns = [] then
        { s with controller := (s.controller.heed s.controller.inbox).withInbox [] }
      else s := by
  rw [move, act, live_of_alive ha]
  cases ht : s.turns with
  | nil =>
    rw [if_pos rfl, ← s.controller.drain_eq_heed.1]
    rfl
  | cons n rest => rfl

/-- A report passes the port of its own generation only, and is applied only while that generation
is mounted: then it breaks the snapshot, and else it changes nothing. -/
structure Guards (s : Session) : Prop where
  admitted : ∀ i g payload, s.ports[i]? = some g → s.alive = true → Admits g payload →
    ∃ m, SandboxMessage.ofJson? payload = some m ∧
      (s.act (.post i payload)).1 =
        { s with controller := s.controller.withInbox (s.controller.inbox ++ [⟨g, m⟩]) } ∧
      (s.act (.post i payload)).2.1 = .flag true ∧ s.told (.post i payload) = [.posted ⟨g, m⟩]
  refused : ∀ i g payload, s.ports[i]? = some g → ¬ (s.alive = true ∧ Admits g payload) →
    (s.act (.post i payload)).1 = s ∧ (s.act (.post i payload)).2.1 = .flag false ∧
      s.told (.post i payload) = []
  handled : ∀ e, s.alive = true →
    s.move (.command (.handle e)) = { s with controller := s.controller.heed [e] } ∧
      (s.act (.handle e)).2.1 = .flag (s.controller.hears e)
  drained : s.alive = true → s.move (.command .drain) =
    if s.turns = [] then
      { s with controller := (s.controller.heed s.controller.inbox).withInbox [] }
    else s
  listened : ∀ (i : Nat) p, s.pending[i]? = some p → p.work = .listen ∨ p.work = .listening →
    (∃ e es, s.controller.inbox = e :: es ∧
      (s.pollOne p).2.1 = .ok (.message (s.controller.hears e)) ∧
      (s.move (.poll i)).controller = (s.controller.heed [e]).withInbox es) ∨
    ((s.pollOne p).2.1 = .error .listening ∧ (s.move (.poll i)).controller = s.controller)
  mounted : ∀ e, s.controller.hears e = true ↔
    ∃ m, s.controller.mounted = some m ∧ m.generation = e.generation
  applied : ∀ e, s.controller.hears e = true →
    s.controller.heed [e] = { s.controller with
      snapshot := { s.controller.snapshot with
        status := .failed, message := some e.content.message, kind := some .runtime },
      version := s.controller.version + 1 }
  ignored : ∀ es, (∀ e ∈ es, s.controller.hears e = false) → s.controller.heed es = s.controller
  in_turn : ∀ es fs, s.controller.heed (es ++ fs) = (s.controller.heed es).heed fs
  unready : s.alive = true → s.controller.snapshot.status ≠ .ready →
    ¬ (s.controller.snapshot.status = .failed ∧ s.controller.snapshot.kind = some .runtime) →
    ∀ es, s.controller.heed es = s.controller

theorem guards_of_valid (hv : s.stage.Valid) : s.Guards := by
  constructor
  case admitted => exact fun i g payload hp ha hadm => post_admitted hp ha hadm
  case refused => exact fun i g payload hp hno => post_refused hp hno
  case handled =>
    intro e ha
    obtain ⟨hheed, happlied⟩ := s.controller.handle_eq_heed e
    rw [move, act, live_of_alive ha, ← hheed, ← happlied]
    exact ⟨rfl, rfl⟩
  case drained => exact drain_cases
  case listened => exact fun i p hi hw => listen_cases hi hw
  case mounted => exact fun e => Controller.hears_iff
  case applied => exact fun e he => Controller.heed_of_hears he
  case ignored => exact fun es hes => Controller.heed_of_stale hes
  case in_turn => exact fun es fs => s.controller.heed_append es fs
  case unready => exact fun ha hr hf es => (hv.coherent ha).deaf hr hf es

structure Shields (s : Session) (ms : List Move) : Prop where
  guards : (s.run ms).Guards
  ported : ∀ g ∈ (s.run ms).ports, .completed (.ready g) ∈ s.history ms
  newest : ∀ P x e Q, s.history ms = P ++ x :: Q → x.heeded? = some e →
    ∃ A B, P = A ++ .completed (.ready e.generation) :: B ∧ ∀ y ∈ B, y.bumps = false
  retired : ∀ ns e, (∃ y ∈ (s.run ms).history ns, y.bumps = true) →
    e.generation ∈ (s.run ms).ports → (s.run (ms ++ ns)).controller.hears e = false

theorem run_shields (e : Engine) (origin : String) (ms : List Move) :
    (start e origin).Shields ms := by
  have hvalid := run_valid _ (start_closed e origin) (Stage.start_valid e origin) ms
  constructor
  case guards => exact guards_of_valid hvalid
  case ported => exact run_ports e origin ms
  case newest =>
    intro P x y Q hhist hy
    obtain ⟨hr, hg⟩ := (run_announced e origin ms).2 P x Q hhist y hy
    refine ready_last (fun A z B hA => ?_) hr hg
    exact run_lawful e origin ms A z (B ++ x :: Q) (by rw [hhist, hA]; simp)
  case retired => exact fun ns x hb hx => retired_deaf hb hx

end Session

end LivePreview
