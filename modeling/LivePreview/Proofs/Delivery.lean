import LivePreview.Proofs.Listening
import LivePreview.Proofs.Tally

namespace LivePreview

namespace Occurrence

def posted? : Occurrence → Option Envelope
  | .posted e => some e
  | _ => none

def received? : Occurrence → Option Envelope
  | .received e _ => some e
  | _ => none

def applied : Occurrence → Bool
  | .received _ applied => applied
  | _ => false

def posts (hist : List Occurrence) : List Envelope := hist.filterMap posted?

def receipts (hist : List Occurrence) : List Envelope := hist.filterMap received?

theorem posts_append (xs ys : List Occurrence) : posts (xs ++ ys) = posts xs ++ posts ys :=
  List.filterMap_append

theorem receipts_append (xs ys : List Occurrence) :
    receipts (xs ++ ys) = receipts xs ++ receipts ys := List.filterMap_append

theorem heard_eq_map (c : Controller) (es : List Envelope) :
    heard c es = es.map (fun e => .received e (c.hears e)) := by
  induction es generalizing c with
  | nil => rfl
  | cons e es ih =>
    obtain ⟨hone, happlied⟩ := c.handle_eq_heed e
    rw [heard, ih, hone, happlied, Controller.heed_hears]
    rfl

theorem receipts_heard (c : Controller) (es : List Envelope) : receipts (heard c es) = es := by
  rw [heard_eq_map, receipts, List.filterMap_map]
  exact List.filterMap_some

theorem countP_heard (c : Controller) (es : List Envelope) :
    (heard c es).countP applied = (c.handleEach es).2.1 := by
  rw [heard_eq_map, List.countP_map, (c.handleEach_eq_heed es).2, ← List.countP_eq_length_filter]
  rfl

end Occurrence

open Occurrence

theorem Controller.landed_inbox (c : Controller) (h : Host) (n : Nat)
    (r : Except BuildError Generation) : (c.landed h n r).1.inbox = c.inbox := by
  by_cases hl : c.latest = n
  · subst hl
    cases r with
    | ok g => exact (congrArg inbox (finish_ready (c.withHost h) g).2 :)
    | error err => exact (congrArg inbox (finish_failed (c.withHost h) err).2 :)
  · exact (congrArg inbox (finish_superseded (c := c.withHost h) hl r).2 :)

theorem Turn.flow {a b : Stage} {xs : List Occurrence} {es : List Event} (ht : Turn a xs es b) :
    receipts xs ++ b.controller.inbox = a.controller.inbox ++ posts xs := by
  have hquiet (hr : receipts xs = []) (hp : posts xs = [])
      (hi : b.controller.inbox = a.controller.inbox) :
      receipts xs ++ b.controller.inbox = a.controller.inbox ++ posts xs := by
    rw [hr, hp, hi, List.append_nil, List.nil_append]
  cases ht with
  | claim c fs gs project hp =>
    refine hquiet rfl rfl ?_
    show c.claim.1.inbox = c.inbox
    rw [Controller.claim_fst]
    rfl
  | finish c fs f gs m h r t hf =>
    refine hquiet ?_ ?_ (c.landed_inbox h f.generation r)
    · rw [receipts_append, receipts, made_filterMap (fun _ _ => rfl)]
      rfl
    · rw [posts_append, posts, made_filterMap (fun _ _ => rfl)]
      rfl
  | post c fs e es port payload ha => rfl
  | receive c fs e es hi =>
    obtain ⟨s, v, hc⟩ := (c.withInbox es).handle_frame e
    show e :: ((c.withInbox es).handle e).1.inbox = c.inbox ++ []
    rw [hc, hi, List.append_nil]
    rfl
  | handle c fs e =>
    obtain ⟨s, v, hc⟩ := c.handle_frame e
    exact hquiet rfl rfl (congrArg Controller.inbox hc :)
  | shutdown c fs =>
    refine hquiet rfl rfl ?_
    show c.shutdown.1.inbox = c.inbox
    rw [Controller.shutdown_fst]
    rfl
  | close c =>
    refine hquiet rfl rfl ?_
    show c.releaseCurrent.1.inbox = c.inbox
    rw [Controller.releaseCurrent_fst]
    rfl
  | give => exact hquiet rfl rfl rfl
  | wait => exact hquiet rfl rfl rfl
  | abandon => exact hquiet rfl rfl rfl
  | answer => exact hquiet rfl rfl rfl
  | deny => exact hquiet rfl rfl rfl

namespace Session

theorem run_delivered (e : Engine) (origin : String) (ms : List Move) :
    receipts ((start e origin).history ms) ++ ((start e origin).run ms).controller.inbox =
      posts ((start e origin).history ms) := by
  refine run_invariant e origin
    (P := fun a hist => receipts hist ++ a.controller.inbox = posts hist) rfl
    (fun a hist xs es b _ _ ha ht => ?_) (fun _ _ _ ha => ha) ms
  rw [receipts_append, posts_append, List.append_assoc, ht.flow, ← List.append_assoc, ha]

variable {s : Session} {p : Pending} {i : Nat}

theorem alive_of_pending (hs : s.Closed) (hp : p ∈ s.pending) : s.alive = true := by
  cases ha : s.alive with
  | true => rfl
  | false =>
    rw [hs ha] at hp
    cases hp

theorem listenTurn_first {rest : List Nat} {e : Envelope} {es : List Envelope} {n : Nat}
    (ht : s.turns = n :: rest) (hi : s.controller.inbox = e :: es) :
    (s.listenTurn n).2.1 = some (.message (s.controller.hears e)) := by
  have hmessage := ((s.controller.withInbox es).handle_eq_heed e).2
  rw [listenTurn, ht]
  simp only [if_true, Controller.receive, hi]
  exact congrArg (fun applied => some (Outcome.message applied)) hmessage

theorem waiting_first (hq : s.Queued) (hp : p ∈ s.pending) (hw : p.work = .listening) :
    ∃ (j : Nat) (q : Pending) (rest : List Nat), s.pending[j]? = some q ∧
      q.work = .listening ∧ s.turns = q.id :: rest := by
  cases ht : s.turns with
  | nil =>
    have hmem : p.id ∈ s.turns := hq.turns.mem_iff.mpr (mem_listeners.mpr ⟨p, hp, hw, rfl⟩)
    rw [ht] at hmem
    cases hmem
  | cons n rest =>
    have hmem : n ∈ s.turns := ht ▸ List.mem_cons_self
    obtain ⟨q, hq', hwork, rfl⟩ := mem_listeners.mp (hq.turns.mem_iff.mp hmem)
    obtain ⟨j, hj⟩ := List.getElem?_of_mem hq'
    exact ⟨j, q, rest, hj, hwork, rfl⟩

theorem drain_waiting (hs : s.Closed) (hq : s.Queued) (hp : p ∈ s.pending)
    (hw : p.work = .listening) : s.act .drain = (s, .count 0, []) := by
  obtain ⟨_, q, rest, -, -, ht⟩ := waiting_first hq hp hw
  simp only [act, live_of_alive (alive_of_pending hs hp), ht, List.isEmpty_cons]
  rfl

theorem drain_free (ha : s.alive = true) (hq : s.Queued)
    (hw : ∀ p ∈ s.pending, p.work ≠ .listening) :
    (s.act .drain).2.1 = .count ((s.told .drain).countP applied) ∧
      receipts (s.told .drain) = s.controller.inbox ∧
      (s.move (.command .drain)).controller =
        (s.controller.withInbox []).heed s.controller.inbox := by
  have hturns : s.turns = [] := by
    have hp := hq.turns
    rw [listeners_eq_nil_iff.mpr hw] at hp
    exact hp.eq_nil
  have htold : s.told .drain = heard s.controller s.controller.inbox := by
    rw [told, ha, hturns]
    rfl
  have hact : s.act .drain =
      ({ s with controller := s.controller.drain.1 }, .count s.controller.drain.2.1,
        s.controller.drain.2.2) := by
    rw [act, live_of_alive ha, hturns]
    rfl
  obtain ⟨hheed, hcount⟩ := s.controller.drain_eq_heed
  refine ⟨?_, ?_, ?_⟩
  · rw [hact, htold, countP_heard, (s.controller.handleEach_eq_heed _).2, hcount]
  · rw [htold, receipts_heard]
  · show (s.act .drain).1.controller = _
    rw [hact]
    exact hheed

theorem post_cases (s : Session) (port : Nat) (payload : Json) :
    ((s.act (.post port payload)).2.1 = .flag true ∧
      ∃ e, s.told (.post port payload) = [.posted e] ∧
        (s.move (.command (.post port payload))).controller =
          s.controller.withInbox (s.controller.inbox ++ [e])) ∨
    ((s.act (.post port payload)).2.1 ≠ .flag true ∧ s.told (.post port payload) = [] ∧
      s.move (.command (.post port payload)) = s) := by
  simp only [move, act, told]
  cases s.ports[port]? with
  | none => exact .inr ⟨Reply.noConfusion, rfl, rfl⟩
  | some g =>
    dsimp only
    by_cases ha : s.alive = true
    · rw [if_pos ha, if_pos ha]
      rcases hacc : acceptPost g payload with ⟨_ | e, es⟩
      · have hpost : s.controller.post g payload = (s.controller, false, es) := by
          rw [Controller.post, hacc]
        rw [hpost]
        exact .inr ⟨fun h => Bool.noConfusion (Reply.flag.inj h), rfl, rfl⟩
      · have hpost : s.controller.post g payload =
            (s.controller.withInbox (s.controller.inbox ++ [e]), true, es) := by
          rw [Controller.post, hacc]
          rfl
        rw [hpost]
        exact .inl ⟨rfl, e, rfl, rfl⟩
    · rw [if_neg ha, if_neg ha]
      exact .inr ⟨fun h => Bool.noConfusion (Reply.flag.inj h), rfl, rfl⟩

theorem listening_cases (s t : Session) (hi : s.pending[i]? = some p)
    (hpoll : s.pollOne p = pollOne.listening t p.id) (hc : t.controller = s.controller) :
    (∃ e es, s.controller.inbox = e :: es ∧
      (s.pollOne p).2.1 = .ok (.message (s.controller.hears e)) ∧
      (s.move (.poll i)).controller = (s.controller.withInbox es).heed [e]) ∨
    ((s.pollOne p).2.1 = .error .listening ∧ (s.move (.poll i)).controller = s.controller) := by
  simp only [move, hi, hpoll, pollOne.listening]
  rcases listenTurn_cases t p.id with hno | ⟨e, es, rest, hin, -, hyes⟩
  · rw [hno]
    exact .inr ⟨rfl, hc⟩
  · rw [hyes]
    obtain ⟨hheed, happlied⟩ := (t.controller.withInbox es).handle_eq_heed e
    rw [← hc]
    refine .inl ⟨e, es, hin, ?_, hheed⟩
    rw [happlied]
    rfl

theorem listen_cases (hi : s.pending[i]? = some p) (hw : p.work = .listen ∨ p.work = .listening) :
    (∃ e es, s.controller.inbox = e :: es ∧
      (s.pollOne p).2.1 = .ok (.message (s.controller.hears e)) ∧
      (s.move (.poll i)).controller = (s.controller.withInbox es).heed [e]) ∨
    ((s.pollOne p).2.1 = .error .listening ∧ (s.move (.poll i)).controller = s.controller) := by
  rcases hw with hw | hw
  · refine listening_cases s { s with turns := s.turns ++ [p.id] } hi ?_ rfl
    rw [pollOne, hw]
  · refine listening_cases s s hi ?_ rfl
    rw [pollOne, hw]

theorem listen_served (hq : s.Queued) (hp : p ∈ s.pending) (hw : p.work = .listening)
    (hi : s.controller.inbox ≠ []) :
    ∃ (j : Nat) (q : Pending) (applied : Bool), s.pending[j]? = some q ∧ q.work = .listening ∧
      (s.pollOne q).2.1 = .ok (.message applied) := by
  obtain ⟨j, q, rest, hj, hwork, ht⟩ := waiting_first hq hp hw
  obtain ⟨e, es, hin⟩ := List.exists_cons_of_ne_nil hi
  refine ⟨j, q, s.controller.hears e, hj, hwork, ?_⟩
  have hturn := listenTurn_first ht hin
  rw [pollOne, hwork]
  show (pollOne.listening s q.id).2.1 = _
  rw [pollOne.listening]
  generalize s.listenTurn q.id = r at hturn
  obtain ⟨t, o, events⟩ := r
  obtain rfl : o = some (.message (s.controller.hears e)) := hturn
  rfl

/-- What is posted is received once and in the order of posting, by whoever takes the inbox. -/
structure Delivers (s : Session) (ms : List Move) : Prop where
  in_order : receipts (s.history ms) ++ (s.run ms).controller.inbox = posts (s.history ms)
  posted : ∀ port payload,
    (((s.run ms).act (.post port payload)).2.1 = .flag true ∧
      ∃ e, (s.run ms).told (.post port payload) = [.posted e] ∧
        ((s.run ms).move (.command (.post port payload))).controller =
          (s.run ms).controller.withInbox ((s.run ms).controller.inbox ++ [e])) ∨
    (((s.run ms).act (.post port payload)).2.1 ≠ .flag true ∧
      (s.run ms).told (.post port payload) = [] ∧
      (s.run ms).move (.command (.post port payload)) = s.run ms)
  listened : ∀ (i : Nat) p, (s.run ms).pending[i]? = some p →
    p.work = .listen ∨ p.work = .listening →
    (∃ e es, (s.run ms).controller.inbox = e :: es ∧
      ((s.run ms).pollOne p).2.1 = .ok (.message ((s.run ms).controller.hears e)) ∧
      ((s.run ms).move (.poll i)).controller =
        ((s.run ms).controller.withInbox es).heed [e]) ∨
    (((s.run ms).pollOne p).2.1 = .error .listening ∧
      ((s.run ms).move (.poll i)).controller = (s.run ms).controller)
  served : ∀ p ∈ (s.run ms).pending, p.work = .listening → (s.run ms).controller.inbox ≠ [] →
    ∃ (i : Nat) (q : Pending) (applied : Bool), (s.run ms).pending[i]? = some q ∧
      q.work = .listening ∧ ((s.run ms).pollOne q).2.1 = .ok (.message applied)
  blocked : ∀ p ∈ (s.run ms).pending, p.work = .listening →
    (s.run ms).act .drain = (s.run ms, .count 0, [])
  drained : (s.run ms).alive = true → (∀ p ∈ (s.run ms).pending, p.work ≠ .listening) →
    ((s.run ms).act .drain).2.1 = .count (((s.run ms).told .drain).countP applied) ∧
      receipts ((s.run ms).told .drain) = (s.run ms).controller.inbox ∧
      ((s.run ms).move (.command .drain)).controller =
        ((s.run ms).controller.withInbox []).heed (s.run ms).controller.inbox

theorem run_delivers (e : Engine) (origin : String) (ms : List Move) :
    (start e origin).Delivers ms := by
  have hclosed := run_closed _ (start_closed e origin) ms
  have hqueued := run_queued (start_queued e origin) ms
  constructor
  case in_order => exact run_delivered e origin ms
  case posted => exact post_cases _
  case listened => exact fun i p hi hw => listen_cases hi hw
  case served => exact fun p hp hw hi => listen_served hqueued hp hw hi
  case blocked => exact fun p hp hw => drain_waiting hclosed hqueued hp hw
  case drained => exact fun ha hw => drain_free ha hqueued hw

end Session

end LivePreview
