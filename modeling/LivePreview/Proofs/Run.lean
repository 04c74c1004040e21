import LivePreview.Proofs.Host
import LivePreview.Session

namespace LivePreview

inductive Move where
  | command (k : Command)
  | poll (i : Nat)
  | forget (i : Nat)

inductive Occurrence where
  | given (project : List Node)
  | claimed (generation : Nat)
  | published (generation : Nat) (k : Handle)
  | completed (o : Outcome)
  | dropped (generation : Nat)
  | posted (e : Envelope)
  | received (e : Envelope) (applied : Bool)
  | handled (e : Envelope) (applied : Bool)
  | shutdown

def Command.foreign : Command → Bool
  | .release _ => true
  | .create _ => true
  | _ => false

def Move.foreign : Move → Bool
  | .command k => k.foreign
  | _ => false

def Work.job? : Work → Option Job
  | .building j => some j
  | _ => none

def Outcome.generation? : Outcome → Option Nat
  | .ready g => some g
  | .failed g => some g
  | .superseded g => some g
  | _ => none

namespace Occurrence

def target : Except Work Outcome → Option Nat
  | .ok o => o.generation?
  | .error w => w.job?.map Job.generation

def begun (g : Option Nat) : Work → List Occurrence
  | .setProject project => .given project :: g.toList.map .claimed
  | .rebuild => g.toList.map .claimed
  | _ => []

def made (g : Option Nat) (old new : Host) : List Occurrence :=
  match g with
  | some g => (new.issued.drop old.created).map (.published g)
  | none => []

def taken (inbox : List Envelope) : Except Work Outcome → List Occurrence
  | .ok (.message applied) => inbox.head?.toList.map (fun e => .received e applied)
  | _ => []

def ended : Except Work Outcome → List Occurrence
  | .ok o => [.completed o]
  | .error _ => []

def lost (ps : List Pending) : List Occurrence :=
  (ps.filterMap (fun p => p.work.job?)).map (fun j => .dropped j.generation)

def heard (c : Controller) : List Envelope → List Occurrence
  | [] => []
  | e :: es => .received e (c.handle e).2.1 :: heard (c.handle e).1 es

end Occurrence

namespace Session

open Occurrence

def start (e : Engine) (origin : String) : Session :=
  { controller := Controller.new e { origin := origin } }

def settle (s : Session) (i : Nat) (p : Pending) : Except Work Outcome → Session
  | .ok _ => { s with pending := s.pending.eraseIdx i }
  | .error w => { s with pending := s.pending.set i { p with work := w } }

def move (s : Session) : Move → Session
  | .command k => (s.act k).1
  | .poll i => match s.pending[i]? with
      | some p => (s.pollOne p).1.settle i p (s.pollOne p).2.1
      | none => s
  | .forget i => match s.pending[i]? with
      | some p => { s with pending := s.pending.eraseIdx i }.forget p
      | none => s

def log (s : Session) : Move → List Event
  | .command k => (s.act k).2.2
  | .poll i => match s.pending[i]? with
      | some p => (s.pollOne p).2.2.events
      | none => []
  | .forget _ => []

def polled (s : Session) (p : Pending) : List Occurrence :=
  let r := s.pollOne p
  begun (target r.2.1) p.work ++ taken s.controller.inbox r.2.1 ++
    made (target r.2.1) s.controller.host r.1.controller.host ++ ended r.2.1

def told (s : Session) : Command → List Occurrence
  | .cancel name => lost (s.pending.filter (fun p => p.name == name))
  | .drop => if s.alive then lost s.pending else []
  | .post port payload => match s.ports[port]? with
      | some g => if s.alive then (acceptPost g payload).1.toList.map .posted else []
      | none => []
  | .drain =>
      if s.alive && s.turns.isEmpty then heard s.controller s.controller.inbox else []
  | .handle e => if s.alive then [.handled e (s.controller.handle e).2.1] else []
  | .shutdown => if s.alive then [.shutdown] else []
  | _ => []

def occurrences (s : Session) : Move → List Occurrence
  | .command k => s.told k
  | .poll i => match s.pending[i]? with
      | some p => s.polled p
      | none => []
  | .forget i => match s.pending[i]? with
      | some p => lost [p]
      | none => []

def run : Session → List Move → Session
  | s, [] => s
  | s, m :: ms => run (s.move m) ms

def history : Session → List Move → List Occurrence
  | _, [] => []
  | s, m :: ms => s.occurrences m ++ history (s.move m) ms

def runLog : Session → List Move → List Event
  | _, [] => []
  | s, m :: ms => s.log m ++ runLog (s.move m) ms

theorem run_append (s : Session) (ms ns : List Move) :
    s.run (ms ++ ns) = (s.run ms).run ns := by
  induction ms generalizing s with
  | nil => rfl
  | cons m ms ih => exact ih (s.move m)

theorem history_append (s : Session) (ms ns : List Move) :
    s.history (ms ++ ns) = s.history ms ++ (s.run ms).history ns := by
  induction ms generalizing s with
  | nil => rfl
  | cons m ms ih =>
    rw [List.cons_append, history, history, ih, run, List.append_assoc]

theorem ofStep_pending (s : Session) (qs : List Pending)
    (x : Controller × Controller.Step × Trace) :
    { s with pending := qs }.ofStep x =
      ({ (s.ofStep x).1 with pending := qs }, (s.ofStep x).2.1, (s.ofStep x).2.2) := by
  obtain ⟨c, st, t⟩ := x
  cases st <;> rfl

theorem listenTurn_pending (s : Session) (qs : List Pending) (id : Nat) :
    { s with pending := qs }.listenTurn id =
      ({ (s.listenTurn id).1 with pending := qs }, (s.listenTurn id).2.1,
        (s.listenTurn id).2.2) := by
  obtain ⟨c, alive, moment, ps, nextId, turns, ports, seen⟩ := s
  cases turns with
  | nil => rfl
  | cons first rest =>
    simp only [listenTurn]
    split
    · cases c.receive <;> rfl
    · rfl

theorem listening_pending (s : Session) (qs : List Pending) (id : Nat) :
    pollOne.listening { s with pending := qs } id =
      ({ (pollOne.listening s id).1 with pending := qs }, (pollOne.listening s id).2.1,
        (pollOne.listening s id).2.2) := by
  simp only [pollOne.listening, listenTurn_pending s qs id]
  obtain ⟨t, o, es⟩ := s.listenTurn id
  cases o <;> rfl

theorem pollOne_pending (s : Session) (qs : List Pending) (p : Pending) :
    { s with pending := qs }.pollOne p =
      ({ (s.pollOne p).1 with pending := qs }, (s.pollOne p).2.1, (s.pollOne p).2.2) := by
  obtain ⟨id, name, w⟩ := p
  cases w with
  | setProject project => exact ofStep_pending s qs _
  | rebuild => exact ofStep_pending s qs _
  | building j => exact ofStep_pending s qs _
  | listen => exact listening_pending { s with turns := s.turns ++ [id] } qs id
  | listening => exact listening_pending s qs id

theorem pollEach_eq_run (s : Session) (qs ps : List Pending) :
    ∃ ms, (∀ m ∈ ms, m.foreign = false) ∧
      { s with pending := qs ++ ps }.run ms =
        { (s.pollEach ps).1 with pending := qs ++ (s.pollEach ps).2.1 } := by
  induction ps generalizing s qs with
  | nil => exact ⟨[], by simp, rfl⟩
  | cons p ps ih =>
    have hget : (qs ++ p :: ps)[qs.length]? = some p := by simp
    have hmove : ({ s with pending := qs ++ p :: ps }.move (.poll qs.length)) =
        ({ (s.pollOne p).1 with pending := qs ++ p :: ps }.settle qs.length p
          (s.pollOne p).2.1) := by
      simp only [move, hget, pollOne_pending s (qs ++ p :: ps) p]
    cases hr : (s.pollOne p).2.1 with
    | ok o =>
      obtain ⟨ms, hms, hrun⟩ := ih (s.pollOne p).1 qs
      refine ⟨.poll qs.length :: ms, ?_, ?_⟩
      · simpa [Move.foreign] using hms
      · rw [run, hmove, hr]
        have herase : (qs ++ p :: ps).eraseIdx qs.length = qs ++ ps := by
          rw [List.eraseIdx_append_of_length_le (Nat.le_refl _)]
          simp
        simp only [settle, herase, hrun, pollEach, hr]
    | error w =>
      obtain ⟨ms, hms, hrun⟩ := ih (s.pollOne p).1 (qs ++ [{ p with work := w }])
      refine ⟨.poll qs.length :: ms, ?_, ?_⟩
      · simpa [Move.foreign] using hms
      · rw [run, hmove, hr]
        have hset : (qs ++ p :: ps).set qs.length { p with work := w } =
            (qs ++ [{ p with work := w }]) ++ ps := by
          simp
        simp only [settle, hset, hrun, pollEach, hr]
        simp

theorem step_eq_run (s : Session) (k : Command) :
    ∃ ms, (∀ m ∈ ms, m.foreign = false) ∧ (s.step k).1 = (s.move (.command k)).run ms := by
  obtain ⟨ms, hms, hrun⟩ := pollEach_eq_run (s.act k).1 [] (s.act k).1.pending
  exact ⟨ms, hms, hrun.symm⟩

def steps : Session → List Command → Session
  | s, [] => s
  | s, k :: ks => steps (s.step k).1 ks

theorem steps_eq_run (s : Session) (ks : List Command) : ∃ ms,
    ((∀ k ∈ ks, k.foreign = false) → ∀ m ∈ ms, m.foreign = false) ∧ s.steps ks = s.run ms := by
  induction ks generalizing s with
  | nil => exact ⟨[], fun _ => nofun, rfl⟩
  | cons k ks ih =>
    obtain ⟨polls, hpolls, hfirst⟩ := s.step_eq_run k
    obtain ⟨ms, hms, hrest⟩ := ih (s.step k).1
    refine ⟨.command k :: polls ++ ms, ?_, ?_⟩
    · intro hks m hm
      rcases List.mem_append.mp hm with hm | hm
      · rcases List.mem_cons.mp hm with rfl | hm
        · exact hks k List.mem_cons_self
        · exact hpolls m hm
      · exact hms (fun k' hk' => hks k' (List.mem_cons_of_mem k hk')) m hm
    · rw [steps, hrest, hfirst, run_append]
      rfl

end Session

end LivePreview
