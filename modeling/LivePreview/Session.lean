import LivePreview.Controller

namespace LivePreview

inductive Work where
  | setProject (project : List Node)
  | rebuild
  | listen
  | building (j : Job)
  | listening

structure Pending where
  id : Nat
  name : String
  work : Work

inductive Reply where
  | nothing
  | gone
  | noPort
  | noHandle
  | notSubscribed
  | count (n : Nat)
  | flag (b : Bool)
  | port (index : Option Nat)
  | markup (text : Option String)
  | generation (g : Option Generation) (h : Host)
  | blob (b : Option Blob)
  | names (entry origin : String)
  | changed (b : Bool) (s : Snapshot)
  | handle (k : Handle)

inductive Command where
  | setProject (name : String) (project : List Node)
  | rebuild (name : String)
  | listen (name : String)
  | cancel (name : String)
  | openGate (gate : String)
  | advance (ms : Nat)
  | takePort
  | post (port : Nat) (payload : Json)
  | drain
  | handle (e : Envelope)
  | markup
  | generation
  | document
  | options
  | subscribe
  | changed
  | fetch (serial : Nat)
  | release (serial : Nat)
  | create (text : String)
  | shutdown
  | drop

/-- A controller, the callers that wait on it, and the clock they are polled by. The callers that
listen take the inbox in turns: `turns` holds them in the order in which they asked. -/
structure Session where
  controller : Controller
  alive : Bool := true
  moment : Moment := {}
  pending : List Pending := []
  nextId : Nat := 0
  turns : List Nat := []
  ports : List Nat := []
  seen : Option Nat := none

namespace Session

def enqueue (s : Session) (name : String) (w : Work) : Session :=
  { s with pending := s.pending ++ [⟨s.nextId, name, w⟩], nextId := s.nextId + 1 }

/-- A caller that goes away leaves its turn, and its build with nothing published. -/
def forget (s : Session) (p : Pending) : Session :=
  match p.work with
  | .building _ => { s with controller := s.controller.abandon }
  | .listening => { s with turns := s.turns.filter (· ≠ p.id) }
  | _ => s

def cancel (s : Session) (name : String) : Session × Nat :=
  let (gone, kept) := s.pending.partition (·.name == name)
  (gone.foldl forget { s with pending := kept }, gone.length)

def listenTurn (s : Session) (id : Nat) : Session × Option Outcome × List Event :=
  match s.turns with
  | first :: rest =>
      if first = id then
        match s.controller.receive with
        | some (c, applied, events) =>
            ({ s with controller := c, turns := rest }, some (.message applied), events)
        | none => (s, none, [])
      else (s, none, [])
  | [] => (s, none, [])

def ofStep (s : Session) : Controller × Controller.Step × Trace → Session × Except Work Outcome × Trace
  | (c, .building j, trace) => ({ s with controller := c }, .error (.building j), trace)
  | (c, .done o, trace) => ({ s with controller := c }, .ok o, trace)

def pollOne (s : Session) (p : Pending) : Session × Except Work Outcome × Trace :=
  match p.work with
  | .setProject project => s.ofStep (s.controller.setProject s.moment project)
  | .rebuild => s.ofStep (s.controller.rebuild s.moment)
  | .building j => s.ofStep (s.controller.resume s.moment j)
  | .listen => listening { s with turns := s.turns ++ [p.id] } p.id
  | .listening => listening s p.id
where
  listening (s : Session) (id : Nat) : Session × Except Work Outcome × Trace :=
    match s.listenTurn id with
    | (s, some o, events) => (s, .ok o, Trace.log events)
    | (s, none, events) => (s, .error .listening, Trace.log events)

def pollEach (s : Session) : List Pending → Session × List Pending × List (String × Outcome) × Trace
  | [] => (s, [], [], {})
  | p :: ps =>
      let (s, result, trace) := s.pollOne p
      let (s, kept, completed, more) := s.pollEach ps
      match result with
      | .ok o => (s, kept, (p.name, o) :: completed, trace ++ more)
      | .error w => (s, { p with work := w } :: kept, completed, trace ++ more)

def pollAll (s : Session) : Session × List (String × Outcome) × Trace :=
  let (s, kept, completed, trace) := s.pollEach s.pending
  ({ s with pending := kept }, completed, trace)

def handleAt (s : Session) (serial : Nat) : Option Handle :=
  let h := s.controller.host
  if 1 ≤ serial ∧ serial ≤ h.created then some (h.handleOf serial) else none

def withHost (s : Session) (h : Host) : Session :=
  { s with controller := { s.controller with host := h } }

def drop (s : Session) : Session × List Event :=
  if s.alive then
    let s := s.pending.foldl forget { s with pending := [] }
    let (c, events) := s.controller.releaseCurrent
    ({ s with controller := { c with mounted := none }, alive := false }, events)
  else (s, [])

def live (s : Session) (k : Session × Reply × List Event) : Session × Reply × List Event :=
  if s.alive then k else (s, .gone, [])

def act (s : Session) : Command → Session × Reply × List Event
  | .setProject name project => s.live (s.enqueue name (.setProject project), .nothing, [])
  | .rebuild name => s.live (s.enqueue name .rebuild, .nothing, [])
  | .listen name => s.live (s.enqueue name .listen, .nothing, [])
  | .cancel name =>
      let (s, n) := s.cancel name
      (s, .count n, [])
  | .openGate gate =>
      ({ s with moment := { s.moment with opened := gate :: s.moment.opened } }, .nothing, [])
  | .advance ms => ({ s with moment := { s.moment with now := s.moment.now + ms } }, .nothing, [])
  | .takePort => s.live (match s.controller.mounted with
      | some m => ({ s with ports := s.ports ++ [m.generation] }, .port (some s.ports.length), [])
      | none => (s, .port none, []))
  | .post port payload => match s.ports[port]? with
      | none => (s, .noPort, [])
      | some generation =>
          let (c, accepted, events) := s.controller.post generation payload
          if s.alive then ({ s with controller := c }, .flag accepted, events)
          else (s, .flag false, events)
  | .drain => s.live (
      if s.turns.isEmpty then
        let (c, n, events) := s.controller.drain
        ({ s with controller := c }, .count n, events)
      else (s, .count 0, []))
  | .handle e => s.live (
      let (c, applied, events) := s.controller.handle e
      ({ s with controller := c }, .flag applied, events))
  | .markup => s.live (s, .markup (s.controller.mounted.map Mount.markup), [])
  | .generation => s.live (s, .generation s.controller.current s.controller.host, [])
  | .document => s.live
      (s, .blob (s.controller.current.bind (fun g => g.document s.controller.host)), [])
  | .options =>
      let settings := s.controller.engine.settings
      s.live (s, .names settings.entryName settings.origin, [])
  | .subscribe => s.live ({ s with seen := some s.controller.version }, .nothing, [])
  | .changed => match s.seen with
      | none => (s, .notSubscribed, [])
      | some v =>
          ({ s with seen := some s.controller.version },
            .changed (s.alive && v != s.controller.version) s.controller.snapshot, [])
  | .fetch serial => match s.handleAt serial with
      | some k => (s, .blob (s.controller.host.fetch k), [])
      | none => (s, .noHandle, [])
  | .release serial => match s.handleAt serial with
      | some k =>
          let (h, was) := s.controller.host.release k
          (s.withHost h, .flag was, [])
      | none => (s, .noHandle, [])
  | .create text =>
      let (h, k) := s.controller.host.create ⟨.document, text⟩
      (s.withHost h, .handle k, [])
  | .shutdown => s.live (
      let (c, events) := s.controller.shutdown
      ({ s with controller := c }, .nothing, events))
  | .drop =>
      let (s, events) := s.drop
      (s, .nothing, events)

structure Report where
  reply : Reply
  completed : List (String × Outcome)
  trace : Trace

def step (s : Session) (k : Command) : Session × Report :=
  let (s, reply, events) := s.act k
  let (s, completed, trace) := s.pollAll
  (s, ⟨reply, completed, Trace.log events ++ trace⟩)

end Session

end LivePreview
