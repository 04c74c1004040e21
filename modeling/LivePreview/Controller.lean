import LivePreview.Build.Engine

namespace LivePreview

inductive Status where
  | idle
  | building
  | ready
  | failed
  deriving DecidableEq, Repr

structure Snapshot where
  status : Status := .idle
  generation : Option Nat := none
  message : Option String := none
  kind : Option ErrorKind := none
  handle : Option Handle := none
  warnings : List String := []
  deriving DecidableEq, Repr

def Snapshot.loading (s : Snapshot) : Bool := s.status == .building

inductive Outcome where
  | ready (generation : Nat)
  | failed (generation : Nat)
  /-- A newer build had started, or everything was shut down, before this one finished. -/
  | superseded (generation : Nat)
  | noProject
  | message (applied : Bool)
  deriving DecidableEq, Repr

/-- Only the result of the latest build is installed; what was installed is released before the
next build runs. -/
structure Controller where
  engine : Engine
  host : Host
  latest : Nat := 0
  project : Option (List Node) := none
  current : Option Generation := none
  mounted : Option Mount := none
  inFlight : Nat := 0
  snapshot : Snapshot := {}
  version : Nat := 0
  inbox : List Envelope := []

namespace Controller

def new (e : Engine) (h : Host) : Controller := { engine := e, host := h }

def publish (c : Controller) (s : Snapshot) : Controller :=
  { c with snapshot := s, version := c.version + 1 }

def releaseCurrent (c : Controller) : Controller × List Event :=
  match c.current with
  | none => (c, [])
  | some g =>
      let (h, events) := g.arena.discard c.host
      ({ c with host := h, current := none }, events)

def claim (c : Controller) : Controller × List Event :=
  let event := c.current.toList.map (fun g =>
    ⟨.debug, "releasing previous generation", [("generation", generationName g.id)]⟩)
  let c := { c with latest := c.latest + 1, inFlight := c.inFlight + 1, mounted := none }
  let (c, events) := c.releaseCurrent
  (c.publish { status := .building, generation := some c.latest }, event ++ events)

def install (c : Controller) (g : Generation) : Controller × List Event :=
  let m : Mount := ⟨g.id, g.entry.handle, c.engine.settings.policy⟩
  let c := c.publish
    { status := .ready, generation := some g.id, handle := some g.entry.handle,
      warnings := g.warnings }
  ({ c with mounted := some m, current := some g }, [m.event])

def fail (c : Controller) (generation : Nat) (e : BuildError) : Controller × List Event :=
  (c.publish
    { status := .failed, generation := some generation, message := some e.message,
      kind := some e.kind },
    [⟨.error, "preview build failed: " ++ e.message,
      [("generation", generationName generation), ("kind", e.kind.name)]⟩])

def finish (c : Controller) (generation : Nat) (result : Except BuildError Generation) :
    Controller × Outcome × List Event :=
  let c := { c with inFlight := c.inFlight - 1 }
  if c.latest ≠ generation then
    let event : Event := ⟨.debug, "discarding result of superseded build",
      [("generation", generationName generation)]⟩
    match result with
    | .ok g =>
        let (h, events) := g.arena.discard c.host
        ({ c with host := h }, .superseded generation, event :: events)
    | .error _ => (c, .superseded generation, [event])
  else match result with
    | .ok g =>
        let (c, events) := c.install g
        (c, .ready generation, events)
    | .error e =>
        let (c, events) := c.fail generation e
        (c, .failed generation, events)

inductive Step where
  | building (j : Job)
  | done (o : Outcome)

def proceed (c : Controller) (generation : Nat) :
    Host × Job.Progress × Trace → Controller × Step × Trace
  | (h, .pending j, trace) => ({ c with host := h }, .building j, trace)
  | (h, .finished r, trace) =>
      let (c, o, events) := { c with host := h }.finish generation r
      (c, .done o, trace ++ Trace.log events)

def build (c : Controller) (m : Moment) (project : List Node) : Controller × Step × Trace :=
  let (c, events) := c.claim
  let (c, s, trace) := c.proceed c.latest (c.engine.begin c.host m project c.latest)
  (c, s, Trace.log events ++ trace)

def setProject (c : Controller) (m : Moment) (project : List Node) : Controller × Step × Trace :=
  { c with project := some project }.build m project

def rebuild (c : Controller) (m : Moment) : Controller × Step × Trace :=
  match c.project with
  | some project => c.build m project
  | none => (c, .done .noProject, {})

def resume (c : Controller) (m : Moment) (j : Job) : Controller × Step × Trace :=
  c.proceed j.generation (c.engine.poll c.host m j)

/-- A build that is dropped while it runs has published nothing. -/
def abandon (c : Controller) : Controller := { c with inFlight := c.inFlight - 1 }

/-- Applies a report from the mounted page; one from any other page changes nothing. -/
def handle (c : Controller) (e : Envelope) : Controller × Bool × List Event :=
  let fromMounted := match c.mounted with
    | some m => m.generation == e.generation
    | none => false
  if fromMounted then
    (c.publish { c.snapshot with
        status := .failed, message := some e.content.message, kind := some .runtime },
      true,
      [⟨.warn, "runtime error in preview",
        [("generation", generationName e.generation), ("message", e.content.message)]⟩])
  else
    (c, false, [⟨.warn, "ignoring message from a stale sandbox",
      [("generation", generationName e.generation)]⟩])

def handleEach (c : Controller) : List Envelope → Controller × Nat × List Event
  | [] => (c, 0, [])
  | e :: es =>
      let (c, applied, events) := c.handle e
      let (c, n, more) := c.handleEach es
      (c, (if applied then n + 1 else n), events ++ more)

def drain (c : Controller) : Controller × Nat × List Event :=
  { c with inbox := [] }.handleEach c.inbox

def post (c : Controller) (port : Nat) (payload : Json) : Controller × Bool × List Event :=
  match acceptPost port payload with
  | (some e, events) => ({ c with inbox := c.inbox ++ [e] }, true, events)
  | (none, events) => (c, false, events)

def receive (c : Controller) : Option (Controller × Bool × List Event) :=
  match c.inbox with
  | [] => none
  | e :: es => some ({ c with inbox := es }.handle e)

def leakEvents (c : Controller) : List Event :=
  if c.inFlight = 0 ∧ c.host.live ≠ 0 then [⟨.error, (Cause.leak c.host.live).text, []⟩] else []

/-- Releases everything; builds that still run are discarded when they finish. -/
def shutdown (c : Controller) : Controller × List Event :=
  let c := { c with latest := c.latest + 1, project := none, mounted := none }
  let (c, events) := c.releaseCurrent
  let c := c.publish {}
  (c, events ++ c.leakEvents)

end Controller

end LivePreview
