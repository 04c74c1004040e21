import LivePreview.Build.Transpiler
import LivePreview.Diagnostics
import LivePreview.Resource.Arena
import LivePreview.Table

namespace LivePreview

structure Moment where
  now : Nat := 0
  opened : List String := []
  deriving DecidableEq, Repr

inductive Task where
  | queued (path text : String)
  | running (path : String) (call : Call) (since : Nat)
  | finished (result : Except Cause CompiledUnit)

namespace Task

def expired (limit : Option Nat) (since now : Nat) : Bool :=
  match limit with
  | none => false
  | some l => since + l ≤ now

def failEvent (path message : String) : Event :=
  ⟨.debug, "transpilation failed", [("path", path), ("error", message)]⟩

/-- Takes the answer if there is one, and only then looks at the clock. -/
def settle (limit : Option Nat) (m : Moment) (path : String) (call : Call) (since : Nat) :
    Task × Trace :=
  match call.advance m.opened with
  | .done (.ok code) =>
      (.finished (.ok ⟨path, (SourceKind.ofPath path).media, code⟩), {})
  | .done (.error message) =>
      (.finished (.error (.compile path message)), Trace.log [failEvent path message])
  | pending =>
      if expired limit since m.now then (.finished (.error (.timedOut path)), {})
      else (.running path pending since, {})

def poll (t : Transpiler) (limit : Option Nat) (m : Moment) : Task → Task × Trace
  | .queued path text =>
      let kind := SourceKind.ofPath path
      if kind.needsTranspile then
        let (task, trace) := settle limit m path (t.call text path) m.now
        (task, ⟨[path], t.announce path⟩ ++ trace)
      else (.finished (.ok ⟨path, kind.media, text⟩), {})
  | .running path call since => settle limit m path call since
  | .finished result => (.finished result, {})

end Task

structure Compilation where
  tasks : List Task
  limit : Option Nat
  mapSize : Nat

namespace Compilation

def smallLimit : Nat := 30

/-- The size of the whole file map decides, with the entry, which has no task, counted among the
files: of a small map the first failure that is seen counts at once, of a larger one a failure
counts only when all files before it are done. -/
def eager (c : Compilation) : Bool := c.mapSize ≤ smallLimit

def start (files : Table String) (entryPath : String) (limit : Option Nat) : Compilation where
  tasks := (files.entries.filter (fun p => p.1 ≠ entryPath)).map (fun p => .queued p.1 p.2)
  limit := limit
  mapSize := files.size

def sweep (t : Transpiler) (limit : Option Nat) (m : Moment) (eager : Bool) :
    Bool → List Task → List Task × Trace × Option Cause
  | _, [] => ([], {}, none)
  | ready, task :: tasks =>
      let (task, trace) := task.poll t limit m
      match task with
      | .finished (.error cause) =>
          if eager || ready then (task :: tasks, trace, some cause)
          else
            let (tasks, more, failure) := sweep t limit m eager false tasks
            (task :: tasks, trace ++ more, failure)
      | .finished (.ok _) =>
          let (tasks, more, failure) := sweep t limit m eager ready tasks
          (task :: tasks, trace ++ more, failure)
      | _ =>
          let (tasks, more, failure) := sweep t limit m eager false tasks
          (task :: tasks, trace ++ more, failure)

def units : List Task → Option (List CompiledUnit)
  | [] => some []
  | .finished (.ok u) :: tasks => (units tasks).map (u :: ·)
  | _ :: _ => none

inductive Progress where
  | pending (c : Compilation)
  | finished (result : Except BuildError (List CompiledUnit))

def poll (t : Transpiler) (m : Moment) (c : Compilation) : Progress × Trace :=
  let (tasks, trace, failure) := sweep t c.limit m c.eager true c.tasks
  match failure with
  | some cause => (.finished (.error (BuildError.of cause)), trace)
  | none => match units tasks with
      | some us =>
          (.finished (.ok us),
            trace ++ Trace.log [⟨.debug, "compiled project modules",
              [("units", toString us.length)]⟩])
      | none => (.pending { c with tasks := tasks }, trace)

structure Tick where
  gate : Option String := none
  elapsed : Nat := 0
  deriving DecidableEq, Repr

def Tick.apply (k : Tick) (m : Moment) : Moment where
  now := m.now + k.elapsed
  opened := k.gate.toList ++ m.opened

def run (t : Transpiler) (m : Moment) (c : Compilation) : List Tick → Progress × Nat × Trace
  | [] =>
      let (p, trace) := c.poll t m
      (p, 0, trace)
  | k :: ks =>
      let (p, trace) := c.poll t m
      match p with
      | .finished r => (.finished r, 0, trace)
      | .pending c =>
          let (p, used, more) := run t (k.apply m) c ks
          (p, used + 1, trace ++ more)

end Compilation

end LivePreview
