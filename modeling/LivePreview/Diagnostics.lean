namespace LivePreview

inductive Level where
  | trace
  | debug
  | warn
  | error
  deriving DecidableEq, Repr

structure Event where
  level : Level
  message : String
  fields : List (String × String) := []
  deriving DecidableEq, Repr

/-- What can be seen of a computation from outside: the files whose transpilation it started, and
its log. -/
structure Trace where
  calls : List String := []
  events : List Event := []
  deriving DecidableEq, Repr

instance : Append Trace where
  append a b := ⟨a.calls ++ b.calls, a.events ++ b.events⟩

def Trace.log (events : List Event) : Trace := { events := events }

inductive Cause where
  | compile (path message : String)
  | missingEntry (entryName : String)
  | timedOut (path : String)
  | runtime (message : String)
  | leak (live : Nat)
  deriving DecidableEq, Repr

inductive ErrorKind where
  | compile
  | missingEntry
  | timedOut
  | runtime
  | leak
  | other
  deriving DecidableEq, Repr

namespace Cause

def text : Cause → String
  | .compile path message => "Failed to compile " ++ path ++ ": " ++ message
  | .missingEntry name =>
      "No " ++ name ++ " found in the project. Project must have an entry " ++ name ++ "."
  | .timedOut path => "Timed out while compiling " ++ path
  | .runtime message => message
  | .leak live =>
      toString live ++ " published resources are still allocated after teardown"

def kind : Cause → ErrorKind
  | .compile .. => .compile
  | .missingEntry _ => .missingEntry
  | .timedOut _ => .timedOut
  | .runtime _ => .runtime
  | .leak _ => .leak

def tearsDown : Cause → Bool
  | .runtime _ => false
  | _ => true

end Cause

def ErrorKind.name : ErrorKind → String
  | .compile => "Compile"
  | .missingEntry => "MissingEntryDocument"
  | .timedOut => "TranspileTimeout"
  | .runtime => "Runtime"
  | .leak => "ResourceLeak"
  | .other => "Other"

inductive Problem where
  | known (cause : Cause)
  | plain (text : String)
  deriving DecidableEq, Repr

namespace Problem

def text : Problem → String
  | .known c => c.text
  | .plain t => t

def kind : Problem → ErrorKind
  | .known c => c.kind
  | .plain _ => .other

end Problem

structure BuildError where
  problems : List Problem
  deriving DecidableEq, Repr

namespace BuildError

def of (c : Cause) : BuildError := ⟨[.known c]⟩

def push (e : BuildError) (p : Problem) : BuildError := ⟨e.problems ++ [p]⟩

def kind (e : BuildError) : ErrorKind :=
  match e.problems with
  | [] => .other
  | p :: _ => p.kind

def message (e : BuildError) : String :=
  String.intercalate "\n" (e.problems.map Problem.text)

end BuildError

end LivePreview
