import LivePreview.Command.Arguments
import LivePreview.Command.Report
import LivePreview.Disk
import LivePreview.Project.Node
import LivePreview.Script.Transpile

namespace LivePreview.Command

structure Storage (m : Type → Type) where
  read : String → m (Except StorageFault ByteArray)
  save : String → ByteArray → m (Except StorageFault Unit)

structure Outcome where
  exit : UInt32
  lines : List String
  timed : Bool := false
  deriving DecidableEq, Repr

namespace Outcome

def misuse : Outcome := ⟨2, [], false⟩

def failed (lines : List String) : Outcome := ⟨1, lines, false⟩

def succeeded (lines : List String) : Outcome := ⟨0, lines, true⟩

def text (o : Outcome) (elapsed : String) : String :=
  String.join ((o.lines ++ if o.timed then finished elapsed else []).map (· ++ "\n"))

end Outcome

def readProject (bytes : Except StorageFault ByteArray) : Except String (List Node) :=
  match bytes with
  | .error e => .error e.message
  | .ok b => match String.fromUTF8? b with
      | none => .error StorageFault.notText.message
      | some text => Node.readTreeText text

def Arguments.options (a : Arguments) : Options where
  entryName := a.entry
  injectLoader := some !a.withoutLoader
  timeout := a.timeout

def build (a : Arguments) (project : List Node) : Option (Host × Except BuildError Generation) :=
  let e := Engine.new a.options Script.transpiler
  match e.begin { origin := e.settings.origin } {} project 1 with
  | (_, .pending _, _) => none
  | (h, .finished r, _) => some (h, r)

def inFolder (folder p : String) : String :=
  if folder.isEmpty || folder.toList.getLast? == some '/' then folder ++ p
  else folder ++ "/" ++ p

def target (folder path : String) : Option String :=
  match Path.join "" path with
  | none => none
  | some p => if p == "" || p == "." then none else some (inFolder folder p)

def saveAll [Monad m] (s : Storage m) (folder : String) :
    List (String × Blob) → m (Except String Unit)
  | [] => return .ok ()
  | (path, b) :: rest => match target folder path with
      | none =>
          return .error ("refusing to write `" ++ path ++ "` outside the output directory")
      | some t => do
          match ← s.save t b.text.toUTF8 with
          | .error e => return .error e.message
          | .ok () => saveAll s folder rest

def contents (h : Host) (g : Generation) : List (String × Blob) :=
  g.resources.filterMap (fun r => (h.fetch r.handle).map (r.path, ·))

def deliver [Monad m] (s : Storage m) (a : Arguments) (h : Host) (g : Generation) : m Outcome := do
  let lines := if a.silent then [] else summary h g
  match a.folder with
  | none => return .succeeded lines
  | some folder => match ← saveAll s folder (contents h g) with
      | .ok () => return .succeeded lines
      | .error e => return .failed (lines ++ [failure ("Cannot write " ++ folder ++ ": " ++ e)])

def run [Monad m] (s : Storage m) (words : List String) : m Outcome := do
  match Arguments.ofWords words with
  | none => return .misuse
  | some a => match readProject (← s.read a.project) with
      | .error e => return .failed [failure ("Cannot read " ++ a.project ++ ": " ++ e)]
      | .ok project => match build a project with
          | none => return .failed []
          | some (_, .error e) => return .failed (e.problems.map (fun p => failure p.text))
          | some (h, .ok g) => deliver s a h g

def diskStorage : Storage (StateM Disk) where
  read path := return (← get).read path
  save path bytes := fun d => let (d', r) := d.save path bytes; (r, d')

end LivePreview.Command
