import LivePreview.Build.Compilation
import LivePreview.Document.Assembly
import LivePreview.ImportMap
import LivePreview.Project.Flatten
import LivePreview.Sandbox.Mount

namespace LivePreview

structure Generation where
  id : Nat
  entry : PublishedResource
  modules : List PublishedResource
  targets : ImportMap
  warnings : List String
  arena : Arena

structure Engine where
  settings : Settings
  transpiler : Transpiler

structure Job where
  generation : Nat
  entry : Document.Entry
  compilation : Compilation

inductive Job.Progress where
  | pending (j : Job)
  | finished (result : Except BuildError Generation)

namespace Engine

def new (o : Options) (t : Transpiler) : Engine := ⟨Settings.ofOptions o, t⟩

def warningEvents (o : Options) : List Event :=
  (Settings.warnings o).map (fun w => ⟨.warn, w, []⟩)

def start (e : Engine) (project : List Node) (generation : Nat) : Except BuildError Job :=
  let files := Node.flatten project
  (Document.findEntry files e.settings.entryName).map (fun entry =>
    ⟨generation, entry, Compilation.start files entry.path e.settings.timeout⟩)

def publish (e : Engine) (h : Host) (j : Job) (units : List CompiledUnit) :
    Host × Generation × List Event :=
  let (arena, h, modules) := Arena.publishUnits {} h units
  let claims := ImportMap.build e.settings.externals modules
  let document := Document.assemble j.entry modules claims.targets e.settings j.generation
  let (arena, h, k) := arena.publish h ⟨.document, document⟩
  let g : Generation :=
    ⟨j.generation, ⟨j.entry.path, .document, k⟩, modules, claims.targets, claims.warnings, arena⟩
  (h, g, claims.events ++
    [Document.assembledEvent j.entry modules,
      ⟨.debug, "built preview generation",
        [("generation", generationName j.generation), ("entry", j.entry.path),
          ("resources", toString arena.handles.length),
          ("warnings", toString claims.shadows.length)]⟩])

def poll (e : Engine) (h : Host) (m : Moment) (j : Job) : Host × Job.Progress × Trace :=
  match j.compilation.poll e.transpiler m with
  | (.pending c, trace) => (h, .pending { j with compilation := c }, trace)
  | (.finished (.error err), trace) => (h, .finished (.error err), trace)
  | (.finished (.ok units), trace) =>
      let (h, g, events) := e.publish h j units
      (h, .finished (.ok g), trace ++ Trace.log events)

def begin (e : Engine) (h : Host) (m : Moment) (project : List Node) (generation : Nat) :
    Host × Job.Progress × Trace :=
  let events := Node.flattenEvents project
  match e.start project generation with
  | .error err => (h, .finished (.error err), Trace.log events)
  | .ok j =>
      let (h, p, trace) := e.poll h m j
      (h, p, Trace.log events ++ trace)

end Engine

namespace Generation

def resources (g : Generation) : List PublishedResource := g.modules ++ [g.entry]

def document (g : Generation) (h : Host) : Option Blob := h.fetch g.entry.handle

end Generation

end LivePreview
