import LivePreview.Script.Redeclaration
import LivePreview.Script.Space

namespace LivePreview.Script

structure Usage where
  used : List String
  types : List String
  own : List String

namespace Usage

def typeNames : Tree → List String
  | .node .exportDeclaration _ [d] => declared d
  | .node (.imports i) _ _ =>
      let items := (i.items.getD []).filter (fun x => i.typeOnly || x.typeOnly)
      (if i.typeOnly then i.default.toList ++ i.star.toList else []) ++ items.map (·.localName)
  | t => declared t
where
  declared : Tree → List String
    | .node (.interface id _) _ _ | .node (.alias id _) _ _ => [id]
    | t => if t.isTypeOnly then t.declaredNames else []

def valueNames : Tree → List String
  | .node .exportDeclaration _ [d] => if d.isTypeOnly then [] else d.declaredNames
  | .node (.imports i) _ _ =>
      if i.typeOnly then []
      else i.default.toList ++ i.star.toList ++
        ((i.items.getD []).filter (!·.typeOnly)).map (·.localName)
  | t => if t.isTypeOnly then [] else t.declaredNames ++ t.hoistedNames

def ownValues (body : List Tree) : List String :=
  ((body.flatMap Tree.bindings).filter (·.2.isValue)).map (·.1)

def of (factory fragment : String) (body : List Tree) : Usage where
  used := Tree.usedNamesAll body ++
    (if Tree.hasLabelAll (fun l => match l with | .element _ => true | _ => false) body then [factory]
      else []) ++
    (if Tree.hasLabelAll (fun l => match l with | .fragment => true | _ => false) body then [fragment]
      else [])
  types := Tree.without (body.flatMap typeNames) (body.flatMap valueNames)
  own := ownValues body

def keepsName (u : Usage) (id : String) : Bool := u.used.contains id && !u.own.contains id

def keepsImport (u : Usage) (i : Import) : Option Import :=
  match i.default, i.star, i.items with
  | none, none, none => some i
  | none, none, some [] => some { i with items := none }
  | _, _, _ =>
      let default := i.default.filter u.keepsName
      let star := i.star.filter u.keepsName
      let items := (i.items.getD []).filter (fun x => !x.typeOnly && u.keepsName x.localName)
      if default.isNone && star.isNone && items.isEmpty then none
      else some { i with default, star, items := if items.isEmpty then none else some items }

def keepsExport (u : Usage) (source : Option ModuleSource) (i : ExportItem) : Bool :=
  !i.typeOnly &&
    (match source, i.source with
      | none, .name s => !u.types.contains s
      | _, _ => true)

def keep (u : Usage) : Tree → Option Tree
  | .node (.imports i) s ps =>
      if i.typeOnly then none else (u.keepsImport i).map (fun i => .node (.imports i) s ps)
  | .node (.exportItems typeOnly items source) s ps =>
      let kept := items.filter (u.keepsExport source)
      if typeOnly || (kept.isEmpty && !items.isEmpty) then none
      else some (.node (.exportItems false kept source) s ps)
  | .node (.exportAll typeOnly name source) s ps =>
      if typeOnly then none else some (.node (.exportAll typeOnly name source) s ps)
  | .node .exportDeclaration s [d] => if d.isTypeOnly then none else some (.node .exportDeclaration s [d])
  | .node .exportDefault s [d] =>
      match d with
      | .node (.name id) _ _ => if u.types.contains id then none else some (.node .exportDefault s [d])
      | d => if d.isTypeOnly then none else some (.node .exportDefault s [d])
  | .node (.importEquals typeOnly id path) s ps =>
      if typeOnly || !u.used.contains id then none else some (.node (.importEquals typeOnly id path) s ps)
  | .node (.importRequire typeOnly id source) s ps =>
      if typeOnly || !u.used.contains id then none
      else some (.node (.importRequire typeOnly id source) s ps)
  | t => if t.isTypeOnly then none else some t

end Usage

def isModuleStatement : Tree → Bool
  | .node (.imports _) _ _ | .node (.exportItems _ _ _) _ _ | .node (.exportAll _ _ _) _ _
  | .node .exportDeclaration _ _ | .node .exportDefault _ _ => true
  | _ => false

def emptyExport : Tree := Tree.leaf (.exportItems false [] none)

def Usage.loses (u : Usage) (body : List Tree) : Bool :=
  body.any (fun t => isModuleStatement t && (u.keep t).isNone)

def Program.asModule (p : Program) : Program :=
  if p.body.any isModuleStatement then p else { p with body := p.body ++ [emptyExport] }

namespace Lowering

def lowerTop (seen : List String) : List Tree → Lower (List Tree)
  | [] => return []
  | t :: rest => do
      let first ← match t with
        | .node (.enum id _ false stop) s ms => do
            let t ← lowerEnum ⟨false, true, seen.contains id⟩ s id ms stop
            pure [t]
        | .node .exportDeclaration s [.node (.enum id _ false stop) _ ms] => do
            let t ← lowerEnum ⟨true, true, seen.contains id⟩ s id ms stop
            pure [t]
        | .node (.moduleBlock _ path false) _ _ =>
            lowerSpace false (path.any (fun n => seen.contains n.value)) none t
        | .node .exportDeclaration _ [.node (.moduleBlock w path false) s ps] =>
            lowerSpace true (path.any (fun n => seen.contains n.value)) none
              (.node (.moduleBlock w path false) s ps)
        | .node .exportDeclaration s [d] => pure [.node .exportDeclaration s [lowerAlias d]]
        | t => pure [lowerAlias t]
      let more ← lowerTop (seen ++ Usage.valueNames t) rest
      return first ++ more

end Lowering

/-- Takes the types off a program; the enums and spaces become objects. Tells whether imports or
exports were lost. -/
def Program.erase (p : Program) (factory fragment : String) : Except (List String) (Program × Bool) :=
  let u := Usage.of factory fragment p.body
  let bare := Tree.rebuildAll eraseNode p.body
  let (body, st) := (Lowering.lowerTop [] (bare.filterMap u.keep)).run
    { taken := Tree.allNamesAll p.body }
  if st.faults.isEmpty then .ok ({ p with body }, u.loses bare) else .error st.faults

end LivePreview.Script
