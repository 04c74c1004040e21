import LivePreview.Script.Erase

namespace LivePreview.Script

structure Lowering where
  taken : List String
  table : EnumTable := []
  faults : List String := []

abbrev Lower := StateM Lowering

namespace Lowering

def fresh (id : String) : Lower String := modifyGet fun st =>
  let name := freshName st.taken id
  (name, { st with taken := name :: st.taken })

def lowerEnum (setting : Enum.Setting) (s : Nat) (id : String) (ms : List Tree) (stop : Nat) :
    Lower Tree := do
  let st ← get
  let (t, table) := Enum.lower st.table setting s id ms stop
  set { st with table }
  return t

def notConst : String :=
  "Namespaces exporting non-const are not supported by Babel. Change to const or see: https://babeljs.io/docs/en/babel-plugin-transform-typescript"

def nestedModule : String :=
  "Ambient modules cannot be nested in other modules or namespaces."

def memberOf (object id : String) : Tree := .node (.member id false) 0 [Tree.name object]

def assignTo (target value : Tree) : Tree := .node (.assign .plain) 0 [target, value]

def exportMember (space id : String) : Tree := .node .expression 0 [assignTo (memberOf space id) (Tree.name id)]

def isNamed : Tree → Bool
  | .node (.declarator _) _ (.node (.name _) _ _ :: _) => true
  | _ => false

def exportVariables (space : String) (s : Nat) (kind : VarKind) (ds : List Tree) : List Tree :=
  if ds.all isNamed then
    [.node (.vars kind false) s (ds.map fun d => match d with
      | .node (.declarator b) s [.node (.name id) ns nps, value] =>
          if value.isAbsent then d
          else .node (.declarator b) s [.node (.name id) ns nps, assignTo (memberOf space id) value]
      | d => d)]
  else
    let assigns := (Tree.boundNamesAll ds).map (fun id => assignTo (memberOf space id) (Tree.name id))
    let e := match assigns with
      | [a] => a
      | es => .node .sequence 0 es
    [.node (.vars kind false) s ds, .node .expression 0 [e]]

def spaceObject (parent : Option String) (id : String) : Tree :=
  let fresh := Tree.leaf .object
  let value := match parent with
    | some p => Tree.node (.binary .or) 0 [memberOf p id, assignTo (memberOf p id) fresh]
    | none => fresh
  .node (.binary .or) 0 [Tree.name id, assignTo (Tree.name id) value]

def spaceCall (s : Nat) (uid : String) (arg : Tree) (body : List Tree) : Tree :=
  let param := Tree.node (.param {}) 0 [Tree.list [], Tree.name uid]
  let f := Tree.node (.function {}) 0
    [.absent, Tree.list [], Tree.list [param], .absent, .node (.block 0) 0 body]
  .node .expression s [.node (.call false false 0) 0 [f, Tree.list [], arg]]

def spaceVariable (exported : Bool) (id : String) : Tree :=
  let d := Tree.node (.vars .block false) 0 [.node (.declarator false) 0 [Tree.name id, .absent]]
  if exported then .node .exportDeclaration 0 [d] else d

mutual

def lowerSpace (exported declared : Bool) (parent : Option String) : Tree → Lower (List Tree)
  | .node (.moduleBlock _ [.name id] false) s [.node (.block _) _ body] => do
      let uid ← fresh id
      let stmts ← lowerMembers uid [] body
      if stmts.isEmpty then return []
      let call := spaceCall s uid (spaceObject parent id) stmts
      return if declared then [call] else [spaceVariable exported id, call]
  | .node (.moduleBlock _ [.text _] false) _ [.node (.block _) _ _] => do
      modify fun st => { st with faults := st.faults ++ [nestedModule] }
      return []
  | _ => return []

def lowerMembers (uid : String) (seen : List String) : List Tree → Lower (List Tree)
  | [] => return []
  | .node .exportDeclaration _ [d] :: rest => do
      let more := seen ++ d.blockNames
      let first ← match d with
        | .node (.enum id _ isDeclare stop) es ms =>
            if isDeclare then pure []
            else do
              let t ← lowerEnum ⟨false, false, seen.contains id⟩ es id ms stop
              pure [t, exportMember uid id]
        | .node (.moduleBlock w path isDeclare) ms body => do
            let known := path.any (fun n => seen.contains n.value)
            lowerSpace false known (some uid) (.node (.moduleBlock w path isDeclare) ms body)
        | .node (.vars kind isDeclare) vs ds => do
            if isDeclare then pure []
            else do
              if kind != .const then
                modify fun st => { st with faults := st.faults ++ ds.map (fun _ => notConst) }
              pure (exportVariables uid vs kind ds)
        | d =>
            if d.isTypeOnly then pure []
            else pure (lowerAlias d :: d.blockNames.map (exportMember uid))
      return first ++ (← lowerMembers uid more rest)
  | .node (.exportItems _ _ _) _ _ :: rest => lowerMembers uid seen rest
  | .node (.moduleBlock w path isDeclare) s body :: rest => do
      let known := path.any (fun n => seen.contains n.value)
      let first ← lowerSpace false known none (.node (.moduleBlock w path isDeclare) s body)
      return first ++ (← lowerMembers uid (seen ++ path.map ModuleName.value) rest)
  | t :: rest => do
      let more ← lowerMembers uid (seen ++ t.blockNames) rest
      return if t.isTypeOnly then more else t :: more

end

end Lowering

end LivePreview.Script
