import LivePreview.Script.Erase

namespace LivePreview.Script

structure Disposal where
  taken : List String
  helper : Option String := none

abbrev Dispose := StateM Disposal

namespace Disposal

def fresh (id : String) : Dispose String := modifyGet fun st =>
  let name := freshName st.taken id
  (name, { st with taken := name :: st.taken })

structure Context where
  name : String
  helper : String
  deriving DecidableEq, Repr

def newContext : Dispose Context := do
  let name ← fresh "usingCtx"
  match (← get).helper with
  | some helper => return ⟨name, helper⟩
  | none =>
      let helper ← fresh "usingCtx"
      modify fun st => { st with helper := some helper }
      return ⟨name, helper⟩

def isResource : Tree → Bool
  | .node (.vars kind _) _ _ => kind.isResource
  | _ => false

def isAwaited : Tree → Bool
  | .node (.vars .awaitUsing _) _ _ => true
  | _ => false

def call (callee : Tree) (args : List Tree) : Tree :=
  .node (.call false false 0) 0 (callee :: Tree.list [] :: args)

namespace Context

def method (c : Context) (key : String) (args : List Tree) : Tree :=
  call (.node (.member key false) 0 [Tree.name c.name]) args

def track (c : Context) (key : String) : Tree → Tree
  | .node (.declarator b) s [p, value] =>
      .node (.declarator b) s [p, if value.isAbsent then value else c.method key [value]]
  | t => t

def declare (c : Context) (kind : VarKind) : Tree → Tree
  | .node (.vars .using d) s ds => .node (.vars kind d) s (ds.map (c.track "u"))
  | .node (.vars .awaitUsing d) s ds => .node (.vars kind d) s (ds.map (c.track "a"))
  | t => t

def block (stmts : List Tree) : Tree := .node (.block 0) 0 stmts

def statement (e : Tree) : Tree := .node .expression 0 [e]

def guarded (c : Context) (awaited : Bool) (stmts : List Tree) : Tree :=
  let start := Tree.node (.vars .var false) 0
    [.node (.declarator false) 0 [Tree.name c.name, call (Tree.name c.helper) []]]
  let caught := Tree.node (.assign .plain) 0
    [.node (.member "e" false) 0 [Tree.name c.name], Tree.name "_"]
  let disposed := c.method "d" []
  .node .tryBlock 0
    [block (start :: stmts),
      .node .catchClause 0 [Tree.name "_", block [statement caught]],
      block [statement (if awaited then .node .await 0 [disposed] else disposed)]]

def guard (c : Context) (kind : VarKind) (stmts : List Tree) : Tree :=
  c.guarded (stmts.any isAwaited) (stmts.map (c.declare kind))

end Context

def newContextFor (stmts : List Tree) : Dispose (Option Context) :=
  if stmts.any isResource then some <$> newContext else pure none

/-- The statements of a scope under its context, if it has one. Directives stay in front. -/
def close (c : Option Context) (stmts : List Tree) : List Tree :=
  match c with
  | some c => stmts.takeWhile isDirective ++ [c.guard .const (stmts.dropWhile isDirective)]
  | none => stmts

def caseBody : Tree → List Tree
  | .node .case _ (_ :: body) => body
  | _ => []

def declareInCase (c : Context) : Tree → Tree
  | .node .case s (test :: body) => .node .case s (test :: body.map (c.declare .const))
  | t => t

def closeSwitch (c : Option Context) (s stop : Nat) (parts : List Tree) : Tree :=
  match c with
  | some c =>
      c.guarded ((parts.flatMap caseBody).any isAwaited)
        [.node (.switch stop) s (parts.map (declareInCase c))]
  | none => .node (.switch stop) s parts

def keepsBlocks : Label → Bool
  | .function _ | .arrow _ _ | .tryBlock | .catchClause => true
  | _ => false

def splitHead (temp : String) (kind : VarKind) (s : Nat) (d : Tree) : Tree × Tree :=
  (.node (.vars .const false) s [.node (.declarator false) 0 [Tree.name temp, .absent]],
    .node (.vars kind false) 0 [.node (.declarator false) 0 [d.parts.headD .absent, Tree.name temp]])

mutual

/-- The resources in a tree as variables of contexts; a block that holds some becomes a `try`. -/
def lower (keep : Bool) : Tree → Dispose Tree
  | .node (.block stop) s body => do
      let c ← newContextFor body
      let body ← lowerAll false body
      return if keep || c.isNone then .node (.block stop) s (close c body)
        else (close c body).headD .absent
  | .node (.staticBlock stop) s body => do
      let c ← newContextFor body
      return .node (.staticBlock stop) s (close c (← lowerAll false body))
  | .node (.switch stop) s parts => do
      let c ← newContextFor (parts.flatMap caseBody)
      return closeSwitch c s stop (← lowerAll false parts)
  | .node (.forOf isAwait) s [.node (.vars kind d) ds [decl], right, .node (.block stop) bs body] => do
      if kind.isResource then
        let temp ← fresh ((Tree.boundNames decl).headD "")
        let right ← lower false right
        let (head, first) := splitHead temp kind ds decl
        let c ← newContext
        let body ← lowerAll false body
        return .node (.forOf isAwait) s [head, right, c.guard .const (first :: body)]
      else
        let decl ← lower false decl
        let right ← lower false right
        let c ← newContextFor body
        let body ← lowerAll false body
        let block := Tree.node (.block stop) bs body
        return .node (.forOf isAwait) s
          [.node (.vars kind d) ds [decl], right, (c.map (·.guard .const body)).getD block]
  | .node (.forOf isAwait) s [.node (.vars kind d) ds [decl], right, body] => do
      if kind.isResource then
        let temp ← fresh ((Tree.boundNames decl).headD "")
        let right ← lower false right
        let (head, first) := splitHead temp kind ds decl
        let c ← newContext
        let body ← lower false body
        return .node (.forOf isAwait) s [head, right, c.guard .const [first, body]]
      else
        let decl ← lower false decl
        let right ← lower false right
        let body ← lower false body
        return .node (.forOf isAwait) s [.node (.vars kind d) ds [decl], right, body]
  | .node l s parts => return .node l s (← lowerAll (keepsBlocks l) parts)

def lowerAll (keep : Bool) : List Tree → Dispose (List Tree)
  | [] => return []
  | t :: ts => do
      let t ← lower keep t
      return t :: (← lowerAll keep ts)

end

structure TopLevel where
  outer : List Tree := []
  inner : List Tree := []

def varOf (s : Nat) (id value : Tree) : Tree :=
  .node (.vars .var false) s [.node (.declarator false) 0 [id, value]]

def exportNames (names : List (String × String)) : Tree :=
  Tree.leaf (.exportItems false (names.map fun (l, e) => ⟨false, .name l, .name e⟩) none)

def classVariable (s : Nat) (id : Tree) (closed : Label) (parts : List Tree) : Tree :=
  varOf s id (.node closed 0 (.absent :: parts))

def divide : Tree → Dispose TopLevel
  | .node .exportDeclaration s [d] =>
      match d with
      | .node (.vars _ b) ds decls =>
          return ⟨[exportNames ((Tree.boundNamesAll decls).map (fun n => (n, n)))],
            [.node (.vars .var b) ds decls]⟩
      | .node (.classBody a b stop) cs (id :: parts) =>
          return ⟨[exportNames ((Tree.boundNames id).map (fun n => (n, n)))],
            [classVariable cs id (.classBody a b stop) parts]⟩
      | d => return ⟨[.node .exportDeclaration s [d]], []⟩
  | .node .exportDefault s [d] =>
      match d with
      | .node (.function form) fs parts => return ⟨[.node .exportDefault s [.node (.function form) fs parts]], []⟩
      | .node (.classBody a b stop) cs (.node (.name id) ns ps :: parts) =>
          return ⟨[exportNames [(id, "default")]],
            [classVariable cs (.node (.name id) ns ps) (.classBody a b stop) parts]⟩
      | e => do
          let id ← fresh "default"
          return ⟨[exportNames [(id, "default")]], [varOf s (Tree.name id) e]⟩
  | .node (.classBody a b stop) s (id :: parts) =>
      return ⟨[], [classVariable s id (.classBody a b stop) parts]⟩
  | .node (.vars kind b) s ds =>
      return ⟨[], [.node (.vars (if kind.isResource then kind else .var) b) s ds]⟩
  | .node (.function form) s parts => return ⟨[.node (.function form) s parts], []⟩
  | .node (.imports i) s parts => return ⟨[.node (.imports i) s parts], []⟩
  | .node (.exportItems t items source) s parts =>
      return ⟨[.node (.exportItems t items source) s parts], []⟩
  | .node (.exportAll t name source) s parts => return ⟨[.node (.exportAll t name source) s parts], []⟩
  | .node (.directive raw) s parts => return ⟨[.node (.directive raw) s parts], []⟩
  | t => return ⟨[], [t]⟩

def divideAll : List Tree → Dispose TopLevel
  | [] => return {}
  | t :: ts => do
      let first ← divide t
      let rest ← divideAll ts
      return ⟨first.outer ++ rest.outer, first.inner ++ rest.inner⟩

def lowerTop (body : List Tree) : Dispose (List Tree) := do
  if body.any isResource then
    let top ← divideAll body
    let outer ← lowerAll false top.outer
    let c ← newContext
    let inner ← lowerAll false top.inner
    return outer ++ [c.guard .var inner]
  else lowerAll false body

def helperImport (helper : String) : Tree :=
  Tree.leaf (.imports
    { default := some helper, source := { path := "@oxc-project/runtime/helpers/usingCtx" } })

end Disposal

def Program.lowerResources (p : Program) : Program :=
  if Tree.hasLabelAll declaresResource p.body then
    let (body, st) := (Disposal.lowerTop p.body).run { taken := Tree.allNamesAll p.body }
    { p with body := afterImports (st.helper.toList.map Disposal.helperImport) body }
  else p
where
  declaresResource : Label → Bool
    | .vars .using _ | .vars .awaitUsing _ => true
    | _ => false

end LivePreview.Script
