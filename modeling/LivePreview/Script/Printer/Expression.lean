import LivePreview.Script.Printer.Element
import LivePreview.Script.Printer.Type

namespace LivePreview.Script.Printer

def atStatementStart : Print Bool := do
  let o ← get
  return o.statementStart == some o.size

def atArrowStart : Print Bool := do
  let o ← get
  return o.arrowStart == some o.size

def atDefaultStart : Print Bool := do
  let o ← get
  return o.defaultStart == some o.size

def writeStatements (go : Renderer) : List Tree → Print Unit
  | .node .expression s [e] :: rest =>
      match e.bare with
      | .node (.text t) _ _ => do
          write "("
          quoted t
          write ")"
          endStatement
          rest.forM (go .stmt)
      | _ => do
          go .stmt (.node .expression s [e])
          rest.forM (go .stmt)
  | stmts => stmts.forM (go .stmt)

def writeFunctionBody (go : Renderer) (closeAt : Nat) (body : List Tree) : Print Unit := do
  let last ← takeComments closeAt
  let onLine := body.isEmpty && last.all (fun c => !c.afterNewline && !c.beforeNewline)
  braces onLine do
    writeStatements go body
    unless last.isEmpty do
      writeComments last
      modify fun o => { o with joinNext := false }

def writeBody (go : Renderer) (body : List Tree) : Print Unit :=
  braces body.isEmpty (body.forM (go .stmt))

def writeBlock (go : Renderer) : Tree → Print Unit
  | .node (.block _) _ body => writeBody go body
  | _ => pure ()

def writeFunctionTail (go : Renderer) (ending : String) (parts : List Tree) : Print Unit := do
  writeSignature go ": " parts
  match parts.getLast? with
  | some (.node (.block stop) _ body) =>
      space
      writeFunctionBody go stop body
  | _ => write ending

def quietMark : String := "/* @__NO_SIDE_EFFECTS__ */"

def writeFunction (go : Renderer) (form : FunctionForm) : List Tree → Print Unit
  | id :: parts => do
      apart
      if form.isDeclare then write "declare "
      if form.isAsync then write "async "
      write "function"
      if form.isGenerator then write "* "
      match id with
      | .node (.name s) _ _ => word s
      | _ => pure ()
      writeFunctionTail go ";" parts
  | _ => pure ()

def writeMethod (go : Renderer) (kind : MethodKind) (optional : Bool) (ending : String) (key : Tree) :
    Tree → Print Unit
  | .node (.function form) _ (_ :: parts) => do
      match kind with
      | .get => write "get "
      | .set => write "set "
      | .method => pure ()
      if form.isAsync then word "async "
      if form.isGenerator then write "*"
      writeKey go key
      if optional then write "?"
      writeFunctionTail go ending parts
  | _ => pure ()

def writeAccess (m : Modifiers) : Print Unit := m.accessibility.toList.forM (fun s => word (s ++ " "))

def writeMethodWords (m : Modifiers) : Print Unit := do
  writeAccess m
  if m.isAbstract then write "abstract "
  if m.isStatic then write "static "

def writeFieldWords (m : Modifiers) : Print Unit := do
  if m.isAccessor then
    if m.isAbstract then write "abstract "
    writeAccess m
    if m.isStatic then write "static "
    write "accessor "
  else
    if m.isDeclare then write "declare "
    writeMethodWords m
    if m.isReadonly then write "readonly "

def writeMember (go : Renderer) : Tree → Print Unit
  | .node (.staticBlock _) _ body => do
      write "static "
      writeBody go body
      newline
  | .node (.classMethod kind m optional) _ [.node .list _ ds, key, f] => do
      writeDecorators go ds
      writeMethodWords m
      writeMethod go kind optional ";" key f
      newline
  | .node (.classField m optional _) _ [.node .list _ ds, key, t, value] => do
      writeDecorators go ds
      writeFieldWords m
      writeKey go key
      if optional && !m.isAccessor then write "?"
      writeAnnotation go t
      unless value.isAbsent do
        write " = "
        writeExpr go .comma value
      endStatement
  | .node (.classIndex m) _ [.node .list _ ps, t] => do
      if m.isReadonly then write "readonly "
      writeIndex go ps t
      endStatement
  | _ => pure ()

def writeClass (go : Renderer) (isAbstract isDeclare : Bool) : List Tree → Print Unit
  | [id, .node .list _ ds, .node .list _ ts, base, .node .list _ bases, .node .list _ faces,
      .node .list _ ms] => do
      writeDecorators go ds
      apart
      if isDeclare then write "declare "
      if isAbstract then write "abstract "
      write "class"
      match id with
      | .node (.name s) _ _ => write (" " ++ s)
      | _ => pure ()
      writeTypeParameters go ts
      unless base.isAbsent do
        write " extends "
        writeExpr go .after base
        writeTypeArguments go bases
      unless faces.isEmpty do
        write " implements "
        listed (go .type) faces
      space
      braces ms.isEmpty do
        ms.forM fun m => do
          commentsAt m.start
          indent
          writeMember go m
  | _ => pure ()

def writeItem (go : Renderer) : Tree → Print Unit
  | .node .hole _ _ => pure ()
  | .node .spread _ [e] => do
      write "..."
      writeExpr go .comma e
  | e => writeExpr go .comma e

def writeArray (go : Renderer) (items : List Tree) : Print Unit := do
  let tail := if items.getLast?.any isHole then "," else ""
  if items.length ≤ 2 then
    write "["
    listed (writeItem go) items
    write (tail ++ "]")
  else onLines "[" "]" tail (writeItem go) items

def sameName (key value : Tree) : Bool :=
  match key, value.bare with
  | .node (.key s) _ _, .node (.name id) _ _ => s == id
  | _, _ => false

def writeObjectItem (go : Renderer) : Tree → Print Unit
  | .node (.field shorthand) _ [key, value] => do
      let special := match key with
        | .node (.key s) _ _ => s == "__proto__"
        | _ => false
      unless sameName key value && (!special || shorthand) do
        writeKey go key
        write ": "
      writeExpr go .comma value
  | .node (.method kind) _ [key, f] => writeMethod go kind false "" key f
  | t => writeItem go t

def writeObject (go : Renderer) (items : List Tree) : Print Unit := do
  match items with
  | [] => write "\x7b\x7d"
  | [t] =>
      write "\x7b "
      writeObjectItem go t
      write " \x7d"
  | ts => onLines "\x7b" "\x7d" "" (writeObjectItem go) ts

def writeCommented (go : Renderer) : Bool → List Tree → Print Unit
  | _, [] => pure ()
  | first, t :: ts => do
      unless first do write ","
      let found ← argumentComments t.start
      unless found do newline
      indent
      writeItem go t
      writeCommented go false ts

def writeArguments (go : Renderer) (closeAt : Nat) (args : List Tree) : Print Unit := do
  let o ← get
  let marked (at' : Nat) := o.comments.any (·.attachedTo == some at')
  write "("
  if marked closeAt || args.any (fun t => marked t.start) then
    deeper
    writeCommented go true args
    let found ← if marked closeAt then argumentComments closeAt else pure false
    unless found do newline
    shallower
    indent
  else listed (writeItem go) args
  write ")"

def pureMark : String := "/* @__PURE__ */ "

def memberObject (go : Renderer) (place : Place) (e : Tree) : Print Unit :=
  go (.expr { level := .after, forbidCall := place.forbidCall }) e

def isAndOr : Tree → Bool
  | .node (.binary .or) _ _ | .node (.binary .and) _ _ => true
  | _ => false

def isBareOperand : Tree → Bool
  | .node (.unary _) _ _ => true
  | _ => false

def operandLevels (op : BinaryOp) (l r : Tree) : Level × Level :=
  match op with
  | .pow => (if isBareOperand l.bare then .call else .power, op.level.below)
  | .coalesce => (if isAndOr l.bare then .before else op.level.below,
      if isAndOr r.bare then .before else op.level.below)
  | .or | .and => (op.level.below, op.level.below)
  | op => (op.level.below, op.level)

def writeBinary (go : Renderer) (place : Place) (op : BinaryOp) (l r : Tree) : Print Unit := do
  let wrapped := decide (op.level ≤ place.level) || (op == .isIn && place.forbidIn)
  let forbidIn := place.forbidIn && !wrapped
  let (left, right) := operandLevels op l r
  wrap wrapped do
    match l with
    | .node (.secret s) _ _ => write ("#" ++ s)
    | l => go (.expr { level := left, forbidIn }) l
    space
    if op == .isIn || op == .instanceOf then word op.text
    else operator (.binary op) op.text
    space
    go (.expr { level := right, forbidIn }) r

def writeCall (go : Renderer) (place : Place) (optional quiet : Bool) (closeAt : Nat) :
    List Tree → Print Unit
  | callee :: .node .list _ ts :: args => do
      let atStatement ← atStatementStart
      let atDefault ← atDefaultStart
      let wrapped := decide (Level.new ≤ place.level) || place.forbidCall ||
        (quiet && decide (Level.after ≤ place.level))
      wrap wrapped do
        if quiet then write pureMark
        modify fun o =>
          if atDefault then { o with defaultStart := some o.size }
          else if atStatement then { o with statementStart := some o.size }
          else o
        writeExpr go .after callee
        if optional then write "?."
        writeTypeArguments go ts
        writeArguments go closeAt args
  | _ => pure ()

def writeNew (go : Renderer) (place : Place) (quiet : Bool) (closeAt : Nat) : List Tree → Print Unit
  | callee :: _ :: args =>
      let wrapped := decide (Level.call ≤ place.level) || (quiet && decide (Level.after ≤ place.level))
      wrap wrapped do
        if quiet then write pureMark
        word "new "
        go (.expr { level := .new, forbidCall := true }) callee
        writeArguments go closeAt args
  | _ => pure ()

def isObjectPattern : Tree → Bool
  | .node (.objectPattern _) _ _ => true
  | _ => false

def writeArrow (go : Renderer) (isAsync isQuiet : Bool) (parts : List Tree) : Print Unit := do
  if isQuiet then write (quietMark ++ " ")
  if isAsync then word "async "
  writeSignature go ": " parts
  write " => "
  match parts.getLast? with
  | some (.node (.block stop) _ body) => writeFunctionBody go stop body
  | some e =>
      modify fun o => { o with arrowStart := some o.size }
      writeExpr go .comma e
  | none => pure ()

def writeSequence (go : Renderer) (place : Place) (es : List Tree) : Print Unit :=
  listed (fun e => go (.expr { level := .lowest, forbidIn := place.forbidIn }) e) es

def isFunctionType : Tree → Bool
  | .node .typeFunction _ _ => true
  | _ => false

def isNamed : Tree → Bool
  | .node (.name _) _ _ => true
  | _ => false

def writeExpression (go : Renderer) (place : Place) (t : Tree) : Print Unit := do
  let at' (l : Level) := decide (l ≤ place.level)
  let inner (level : Level) (e : Tree) : Print Unit := go (.expr { level, forbidIn := place.forbidIn }) e
  match t with
  | .node (.name id) _ _ => word id
  | .node .this _ _ => word "this"
  | .node .super _ _ => word "super"
  | .node .null _ _ => word "null"
  | .node (.bool b) _ _ => word (if b then "true" else "false")
  | .node (.number x _) _ _ => writeNumber place.level x
  | .node (.bigint raw) _ _ => word raw
  | .node (.text s) _ _ => quoted s
  | .node (.regex raw) _ _ =>
      if (← get).last == some '/' then space
      write raw
      modify fun o => { o with regexEnd := some o.size }
  | .node (.template pieces) _ vs => writeTemplate (writeExpr go .lowest) pieces vs
  | .node (.tagged pieces) _ (tag :: .node .list _ ts :: vs) =>
      writeExpr go .after tag
      writeTypeArguments go ts
      writeTemplate (writeExpr go .lowest) pieces vs
  | .node .array _ items => writeArray go items
  | .node .object _ items =>
      let wrapped := (← atStatementStart) || (← atArrowStart)
      wrap wrapped (writeObject go items)
  | .node (.function form) _ parts =>
      let wrapped := (← atStatementStart) || (← atDefaultStart)
      wrap wrapped do
        if form.isQuiet then write (quietMark ++ " ")
        writeFunction go form parts
  | .node (.classBody isAbstract isDeclare _) _ parts =>
      let wrapped := (← atStatementStart) || (← atDefaultStart)
      wrap wrapped (writeClass go isAbstract isDeclare parts)
  | .node (.arrow isAsync isQuiet) _ parts =>
      wrap (at' .assign) (writeArrow go isAsync isQuiet parts)
  | .node (.unary op) _ [e] =>
      wrap (at' .before) do
        if op.isWord then
          word op.text
          space
        else operator (.unary op) op.text
        inner .power e
  | .node (.update op true) _ [e] =>
      wrap (at' .before) do
        operator (.update op) op.text
        inner .before e
  | .node (.update op false) _ [e] =>
      wrap (at' .after) do
        beforeOperator (.update op)
        inner .after e
        writeOperator (.update op) op.text
  | .node (.binary op) _ [l, r] => writeBinary go place op l r
  | .node .conditional _ [test, yes, no] =>
      let forbidIn := place.forbidIn && !at' .conditional
      wrap (at' .conditional) do
        go (.expr { level := .conditional, forbidIn }) test
        write " ? "
        writeExpr go .yielding yes
        write " : "
        go (.expr { level := .yielding, forbidIn }) no
  | .node (.assign op) _ [target, e] =>
      let starts := (← atStatementStart) || (← atArrowStart)
      let wrapped := (starts && isObjectPattern target) || at' .assign
      wrap wrapped do
        go .pattern target
        write (" " ++ op.text ++ " ")
        go (.expr { level := .comma, forbidIn := place.forbidIn && !wrapped }) e
  | .node .sequence _ es => wrap (at' .comma) (writeSequence go place es)
  | .node .await _ [e] =>
      wrap (at' .before) do
        word "await "
        inner .power e
  | .node (.yield delegate) _ [e] =>
      wrap (at' .assign) do
        word "yield"
        if delegate then write "*"
        unless e.isAbsent do
          space
          writeExpr go .yielding e
  | .node (.member id optional) _ [e] =>
      memberObject go place e
      let o ← get
      if optional then write "?"
      else if o.wholeEnd == some o.size then space
      write ("." ++ id)
  | .node (.privateMember id optional) _ [e] =>
      memberObject go place e
      write (if optional then "?.#" else ".#")
      write id
  | .node (.index optional) _ [e, k] =>
      memberObject go place e
      write (if optional then "?.[" else "[")
      writeExpr go .lowest k
      write "]"
  | .node (.call optional quiet stop) _ parts => writeCall go place optional quiet stop parts
  | .node (.new quiet stop) _ parts => writeNew go place quiet stop parts
  | .node (.importCall stop) _ args =>
      wrap (at' .new || place.forbidCall) do
        word "import"
        writeArguments go stop args
  | .node .importMeta _ _ => word "import.meta"
  | .node .newTarget _ _ => word "new.target"
  | .node .chain _ [e] => wrap (at' .after) (go (.expr place) e)
  | .node .paren _ [e] | .node .untyped _ [e] => go (.expr place) e
  | .node .asType _ [e, ty] =>
      wrap (at' .compare) do
        writeExpr go .power e
        write " as "
        go .type ty
  | .node .satisfies _ [e, ty] =>
      write "("
      wrap (!isNamed e) (go (.expr { level := place.level }) e)
      write " satisfies "
      go .type ty
      write ")"
  | .node .nonNull _ [e] =>
      go (.expr { place with level := .after }) e
      write "!"
  | .node .assertion _ [ty, e] =>
      wrap (at' .before) do
        write "<"
        if isFunctionType ty then space
        go .type ty
        write ">"
        writeExpr go .member e
  | .node .instantiation _ (e :: ts) =>
      go (.expr place) e
      writeTypeArguments go ts
  | .node (.element selfClosing) _ parts => writeElement go selfClosing parts
  | .node .fragment _ children => writeFragment go children
  | .node .spread _ _ | .node .hole _ _ => writeItem go t
  | _ => pure ()

end LivePreview.Script.Printer
