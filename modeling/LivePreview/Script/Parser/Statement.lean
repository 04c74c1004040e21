import LivePreview.Script.Parser.Element
import LivePreview.Script.Parser.Module

namespace LivePreview.Script.Parser

def parenthesizedTest (go : Grammar) : Parse Tree := do
  expect "("
  let e ← within allowIn (go .expression)
  expect ")"
  return e

def quotedText (s : State) : String :=
  String.ofList ((s.here.rest.drop 1).take (s.token.stop - s.token.start - 2))

def asDirective (before : State) : Tree → Option Tree
  | .node .expression s [.node (.text _) s' _] =>
      if s == s' then some (.node (.directive (quotedText before)) s []) else none
  | _ => none

def statementLoop (go : Grammar) (inner : Bool) : Nat → Bool → Parse (List Tree)
  | 0, _ => return []
  | fuel + 1, directives => do
      let t ← current
      if t.kind == .eof || (inner && t.isMark "\x7d") then return []
      let before ← get
      let stmt ← go (.statement false)
      match if directives then asDirective before stmt else none with
      | some d => return d :: (← statementLoop go inner fuel true)
      | none => return stmt :: (← statementLoop go inner fuel false)

def statements (go : Grammar) (inner directives : Bool) : Parse (List Tree) := do
  statementLoop go inner (← bound) directives

def braced (go : Grammar) (directives : Bool) : Parse Tree := do
  let s ← here
  expect "\x7b"
  let body ← statements go true directives
  let stop ← here
  expect "\x7d"
  return .node (.block stop) s body

def functionBody (go : Grammar) : Parse Tree :=
  within (fun c => { c with hasIn := true, hasReturn := true, ambient := false }) (braced go true)

def missingConst : String := "Missing initializer in const declaration"

def missingPattern : String := "Missing initializer in destructuring declaration"

def checkInitializer (kind : VarKind) (declared : Bool) : Tree → Parse Unit
  | .node (.declarator _) _ [binding, value] =>
      if !value.isAbsent || declared then pure ()
      else
        match binding with
        | .node (.arrayPattern _) _ _ | .node (.objectPattern _) _ _ => fault missingPattern
        | .node (.typed _) _ (.node (.arrayPattern _) _ _ :: _)
        | .node (.typed _) _ (.node (.objectPattern _) _ _ :: _) => fault missingPattern
        | _ => if kind == .const then fault missingConst else pure ()
  | _ => pure ()

def declarator (go : Grammar) : Parse Tree := do
  let s ← here
  let p ← go .pattern
  let types ← hasTypes
  let definite ← if types && !(← current).newline then eat "!" else pure false
  let optional ← if types then eat "?" else pure false
  let t ← annotation go
  let binding := if t.isAbsent && !optional then p else .node (.typed optional) s [p, t]
  let value ← if ← eat "=" then go (.assignment true) else pure .absent
  return .node (.declarator definite) s [binding, value]

def declarators (go : Grammar) (check : Tree → Parse Unit) : Parse (List Tree) := do
  let item := do
    let d ← declarator go
    check d
    return d
  let first ← item
  let more ← many do
    if ← eat "," then return some (← item) else return none
  return first :: more

def checkSingle : Tree → Parse Unit
  | .node (.classBody ..) _ _ => fault "Invalid class declaration"
  | .node (.function f) _ _ =>
      if f.isAsync then
        fault "Async functions can only be declared at the top level or inside a block"
      else if f.isGenerator then
        fault "Generators can only be declared at the top level or inside a block"
      else pure ()
  | .node (.vars kind _) _ _ =>
      if kind == .block || kind == .const then
        fault "Lexical declaration cannot appear in a single-statement context"
      else pure ()
  | _ => pure ()

def varKindOf (t : Token) : Option VarKind :=
  if t.isWord "var" then some .var
  else if t.isWord "let" then some .block
  else if t.isWord "const" then some .const
  else none

def varStatement (go : Grammar) (s : Nat) (kind : VarKind) (words : List String) : Parse Tree := do
  advance
  let isDeclare := words.contains "declare"
  let ambient := (← context).ambient || isDeclare
  let ds ← declarators go (checkInitializer kind ambient)
  semicolon
  checkModifiers ["declare"] notHere words
  return .node (.vars kind isDeclare) s ds

def atUsing : Parse Bool := do
  let t ← current
  let next ← peek
  return t.isWord "using" && next.isName && !next.newline && !next.isWord "of"

def atAwaitUsing : Parse Bool := do
  let t ← current
  let (second, third) ← peekTwo
  return t.isWord "await" && second.isWord "using" && !second.newline && third.isName &&
    !third.newline && !third.isWord "of"

def checkResource (needsValue : Bool) : Tree → Parse Unit
  | .node (.declarator _) _ [binding, value] => do
      match binding with
      | .node (.arrayPattern _) _ _ | .node (.objectPattern _) _ _ =>
          fault "Using declarations may not have destructuring patterns."
      | _ => pure ()
      if needsValue && value.isAbsent then fault "Using declarations must have an initializer."
  | _ => pure ()

def usingStatement (go : Grammar) : Parse Tree := do
  let s ← here
  let isAwait ← eatWord "await"
  advance
  let ds ← declarators go (checkResource true)
  semicolon
  return .node (.vars (if isAwait then .awaitUsing else .using) false) s ds

def functionDeclaration (go : Grammar) (s : Nat) (needsName : Bool) (words : List String) :
    Parse Tree := do
  let isAsync := (← eatWord "async") || words.contains "async"
  advance
  let isGenerator ← eat "*"
  let t ← current
  let id ← if t.isName then do
      pass
      checkName t.text
      pure (Tree.node (.name t.text) t.start [])
    else do
      if needsName then fault "Expected function name"
      pure .absent
  let parts ← functionTail go isAsync isGenerator
  checkModifiers ["declare", "async"] notHere words
  let isDeclare := words.contains "declare"
  return .node (.function { isAsync, isGenerator, isDeclare }) s (id :: parts)

def classDeclaration (go : Grammar) (s : Nat) (ds : List Tree) (needsName : Bool)
    (words : List String) : Parse Tree := do
  let c ← go .classBody
  match c with
  | .node (.classBody _ _ stop) _ (id :: _ :: parts) =>
      if needsName && id.isAbsent then fault "A class name is required."
      checkModifiers ["declare", "abstract"] notHere words
      let isAbstract := words.contains "abstract"
      return .node (.classBody isAbstract (words.contains "declare") stop) s
        (id :: Tree.list ds :: parts)
  | c => return c

def computedFault : String := "Computed property names are not allowed in enums."

def numericFault : String := "An enum member cannot have a numeric name."

def enumKey (go : Grammar) : Parse Tree := do
  let t ← current
  if t.opensTemplate then throw computedFault
  else if t.isNumber || t.kind == .bigint then throw numericFault
  else
    let key ← propertyKey go
    match key with
    | .node .computed _ [.node (.text _) _ _] | .node .computed _ [.node (.template _) _ []] =>
        return key
    | .node .computed _ [.node (.number _ _) _ _] => throw numericFault
    | .node .computed _ _ => throw computedFault
    | _ => return key

def enumMember (go : Grammar) : Parse Tree := do
  let key ← enumKey go
  let value ← if ← eat "=" then within allowIn (go (.assignment true)) else pure .absent
  return .node .enumMember key.start [key, value]

def enumDeclaration (go : Grammar) (s : Nat) (words : List String) : Parse Tree := do
  expectWord "enum"
  let id ← bindingName
  expect "\x7b"
  let (ms, _) ← delimited "\x7d" (enumMember go)
  let stop ← here
  expect "\x7d"
  checkModifiers ["declare", "const"] notHere words
  return .node (.enum id (words.contains "const") (words.contains "declare") stop) s ms

def interfaceDeclaration (go : Grammar) (s : Nat) (words : List String) : Parse Tree := do
  expectWord "interface"
  let id ← bindingName
  let ts ← typeParameters go
  let h ← heritageLoop go (← bound) {}
  let ms ← members (typeMember go)
  checkModifiers ["declare"] notHere words
  return .node (.interface id (words.contains "declare")) s
    [ts, Tree.list (h.bases.getD []), Tree.list ms]

def aliasDeclaration (go : Grammar) (s : Nat) (words : List String) : Parse Tree := do
  expectWord "type"
  let id ← bindingName
  let ts ← typeParameters go
  expect "="
  let t ← go .type
  semicolon
  checkModifiers ["declare"] notHere words
  return .node (.alias id (words.contains "declare")) s [ts, t]

def moduleBlock (go : Grammar) (s : Nat) (words : List String) : Parse Tree := do
  let isDeclare := words.contains "declare"
  let word := (← current).text
  advance
  let path ← if word == "global" then pure []
    else if (← current).kind == .text then do pure [ModuleName.text (← stringText)]
    else (·.map ModuleName.name) <$> qualified (← bindingName)
  let body ← if ← at? "\x7b" then
      within (fun c => { c with ambient := c.ambient || isDeclare, hasReturn := false }) (braced go true)
    else do
      semicolon
      pure .absent
  checkModifiers ["declare"] notHere words
  return .node (.moduleBlock word path isDeclare) s [body]

def findsDeclaration : Nat → Parse Bool
  | 0 => return false
  | fuel + 1 => do
      let t ← current
      let next ← peek
      if ["var", "let", "const", "function", "class", "enum"].any t.isWord then return true
      else if t.isWord "interface" || t.isWord "type" then return next.isName && !next.newline
      else if t.isWord "namespace" || t.isWord "module" then
        return (next.isName || next.kind == .text) && !next.newline
      else if ["abstract", "accessor", "async", "declare", "readonly"].any t.isWord ||
          accessWords.any t.isWord then
        if next.newline then return false
        pass
        findsDeclaration fuel
      else if t.isWord "static" then
        pass
        findsDeclaration fuel
      else if t.isWord "global" then
        return next.isMark "\x7b" || next.isWord "export" ||
          (next.isName && next.spelling == "Identifier")
      else if t.isWord "import" then
        return next.kind == .text || next.isMark "*" || next.isMark "\x7b" || next.isName
      else return false

def declarationWords : List String :=
  ["interface", "type", "module", "namespace", "declare", "enum", "private", "protected", "public",
   "abstract", "accessor", "static", "readonly", "global", "async"]

def atTypeDeclaration : Parse Bool := do
  let t ← current
  if t.isWord "const" then return (← peek).isWord "enum"
  else if declarationWords.any t.isWord then lookahead (findsDeclaration (← bound)) false
  else return false

def declaration (go : Grammar) (s : Nat) (ds : List Tree) (words : List String) : Parse Tree := do
  let t ← current
  unless t.isWord "class" do ds.forM fun _ => fault misplacedDecorator
  if t.isWord "enum" then enumDeclaration go s words
  else if t.isWord "interface" then interfaceDeclaration go s words
  else if t.isWord "type" then aliasDeclaration go s words
  else if ["namespace", "module", "global"].any t.isWord then moduleBlock go s words
  else if t.isWord "class" then classDeclaration go s ds true words
  else if t.isWord "function" || (← atAsyncFunction) then functionDeclaration go s true words
  else
    match varKindOf t with
    | some kind => varStatement go s kind words
    | none =>
        if (← hasTypes) && t.isWord "import" then
          advance
          importEquals s false
        else unexpected

def modifiedDeclaration (go : Grammar) (s : Nat) (ds : List Tree) : Parse Tree := do
  let words ← if ← hasTypes then modifiers else pure []
  let isDeclare := words.contains "declare"
  within (fun c => { c with ambient := c.ambient || isDeclare }) (declaration go s ds words)

def decoratedTwice : String :=
  "Decorators may not appear after 'export' or 'export default' if they also appear before 'export'."

def moreDecorators (go : Grammar) (before : List Tree) : Parse (List Tree) := do
  let after ← decorators go
  if !before.isEmpty && !after.isEmpty then fault decoratedTwice
  return before ++ after

def exportDefault (go : Grammar) (s : Nat) (before : List Tree) : Parse Tree := do
  let quiet := (← get).quiet
  let start ← here
  let ds ← moreDecorators go before
  let t ← current
  let next ← peek
  let d ← if t.isWord "class" then classDeclaration go start ds false []
    else if t.isWord "abstract" && next.isWord "class" && (← hasTypes) then do
      advance
      classDeclaration go start ds false ["abstract"]
    else do
      ds.forM fun _ => fault misplacedDecorator
      if t.isWord "interface" && next.isName && !next.newline && (← hasTypes) then
        interfaceDeclaration go t.start []
      else if t.isWord "function" || (← atAsyncFunction) then
        let f ← functionDeclaration go t.start false []
        pure (if quiet then markQuiet f else f)
      else
        let e ← within allowIn (go (.assignment true))
        semicolon
        pure e
  return .node .exportDefault s [d]

def exportImport (s : Nat) : Parse Tree := do
  let d ← importDeclaration
  match d with
  | .node (.imports _) _ _ => throw "Unexpected export."
  | d => return .node .exportDeclaration s [d]

def exportDeclaration (go : Grammar) (before : List Tree) : Parse Tree := do
  let s ← here
  advance
  let t ← current
  let next ← peek
  let types ← hasTypes
  if t.isWord "import" then exportImport s
  else if t.isMark "=" && types then
    advance
    let e ← go .expression
    semicolon
    return .node .exportEquals s [e]
  else if t.isWord "as" && next.isWord "namespace" && types then
    advance
    advance
    let id ← bindingName
    semicolon
    return .node (.exportAsNamespace id) s []
  else if t.isWord "default" then
    advance
    exportDefault go s before
  else if t.isMark "*" then exportStar s false
  else if t.isMark "\x7b" then exportList s false
  else if t.isWord "type" && types && (next.isMark "\x7b" || next.isMark "*") then
    advance
    if next.isMark "*" then exportStar s true else exportList s true
  else
    let ds ← moreDecorators go before
    return .node .exportDeclaration s [← modifiedDeclaration go (← here) ds]

def decorated (go : Grammar) (single : Bool) : Parse Tree := do
  let s ← here
  let ds ← decorators go
  if ← atWord "export" then exportDeclaration go ds
  else
    let words ← modifiers
    if ← atWord "class" then classDeclaration go s ds true words
    else
      ds.forM fun _ => fault misplacedDecorator
      go (.statement single)

def ifStatement (go : Grammar) : Parse Tree := do
  let s ← here
  advance
  let test ← parenthesizedTest go
  let yes ← go (.statement true)
  let no ← if ← eatWord "else" then go (.statement true) else pure .absent
  return .node .ifThen s [test, yes, no]

def doStatement (go : Grammar) : Parse Tree := do
  let s ← here
  advance
  let body ← go (.statement true)
  expectWord "while"
  let test ← parenthesizedTest go
  let _ ← eat ";"
  return .node .doWhile s [body, test]

def whileStatement (go : Grammar) : Parse Tree := do
  let s ← here
  advance
  let test ← parenthesizedTest go
  return .node .whileLoop s [test, ← go (.statement true)]

def forTail (go : Grammar) (s : Nat) (isAwait : Bool) (start : Tree) : Parse Tree := do
  expect ";"
  let test ← if (← at? ";") || (← at? ")") then pure .absent else within allowIn (go .expression)
  expect ";"
  let update ← if ← at? ")" then pure .absent else within allowIn (go .expression)
  expect ")"
  if isAwait then fault "await can only be used in conjunction with `for...of` statements"
  return .node .forLoop s [start, test, update, ← go (.statement true)]

def walkTail (go : Grammar) (s : Nat) (isAwait : Bool) (left : Tree) : Parse Tree := do
  if ← eatWord "of" then
    let right ← within allowIn (go (.assignment true))
    expect ")"
    return .node (.forOf isAwait) s [left, right, ← go (.statement true)]
  else
    expectWord "in"
    let right ← within allowIn (go .expression)
    expect ")"
    if isAwait then fault "await can only be used in conjunction with `for...of` statements"
    return .node .forIn s [left, right, ← go (.statement true)]

def atWalk : Parse Bool := return (← atWord "of") || (← atWord "in")

def letDeclares (next : Token) : Bool :=
  next.isName || next.isMark "[" || next.isMark "\x7b"

def resourceInKeys (kind : VarKind) : String :=
  "The left-hand side of a for...in statement cannot be an " ++
    (if kind == .awaitUsing then "await using" else "using") ++ " declaration."

def forDeclaration (go : Grammar) (s : Nat) (isAwait : Bool) (kind : VarKind) : Parse Tree := do
  let start ← here
  advance
  if kind == .awaitUsing then advance
  let ds ← within forbidIn (declarators go (if kind.isResource then checkResource false else fun _ => pure ()))
  if kind.isResource && (← atWord "in") then fault (resourceInKeys kind)
  let d := Tree.node (.vars kind false) start ds
  if ← atWalk then walkTail go s isAwait d
  else
    ds.forM (checkInitializer kind false)
    forTail go s isAwait d

def forStatement (go : Grammar) : Parse Tree := do
  let s ← here
  advance
  let isAwait ← if ← atWord "await" then do
      unless (← context).hasAwait do fault awaitFault
      advance
      pure true
    else pure false
  expect "("
  let t ← current
  let next ← peek
  if t.isMark ";" then forTail go s isAwait .absent
  else if t.isWord "var" then forDeclaration go s isAwait .var
  else if t.isWord "const" then forDeclaration go s isAwait .const
  else if t.isWord "let" && letDeclares next then forDeclaration go s isAwait .block
  else if ← atUsing then forDeclaration go s isAwait .using
  else if ← atAwaitUsing then forDeclaration go s isAwait .awaitUsing
  else
    let isAsyncOf := t.isWord "async" && !t.escaped && next.isWord "of"
    let e ← within forbidIn (go .expression)
    if ← atWalk then
      let left ← target e
      if isAsyncOf && !isAwait && (← atWord "of") then
        fault "The left-hand side of a `for...of` statement may not be `async`"
      walkTail go s isAwait left
    else forTail go s isAwait e

def switchCase (go : Grammar) : Parse Tree := do
  let s ← here
  let test ← if ← eatWord "default" then pure .absent
    else if ← eatWord "case" then within allowIn (go .expression)
    else unexpected
  expect ":"
  let body ← many do
    let t ← current
    if t.isWord "case" || t.isWord "default" || t.isMark "\x7d" || t.kind == .eof then return none
    return some (← go (.statement false))
  return .node .case s (test :: body)

def switchStatement (go : Grammar) : Parse Tree := do
  let s ← here
  advance
  let value ← parenthesizedTest go
  expect "\x7b"
  let cases ← many do
    let t ← current
    if t.isMark "\x7d" || t.kind == .eof then return none
    return some (← switchCase go)
  let stop ← here
  expect "\x7d"
  return .node (.switch stop) s (value :: cases)

def jumpLabel : Parse (Option String) := do
  if canEndStatement (← current) then return none else return some (← variableName)

def returnStatement (go : Grammar) : Parse Tree := do
  let s ← here
  unless (← context).hasReturn do
    fault "A 'return' statement can only be used within a function body."
  advance
  let value ← if canEndStatement (← current) then pure .absent else within allowIn (go .expression)
  semicolon
  return .node .ret s [value]

def throwStatement (go : Grammar) : Parse Tree := do
  let s ← here
  advance
  if (← current).newline then fault "Illegal newline after throw"
  let value ← within allowIn (go .expression)
  semicolon
  return .node .throw s [value]

def catchClause (go : Grammar) : Parse Tree := do
  let s ← here
  advance
  let binding ← if ← eat "(" then do
      let p ← typedPattern go false
      expect ")"
      pure p
    else pure .absent
  return .node .catchClause s [binding, ← go .block]

def tryStatement (go : Grammar) : Parse Tree := do
  let s ← here
  advance
  let body ← go .block
  let handler ← if ← atWord "catch" then catchClause go else pure .absent
  let last ← if ← eatWord "finally" then go .block else pure .absent
  if handler.isAbsent && last.isAbsent then fault "Missing catch or finally clause"
  return .node .tryBlock s [body, handler, last]

def expressionStatement (s : Nat) (e : Tree) : Parse Tree := do
  semicolon
  return .node .expression s [e]

def expressionOrLabel (go : Grammar) : Parse Tree := do
  let s ← here
  let e ← within allowIn (go .expression)
  match e with
  | .node (.name id) _ _ =>
      if ← eat ":" then return .node (.labeled id) s [← go (.statement true)]
      else expressionStatement s e
  | e => expressionStatement s e

def letStatement (go : Grammar) (single : Bool) : Parse Tree := do
  let s ← here
  let next ← peek
  if (assignOf next).isSome || (binaryOf next).isSome then
    expressionStatement s (← go (.assignment true))
  else if next.isMark "." || next.isMark "(" then
    expressionStatement s (← go .expression)
  else if (single && !next.isMark "[") || next.isMark ";" then
    advance
    expressionStatement s (.node (.name "let") s [])
  else varStatement go s .block []

def jump (label : Option String → Label) : Parse Tree := do
  let s ← here
  advance
  let target ← jumpLabel
  semicolon
  return .node (label target) s []

def anyStatement (go : Grammar) (single : Bool) : Parse Tree := do
  let t ← current
  let s := t.start
  let next ← peek
  if t.kind == .word then
    if t.isWord "if" then ifStatement go
    else if t.isWord "do" then doStatement go
    else if t.isWord "while" then whileStatement go
    else if t.isWord "for" then forStatement go
    else if t.isWord "continue" then jump .continue
    else if t.isWord "break" then jump .break
    else if t.isWord "with" then
      advance
      let object ← parenthesizedTest go
      return .node .withObject s [object, ← go (.statement true)]
    else if t.isWord "switch" then switchStatement go
    else if t.isWord "throw" then throwStatement go
    else if t.isWord "try" then tryStatement go
    else if t.isWord "debugger" then
      advance
      semicolon
      return .node .debugger s []
    else if t.isWord "class" then classDeclaration go s [] true []
    else if t.isWord "export" then exportDeclaration go []
    else if t.isWord "return" then returnStatement go
    else if t.isWord "var" then varStatement go s .var []
    else if t.isWord "function" || (← atAsyncFunction) then functionDeclaration go s true []
    else if (← hasTypes) && (← atTypeDeclaration) then modifiedDeclaration go s []
    else if t.isWord "const" then varStatement go s .const []
    else if t.isWord "let" && !t.escaped then letStatement go single
    else if (← atUsing) || (← atAwaitUsing) then usingStatement go
    else if t.isWord "import" && !next.isMark "." && !next.isMark "(" then importDeclaration
    else expressionOrLabel go
  else if t.isMark "\x7b" then go .block
  else if t.isMark ";" then
    advance
    return .node .empty s []
  else if t.isMark "@" then decorated go single
  else expressionOrLabel go

def markStatement : Tree → Tree
  | .node (.function form) s ps => markQuiet (.node (.function form) s ps)
  | .node .exportDefault s [d] => .node .exportDefault s [markQuiet d]
  | .node .exportDeclaration s [d] => .node .exportDeclaration s [declared d]
  | t => declared t
where
  declared : Tree → Tree
    | .node (.function form) s ps => markQuiet (.node (.function form) s ps)
    | .node (.vars .const isDeclare) s (.node (.declarator b) ds [p, e] :: more) =>
        .node (.vars .const isDeclare) s (.node (.declarator b) ds [p, markQuiet e] :: more)
    | t => t

def statement (go : Grammar) (single : Bool) : Parse Tree := do
  let quiet := (← get).quiet
  let stmt ← anyStatement go single
  if single then checkSingle stmt
  return if quiet then markStatement stmt else stmt

end LivePreview.Script.Parser
