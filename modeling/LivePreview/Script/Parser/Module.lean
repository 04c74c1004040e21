import LivePreview.Script.Parser.Class

namespace LivePreview.Script.Parser

def repeated : List String → List String → List String
  | _, [] => []
  | seen, n :: ns => if seen.contains n then n :: repeated seen ns else repeated (n :: seen) ns

def declaredTwice (name : String) : String := "Identifier `" ++ name ++ "` has already been declared"

def importAttributes : Parse (Option Attributes) := do
  let t ← current
  if t.isWord "with" || (t.isWord "assert" && !t.newline) then
    pass
    expect "\x7b"
    let (entries, _) ← delimited "\x7d" do
      let key ← moduleName
      expect ":"
      return (key, ← stringText)
    expect "\x7d"
    (repeated [] (entries.map (·.1.value))).forM fun key => fault (declaredTwice key)
    return some ⟨t.text, entries⟩
  else return none

def moduleSource : Parse ModuleSource := do
  let path ← stringText
  return ⟨path, ← importAttributes⟩

def canName (t : Token) : Bool := t.kind == .word || t.kind == .text

def specifier : Parse (Bool × ModuleName × ModuleName) := do
  let t ← current
  let next ← peek
  if (← hasTypes) && t.isWord "type" && canName next then
    if next.isWord "as" then
      advance
      advance
      let third ← current
      if third.isWord "as" then
        advance
        if canName (← current) then return (true, .name "as", ← moduleName)
        else return (false, .name "type", .name "as")
      else if canName third then return (false, .name "type", ← moduleName)
      else return (true, .name "as", .name "as")
    else
      advance
      let first ← moduleName
      if ← eatWord "as" then return (true, first, ← moduleName) else return (true, first, first)
  else
    let first ← moduleName
    if ← eatWord "as" then return (false, first, ← moduleName) else return (false, first, first)

def checkTypeMark (listOfTypes typeOnly : Bool) (word : String) : Parse Unit := do
  if listOfTypes && typeOnly then
    fault ("The 'type' modifier cannot be used on a named " ++ word ++ " when '" ++ word ++
      " type' is used on its " ++ word ++ " statement.")

def importItem (listOfTypes : Bool) : Parse ImportItem := do
  let (typeOnly, imported, named) ← specifier
  checkTypeMark listOfTypes typeOnly "import"
  match named with
  | .name s =>
      if reservedWords.contains s then
        throw ("Identifier expected. '" ++ s ++ "' is a reserved word that cannot be used here.")
      return ⟨typeOnly, imported, s⟩
  | .text _ => throw "Identifier expected."

def importItems (listOfTypes : Bool) : Parse (List ImportItem) := do
  expect "\x7b"
  let (items, _) ← delimited "\x7d" (importItem listOfTypes)
  expect "\x7d"
  return items

def starName : Parse String := do
  expect "*"
  expectWord "as"
  bindingName

def importClause (typeOnly : Bool) : Parse Import := do
  let t ← current
  let default ← if t.isName then some <$> bindingName else pure none
  let more ← if default.isSome then eat "," else pure true
  let star ← if more && (← at? "*") then some <$> starName else pure none
  let items ← if more && star.isNone && (← at? "\x7b") then some <$> importItems typeOnly else pure none
  if default.isSome && more && star.isNone && items.isNone then unexpected
  expectWord "from"
  return { typeOnly, default, star, items, source := ← moduleSource }

def atTypeOnlyImport : Parse Bool := do
  let t ← current
  let (second, third) ← peekTwo
  if !(← hasTypes) || !t.isWord "type" then return false
  else if second.isMark "\x7b" || second.isMark "*" then return true
  else if second.isWord "from" then return third.isWord "from" || third.isMark "="
  else return second.isName

def importEquals (s : Nat) (typeOnly : Bool) : Parse Tree := do
  let id ← bindingName
  expect "="
  unless ← hasTypes do fault "'import ... =' can only be used in TypeScript files."
  let t ← current
  if t.isWord "require" && (← peek).isMark "(" then
    advance
    advance
    let source ← stringText
    expect ")"
    semicolon
    return .node (.importRequire typeOnly id source) s []
  else
    let path ← qualified (← variableName)
    semicolon
    return .node (.importEquals typeOnly id path) s []

def importPhase : Parse (Option String) := do
  let t ← current
  let (second, third) ← peekTwo
  if t.isWord "source" && second.isName && third.isWord "from" then return some "source"
  else if t.isWord "defer" && second.isMark "*" then return some "defer"
  else return none

def importDeclaration : Parse Tree := do
  let s ← here
  advance
  let t ← current
  if t.kind == .text then
    let source ← moduleSource
    semicolon
    return .node (.imports { source }) s []
  else
    let phase ← importPhase
    let typeOnly ← atTypeOnlyImport
    if typeOnly || phase.isSome then advance
    if (← current).isName && (← peek).isMark "=" then importEquals s typeOnly
    else
      let i ← importClause typeOnly
      semicolon
      return .node (.imports { i with phase }) s []

def exportItem (listOfTypes : Bool) : Parse ExportItem := do
  let (typeOnly, source, exported) ← specifier
  checkTypeMark listOfTypes typeOnly "export"
  return ⟨typeOnly, source, exported⟩

def strictWords : List String :=
  ["implements", "interface", "package", "private", "protected", "public", "static"]

def reservedExport (i : ExportItem) : Parse Unit :=
  match i.source with
  | .name s =>
      if reservedWords.contains s || strictWords.contains s then
        fault "A reserved word cannot be used as an exported binding without `from`"
      else pure ()
  | .text _ => fault "A string literal cannot be used as an exported binding without `from`"

def exportList (s : Nat) (typeOnly : Bool) : Parse Tree := do
  expect "\x7b"
  let (items, _) ← delimited "\x7d" (exportItem typeOnly)
  expect "\x7d"
  let source ← if (← eatWord "from") && (← current).isLiteral then some <$> moduleSource
    else pure none
  if source.isNone then items.forM reservedExport
  semicolon
  return .node (.exportItems typeOnly items source) s []

def exportStar (s : Nat) (typeOnly : Bool) : Parse Tree := do
  expect "*"
  let name ← if ← eatWord "as" then some <$> moduleName else pure none
  expectWord "from"
  let source ← moduleSource
  semicolon
  return .node (.exportAll typeOnly name source) s []

end LivePreview.Script.Parser
