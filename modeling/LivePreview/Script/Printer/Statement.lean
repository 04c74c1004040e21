import LivePreview.Script.Printer.Expression

namespace LivePreview.Script.Printer

def writeModuleName : ModuleName → Print Unit
  | .name s => write s
  | .text s => quoted s

def writeAttributes : Option Attributes → Print Unit
  | none => pure ()
  | some a => do
      write (" " ++ a.word ++ " \x7b")
      unless a.entries.isEmpty do
        space
        listed (fun (key, value) => do
          writeModuleName key
          write ": "
          quoted value) a.entries
        space
      write "\x7d"

def writeSource (s : ModuleSource) : Print Unit := do
  quoted s.path
  writeAttributes s.attributes

def writeImportItem (i : ImportItem) : Print Unit := do
  if i.typeOnly then write "type "
  writeModuleName i.imported
  unless i.imported.value == i.localName do write (" as " ++ i.localName)

def writeImport (i : Import) : Print Unit := do
  word "import"
  if i.typeOnly then write " type"
  i.phase.toList.forM (fun s => write (" " ++ s))
  let bare := i.default.isNone && i.star.isNone && i.items.isNone
  if bare then space
  else
    i.default.toList.forM (fun s => write (" " ++ s))
    if i.default.isSome && (i.star.isSome || i.items.any (!·.isEmpty)) then write ","
    i.star.toList.forM (fun s => write (" * as " ++ s))
    match i.items with
    | some [] => if i.default.isNone then write " \x7b\x7d"
    | some items =>
        write " \x7b "
        listed writeImportItem items
        write " \x7d"
    | none => pure ()
    write " from "
  writeSource i.source

def writeExportItem (i : ExportItem) : Print Unit := do
  if i.typeOnly then write "type "
  writeModuleName i.source
  unless i.source.value == i.exported.value do
    write " as "
    writeModuleName i.exported

def writeExportItems (typeOnly : Bool) (items : List ExportItem) (source : Option ModuleSource) :
    Print Unit := do
  word "export"
  if typeOnly then write " type"
  if items.isEmpty then write " \x7b\x7d"
  else
    write " \x7b "
    listed writeExportItem items
    write " \x7d"
  source.toList.forM fun s => do
    write " from "
    quoted s.path

def writeDeclarator (go : Renderer) : Tree → Print Unit
  | .node (.declarator definite) _ [binding, value] => do
      match binding, definite with
      | .node (.typed _) _ [p, t], true =>
          go .pattern p
          write "!"
          writeAnnotation go t
      | b, _ => go .pattern b
      unless value.isAbsent do
        write " = "
        writeExpr go .comma value
  | _ => pure ()

def writeVariables (go : Renderer) (kind : VarKind) (isDeclare : Bool) (ds : List Tree) : Print Unit := do
  apart
  if isDeclare then write "declare "
  write (kind.text ++ " ")
  listed (writeDeclarator go) ds

def writeLeft (go : Renderer) : Tree → Print Unit
  | .node (.vars kind isDeclare) _ ds => writeVariables go kind isDeclare ds
  | p => go .pattern p

def writeStart (go : Renderer) : Tree → Print Unit
  | .node (.vars kind isDeclare) _ ds => do
      apart
      if isDeclare then write "declare "
      write (kind.text ++ " ")
      listed (fun d => match d with
        | .node (.declarator _) _ [b, value] => do
            go .pattern b
            unless value.isAbsent do
              write " = "
              go (.expr { level := .comma, forbidIn := true }) value
        | _ => pure ()) ds
  | e => go (.expr { level := .lowest, forbidIn := true }) e

def writeGoverned (go : Renderer) : Tree → Print Unit
  | .node (.block _) _ body => do
      space
      writeBody go body
      newline
  | .node .empty _ _ => do
      write ";"
      newline
  | t => do
      modify fun o => { o with joinNext := true }
      go .stmt t

def opensElse : Tree → Bool
  | .node .ifThen _ [_, _, no] => if no.isAbsent then true else opensElse no
  | .node .forLoop _ ts | .node .whileLoop _ ts | .node .forIn _ ts | .node (.forOf _) _ ts
  | .node .withObject _ ts | .node (.labeled _) _ ts => opensElseLast ts
  | _ => false
where
  opensElseLast : List Tree → Bool
    | [] => false
    | [t] => opensElse t
    | _ :: ts => opensElseLast ts

def writeElse (go : Renderer) : Tree → Print Unit
  | .node .absent _ _ => pure ()
  | .node (.block _) _ body => do
      word "else "
      writeBody go body
      newline
  | .node .ifThen s parts => do
      word "else "
      go .ifTail (.node .ifThen s parts)
  | t => do
      word "else"
      writeGoverned go t

def writeIf (go : Renderer) : List Tree → Print Unit
  | [test, yes, no] => do
      word "if ("
      writeExpr go .lowest test
      write ")"
      match yes with
      | .node (.block _) _ body =>
          space
          writeBody go body
          if no.isAbsent then newline else space
      | yes =>
          if opensElse yes && !no.isAbsent then
            space
            braces false (go .stmt yes)
            space
          else
            writeGoverned go yes
            unless no.isAbsent do indent
      writeElse go no
  | _ => pure ()

def writeCase (go : Renderer) : Tree → Print Unit
  | .node .case _ (test :: body) => do
      indent
      if test.isAbsent then write "default"
      else
        write "case "
        writeExpr go .lowest test
      write ":"
      match body with
      | [t] => writeGoverned go t
      | ts =>
          newline
          deeper
          ts.forM (go .stmt)
          shallower
  | _ => pure ()

def writeTry (go : Renderer) : List Tree → Print Unit
  | [body, handler, last] => do
      write "try "
      writeBlock go body
      match handler with
      | .node .catchClause s [binding, block] =>
          space
          commentsAt s
          write "catch "
          unless binding.isAbsent do
            write "("
            go .pattern binding
            write ") "
          writeBlock go block
      | _ => pure ()
      unless last.isAbsent do
        write " finally "
        writeBlock go last
      newline
  | _ => pure ()

def directiveQuote : List Char → Char
  | '\\' :: _ :: cs => directiveQuote cs
  | '\x27' :: _ => '"'
  | '"' :: _ => '\x27'
  | _ :: cs => directiveQuote cs
  | [] => '"'

def writeEnumMembers (go : Renderer) : List Tree → Print Unit
  | [] => pure ()
  | m :: ms => do
      commentsAt m.start
      indent
      match m with
      | .node .enumMember _ [key, value] =>
          writeKey go key
          unless value.isAbsent do
            write " = "
            writeExpr go .lowest value
      | _ => pure ()
      unless ms.isEmpty do write ","
      newline
      writeEnumMembers go ms

def pathText (path : List ModuleName) : Print Unit :=
  match path with
  | [.text s] => quoted s
  | names => write (".".intercalate (names.map ModuleName.value))

def writeInterface (go : Renderer) (id : String) (isDeclare : Bool) : List Tree → Print Unit
  | [.node .list _ ts, .node .list _ bases, .node .list _ ms] => do
      if isDeclare then write "declare "
      write ("interface " ++ id)
      writeTypeParameters go ts
      unless bases.isEmpty do
        write " extends "
        listed (writeExpr go .call) bases
      space
      braces ms.isEmpty (writeMembers go ms)
  | _ => pure ()

def writeDeclaration (go : Renderer) : Tree → Print Unit
  | .node (.vars kind isDeclare) _ ds => do
      writeVariables go kind isDeclare ds
      endStatement
  | .node (.function form) _ parts => do
      writeFunction go form parts
      newline
  | .node (.classBody isAbstract isDeclare _) _ parts => do
      writeClass go isAbstract isDeclare parts
      newline
  | .node (.interface id isDeclare) _ parts => do
      writeInterface go id isDeclare parts
      newline
  | .node (.alias id isDeclare) _ [.node .list _ ts, t] => do
      if isDeclare then write "declare "
      write ("type " ++ id)
      writeTypeParameters go ts
      write " = "
      go .type t
      endStatement
  | .node (.enum id isConst isDeclare _) _ ms => do
      indent
      if isDeclare then write "declare "
      if isConst then write "const "
      write ("enum " ++ id ++ " ")
      braces ms.isEmpty (writeEnumMembers go ms)
      newline
  | .node (.moduleBlock kind path isDeclare) _ [body] => do
      if isDeclare then write "declare "
      write kind
      unless path.isEmpty do
        space
        pathText path
      match body with
      | .node (.block _) _ stmts =>
          space
          braces stmts.isEmpty (writeStatements go stmts)
      | _ => pure ()
      newline
  | .node (.importEquals _ id path) _ _ => do
      write ("import " ++ id ++ " = " ++ ".".intercalate path)
      endStatement
  | .node (.importRequire _ id source) _ _ => do
      write ("import " ++ id ++ " = require(")
      quoted source
      write ")"
      endStatement
  | _ => pure ()

def isDeclaration : Tree → Bool
  | .node (.vars _ _) _ _ | .node (.function _) _ _ | .node (.classBody _ _ _) _ _
  | .node (.interface _ _) _ _ | .node (.alias _ _) _ _ | .node (.enum _ _ _ _) _ _
  | .node (.moduleBlock _ _ _) _ _ | .node (.importEquals _ _ _) _ _
  | .node (.importRequire _ _ _) _ _ => true
  | _ => false

def writeDefault (go : Renderer) (d : Tree) : Print Unit := do
  write "export default "
  match d with
  | .node (.function _) _ _ | .node (.classBody _ _ _) _ _ => go .declaration d
  | .node (.interface id isDeclare) _ parts => writeInterface go id isDeclare parts
  | e =>
      modify fun o => { o with defaultStart := some o.size }
      writeExpr go .comma e
      endStatement

def writePlain (go : Renderer) (t : Tree) : Print Unit := do
  match t with
  | .node (.block _) _ body =>
      writeBody go body
      newline
  | .node (.directive raw) _ _ =>
      let q := directiveQuote raw.toList
      write (String.singleton q ++ raw ++ String.singleton q)
      endStatement
  | .node .empty _ _ => endStatement
  | .node .debugger _ _ =>
      write "debugger"
      endStatement
  | .node .ifThen _ parts => writeIf go parts
  | .node .forLoop _ [start, test, update, body] =>
      write "for ("
      unless start.isAbsent do writeStart go start
      write ";"
      unless test.isAbsent do
        space
        writeExpr go .lowest test
      write ";"
      unless update.isAbsent do
        space
        writeExpr go .lowest update
      write ")"
      writeGoverned go body
  | .node .forIn _ [left, right, body] =>
      write "for ("
      writeLeft go left
      write " in "
      writeExpr go .lowest right
      write ")"
      writeGoverned go body
  | .node (.forOf isAwait) _ [left, right, body] =>
      write (if isAwait then "for await (" else "for (")
      writeLeft go left
      write " of "
      writeExpr go .comma right
      write ")"
      writeGoverned go body
  | .node .whileLoop _ [test, body] =>
      write "while ("
      writeExpr go .lowest test
      write ")"
      writeGoverned go body
  | .node .doWhile _ [body, test] =>
      write "do"
      match body with
      | .node (.block _) _ ss =>
          space
          writeBody go ss
          space
      | .node .empty _ _ =>
          endStatement
          indent
      | body =>
          newline
          deeper
          go .stmt body
          shallower
          indent
      write "while ("
      writeExpr go .lowest test
      write ")"
      endStatement
  | .node (.switch _) _ (value :: cases) =>
      write "switch ("
      writeExpr go .lowest value
      write ") "
      braces cases.isEmpty (cases.forM (writeCase go))
      newline
  | .node .ret _ [e] =>
      write "return"
      unless e.isAbsent do
        space
        writeExpr go .lowest e
      endStatement
  | .node (.break label) _ _ =>
      write "break"
      label.toList.forM (fun l => write (" " ++ l))
      endStatement
  | .node (.continue label) _ _ =>
      write "continue"
      label.toList.forM (fun l => write (" " ++ l))
      endStatement
  | .node .throw _ [e] =>
      write "throw "
      writeExpr go .lowest e
      endStatement
  | .node .tryBlock _ parts => writeTry go parts
  | .node (.labeled label) _ [body] =>
      write (label ++ ":")
      writeGoverned go body
  | .node .withObject _ [e, body] =>
      write "with ("
      writeExpr go .lowest e
      write ")"
      writeGoverned go body
  | .node (.imports i) _ _ =>
      writeImport i
      endStatement
  | .node (.exportItems typeOnly items source) _ _ =>
      writeExportItems typeOnly items source
      endStatement
  | .node (.exportAll typeOnly name source) _ _ =>
      write (if typeOnly then "export type *" else "export *")
      name.toList.forM fun n => do
        write " as "
        writeModuleName n
      write " from "
      writeSource source
      endStatement
  | .node .exportDeclaration _ [d] =>
      write "export "
      go .declaration d
  | .node .exportDefault _ [d] => writeDefault go d
  | .node .exportEquals _ [e] =>
      write "export = "
      writeExpr go .lowest e
      endStatement
  | .node (.exportAsNamespace id) _ _ =>
      write ("export as namespace " ++ id)
      endStatement
  | t => if isDeclaration t then go .declaration t

def isQuietFunction : Tree → Bool
  | .node (.function form) _ _ => form.isQuiet
  | .node .exportDeclaration _ [.node (.function form) _ _]
  | .node .exportDefault _ [.node (.function form) _ _] => form.isQuiet
  | _ => false

def writeStatement (go : Renderer) (t : Tree) : Print Unit := do
  match t with
  | .node (.directive raw) s _ =>
      indent
      writePlain go (.node (.directive raw) s [])
  | .node .expression s [e] =>
      commentsAt s
      indent
      modify fun o => { o with statementStart := some o.size }
      writeExpr go .lowest e
      endStatement
  | t =>
      commentsAt t.start
      indent
      if isQuietFunction t then
        write (quietMark ++ "\n")
        unless isExport t do indent
      writePlain go t
where
  isExport : Tree → Bool
    | .node .exportDeclaration _ _ | .node .exportDefault _ _ => true
    | _ => false

def level (go : Renderer) : Renderer
  | .expr place, t => writeExpression go place t
  | .stmt, t => writeStatement go t
  | .ifTail, t => writeIf go t.parts
  | .pattern, t => writePattern go t
  | .type, t => writeType go t
  | .declaration, t => writeDeclaration go t

def renderer : Nat → Renderer
  | 0, _, _ => pure ()
  | n + 1, mode, t => level (renderer n) mode t

end Printer

/-- The text of a program: tabs, double quotes, a semicolon behind each statement. -/
def Program.print (p : Program) : String :=
  let go := Printer.renderer (4 * Tree.depthAll p.body + 16)
  let body : Print Unit := do
    p.hashbang.toList.forM (fun s => Printer.write ("#!" ++ s ++ "\n"))
    Printer.writeStatements go p.body
    Printer.commentsAt p.endAt
  (body.run { comments := p.comments.filter (fun c => !c.isPure && !c.isQuiet), elements := p.elements }).2.code

end LivePreview.Script
