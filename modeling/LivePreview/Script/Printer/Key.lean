import LivePreview.Script.Printer.Basic

namespace LivePreview.Script.Printer

def writeExpr (go : Renderer) (level : Level) (e : Tree) : Print Unit := go (.expr { level }) e

def writeNumber (level : Level) (x : Float) : Print Unit := do
  if x.isInf then wrap (decide (Level.multiply ≤ level)) (word "1 / 0")
  else
    let cs := Number.render x
    apart
    writeChars cs
    if Number.takesPoint cs then modify fun o => { o with wholeEnd := some o.size }

def writeKey (go : Renderer) : Tree → Print Unit
  | .node (.key s) _ _ => write s
  | .node (.secret s) _ _ => write ("#" ++ s)
  | .node (.text s) _ _ => quoted s
  | .node (.number x _) _ _ => writeNumber .comma x
  | .node (.bigint raw) _ _ => write raw
  | .node .computed _ [e] => do
      write "["
      writeExpr go .comma e
      write "]"
  | _ => pure ()

def writeAnnotation (go : Renderer) (t : Tree) : Print Unit := do
  unless t.isAbsent do
    write ": "
    go .type t

def writeTypeArguments (go : Renderer) (ts : List Tree) : Print Unit := do
  unless ts.isEmpty do
    write "<"
    listed (go .type) ts
    write ">"

def writeTypeParameter (go : Renderer) : Tree → Print Unit
  | .node (.typeParam id words) _ [limit, default] => do
      words.forM (fun w => write (w ++ " "))
      write id
      unless limit.isAbsent do
        write " extends "
        go .type limit
      unless default.isAbsent do
        write " = "
        go .type default
  | _ => pure ()

def writeLines (item : Tree → Print Unit) : List Tree → Print Unit
  | [] => pure ()
  | [t] => do
      newline
      indent
      item t
  | t :: ts => do
      newline
      indent
      item t
      write ","
      writeLines item ts

def onLines (opening closing tail : String) (item : Tree → Print Unit) (ts : List Tree) : Print Unit := do
  write opening
  deeper
  writeLines item ts
  write tail
  newline
  shallower
  indent
  write closing

def writeTypeParameters (go : Renderer) (ts : List Tree) : Print Unit := do
  match ts with
  | [] => pure ()
  | [t] =>
      write "<"
      writeTypeParameter go t
      if (← get).elements then write ","
      write ">"
  | ts => onLines "<" ">" "" (writeTypeParameter go) ts

def isRest : Tree → Bool
  | .node .rest _ _ => true
  | _ => false

def isHole : Tree → Bool
  | .node .hole _ _ => true
  | _ => false

def writeArrayItems (go : Renderer) (items : List Tree) : Print Unit := do
  let firsts := items.filter (fun t => !isRest t)
  let rests := items.filter isRest
  listed (fun t => if isHole t then pure () else go .pattern t) firsts
  if (firsts.getLast?.any isHole) || (!firsts.isEmpty && !rests.isEmpty) then write ","
  rests.forM fun t => do
    space
    go .pattern t

def soleName : Tree → Option String
  | .node (.name id) _ _ => some id
  | .node .withDefault _ (.node (.name id) _ _ :: _) => some id
  | .node (.typed _) _ (.node (.name id) _ _ :: _) => some id
  | _ => none

def writeProperty (go : Renderer) (binds : Bool) : Tree → Print Unit
  | .node (.propertyPattern shorthand) _ [key, p] => do
      let short := match key, soleName p with
        | .node (.key s) _ _, some id => s == id && (binds || shorthand)
        | _, _ => false
      unless short do
        writeKey go key
        write ": "
      go .pattern p
  | t => go .pattern t

def writeProperties (go : Renderer) (binds : Bool) (props : List Tree) : Print Unit := do
  let firsts := props.filter (fun t => !isRest t)
  let rests := props.filter isRest
  listed (writeProperty go binds) firsts
  rests.forM fun t => do
    unless firsts.isEmpty do write ","
    go .pattern t

def writePattern (go : Renderer) : Tree → Print Unit
  | .node (.name id) _ _ => word id
  | .node (.arrayPattern _) _ items => do
      write "["
      writeArrayItems go items
      write "]"
  | .node (.objectPattern binds) _ props => do
      write "\x7b"
      unless props.isEmpty do
        if binds then space
        writeProperties go binds props
        if binds then space
      write "\x7d"
  | .node .withDefault _ [p, e] => do
      go .pattern p
      write " = "
      writeExpr go .comma e
  | .node (.typed optional) _ [p, t] => do
      go .pattern p
      if optional then write "?"
      writeAnnotation go t
  | .node .rest _ [p] => do
      write "..."
      go .pattern p
  | e => go (.expr { level := .comma }) e

def writeDecorators (go : Renderer) (ds : List Tree) : Print Unit := ds.forM fun d => do
  let rec plain : Tree → Bool
    | .node (.name _) _ _ => true
    | .node (.member _ _) _ _ | .node (.privateMember _ _) _ _ => true
    | .node (.call _ _ _) _ (e :: _) => plain e
    | _ => false
  write "@"
  wrap (!plain d) (writeExpr go .lowest d)
  space

def writeParameter (go : Renderer) : Tree → Print Unit
  | .node (.param m) _ [.node .list _ ds, p] => do
      writeDecorators go ds
      (m.accessibility.toList).forM (fun s => write (s ++ " "))
      if m.isOverride then write "override "
      if m.isReadonly then write "readonly "
      go .pattern p
  | .node .receiver _ [t] => do
      write "this"
      writeAnnotation go t
  | t => go .pattern t

def writeParameters (go : Renderer) (ps : List Tree) : Print Unit := do
  write "("
  listed (writeParameter go) ps
  write ")"

def writeSignature (go : Renderer) (mark : String) : List Tree → Print Unit
  | .node .list _ ts :: .node .list _ ps :: r :: _ => do
      writeTypeParameters go ts
      writeParameters go ps
      unless r.isAbsent do
        write mark
        go .type r
  | _ => pure ()

end LivePreview.Script.Printer
