import LivePreview.Script.Printer.Key

namespace LivePreview.Script.Printer

def writeTag : Tree → Print Unit
  | .node .this _ _ => write "this"
  | .node (.name s) _ _ | .node (.tag s) _ _ => write s
  | .node (.tagScoped space s) _ _ => write (space ++ ":" ++ s)
  | .node (.tagMember s) _ [t] => do
      writeTag t
      write ("." ++ s)
  | _ => pure ()

def attributeQuote (s : String) : String := if s.contains '"' then "'" else "\""

def writeContainer (go : Renderer) (closeAt : Nat) (e : Tree) : Print Unit := do
  write "\x7b"
  if e.isAbsent then commentsAt closeAt else writeExpr go .lowest e
  write "\x7d"

def writeAttribute (go : Renderer) : Tree → Print Unit
  | .node (.attr scope s) _ [value] => do
      scope.toList.forM (fun x => write (x ++ ":"))
      write s
      match value with
      | .node .absent _ _ => pure ()
      | .node (.attributeText raw) _ _ =>
          let q := attributeQuote raw
          write ("=" ++ q ++ raw ++ q)
      | .node (.container stop) _ [e] => do
          write "="
          writeContainer go stop e
      | e => do
          write "="
          writeExpr go .lowest e
  | .node .attributeSpread _ [e] => do
      write "\x7b..."
      writeExpr go .comma e
      write "\x7d"
  | _ => pure ()

def writeChild (go : Renderer) : Tree → Print Unit
  | .node (.childText raw) _ _ => write raw
  | .node (.container stop) _ [e] => writeContainer go stop e
  | .node .childSpread _ [e] => do
      write "\x7b..."
      writeExpr go .lowest e
      write "\x7d"
  | e => writeExpr go .lowest e

def writeElement (go : Renderer) (selfClosing : Bool) : List Tree → Print Unit
  | tag :: _ :: .node .list _ attributes :: children => do
      write "<"
      writeTag tag
      attributes.forM fun a => do
        space
        writeAttribute go a
      if selfClosing then write " />"
      else
        write ">"
        children.forM (writeChild go)
        write "</"
        writeTag tag
        write ">"
  | _ => pure ()

def writeFragment (go : Renderer) (children : List Tree) : Print Unit := do
  write "<>"
  children.forM (writeChild go)
  write "</>"

end LivePreview.Script.Printer
