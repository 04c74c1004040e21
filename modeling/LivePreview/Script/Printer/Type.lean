import LivePreview.Script.Printer.Key

namespace LivePreview.Script.Printer

def separated (go : Renderer) (mark : String) : List Tree → Print Unit
  | [] => pure ()
  | [t] => go .type t
  | t :: ts => do
      go .type t
      write mark
      separated go mark ts

def writeIndex (go : Renderer) (ps : List Tree) (t : Tree) : Print Unit := do
  write "["
  listed (go .pattern) ps
  write "]"
  writeAnnotation go t

def writeTypeMember (go : Renderer) : Tree → Print Unit
  | .node (.typeField isReadonly optional) _ [key, t] => do
      if isReadonly then write "readonly "
      writeKey go key
      if optional then write "?"
      writeAnnotation go t
  | .node (.typeMethod kind optional) _ (key :: parts) => do
      match kind with
      | .get => write "get "
      | .set => write "set "
      | .method => pure ()
      writeKey go key
      if optional then write "?"
      writeSignature go ": " parts
  | .node .typeCall _ parts => writeSignature go ": " parts
  | .node .typeConstruct _ parts => do
      write "new "
      writeSignature go ": " parts
  | .node (.typeIndex isReadonly) _ [.node .list _ ps, t] => do
      if isReadonly then write "readonly "
      writeIndex go ps t
  | _ => pure ()

def writeMembers (go : Renderer) (ms : List Tree) : Print Unit := ms.forM fun m => do
  commentsAt m.start
  indent
  writeTypeMember go m
  endStatement

def writePieces (value : Tree → Print Unit) : List String → List Tree → Print Unit
  | piece :: pieces, v :: vs => do
      write piece
      write "$\x7b"
      value v
      write "\x7d"
      writePieces value pieces vs
  | pieces, _ => pieces.forM write

def writeTemplate (value : Tree → Print Unit) (pieces : List String) (vs : List Tree) : Print Unit := do
  write "\x60"
  writePieces value pieces vs
  write "\x60"

def writeLiteral (go : Renderer) : Tree → Print Unit
  | .node (.number _ raw) _ _ => word raw
  | .node (.unary op) _ [.node (.number _ raw) _ _] => do
      operator (.unary op) op.text
      word raw
  | e => writeExpr go .lowest e

def writeType (go : Renderer) : Tree → Print Unit
  | .node (.typeWord s) _ _ => word s
  | .node .typeLiteral _ [e] => writeLiteral go e
  | .node (.typeName path) _ ts => do
      word path
      writeTypeArguments go ts
  | .node (.typeQuery path) _ ts => do
      word "typeof "
      write path
      writeTypeArguments go ts
  | .node .typeQueryOf _ [t] => do
      word "typeof "
      go .type t
  | .node (.typeImport path) _ (arg :: options :: ts) => do
      word "import("
      go .type arg
      unless options.isAbsent do
        write ", "
        writeExpr go .comma options
      write ")"
      path.forM (fun s => write ("." ++ s))
      writeTypeArguments go ts
  | .node .typeArray _ [t] => do
      go .type t
      write "[]"
  | .node .typeTuple _ items => do
      write "["
      listed (go .type) items
      write "]"
  | .node (.typeMarked mark behind) _ [t] => do
      unless behind do write mark
      go .type t
      if behind then write mark
  | .node .typeRest _ [t] => do
      write "..."
      go .type t
  | .node (.typeNamed id optional) _ [t] => do
      write id
      if optional then write "?"
      writeAnnotation go t
  | .node .typeIndexed _ [t, k] => do
      go .type t
      write "["
      go .type k
      write "]"
  | .node .typeParen _ [t] => do
      write "("
      go .type t
      write ")"
  | .node .union _ ts => separated go " | " ts
  | .node .intersection _ ts => separated go " & " ts
  | .node (.typeOperator s) _ [t] => do
      word (s ++ " ")
      go .type t
  | .node .typeFunction _ parts => writeSignature go " => " parts
  | .node (.typeConstructor isAbstract) _ parts => do
      if isAbstract then write "abstract "
      write "new "
      writeSignature go " => " parts
  | .node .typeObject _ ms => braces ms.isEmpty (writeMembers go ms)
  | .node (.typeMapped isReadonly id optional) _ [keys, rename, t] => do
      write "\x7b "
      isReadonly.toList.forM (fun s => write (s ++ " "))
      write "["
      write id
      write " in "
      go .type keys
      unless rename.isAbsent do
        write " as "
        go .type rename
      write "]"
      optional.toList.forM write
      space
      writeAnnotation go t
      write " \x7d"
  | .node .typeConditional _ [t, check, yes, no] => do
      go .type t
      write " extends "
      go .type check
      write " ? "
      go .type yes
      write " : "
      go .type no
  | .node (.typeInfer id) _ [limit] => do
      write "infer "
      write id
      unless limit.isAbsent do
        write " extends "
        go .type limit
  | .node (.typeTemplate pieces) _ ts => writeTemplate (go .type) pieces ts
  | .node (.typePredicate asserts id) _ [t] => do
      if asserts then write "asserts "
      write id
      unless t.isAbsent do
        write " is "
        go .type t
  | _ => pure ()

end LivePreview.Script.Printer
