import LivePreview.Build.Transpiler
import LivePreview.Script.Disposal
import LivePreview.Script.Element
import LivePreview.Script.Elision
import LivePreview.Script.Parser
import LivePreview.Script.Printer.Statement
import LivePreview.Script.Redeclaration
import LivePreview.SourceKind

namespace LivePreview.Script

def Dialect.ofKind : SourceKind → Dialect
  | .ts => ⟨true, false⟩
  | .tsx => ⟨true, true⟩
  | .jsx => ⟨false, true⟩
  | _ => ⟨false, false⟩

def Dialect.ofPath (path : String) : Dialect := Dialect.ofKind (SourceKind.ofPath path)

def faultText (faults : List String) : String := "\n".intercalate faults

def parse (source path : String) : Except String Program :=
  (Program.parse (Dialect.ofPath path) source).mapError faultText

def Program.lower (p : Program) (d : Dialect) : Except (List String) Program := do
  let faults := p.scopeFaults d.types
  unless faults.isEmpty do throw faults
  let pragmas := Element.Pragmas.of p.comments
  let (p, lost) ← if d.types then
      p.erase (pragmas.elementPath.headD "") (pragmas.fragmentPath.headD "")
    else pure (p, false)
  let p := p.lowerResources
  let p ← if d.elements then p.lowerElements pragmas else pure p
  return if lost then p.asModule else p

/-- The script that a browser runs for a source. -/
def transpile (source path : String) : Except String String := do
  let p ← parse source path
  let p ← (p.lower (Dialect.ofPath path)).mapError faultText
  return p.print

def transpiler : Transpiler := { Transpiler.ofFunction transpile with traced := true }

end LivePreview.Script
