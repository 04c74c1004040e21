import LivePreview.Diagnostics
import LivePreview.Json.Value
import LivePreview.Markup
import LivePreview.Options
import LivePreview.Resource.Host

namespace LivePreview

structure SandboxMessage where
  message : String
  generation : Option Nat
  deriving DecidableEq, Repr

namespace SandboxMessage

def reportType : String := "preview-error"

def textOf : Option Json → String
  | some (.str s) => s
  | none => "Unknown error"
  | some .null => "Unknown error"
  | some v => v.compact

def ofJson? (v : Json) : Option SandboxMessage :=
  if (v.get? "type").bind Json.text? = some reportType then
    some ⟨textOf (v.get? "message"), (v.get? "generation").bind Json.unsigned?⟩
  else none

end SandboxMessage

def generationName (g : Nat) : String := "#" ++ toString g

structure Mount where
  generation : Nat
  source : Handle
  policy : Policy
  deriving DecidableEq, Repr

structure Envelope where
  generation : Nat
  content : SandboxMessage
  deriving DecidableEq, Repr

namespace Mount

def markup (m : Mount) : String :=
  "<iframe src=\"" ++ Markup.escapeAttribute m.source.uri ++ "\" title=\"App Preview\" sandbox=\"" ++
    m.policy.sandboxTokens ++ "\"></iframe>"

def event (m : Mount) : Event :=
  ⟨.debug, "mounting sandbox",
    [("generation", generationName m.generation), ("src", m.source.uri)]⟩

end Mount

/-- Accepts a report that names no generation or the port's own. -/
def acceptPost (port : Nat) (payload : Json) : Option Envelope × List Event :=
  match SandboxMessage.ofJson? payload with
  | none => (none, [])
  | some m => match m.generation with
      | none => (some ⟨port, m⟩, [])
      | some g =>
          if g = port then (some ⟨port, m⟩, [])
          else (none, [⟨.debug, "dropping message tagged for another generation",
            [("port", generationName port)]⟩])

end LivePreview
