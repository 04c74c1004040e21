import LivePreview.Diagnostics
import LivePreview.Json.Value
import LivePreview.Options
import LivePreview.Path
import LivePreview.Resource.Arena
import LivePreview.Table

namespace LivePreview

abbrev ImportMap := Table String

namespace ImportMap

inductive Insertion where
  | new
  | unchanged
  | replaced (previous : String)
  deriving DecidableEq, Repr

def insertion (m : ImportMap) (specifier target : String) : Insertion :=
  match m.get? specifier with
  | none => .new
  | some previous => if previous = target then .unchanged else .replaced previous

def json (m : ImportMap) : String :=
  String.ofList
    ("\x7b\"imports\":\x7b".toList ++
      Json.separated (m.entries.map (fun p =>
        Json.quoted p.1.toList ++ ':' :: Json.quoted p.2.toList)) ++
      "\x7d\x7d".toList)

inductive Alias where
  | exactPath
  | dotPath
  | dotFileName
  | dotStem
  deriving DecidableEq, Repr

def Alias.specifier (path : String) : Alias → String
  | .exactPath => path
  | .dotPath => "./" ++ path
  | .dotFileName => "./" ++ Path.fileName path
  | .dotStem => "./" ++ Path.stem path

def Alias.all : List Alias := [.exactPath, .dotPath, .dotFileName, .dotStem]

def specifiers (path : String) : List String := Alias.all.map (Alias.specifier path)

structure Shadow where
  specifier : String
  winner : String
  shadowed : String
  deriving DecidableEq, Repr

def Shadow.text (s : Shadow) : String :=
  "Import specifier `" ++ s.specifier ++ "` is ambiguous: resolving to `" ++ s.winner ++
    "`, shadowing `" ++ s.shadowed ++ "`"

def Shadow.event (s : Shadow) : Event :=
  ⟨.warn, "ambiguous import specifier",
    [("specifier", s.specifier), ("winner", s.winner), ("shadowed", s.shadowed)]⟩

structure Claims where
  targets : ImportMap := Table.empty
  owners : Table String := Table.empty
  shadows : List Shadow := []

namespace Claims

def shadowOf (c : Claims) (path target specifier : String) : Option Shadow :=
  match insertion c.targets specifier target, c.owners.get? specifier with
  | .replaced _, some owner => if owner = path then none else some ⟨specifier, path, owner⟩
  | _, _ => none

def claim (path target : String) (c : Claims) (specifier : String) : Claims where
  targets := c.targets.insert specifier target
  owners := c.owners.insert specifier path
  shadows := c.shadows ++ (c.shadowOf path target specifier).toList

def addExternal (c : Claims) (e : External) : Claims where
  targets := c.targets.insert e.specifier e.url
  owners := c.owners.insert e.specifier e.url
  shadows := c.shadows

def addResource (c : Claims) (r : PublishedResource) : Claims :=
  (specifiers r.path).foldl (claim r.path r.handle.uri) c

end Claims

/-- Externals claim their specifiers first, then each file its own; the last claim counts. -/
def build (externals : List External) (resources : List PublishedResource) : Claims :=
  resources.foldl Claims.addResource (externals.foldl Claims.addExternal {})

def Claims.events (c : Claims) : List Event :=
  c.shadows.map Shadow.event ++
    [⟨.debug, "built import map", [("specifiers", toString c.targets.size)]⟩]

def Claims.warnings (c : Claims) : List String := c.shadows.map Shadow.text

end ImportMap

end LivePreview
