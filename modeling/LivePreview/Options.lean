import LivePreview.Text.Segments

namespace LivePreview

structure Policy where
  bits : Nat
  deriving DecidableEq, Repr

namespace Policy

def tokens : List String :=
  ["allow-scripts", "allow-same-origin", "allow-forms", "allow-modals", "allow-popups",
    "allow-top-navigation", "allow-downloads", "allow-pointer-lock"]

def ofBits (n : Nat) : Policy := ⟨n % 256⟩

def standard : Policy := ⟨7⟩

def allows (p : Policy) (capability : Policy) : Bool :=
  p.bits &&& capability.bits == capability.bits

def tokensFrom (bits : Nat) : Nat → List String → List String
  | _, [] => []
  | i, t :: ts => if bits.testBit i then t :: tokensFrom bits (i + 1) ts else tokensFrom bits (i + 1) ts

def sandboxTokens (p : Policy) : String := String.intercalate " " (tokensFrom p.bits 0 tokens)

end Policy

structure External where
  specifier : String
  url : String
  deriving DecidableEq, Repr

structure Options where
  entryName : Option String := none
  externals : Option (List External) := none
  injectLoader : Option Bool := none
  loader : Option String := none
  policy : Option Policy := none
  /-- Milliseconds; zero lifts the limit. -/
  timeout : Option Nat := none
  origin : Option String := none
  deriving DecidableEq, Repr

structure Settings where
  entryName : String
  externals : List External
  loader : Option String
  policy : Policy
  timeout : Option Nat
  origin : String
  deriving DecidableEq, Repr

namespace Settings

open LivePreview.Text

def standardEntry : String := "index.html"

def standardLoader : String := "https://cdn.tailwindcss.com"

def standardOrigin : String := "livepack"

def standardTimeout : Nat := 30000

def pinned : List External :=
  [⟨"react", "https://esm.sh/react@^19.2.3"⟩,
    ⟨"react-dom/client", "https://esm.sh/react-dom@^19.2.3/client"⟩,
    ⟨"lucide-react", "https://esm.sh/lucide-react@^0.561.0"⟩]

def entryOf : Option String → String
  | none => standardEntry
  | some name =>
      if blank name then standardEntry
      else String.ofList ((trim name).toList.dropWhile (· == '/'))

def loaderOf (inject : Option Bool) (loader : Option String) : Option String :=
  if inject.getD true then
    match loader with
    | none => some standardLoader
    | some url => if blank url then none else some url
  else none

def timeoutOf : Option Nat → Option Nat
  | none => some standardTimeout
  | some 0 => none
  | some (n + 1) => some (n + 1)

/-- Of the entries with one specifier the last stays, at its place. -/
def lastEntries : List External → List External
  | [] => []
  | e :: es =>
      if es.any (·.specifier == e.specifier) then lastEntries es else e :: lastEntries es

def repeated (seen : List String) : List External → List String
  | [] => []
  | e :: es =>
      if seen.count e.specifier = 1 then e.specifier :: repeated (e.specifier :: seen) es
      else repeated (e.specifier :: seen) es

def ofOptions (o : Options) : Settings where
  entryName := entryOf o.entryName
  externals := lastEntries (o.externals.getD pinned)
  loader := loaderOf o.injectLoader o.loader
  policy := o.policy.getD Policy.standard
  timeout := timeoutOf o.timeout
  origin := o.origin.getD standardOrigin

def warnings (o : Options) : List String :=
  (match o.entryName with
    | some name =>
        if blank name then
          ["Empty entry filename, falling back to `" ++ standardEntry ++ "`"]
        else []
    | none => []) ++
  (repeated [] (o.externals.getD pinned)).map (fun s =>
    "External `" ++ s ++ "` is listed more than once, the last entry is used")

end Settings

end LivePreview
