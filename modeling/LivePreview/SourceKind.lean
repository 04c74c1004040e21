import LivePreview.Path

namespace LivePreview

inductive MediaKind where
  | script
  | style
  | document
  deriving DecidableEq, Repr

def MediaKind.essence : MediaKind → String
  | .script => "text/javascript"
  | .style => "text/css"
  | .document => "text/html"

inductive SourceKind where
  | js
  | jsx
  | ts
  | tsx
  | css
  | html
  | custom (extension : String)
  deriving DecidableEq, Repr

namespace SourceKind

def ofExtension : Option String → SourceKind
  | some "js" | some "mjs" | some "cjs" => .js
  | some "jsx" => .jsx
  | some "ts" | some "mts" | some "cts" => .ts
  | some "tsx" => .tsx
  | some "css" => .css
  | some "html" | some "htm" => .html
  | some ext => .custom ext
  | none => .custom ""

def ofPath (path : String) : SourceKind := ofExtension (Path.extension path)

def needsTranspile : SourceKind → Bool
  | .jsx | .ts | .tsx => true
  | _ => false

def media : SourceKind → MediaKind
  | .css => .style
  | _ => .script

end SourceKind

end LivePreview
