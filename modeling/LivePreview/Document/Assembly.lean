import LivePreview.Diagnostics
import LivePreview.ImportMap
import LivePreview.Markup
import LivePreview.Options
import LivePreview.Path
import LivePreview.Resource.Arena

namespace LivePreview.Document

open LivePreview.Text

def placeholder : String := "__LIVEPACK_GENERATION__"

def shimTemplate : String := String.intercalate "\n"
  ["(function () \x7b",
    "  var generation = __LIVEPACK_GENERATION__;",
    "  function report(message) \x7b",
    "    window.parent.postMessage(",
    "      \x7b type: 'preview-error', message: String(message), generation: generation \x7d,",
    "      '*'",
    "    );",
    "  \x7d",
    "  window.onerror = function (message) \x7b",
    "    report(message);",
    "    return true;",
    "  \x7d;",
    "  window.onunhandledrejection = function (event) \x7b",
    "    var reason = event && event.reason;",
    "    report((reason && reason.message) || 'Unhandled Rejection');",
    "  \x7d;",
    "\x7d)();",
    ""]

def shim (generation : Nat) : List Char :=
  Text.replaceAll placeholder.toList (Nat.toDigits 10 generation) 0 shimTemplate.toList

structure Entry where
  path : String
  source : String
  deriving DecidableEq, Repr

def endsWith (name path : String) : Bool := name.toList.isSuffixOf path.toList

def findEntry (files : Table String) (name : String) : Except BuildError Entry :=
  match files.entries.find? (fun p => endsWith name p.1) with
  | some (path, source) => .ok ⟨path, source⟩
  | none => .error (BuildError.of (.missingEntry name))

def handleAt (path : String) : List PublishedResource → Option Handle
  | [] => none
  | r :: rs => match handleAt path rs with
      | some k => some k
      | none => if r.path = path then some r.handle else none

def bareSource : List Char → List Char
  | '.' :: '/' :: s => s
  | '/' :: s => s
  | s => s

/-- The resource that a script names: from the root, as written, or from the entry's directory. -/
def resolveSource (src : List Char) (dir : String) (resources : List PublishedResource) :
    Option Handle :=
  let clean := String.ofList (bareSource src)
  match handleAt clean resources with
  | some k => some k
  | none => match handleAt (String.ofList src) resources with
      | some k => some k
      | none => (Path.join dir clean).bind (handleAt · resources)

def moduleTag (k : Handle) : List Char :=
  "<script type=\"module\" src=\"".toList ++ Markup.attributeSafe k.uri.toList ++
    "\"></script>".toList

def renderPiece (resolve : List Char → Option Handle) : Piece → List Char
  | .char c => [c]
  | .script whole src => match resolve src with
      | some k => moduleTag k
      | none => whole

def resolved (resolve : List Char → Option Handle) : Piece → Bool
  | .char _ => false
  | .script _ src => (resolve src).isSome

def loaderMarker (loader : List Char) : List Char :=
  (afterFirst [':', '/', '/'] loader).getD loader

def loaderTag (loader : String) : List Char :=
  "<script src=\"".toList ++ Markup.attributeSafe loader.toList ++ "\"></script>\n".toList

def importMapTag (m : ImportMap) : List Char :=
  "<script type=\"importmap\">".toList ++ Markup.scriptSafe m.json.toList ++ "</script>\n".toList

def shimTag (generation : Nat) : List Char :=
  "<script>\n".toList ++ shim generation ++ "</script>\n".toList

def loaderPart (loader : Option String) (document : List Char) : List Char :=
  match loader with
  | none => []
  | some url => if occursIn (loaderMarker url.toList) document then [] else loaderTag url

def injection (m : ImportMap) (loader : Option String) (generation : Nat) (document : List Char) :
    List Char :=
  loaderPart loader document ++ importMapTag m ++ shimTag generation

def cutAtHeadEnd : List Char → Option (List Char × List Char)
  | [] => none
  | c :: cs =>
      if (closingTag headName (c :: cs)).isSome then some ([], c :: cs)
      else (cutAtHeadEnd cs).map (fun p => (c :: p.1, p.2))

def headTag (s : List Char) : Option (List Char) := do
  let s ← char '<' s
  let s ← word headName s
  if atBoundary s then tagEnd s else none

def cutAfterHead : List Char → Option (List Char × List Char)
  | [] => none
  | c :: cs => match headTag (c :: cs) with
      | some rest => some (c :: cs.take (cs.length - rest.length), rest)
      | none => (cutAfterHead cs).map (fun p => (c :: p.1, p.2))

/-- Where the injected text goes: before the end of the head, or after its start, or in front. -/
def cut (document : List Char) : List Char × List Char :=
  match cutAtHeadEnd document with
  | some p => p
  | none => (cutAfterHead document).getD ([], document)

def relinked (e : Entry) (resources : List PublishedResource) : List Char :=
  (pieces e.source.toList).flatMap
    (renderPiece (fun src => resolveSource src (Path.parent e.path) resources))

/-- The entry with its local scripts led to their resources, and with the loader, the import map
and the error reporter put into its head. -/
def assemble (e : Entry) (resources : List PublishedResource) (m : ImportMap)
    (settings : Settings) (generation : Nat) : String :=
  let document := relinked e resources
  let (front, back) := cut document
  String.ofList (front ++ injection m settings.loader generation document ++ back)

def assembledEvent (e : Entry) (resources : List PublishedResource) : Event :=
  let count := (pieces e.source.toList).countP
    (resolved (fun src => resolveSource src (Path.parent e.path) resources))
  ⟨.debug, "rewrote entry document", [("path", e.path), ("rewritten", toString count)]⟩

end LivePreview.Document
