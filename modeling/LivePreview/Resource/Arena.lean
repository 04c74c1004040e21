import LivePreview.Diagnostics
import LivePreview.Resource.Host

namespace LivePreview

structure CompiledUnit where
  path : String
  media : MediaKind
  text : String
  deriving DecidableEq, Repr

structure PublishedResource where
  path : String
  media : MediaKind
  handle : Handle
  deriving DecidableEq, Repr

structure Arena where
  handles : List Handle := []
  deriving DecidableEq, Repr

namespace Arena

def publish (a : Arena) (h : Host) (b : Blob) : Arena × Host × Handle :=
  let (h, k) := h.create b
  (⟨a.handles ++ [k]⟩, h, k)

def publishUnits (a : Arena) (h : Host) : List CompiledUnit → Arena × Host × List PublishedResource
  | [] => (a, h, [])
  | u :: us =>
      let (a, h, k) := a.publish h ⟨u.media, u.text⟩
      let (a, h, rs) := a.publishUnits h us
      (a, h, ⟨u.path, u.media, k⟩ :: rs)

def releaseEach (h : Host) : List Handle → Host × List Event
  | [] => (h, [])
  | k :: ks =>
      let (h, wasLive) := h.release k
      let (h, events) := releaseEach h ks
      (h, if wasLive then events
        else ⟨.warn, "resource was already released", [("handle", k.uri)]⟩ :: events)

/-- Releases all that the arena published, whatever was released behind its back. -/
def discard (a : Arena) (h : Host) : Host × List Event :=
  let (h, events) := releaseEach h a.handles
  (h, events ++
    if a.handles.isEmpty then []
    else [⟨.debug, "released generation resources", [("count", toString a.handles.length)]⟩])

end Arena

end LivePreview
