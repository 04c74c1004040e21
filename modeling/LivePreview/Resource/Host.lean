import LivePreview.SourceKind
import LivePreview.Text.Quoted

namespace LivePreview

namespace Serial

def opening : List Char := "00000000-0000-4000-8000-".toList

def padded (ds : List Char) : List Char := List.replicate (12 - ds.length) '0' ++ ds

/-- What tells the handles of one host apart: thirty-six characters that hold a count. -/
def token (n : Nat) : String := String.ofList (opening ++ padded (Text.hexDigits n))

end Serial

structure Blob where
  media : MediaKind
  text : String
  deriving DecidableEq, Repr

structure Handle where
  uri : String
  deriving DecidableEq, Repr

structure Host where
  origin : String
  created : Nat := 0
  blobs : List (Handle × Blob) := []
  deriving Repr

namespace Host

def handleOf (h : Host) (serial : Nat) : Handle :=
  ⟨"blob:" ++ h.origin ++ "/" ++ Serial.token serial⟩

def lookup (k : Handle) : List (Handle × Blob) → Option Blob
  | [] => none
  | (k', b) :: rest => if k' = k then some b else lookup k rest

def fetch (h : Host) (k : Handle) : Option Blob := lookup k h.blobs

def create (h : Host) (b : Blob) : Host × Handle :=
  let k := h.handleOf (h.created + 1)
  (⟨h.origin, h.created + 1, h.blobs ++ [(k, b)]⟩, k)

def release (h : Host) (k : Handle) : Host × Bool :=
  (⟨h.origin, h.created, h.blobs.filter (fun p => p.1 ≠ k)⟩, (h.fetch k).isSome)

def live (h : Host) : Nat := h.blobs.length

end Host

end LivePreview
