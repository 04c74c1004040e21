import LivePreview.Diagnostics

namespace LivePreview

inductive Call where
  | done (answer : Except String String)
  | waiting (gate : String) (rest : Call)
  | stalled
  deriving Repr

def Call.advance (opened : List String) : Call → Call
  | .waiting gate rest => if gate ∈ opened then rest.advance opened else .waiting gate rest
  | c => c

structure Transpiler where
  call : String → String → Call
  traced : Bool := false

namespace Transpiler

def announce (t : Transpiler) (path : String) : List Event :=
  if t.traced then [⟨.trace, "transpiling", [("path", path)]⟩] else []

def ofFunction (f : String → String → Except String String) : Transpiler where
  call source path := .done (f source path)

def failMark : List Char := ['!', 'f', 'a', 'i', 'l', ':']

def waitMark : List Char := ['!', 'w', 'a', 'i', 't', ':']

def stallMark : List Char := ['!', 's', 't', 'a', 'l', 'l']

def plainAnswer (path : String) (source : List Char) : Except String String :=
  if failMark.isPrefixOf source then .error (String.ofList (source.drop failMark.length))
  else .ok ("/* " ++ path ++ " */" ++ String.ofList source)

def marked : Transpiler := ofFunction (fun source path => plainAnswer path source.toList)

def gates : Nat → List Char → List String × List Char
  | 0, source => ([], source)
  | fuel + 1, source =>
      if waitMark.isPrefixOf source then
        let line := source.drop waitMark.length
        let (gs, rest) := gates fuel ((line.dropWhile (· != '\n')).drop 1)
        (String.ofList (line.takeWhile (· != '\n')) :: gs, rest)
      else ([], source)

/-- Follows the marks of the source: gates to wait for, then a stall or an answer. -/
def scripted : Transpiler where
  call source path :=
    let (gs, rest) := gates source.length source.toList
    gs.foldr Call.waiting
      (if stallMark.isPrefixOf rest then .stalled else .done (plainAnswer path rest))

end Transpiler

end LivePreview
