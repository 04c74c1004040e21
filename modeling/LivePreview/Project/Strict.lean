import LivePreview.Json.Skip
import LivePreview.Json.Value
import LivePreview.Project.Node
import LivePreview.Text.Quoted

namespace LivePreview.Node

open LivePreview.Json

def describe : Json → String
  | .null => "null"
  | .bool b => "boolean `" ++ (if b then "true" else "false") ++ "`"
  | .int n => "integer `" ++ String.ofList (renderInt n) ++ "`"
  | .float x => "floating point `" ++ String.ofList (renderFloat x) ++ "`"
  | .str s => "string " ++ Text.quoteDebug s
  | .arr _ => "sequence"
  | .obj _ => "map"

/-- The fault of finding something else; a scalar is read first, a bracket is not. -/
def mismatch {α : Type} (expected : String) : Reader α := do
  let found ← do
    match ← peek with
    | some '[' => pure (.arr [])
    | some '\x7b' => pure (.obj [])
    | _ => valueWith none
  fail (.unexpected (describe found) expected)

def text (expected : String) : Reader String := do
  match ← skipSpace with
  | none => failNext .eofValue
  | some '\x22' => drop1; string
  | some _ => mismatch expected

def optional {α : Type} (r : Reader α) : Reader (Option α) := do
  match ← skipSpace with
  | some 'n' => drop1; keyword ['u', 'l', 'l']; pure none
  | _ => do
      let x ← r
      pure (some x)

def kindNamed (name : String) : Reader NodeKind :=
  match NodeKind.ofName? name with
  | some kind => pure kind
  | none => fail (.unknownVariant name)

def unit : Reader Unit := do
  match ← skipSpace with
  | none => failNext .eofValue
  | some 'n' => drop1; keyword ['u', 'l', 'l']
  | some _ => mismatch "unit"

/-- A kind is its name, or an object whose one member has that name and no value. -/
def readKind (deeper : Bool) : Reader NodeKind := do
  match ← skipSpace with
  | none => failNext .eofValue
  | some '\x22' => do
      let name ← text "variant identifier"
      kindNamed name
  | some '\x7b' =>
      if deeper = false then failNext .tooDeep
      else do
        drop1
        let name ← text "variant identifier"
        let kind ← kindNamed name
        colon
        unit
        match ← skipSpace with
        | some '\x7d' => drop1; pure kind
        | some _ => fail .expectedValue
        | none => fail .eofObject
  | some _ => failNext .expectedValue

structure Draft where
  name : Option String := none
  kind : Option NodeKind := none
  content : Option (Option String) := none
  children : Option (Option (List Node)) := none

def failClosing {α : Type} (close : Reader Unit) (f : Fault) : Reader α := fun s =>
  match close s with
  | .ok ((), r) => failAt f r 0
  | .error e => .error ⟨f, e.place.map (fun p => (p.1, 0))⟩

def Draft.finish (d : Draft) : Reader Node :=
  match d.name, d.kind with
  | none, _ => failClosing objectEnd (.missingField "name")
  | some _, none => failClosing objectEnd (.missingField "type")
  | some name, some kind => do
      objectEnd
      pure ⟨name, kind, d.content.getD none, d.children.getD none⟩

def once {α β : Type} (name : String) (seen : Option α) (r : Reader β) : Reader β :=
  if seen.isSome then failClosing objectEnd (.duplicateField name)
  else do colon; r

def fields (deeper : Bool) (children : Reader (List Node)) : Nat → Bool → Draft → Reader Node
  | 0, _, _ => fail .eofObject
  | fuel + 1, first, d => do
      if ← moreMembers first then
        drop1
        match ← string with
        | "name" => do
            let v ← once "name" d.name (text "a string")
            fields deeper children fuel false { d with name := some v }
        | "type" | "kind" => do
            let v ← once "type" d.kind (readKind deeper)
            fields deeper children fuel false { d with kind := some v }
        | "content" => do
            let v ← once "content" d.content (optional (text "a string"))
            fields deeper children fuel false { d with content := some v }
        | "children" => do
            let v ← once "children" d.children (optional children)
            fields deeper children fuel false { d with children := some v }
        | _ => do
            colon
            skipValue
            fields deeper children fuel false d
      else d.finish

def positional (deeper : Bool) (children : Reader (List Node)) : Reader Node := do
  if ← moreElements true then
    let name ← text "a string"
    if ← moreElements false then
      let kind ← readKind deeper
      let content ← do
        if ← moreElements false then optional (text "a string") else pure none
      let children ← do
        if ← moreElements false then optional children else pure none
      listEnd
      pure ⟨name, kind, content, children⟩
    else failClosing listEnd (.shortTuple 1)
  else failClosing listEnd (.shortTuple 0)

def nodeWith (children : Option (Bool × Reader (List Node))) : Reader Node := do
  match ← skipSpace with
  | none => failNext .eofValue
  | some '[' => match children with
      | none => failNext .tooDeep
      | some (deeper, r) => drop1; positional deeper r
  | some '\x7b' => match children with
      | none => failNext .tooDeep
      | some (deeper, r) => do
          drop1
          fun s => fields deeper r (s.length + 1) true {} s
  | some _ => mismatch "struct ProjectNode"

def listWith (item : Option (Reader Node)) : Reader (List Node) := do
  match ← skipSpace with
  | none => failNext .eofValue
  | some '[' => match item with
      | none => failNext .tooDeep
      | some item => do
          drop1
          let xs ← fun s => elements item (s.length + 1) true s
          listEnd
          pure xs
  | some _ => mismatch "a sequence"

mutual

def strictNode : Nat → Reader Node
  | 0 => nodeWith none
  | depth + 1 => nodeWith (some (decide (0 < depth), strictList depth))

def strictList : Nat → Reader (List Node)
  | 0 => listWith none
  | depth + 1 => listWith (some (strictNode depth))

end

/-- The nodes of an array in which every field has its type and no field comes twice. -/
def readStrict (text : String) : Except String (List Node) :=
  whole (strictList maxDepth) text

end LivePreview.Node
