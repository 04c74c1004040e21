namespace LivePreview.Command

structure Arguments where
  project : String
  entry : Option String := none
  folder : Option String := none
  withoutLoader : Bool := false
  timeout : Option Nat := none
  silent : Bool := false
  deriving DecidableEq, Repr

inductive Setting where
  | project
  | entry
  | folder
  | timeout
  deriving DecidableEq, Repr

inductive Switch where
  | withoutLoader
  | silent
  deriving DecidableEq, Repr

inductive Name where
  | setting (s : Setting)
  | switch (s : Switch)
  deriving DecidableEq, Repr

def Name.ofLong : String → Option Name
  | "project" => some (.setting .project)
  | "entry" => some (.setting .entry)
  | "out-dir" => some (.setting .folder)
  | "timeout-ms" => some (.setting .timeout)
  | "no-stylesheet-loader" => some (.switch .withoutLoader)
  | "silent" => some (.switch .silent)
  | _ => none

def Name.ofLetter : Char → Option Name
  | 'p' => some (.setting .project)
  | 'e' => some (.setting .entry)
  | 'd' => some (.setting .folder)
  | 's' => some (.switch .silent)
  | _ => none

structure Draft where
  settings : List (Setting × String) := []
  switches : List Switch := []
  deriving DecidableEq, Repr

namespace Draft

def turn (d : Draft) (s : Switch) : Option Draft :=
  if d.switches.contains s then none else some { d with switches := s :: d.switches }

def put (d : Draft) (s : Setting) (value : String) : Option Draft :=
  if (d.settings.lookup s).isSome then none
  else some { d with settings := (s, value) :: d.settings }

def readLetters (d : Draft) : List Char → Option (Draft × Option Setting)
  | [] => some (d, none)
  | c :: cs => match Name.ofLetter c with
      | none => none
      | some (.switch s) => (d.turn s).bind (readLetters · cs)
      | some (.setting s) =>
          if cs.isEmpty then some (d, some s)
          else
            let value := if cs.head? == some '=' then cs.tail else cs
            (d.put s (String.ofList value)).map (·, none)

def readLong (d : Draft) (word : List Char) : Option (Draft × Option Setting) :=
  let name := word.takeWhile (· != '=')
  match Name.ofLong (String.ofList name), word.drop name.length with
  | some (.switch s), [] => (d.turn s).map (·, none)
  | some (.setting s), [] => some (d, some s)
  | some (.setting s), _ :: value => (d.put s (String.ofList value)).map (·, none)
  | _, _ => none

def read (d : Draft) : Option Setting → List String → Option Draft
  | none, [] => some d
  | some _, [] => none
  | waiting, word :: words => match word.toList, waiting with
      | ['-', '-'], none => if words.isEmpty then some d else none
      | '-' :: '-' :: cs, none => (d.readLong cs).bind (fun (d, s) => d.read s words)
      | '-' :: c :: cs, none => (d.readLetters (c :: cs)).bind (fun (d, s) => d.read s words)
      | '-' :: _ :: _, some _ => none
      | _, some s => (d.put s word).bind (fun d => d.read none words)
      | _, none => none

end Draft

def largestTimeout : Nat := 18446744073709551615

def readTimeout (text : String) : Option Nat :=
  let digits := if text.toList.head? == some '+' then text.toList.tail else text.toList
  if digits.isEmpty || !digits.all Char.isDigit then none
  else
    let n := digits.foldl (fun n c => n * 10 + (c.toNat - '0'.toNat)) 0
    if n ≤ largestTimeout then some n else none

def Draft.finish (d : Draft) : Option Arguments := do
  let project ← d.settings.lookup .project
  if project.isEmpty || d.settings.lookup .folder == some "" then none
  let timeout ← match d.settings.lookup .timeout with
    | none => some none
    | some text => (readTimeout text).map some
  return {
    project := project
    entry := d.settings.lookup .entry
    folder := d.settings.lookup .folder
    withoutLoader := d.switches.contains .withoutLoader
    timeout := timeout
    silent := d.switches.contains .silent }

def Arguments.ofWords (words : List String) : Option Arguments :=
  (Draft.read {} none words).bind Draft.finish

end LivePreview.Command
