import LivePreview.Text.Segments

namespace LivePreview

inductive StorageFault where
  | missing
  | folder
  | taken
  | notFolder
  | nameTooLong
  | zeroInName
  | notText
  | other (text : String)
  deriving DecidableEq, Repr

def StorageFault.message : StorageFault → String
  | .missing => "No such file or directory (os error 2)"
  | .folder => "Is a directory (os error 21)"
  | .taken => "File exists (os error 17)"
  | .notFolder => "Not a directory (os error 20)"
  | .nameTooLong => "File name too long (os error 36)"
  | .zeroInName => "file name contained an unexpected NUL byte"
  | .notText => "stream did not contain valid UTF-8"
  | .other text => text

/-- Files and folders below a working folder. Places are lists of names from there; outside of it
there are only the folders that lead up to it and the root. -/
structure Disk where
  files : List (List String × ByteArray) := []
  folders : List (List String) := []

namespace Disk

def up : String := ".."

def root : String := "/"

def longestName : Nat := 255

def longestPath : Nat := 4095

def names (path : String) : List String := (Text.splitAll '/' path.toList).map String.ofList

def isFile (d : Disk) (place : List String) : Bool := d.files.any (·.1 == place)

def isOutside (place : List String) : Bool := place == [root] || place.all (· == up)

def isFolder (d : Disk) (place : List String) : Bool :=
  isOutside place || d.folders.contains place

def child (place : List String) (name : String) : List String :=
  if name == "" || name == "." then place
  else if name == up then
    if place == [root] then place
    else if isOutside place then place ++ [up]
    else place.dropLast
  else place ++ [name]

def walk (d : Disk) : List String → List String → Except StorageFault (List String)
  | place, [] => .ok place
  | place, name :: rest =>
      if d.isFile place then .error .notFolder
      else if !d.isFolder place then .error .missing
      else if name.utf8ByteSize > longestName then .error .nameTooLong
      else d.walk (child place name) rest

def locate (d : Disk) (path : String) : Except StorageFault (List String) :=
  if path.toList.contains '\x00' then .error .zeroInName
  else if path.utf8ByteSize > longestPath then .error .nameTooLong
  else if path.isEmpty then .error .missing
  else if path.toList.head? == some '/' then d.walk [root] (names path)
  else d.walk [] (names path)

def contents : List (List String × ByteArray) → List String → Option ByteArray
  | [], _ => none
  | (place, bytes) :: rest, p => if place = p then some bytes else contents rest p

def read (d : Disk) (path : String) : Except StorageFault ByteArray := do
  let place ← d.locate path
  if d.isFolder place then throw .folder
  match contents d.files place with
  | some bytes => return bytes
  | none => throw .missing

def makeFolder (d : Disk) (path : String) : Except StorageFault Disk := do
  let place ← d.locate path
  if d.isFile place || d.isFolder place then throw .taken
  return { d with folders := d.folders ++ [place] }

def holdsFolder (d : Disk) (path : String) : Bool :=
  match d.locate path with
  | .ok place => d.isFolder place
  | .error _ => false

def pathOf (names : List String) : String := "/".intercalate names

def makeFolders (d : Disk) : List String → Except StorageFault Disk
  | [] => .ok d
  | name :: outer =>
      let path := pathOf (name :: outer).reverse
      if path.isEmpty then .ok d
      else match d.makeFolder path with
        | .ok d => .ok d
        | .error .missing => do
            let d ← d.makeFolders outer
            if d.holdsFolder path then return d else d.makeFolder path
        | .error e => if d.holdsFolder path then .ok d else .error e

def replace (place : List String) (bytes : ByteArray) :
    List (List String × ByteArray) → List (List String × ByteArray)
  | [] => [(place, bytes)]
  | (p, b) :: rest =>
      if p = place then (place, bytes) :: rest else (p, b) :: replace place bytes rest

def writeFile (d : Disk) (path : String) (bytes : ByteArray) : Except StorageFault Disk := do
  let place ← d.locate path
  if d.isFolder place then throw .folder
  return { d with files := replace place bytes d.files }

/-- Writes a file after making the folders that it lies in. What was made stays, also when a later
step fails. -/
def save (d : Disk) (path : String) (bytes : ByteArray) : Disk × Except StorageFault Unit :=
  match d.makeFolders (names path).reverse.tail with
  | .error e => (d, .error e)
  | .ok d => match d.writeFile path bytes with
      | .error e => (d, .error e)
      | .ok d => (d, .ok ())

end Disk

end LivePreview
