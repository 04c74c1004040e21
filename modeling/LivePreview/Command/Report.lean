import LivePreview.Build.Engine

namespace LivePreview.Command

inductive Colour where
  | red
  | green
  | yellow
  | cyan
  | bright
  | dim
  deriving DecidableEq, Repr

def Colour.code : Colour → String
  | .red => "31"
  | .green => "32"
  | .yellow => "33"
  | .cyan => "36"
  | .bright => "1;37"
  | .dim => "2;37"

def escape : String := String.singleton (Char.ofNat 27)

def Colour.paint (c : Colour) (text : String) : String :=
  escape ++ "[" ++ c.code ++ "m" ++ text ++ escape ++ "[0m"

structure Row where
  path : String
  essence : String
  size : String
  deriving DecidableEq, Repr

/-- Hundredths of a unit of 1024 bytes; a half goes to the even neighbour. -/
def hundredths (bytes : Nat) : Nat :=
  let whole := bytes * 25 / 256
  let rest := bytes * 25 % 256
  if rest > 128 || (rest == 128 && whole % 2 == 1) then whole + 1 else whole

def twoPlaces (hundredths : Nat) : String :=
  toString (hundredths / 100) ++ "." ++ toString (hundredths / 10 % 10) ++ toString (hundredths % 10)

def Row.of (path : String) (b : Blob) : Row :=
  ⟨path, b.media.essence, twoPlaces (hundredths b.text.utf8ByteSize)⟩

def blanks (n : Nat) : String := String.ofList (List.replicate n ' ')

def widest (f : Row → String) (rows : List Row) : Nat :=
  rows.foldl (fun n r => max n (f r).utf8ByteSize) 0

def table (rows : List Row) : List String :=
  let left := widest Row.path rows
  let middle := widest Row.essence rows
  let right := widest Row.size rows
  rows.map (fun r =>
    Colour.cyan.paint r.path ++ blanks (left - r.path.utf8ByteSize) ++ " " ++
      Colour.dim.paint r.essence ++ blanks (middle - r.essence.utf8ByteSize) ++
      Colour.dim.paint " │ size: " ++ blanks (right - r.size.utf8ByteSize) ++ r.size ++ " kB")

def failure (text : String) : String := Colour.red.paint "Error:" ++ " " ++ text

def warning (text : String) : String := Colour.yellow.paint "Warning:" ++ " " ++ text

def finished (elapsed : String) : List String :=
  ["", Colour.green.paint "✔" ++ " Finished in " ++ Colour.bright.paint (elapsed ++ " ms")]

def rows (h : Host) (g : Generation) : List Row :=
  g.resources.filterMap (fun r => (h.fetch r.handle).map (Row.of r.path))

def summary (h : Host) (g : Generation) : List String :=
  g.warnings.map warning ++ table (rows h g)

end LivePreview.Command
