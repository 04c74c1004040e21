import LivePreview.Command

namespace LivePreview.Command

def faultNumber (code : UInt32) : Nat := min code.toNat (4294967296 - code.toNat)

def faultOf : IO.Error → StorageFault
  | .noFileOrDirectory .. => .missing
  | .noSuchThing .. => .missing
  | .alreadyExists .. => .taken
  | .inappropriateType _ code text =>
      if faultNumber code = 20 then .notFolder
      else if faultNumber code = 21 then .folder
      else .other text
  | .invalidArgument _ code text => if faultNumber code = 36 then .nameTooLong else .other text
  | e => .other e.toString

def attempt {α : Type} (act : IO α) : IO (Except StorageFault α) := do
  try return .ok (← act) catch e => return .error (faultOf e)

def systemStorage : Storage IO where
  read path := attempt (IO.FS.readBinFile path)
  save path bytes := attempt do
    IO.FS.createDirAll (Disk.pathOf (Disk.names path).dropLast)
    IO.FS.writeBinFile path bytes

def usage : String :=
  "Usage: --project FILE [--entry NAME] [--out-dir FOLDER] [--no-stylesheet-loader] " ++
    "[--timeout-ms COUNT] [--silent]"

end LivePreview.Command

open LivePreview

def main (words : List String) : IO UInt32 := do
  let start ← IO.monoNanosNow
  let outcome ← Command.run Command.systemStorage words
  let stop ← IO.monoNanosNow
  (← IO.getStdout).putStr (outcome.text (Command.twoPlaces ((stop - start) / 10000)))
  if outcome = .misuse then IO.eprintln Command.usage
  return outcome.exit
