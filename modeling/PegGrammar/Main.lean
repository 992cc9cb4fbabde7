import PegGrammar.CommandLine.Run

/-!
The program: reads the files it may need, runs the command, and prints what comes of it.
-/

namespace PegGrammar.CommandLine

/-- What stands under a name; opening a directory as a file fails with code 21. -/
def readState (name : String) : IO FileState := do
  try
    let bytes ← IO.FS.readBinFile name
    match String.fromUTF8? bytes with
    | some text => return .text text
    | none => return .notUtf8
  catch e =>
    match e with
    | .inappropriateType _ 21 _ => return .directory
    | .inappropriateType .. => return .notDirectory
    | _ => return .absent

end PegGrammar.CommandLine

open PegGrammar in
def main (args : List String) : IO UInt32 := do
  let states ← (CommandLine.fileNames args).mapM fun name => do
    return (name, ← CommandLine.readState name)
  let exit := CommandLine.run (fun name => (states.lookup name).getD .absent) args
  IO.print exit.stdout
  IO.eprint exit.stderr
  return UInt32.ofNat exit.code
