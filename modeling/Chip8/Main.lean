import Chip8.Startup

namespace Chip8.Main

def configVariable : String := "RETRO_CHIP8_CONFIG"

def refusal : IO.Error → FileTree.Refusal
  | .inappropriateType .. | .resourceVanished .. => .notADirectory
  | .illegalOperation .. | .resourceBusy .. => .isADirectory
  | .invalidArgument .. => .nameTooLong
  | _ => .noSuchFile

def readFile (path : String) : IO (Except FileTree.Refusal ByteArray) := do
  try
    return .ok (← IO.FS.readBinFile path)
  catch error => return .error (refusal error)

def paths (configPath : Option String) (arguments : List String) : List String :=
  configPath.toList ++
    match CommandLine.parse arguments with
    | .run path => [path]
    | _ => []

/-- Halves of surrogate pairs, which a stream cannot hold, are escaped. -/
def shown (text : Text) : String :=
  String.ofList (text.points.flatMap fun
    | .char c => [c]
    | point => Quoted.escapePoint '\x27' point)

def recordText (record : Log.Record) : String :=
  record.level.label ++ " " ++ record.source.label ++ ": " ++ shown record.text

end Chip8.Main

open Chip8 in
def main (arguments : List String) : IO UInt32 := do
  let configPath ← IO.getEnv Main.configVariable
  let files ← (Main.paths configPath arguments).mapM fun path => do
    return (path, ← Main.readFile path)
  let read (path : String) := (files.lookup path).getD (.error .noSuchFile)
  let report := Startup.run { configPath := configPath, read := read } arguments
  IO.print report.output
  IO.eprint report.errorOutput
  for record in report.log do
    IO.eprintln (Main.recordText record)
  match report.ending with
  | .exit code | .failed code => return UInt32.ofNat code
  | .ready .. => return 0
  | .escaped error =>
    IO.eprintln (Main.shown error.message)
    return 1
