import Chip8.CommandLine
import Chip8.Config.Reader
import Chip8.Cpu
import Chip8.Log
import Chip8.Rom

namespace Chip8

/-- What a start-up finds around it: the file that settings are asked for from, the files, and where
random bytes come from. -/
structure Host where
  configPath : Option String
  read : String → Except FileTree.Refusal ByteArray
  random : RandomSource := RandomSource.cycling []

namespace Startup

inductive Error where
  | config (error : Config.Error)
  | rom (error : Rom.Error)
  | fault (fault : Fault)

/-- The class of an error that is reported; `none` for one that goes on to the caller. -/
def Error.kind? : Error → Option FaultKind
  | .config error => error.kind?
  | .rom error => error.kind?
  | .fault cause => cause.kind?

def Error.message : Error → Text
  | .config error => error.message
  | .rom error => error.message
  | .fault cause => cause.message

abbrev Logging (α : Type) := Action Error (List Log.Record) α

def record (level : Log.Level) (source : Log.Source) (text : Text) : Logging Unit :=
  modify fun log => log ++ [⟨level, source, text⟩]

/-- An empty name asks for the default settings, as no name does. -/
def loadConfig (host : Host) : Logging Config := do
  match host.configPath with
  | none | some "" => return {}
  | some path =>
    record .info .startup ("Loading host config " ++ path)
    Action.attempt ((Config.ofFile host.read path).mapError .config)

def loadRom (host : Host) (path : String) : Logging Rom := do
  let rom ← Action.attempt ((Rom.ofFile host.read path).mapError .rom)
  record .info .romLoader
    ("Loading ROM " ++ path ++ " (" ++ toString rom.size ++ " bytes)")
  return rom

def createCpu (host : Host) (path : String) : Logging Cpu := do
  let rom ← loadRom host path
  match Cpu.loadProgram rom.toList (Cpu.ofBus { random := host.random }) with
  | .ok () cpu => return cpu
  | .error fault _ => throw (.fault fault)

/-- How a start-up ends: with an exit code, with the machine and its settings, or with an error that
is not reported. -/
inductive Ending where
  | exit (code : Nat)
  | failed (code : Nat)
  | ready (cpu : Cpu) (config : Config)
  | escaped (error : Error)

structure Report where
  output : String := ""
  errorOutput : String := ""
  log : List Log.Record := []
  ending : Ending

def prepare (host : Host) (path : String) : Logging (Cpu × Config) := do
  let config ← loadConfig host
  let cpu ← createCpu host path
  return (cpu, config)

def start (host : Host) (path : String) : Report :=
  match prepare host path [] with
  | .ok (cpu, config) log => { log := log, ending := .ready cpu config }
  | .error error log =>
    match error.kind? with
    | some _ =>
      { log := log ++ [⟨.error, .startup, error.message⟩], ending := .failed 1 }
    | none => { log := log, ending := .escaped error }

def run (host : Host) (arguments : List String) : Report :=
  match CommandLine.parse arguments with
  | .help => { output := CommandLine.help, ending := .exit 0 }
  | .misuse misuse => { errorOutput := misuse.message, ending := .exit 2 }
  | .run path => start host path

end Startup

end Chip8
