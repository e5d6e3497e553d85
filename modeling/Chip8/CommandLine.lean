import Chip8.Text.DecimalDigit
import Chip8.Text.Quoted
/-!
The command line: one program, or a request for help, which wins over everything behind it. Behind
`--` nothing counts as an option.
-/

namespace Chip8

namespace CommandLine

def usage : String := "usage: retro-chip8 [-h] rom\n"

def help : String :=
  usage ++ "\n" ++
  "CHIP-8 interpreter\n" ++ "\n" ++
  "positional arguments:\n" ++
  "  rom         Path to a CHIP-8 program\n" ++ "\n" ++
  "options:\n" ++
  "  -h, --help  show this help message and exit\n"

inductive Misuse where
  | missingProgram
  | unknown (arguments : List String)
  | helpArgument (argument : String)
  deriving DecidableEq, Repr

def Misuse.message (misuse : Misuse) : String :=
  usage ++ "retro-chip8: error: " ++ reason misuse ++ "\n"
where
  reason : Misuse → String
    | .missingProgram => "the following arguments are required: rom"
    | .unknown arguments => "unrecognized arguments: " ++ " ".intercalate arguments
    | .helpArgument argument =>
      "argument -h/--help: ignored explicit argument " ++ Quoted.quote argument

inductive Request where
  | run (path : String)
  | help
  | misuse (misuse : Misuse)
  deriving DecidableEq, Repr

/-- What an argument in front of `--` is. Help may carry an argument, behind `=` or, for the short
form, directly behind it. -/
inductive Argument where
  | operand
  | shortHelp (attached : Option String)
  | longHelp (attached : Option String)
  | unknownOption
  deriving DecidableEq, Repr

def isDigit (c : Char) : Bool := (Text.decimalDigit? c).isSome

def isNumber (text : List Char) : Bool :=
  match text.dropWhile isDigit with
  | [] => !text.isEmpty
  | '.' :: fraction => !fraction.isEmpty && fraction.all isDigit
  | _ => false

/-- One line end behind a number does not matter. -/
def isNegativeNumber (text : List Char) : Bool :=
  isNumber text || (text.getLast? == some '\n' && isNumber text.dropLast)

/-- The long form of help may be cut short. -/
def Argument.ofText (text : String) : Argument :=
  match text.toList with
  | ['-', 'h'] => .shortHelp none
  | '-' :: 'h' :: '=' :: attached => .shortHelp (some (String.ofList attached))
  | '-' :: 'h' :: attached => .shortHelp (some (String.ofList attached))
  | '-' :: '-' :: rest =>
    let name := rest.takeWhile (· != '=')
    if name.isPrefixOf "help".toList then
      .longHelp ((rest.dropWhile (· != '=')).tail?.map String.ofList)
    else if rest.contains ' ' then .operand else .unknownOption
  | '-' :: c :: rest =>
    if isNegativeNumber (c :: rest) || (c :: rest).contains ' ' then .operand else .unknownOption
  | _ => .operand

/-- Short options may stand in one argument; only help itself may be repeated behind help. -/
def shortHelp (attached : List Char) : Request :=
  match attached with
  | ['h'] => .help
  | 'h' :: rest => shortHelp rest
  | attached => .misuse (.helpArgument (String.ofList attached))

def finish (path : Option String) (unknown : List String) : Request :=
  match path, unknown with
  | none, _ => .misuse .missingProgram
  | some path, [] => .run path
  | some _, unknown => .misuse (.unknown unknown)

/-- `isFresh` says that the argument just before was the program. -/
def parseFrom (path : Option String) (unknown : List String) (isFresh : Bool) :
    List String → Request
  | [] => finish path unknown
  | argument :: rest =>
    if argument = "--" then
      match path, rest with
      | none, first :: more => finish (some first) (unknown ++ more)
      | none, [] => finish none unknown
      | some path, rest =>
        finish (some path) (unknown ++ if isFresh then rest else argument :: rest)
    else
      match Argument.ofText argument, path with
      | .shortHelp none, _ => .help
      | .shortHelp (some attached), _ => shortHelp attached.toList
      | .longHelp none, _ => .help
      | .longHelp (some attached), _ => .misuse (.helpArgument attached)
      | .unknownOption, path => parseFrom path (unknown ++ [argument]) false rest
      | .operand, none => parseFrom (some argument) unknown true rest
      | .operand, some path => parseFrom (some path) (unknown ++ [argument]) false rest

def parse (arguments : List String) : Request := parseFrom none [] false arguments

end CommandLine

end Chip8
