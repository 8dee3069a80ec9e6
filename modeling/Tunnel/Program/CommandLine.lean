/-!
# The command line

The program takes the path of a configuration and a switch, each in a long and a short form, and the
two usual questions for help and for the version. Arguments are read from left to right, and the
first question or mistake settles the matter. Nothing may be said twice.

## Main definitions

* `CommandLine.Options` — what was said
* `CommandLine.Request` — what the program is to do
* `CommandLine.parse` — reading the arguments
-/

namespace Tunnel.CommandLine

/-- What was said so far. -/
structure Options where
  /-- The path of the configuration. -/
  config : Option String
  verbose : Bool
deriving DecidableEq, Repr

/-- What the program is to do. -/
inductive Request
  | run (config : String) (verbose : Bool)
  | help
  | version
  /-- The arguments make no sense. -/
  | misuse
deriving DecidableEq, Repr

/-- The path where none is given. -/
def standardConfig : String := "tunif.json"

/-- How far the reading has come. -/
inductive Progress
  /-- More arguments may follow. -/
  | reading (options : Options)
  /-- The next argument is the path. -/
  | pending (options : Options)
  /-- Nothing else matters. -/
  | settled (request : Request)
deriving DecidableEq, Repr

namespace Options

/-- Nothing was said. -/
def none : Options := ⟨Option.none, false⟩

/-- The path is said, for the first time. -/
def withConfig (options : Options) (path : String) : Progress :=
  if options.config.isSome then .settled .misuse
  else .reading { options with config := some path }

/-- The switch is said, for the first time. -/
def withVerbose (options : Options) : Progress :=
  if options.verbose then .settled .misuse else .reading { options with verbose := true }

/-- What the program is to do by all that was said. -/
def request (options : Options) : Request :=
  .run (options.config.getD standardConfig) options.verbose

end Options

/-- A row of short options behind their hyphen. The path is the rest of the row, without an equals
sign in front, or else the next argument. -/
def readShort (options : Options) : List Char → Progress
  | [] => .reading options
  | 'c' :: rest =>
    match rest with
    | [] => .pending options
    | '=' :: path => options.withConfig (String.ofList path)
    | path => options.withConfig (String.ofList path)
  | 'v' :: rest =>
    match options.withVerbose with
    | .reading options => readShort options rest
    | progress => progress
  | 'h' :: _ => .settled .help
  | 'V' :: _ => .settled .version
  | _ :: _ => .settled .misuse

/-- A long option behind its hyphens. Only the path takes a value. -/
def readLong (options : Options) (s : List Char) : Progress :=
  let name := String.ofList (s.takeWhile (· != '='))
  match s.dropWhile (· != '='), name with
  | [], "config" => .pending options
  | _ :: path, "config" => options.withConfig (String.ofList path)
  | [], "verbose" => options.withVerbose
  | [], "help" => .settled .help
  | [], "version" => .settled .version
  | _, _ => .settled .misuse

/-- What the arguments behind a lone pair of hyphens come to: there may be none. -/
def afterHyphens (options : Options) (more : List String) : Request :=
  if more = [] then options.request else .misuse

/-- Reads arguments from where the reading stands. -/
def readFrom : Progress → List String → Request
  | .settled request, _ => request
  | .reading options, [] => options.request
  | .pending _, [] => .misuse
  | .pending options, arg :: more =>
    match arg.toList with
    | '-' :: _ :: _ => .misuse
    | _ => readFrom (options.withConfig arg) more
  | .reading options, arg :: more =>
    match arg.toList with
    | ['-', '-'] => afterHyphens options more
    | '-' :: '-' :: s => readFrom (readLong options s) more
    | '-' :: c :: s => readFrom (readShort options (c :: s)) more
    | _ => .misuse

/-- Reads the arguments of the program. -/
def parse (args : List String) : Request := readFrom (.reading .none) args

end Tunnel.CommandLine
