import SetQuery.Text.Blank

/-!
# The command line

A command line has a name of a command, with options before and behind it. Short options may be
joined, and the value of an option may be attached to it or follow it. An option that does not
repeat may be given once before the command and once behind it; the latter counts then.

Arguments are read from left to right, so asking for the version wins over whatever comes later.
-/

namespace SetQuery.Cli

/-! ## Options -/

/-- An option of a command. -/
structure Flag where
  name : String
  short : Option Char := none
  takesValue : Bool := false
  repeats : Bool := false

/-- Why a command line asks for no command. -/
inductive Stop
  /-- It makes no sense. -/
  | usage
  /-- It asks for the version. -/
  | version
deriving DecidableEq, Repr

/-- Options with their values, and other arguments, in their order. -/
structure Given where
  options : List (String × String) := []
  operands : List String := []
deriving Repr

namespace Given

/-- The value of an option. -/
def value? (g : Given) (name : String) : Option String := g.options.lookup name

/-- All values of an option. -/
def values (g : Given) (name : String) : List String :=
  g.options.filterMap fun (other, value) => if other = name then some value else none

/-- Whether an option is given. -/
def has (g : Given) (name : String) : Bool := (g.value? name).isSome

/-- One more option. -/
def addOption (g : Given) (f : Flag) (value : String) : Except Stop Given :=
  if f.name = "version" then .error .version
  else if !f.repeats && g.has f.name then .error .usage
  else .ok { g with options := g.options ++ [(f.name, value)] }

/-- One more argument that is no option. -/
def addOperand (g : Given) (operand : String) : Given :=
  { g with operands := g.operands ++ [operand] }

end Given

/-! ## Reading options -/

/-- Whether an argument has the form of an option. A single hyphen has not. -/
def looksLikeOption (arg : String) : Bool :=
  match arg.toList with
  | '-' :: _ :: _ => true
  | _ => false

/-- Reads joined short options. The last of them may wait for its value. -/
def readShort (flags : List Flag) (g : Given) : List Char → Except Stop (Given × Option Flag)
  | [] => .ok (g, none)
  | c :: r =>
    match flags.find? (·.short = some c) with
    | none => .error .usage
    | some f =>
      if f.takesValue then
        match r with
        | [] => .ok (g, some f)
        | '=' :: value => (g.addOption f (String.ofList value)).map fun g => (g, none)
        | value => (g.addOption f (String.ofList value)).map fun g => (g, none)
      else (g.addOption f "").bind fun g => readShort flags g r

/-- Reads a long option, given without its hyphens. It may wait for its value. -/
def readLong (flags : List Flag) (g : Given) (s : List Char) : Except Stop (Given × Option Flag) :=
  match flags.find? (·.name = String.ofList (s.takeWhile (· != '='))), s.dropWhile (· != '=') with
  | none, _ => .error .usage
  | some f, [] =>
    if f.takesValue then .ok (g, some f) else (g.addOption f "").map fun g => (g, none)
  | some f, _ :: value =>
    if f.takesValue then (g.addOption f (String.ofList value)).map fun g => (g, none)
    else .error .usage

/-- Reads an option. -/
def readOption (flags : List Flag) (g : Given) (arg : String) :
    Except Stop (Given × Option Flag) :=
  match arg.toList with
  | '-' :: '-' :: s => readLong flags g s
  | '-' :: s => readShort flags g s
  | _ => .error .usage

/-- Reads arguments up to the end, or up to the first one that is no option. In the latter case
gives what is left from there on. -/
def readArguments (flags : List Flag) (toEnd : Bool) (g : Given) :
    List String → Except Stop (Given × List String)
  | [] => .ok (g, [])
  | arg :: rest =>
    if arg = "--" then .ok (rest.foldl Given.addOperand g, [])
    else if looksLikeOption arg then
      match readOption flags g arg with
      | .error stop => .error stop
      | .ok (g, none) => readArguments flags toEnd g rest
      | .ok (g, some f) =>
        match rest with
        | [] => .error .usage
        | value :: rest =>
          if looksLikeOption value then .error .usage
          else match g.addOption f value with
            | .error stop => .error stop
            | .ok g => readArguments flags toEnd g rest
    else if toEnd then readArguments flags toEnd (g.addOperand arg) rest
    else .ok (g, arg :: rest)

/-! ## Commands -/

/-- How statements are written. -/
inductive StatementOutput
  | sql | json
deriving DecidableEq, Repr

/-- How lists of backends are written. -/
inductive TableOutput
  | table | json
deriving DecidableEq, Repr

/-- A command. -/
inductive Command
  /-- Compiles a plan file for some backends. -/
  | compile (plan : String) (backends : List String) (strictOrder check : Bool)
      (output : StatementOutput)
  /-- Shows what backends are capable of. -/
  | capabilities (backend : Option String) (output : TableOutput)
  /-- Lists the backends. -/
  | backends (output : TableOutput)
deriving DecidableEq, Repr

/-- A command with the options that all commands have. -/
structure Invocation where
  verbose : Bool
  projectDir : String
  /-- The capability file to use instead of the one in the project directory. -/
  capabilities : Option String
  command : Command
deriving DecidableEq, Repr

/-- The options that all commands have. -/
def sharedFlags : List Flag :=
  [ { name := "verbose", short := some 'v' },
    { name := "project-dir", short := some 'p', takesValue := true },
    { name := "capabilities", short := some 'c', takesValue := true } ]

/-- The options before the command. -/
def topFlags : List Flag := { name := "version", short := some 'V' } :: sharedFlags

/-- The option for the form of the output. -/
def outputFlag : Flag := { name := "output", short := some 'o', takesValue := true }

/-- The options of the compile command. -/
def compileFlags : List Flag :=
  [ { name := "backend", short := some 'b', takesValue := true, repeats := true },
    { name := "strict-order" }, { name := "check" }, outputFlag ] ++ sharedFlags

/-- The options of the capabilities command. -/
def capabilitiesFlags : List Flag :=
  { name := "backend", short := some 'b', takesValue := true } :: outputFlag :: sharedFlags

/-- The options of the backends command. -/
def backendsFlags : List Flag := outputFlag :: sharedFlags

/-- One of several names, or the first of them if none is given. -/
def choose {α : Type} (default : α) (options : List (String × α)) : Option String → Except Stop α
  | none => .ok default
  | some name =>
    match options.lookup name with
    | some value => .ok value
    | none => .error .usage

/-- The form in which a list of backends is asked for. -/
def tableOutput (g : Given) : Except Stop TableOutput :=
  choose .table [("table", .table), ("json", .json)] (g.value? "output")

/-- The compile command that the arguments behind its name give. -/
def compileCommand (g : Given) : Except Stop Command := do
  let output ← choose .sql [("sql", .sql), ("json", .json)] (g.value? "output")
  let backends := (g.values "backend").flatMap (Text.pieces ',')
  match g.operands with
  | [plan] =>
    if backends.isEmpty then .error .usage
    else .ok (.compile plan backends (g.has "strict-order") (g.has "check") output)
  | _ => .error .usage

/-- The capabilities command that the arguments behind its name give. -/
def capabilitiesCommand (g : Given) : Except Stop Command := do
  let output ← tableOutput g
  if g.operands.isEmpty then .ok (.capabilities (g.value? "backend") output) else .error .usage

/-- The backends command that the arguments behind its name give. -/
def backendsCommand (g : Given) : Except Stop Command := do
  let output ← tableOutput g
  if g.operands.isEmpty then .ok (.backends output) else .error .usage

/-- The options of a command, and the command that its arguments give. -/
def commandNamed? : String → Option (List Flag × (Given → Except Stop Command))
  | "compile" => some (compileFlags, compileCommand)
  | "capabilities" => some (capabilitiesFlags, capabilitiesCommand)
  | "backends" => some (backendsFlags, backendsCommand)
  | _ => none

/-- What a command line asks for. The capability file may also come from the environment; an option
counts more. -/
def readCommandLine (args : List String) (capabilitiesFile : Option String) :
    Except Stop Invocation := do
  let (top, rest) ← readArguments topFlags false {} args
  match rest with
  | [] => .error .usage
  | name :: rest =>
    match commandNamed? name with
    | none => .error .usage
    | some (flags, command) =>
      let (own, _) ← readArguments flags true {} rest
      let command ← command own
      return {
        verbose := top.has "verbose" || own.has "verbose"
        projectDir :=
          ((own.value? "project-dir").orElse fun _ => top.value? "project-dir").getD "."
        capabilities :=
          ((own.value? "capabilities").orElse fun _ => top.value? "capabilities").orElse fun _ =>
            capabilitiesFile
        command := command }

end SetQuery.Cli
