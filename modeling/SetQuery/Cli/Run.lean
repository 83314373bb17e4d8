import SetQuery.Cli.Arguments
import SetQuery.Cli.Files
import SetQuery.Compile
import SetQuery.Config.Reader
import SetQuery.PlanFile.Build
import SetQuery.Sql.Check

/-!
# Running commands

A command reads files, writes lines to its two outputs and ends with a code. Results go to the
output, notes and errors go to the error output. A plan is read and built before the capability file
is looked at.
-/

namespace SetQuery.Cli

/-- What a command leaves behind: its exit code and the lines on its two outputs. -/
structure Outcome where
  code : Nat := 0
  output : List String := []
  errors : List String := []
deriving DecidableEq, Repr

namespace Outcome

/-- The text of some lines, each of which ends. -/
def textOf (lines : List String) : String := String.join (lines.map (· ++ "\n"))

/-- A command that fails with an error and its causes. -/
def failure (causes : List String) : Outcome :=
  { code := 1, errors := ["Error: " ++ ": ".intercalate causes] }

/-- The outcome with notes before everything else. -/
def withNotes (notes : List String) (o : Outcome) : Outcome :=
  { o with errors := notes ++ o.errors }

end Outcome

/-- The lines that are only written when more is asked for. -/
def notesIf (verbose : Bool) (notes : List String) : List String :=
  if verbose then notes.map ("[verbose] " ++ ·) else []

/-! ## Configuration -/

/-- The configuration in a file. -/
def loadConfig (files : String → PathState) (path : String) : Except ConfigError Config :=
  let state := files path
  if !state.exists? then .error (.notFound path)
  else match state.read with
    | .error reason => .error (.unreadable path reason)
    | .ok text => Config.ofYaml text

/-- The configuration in the project directory; without a file there it is the default one. -/
def loadProjectConfig (files : String → PathState) (directory : String) :
    Except ConfigError Config :=
  let candidates := ["setwise.yml", "setwise.yaml"].map (inDirectory directory)
  match candidates.find? fun path => (files path).exists? with
  | some path => loadConfig files path
  | none => .ok {}

/-- The configuration that a command is to use, or an error with its causes. -/
def configFor (files : String → PathState) (i : Invocation) : Except (List String) Config :=
  match i.capabilities with
  | some path => (loadConfig files path).mapError fun e =>
      ("Failed to load capability file: " ++ path) :: e.chain
  | none => (loadProjectConfig files i.projectDir).mapError fun e =>
      ("Failed to load setwise.yml from " ++ i.projectDir) :: e.chain

/-- Goes on with the registry and the policy of the configuration. -/
def withRegistry (files : String → PathState) (i : Invocation)
    (go : Registry → OrderPolicy → Outcome) : Outcome :=
  match configFor files i with
  | .error causes => .failure causes
  | .ok config =>
    let names := config.backends.names
    let notes := if names.isEmpty then []
      else ["Applying capability overrides for: " ++ ", ".intercalate names]
    .withNotes (notesIf i.verbose notes) <|
      match Registry.ofConfig config with
      | .error e => .failure ("Invalid capability overrides" :: e.chain)
      | .ok registry => go registry config.orderPolicy

/-! ## Backends -/

/-- The command that lists the backends. -/
def runBackends (registry : Registry) (output : TableOutput) : Outcome :=
  let backends := registry.backends
  match output with
  | .table =>
    let rows := backends.map fun c => [c.name.text, c.dialect.name]
    { output := [Text.table ["BACKEND", "DIALECT"] rows, "",
        toString backends.length ++ " backends"] }
  | .json =>
    let entry (c : Capabilities) : Json :=
      .object [("name", .string c.name.text), ("dialect", .string c.dialect.name)]
    { output := [(Json.array (backends.map entry)).pretty] }

/-- The command that shows what backends are capable of. -/
def runCapabilities (registry : Registry) (backend : Option String) (output : TableOutput) :
    Outcome :=
  let selected := match backend with
    | some name => (registry.find name).map fun c => [c]
    | none => .ok registry.backends
  match selected, output with
  | .error e, _ => .failure e.chain
  | .ok backends, .table => { output := [capabilityTable backends] }
  | .ok backends, .json => { output := [(Json.array (backends.map (·.toJson))).pretty] }

/-! ## Compiling -/

/-- A backend as it was asked for, and the statement for it or why there is none. -/
structure BackendResult where
  backend : String
  result : Except String Compiled

/-- Whether there is no statement. -/
def BackendResult.failed (r : BackendResult) : Bool :=
  match r.result with
  | .error _ => true
  | .ok _ => false

/-- The statement, if it passes the check for SQL. -/
def checkCompiled (c : Compiled) : Except String Compiled :=
  match Sql.check c.sql with
  | .ok _ => .ok c
  | .error e =>
    .error ("generated SQL does not parse as " ++ c.dialect.name ++ ": " ++ e.message)

/-- The statement for a backend. -/
def compileBackend (registry : Registry) (policy : OrderPolicy) (check : Bool) (e : Expr)
    (backend : String) : BackendResult where
  backend := backend
  result := do
    let compiled ← (registry.compile policy e backend).mapError (·.message)
    if check then checkCompiled compiled else return compiled

/-- The result as JSON. -/
def BackendResult.toJson (r : BackendResult) : Json :=
  match r.result with
  | .ok c => .object [("backend", .string r.backend), ("status", .string "success"),
      ("fragment", c.toJson)]
  | .error message => .object [("backend", .string r.backend), ("status", .string "error"),
      ("error", .string message)]

/-- The note on a step. -/
def stepNote (c : Compiled) (position : Nat) (s : StepRecord) : String :=
  c.backend.text ++ " step " ++ toString (position + 1) ++ ": " ++ s.op.title ++ " -> " ++
    s.operator c.dialect ++ " (" ++ s.method.text ++ ")"

/-- The lines for a statement, with its label if there are several. -/
def statementLines (labelled : Bool) (c : Compiled) : List String :=
  if labelled then ["-- backend: " ++ c.backend.text, c.sql, ""] else [c.sql]

/-- The notes on the steps of a statement, and its diagnostics, or only its warnings. -/
def statementNotes (verbose : Bool) (c : Compiled) : List String :=
  notesIf verbose (c.steps.zipIdx.map fun (s, position) => stepNote c position s) ++
    (c.diagnostics.filter fun d => verbose || d.isWarning).map fun d =>
      c.backend.text ++ ": " ++ d.text

/-- The lines for a result. -/
def resultOutcome (verbose labelled : Bool) (r : BackendResult) : Outcome :=
  match r.result with
  | .error message => { errors := ["Error [" ++ r.backend ++ "]: " ++ message] }
  | .ok c => { output := statementLines labelled c, errors := statementNotes verbose c }

/-- What is written about some results. -/
def writeResults (verbose : Bool) (output : StatementOutput) (results : List BackendResult) :
    Outcome :=
  let code := if results.any (·.failed) then 1 else 0
  match output with
  | .json => { code := code, output := [(Json.array (results.map (·.toJson))).pretty] }
  | .sql =>
    let parts := results.map (resultOutcome verbose (results.length > 1))
    { code := code, output := parts.flatMap (·.output), errors := parts.flatMap (·.errors) }

/-- The expression of the plan in a file, or an error with its causes. -/
def loadPlan (files : String → PathState) (path : String) : Except (List String) Expr := do
  let text ← (files path).read.mapError fun reason =>
    ["Failed to read plan file: " ++ path, reason]
  let plan ← (PlanFile.ofYaml text).mapError fun e => ["Invalid plan file: " ++ path, e.message]
  plan.build.mapError fun e => ("Failed to build plan: " ++ path) :: e.chain

/-- The command that compiles a plan. -/
def runCompile (files : String → PathState) (i : Invocation) (path : String)
    (backends : List String) (strictOrder check : Bool) (output : StatementOutput) : Outcome :=
  match loadPlan files path with
  | .error causes => .failure causes
  | .ok e =>
    withRegistry files i fun registry configured =>
      let policy := if strictOrder then .strict else configured
      let note := "Compiling " ++ path ++ " for " ++ toString backends.length ++
        " backend(s), order policy: " ++ policy.name
      .withNotes (notesIf i.verbose [note]) <|
        writeResults i.verbose output (backends.map (compileBackend registry policy check e))

/-! ## Commands -/

/-- What an invocation does. -/
def Invocation.run (files : String → PathState) (i : Invocation) : Outcome :=
  match i.command with
  | .compile plan backends strictOrder check output =>
    runCompile files i plan backends strictOrder check output
  | .capabilities backend output =>
    withRegistry files i fun registry _ => runCapabilities registry backend output
  | .backends output => withRegistry files i fun registry _ => runBackends registry output

/-- The paths at which an invocation looks. -/
def Invocation.paths (i : Invocation) : List String :=
  let configs := match i.capabilities with
    | some path => [path]
    | none => ["setwise.yml", "setwise.yaml"].map (inDirectory i.projectDir)
  match i.command with
  | .compile plan _ _ _ _ => plan :: configs
  | _ => configs

/-- The line that tells the version. -/
def versionLine : String := "sw 0.1.0"

/-- What a command line that asks for no command does. A usage error has a code of its own. -/
def Stop.outcome : Stop → Outcome
  | .version => { output := [versionLine] }
  | .usage => { code := 2, errors := ["error: invalid usage of sw"] }

/-- What a command line does. -/
def run (files : String → PathState) (args : List String) (capabilitiesFile : Option String) :
    Outcome :=
  match readCommandLine args capabilitiesFile with
  | .error stop => stop.outcome
  | .ok i => i.run files

end SetQuery.Cli
