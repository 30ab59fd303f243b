/-!
# The command line

What the program is told to do, by its arguments and by its environment. An option may stand before
or after the name of the command, where it counts more, and at most once in either place.

A value that is given as an argument of its own is taken up when the next option begins or the
arguments of its place end, so complaints about it can come after others.
-/

namespace NodeLabels

/-- Why the arguments name no job. -/
inductive CommandLine.Refusal
  | unknownArgument | invalidSubcommand | invalidValue | argumentConflict | tooManyValues
  | missingSubcommand
  /-- Nothing was given at all. -/
  | nothingGiven
  | help | version
deriving DecidableEq, Repr

/-- Help and the version are what was asked for, all else is a failure. -/
def CommandLine.Refusal.exitCode : CommandLine.Refusal → Nat
  | .help | .version => 0
  | _ => 2

inductive CommandLine.Command
  | topology (once : Bool)
  | predict (projectId : Option String)
deriving DecidableEq, Repr

structure CommandLine where
  config : String := "/etc/labeler/config.yaml"
  logLevel : String := "info"
  logJson : Bool := false
  dryRun : Bool := false
  command : CommandLine.Command
deriving DecidableEq, Repr

namespace CommandLine

inductive Flag
  | config | logLevel | logJson | dryRun | once | projectId | help | version
deriving DecidableEq, Repr

/-- Where arguments stand: before the name of the command, or after it. -/
inductive Place
  | outer | topology | predict
deriving DecidableEq, Repr

def Flag.name : Flag → String
  | .config => "config"
  | .logLevel => "log-level"
  | .logJson => "log-json"
  | .dryRun => "dry-run"
  | .once => "once"
  | .projectId => "project-id"
  | .help => "help"
  | .version => "version"

def Flag.takesValue : Flag → Bool
  | .config | .logLevel | .projectId => true
  | _ => false

def Place.options : Place → List Flag
  | .outer => [.config, .logLevel, .logJson, .dryRun, .help, .version]
  | .topology => [.config, .logLevel, .logJson, .dryRun, .once, .help]
  | .predict => [.config, .logLevel, .logJson, .dryRun, .projectId, .help]

def Place.named? (place : Place) (name : List Char) : Option Flag :=
  place.options.find? fun o => o.name.toList = name

def Place.letter? (place : Place) (c : Char) : Option Flag :=
  let option := if c = 'c' then some Flag.config else if c = 'h' then some .help
    else if c = 'V' then some .version else none
  option.filter place.options.contains

def command? (arg : String) : Option Place :=
  if arg = "topology" then some .topology else if arg = "predict" then some .predict else none

/-- What was given in one place so far. -/
structure Given where
  values : List (Flag × String) := []
  /-- An option that awaits its value, or has one that was not taken up yet. -/
  pending : Option (Flag × Option String) := none
deriving DecidableEq, Repr

namespace Given

def value? (g : Given) (o : Flag) : Option String := g.values.lookup o

def has (g : Given) (o : Flag) : Bool := (g.value? o).isSome

def set (g : Given) (o : Flag) (value : String) : Except Refusal Given :=
  if g.has o then .error .argumentConflict
  else if o = .config ∧ value = "" then .error .invalidValue
  else .ok { g with values := (o, value) :: g.values }

/-- Takes up the value that was not taken up yet. -/
def settle (g : Given) : Except Refusal Given :=
  match g.pending with
  | none => .ok g
  | some (_, none) => .error .invalidValue
  | some (o, some value) => { g with pending := none }.set o value

/-- An option with its value attached, or one without value. -/
def take (g : Given) (o : Flag) (value : String) : Except Refusal Given := do
  let g ← g.settle
  if o = .help then throw .help
  if o = .version then throw .version
  g.set o value

def await (g : Given) (o : Flag) : Except Refusal Given := do
  let g ← g.settle
  return { g with pending := some (o, none) }

def isWaiting (g : Given) : Bool :=
  match g.pending with
  | some (_, none) => true
  | _ => false

def supply (g : Given) (value : String) : Given :=
  match g.pending with
  | some (o, _) => { g with pending := some (o, some value) }
  | none => g

end Given

/-- Reads an argument `--name` or `--name=value`, given without the dashes. -/
def readLong (place : Place) (g : Given) (arg : List Char) : Except Refusal Given :=
  let name := arg.takeWhile (· ≠ '=')
  match place.named? name, arg.drop name.length with
  | none, _ => .error .unknownArgument
  | some o, [] => if o.takesValue then g.await o else g.take o "true"
  | some o, _ :: value =>
    if o.takesValue then g.take o (String.ofList value) else .error .tooManyValues

/-- Reads a run of letters after a single dash. A letter that takes a value takes the rest. -/
def readShort (place : Place) (g : Given) : List Char → Except Refusal Given
  | [] => .ok g
  | c :: rest =>
    match place.letter? c with
    | none => .error .unknownArgument
    | some o =>
      if o.takesValue then
        match rest with
        | [] => g.await o
        | '=' :: value => g.take o (String.ofList value)
        | value => g.take o (String.ofList value)
      else do readShort place (← g.take o "true") rest

/-- The refusal of an argument that is no option. -/
def strayArgument (place : Place) (escaped : Bool) (arg : String) : Refusal :=
  if place ≠ .outer then .unknownArgument
  else if escaped ∧ ((command? arg).isSome ∨ arg = "help") then .unknownArgument
  else .invalidSubcommand

/-- What help is asked about has to be a command, or help again. -/
def helpRefusal : List String → Refusal
  | [] => .help
  | "help" :: args => helpRefusal args
  | [arg] => if (command? arg).isSome then .help else .invalidSubcommand
  | _ => .invalidSubcommand

/-- Reads the arguments of one place. Outside the commands it stops at the name of one. -/
def readPlace (place : Place) : List String → Given →
    Except Refusal (Given × Option (Place × List String))
  | [], g => .ok (g, none)
  | arg :: args, g =>
    let named := if place = .outer ∧ ! g.isWaiting then command? arg else none
    match named with
    | some inner => .ok (g, some (inner, args))
    | none =>
      if place = .outer ∧ ! g.isWaiting ∧ arg = "help" then .error (helpRefusal args)
      else match arg.toList with
        | ['-', '-'] =>
          match args with
          | [] => .ok (g, none)
          | arg :: _ => .error (strayArgument place true arg)
        | '-' :: '-' :: long => do readPlace place args (← readLong place g long)
        | '-' :: c :: short => do readPlace place args (← readShort place g (c :: short))
        | _ =>
          if g.isWaiting then readPlace place args (g.supply arg)
          else .error (strayArgument place false arg)

/-! ## Values -/

abbrev Environment := List (String × String)

def Environment.get? (env : Environment) (name : String) : Option String := env.lookup name

/-- A value with the weight of its source: default, environment, arguments. -/
structure Weighted (α : Type) where
  value : α
  weight : Nat

/-- The inner of two values, unless the outer one weighs more. -/
def Weighted.over {α : Type} (outer inner : Weighted α) : Weighted α :=
  if inner.weight < outer.weight then outer else inner

def weigh {α : Type} (given env : Option α) (default : α) : Weighted α :=
  match given, env with
  | some value, _ => { value, weight := 2 }
  | none, some value => { value, weight := 1 }
  | none, none => { value := default, weight := 0 }

/-- The options that can stand in any place. -/
structure Globals where
  config : Weighted String
  logLevel : Weighted String
  logJson : Weighted Bool
  dryRun : Weighted Bool

def flagOf (s : String) : Except Refusal Bool :=
  if s = "true" then .ok true else if s = "false" then .ok false else .error .invalidValue

/-- Completes what was given in one place from the environment. -/
def globals (env : Environment) (g : Given) : Except Refusal Globals := do
  let logJson ← if g.has .logJson then pure none
    else (env.get? "LABELER_LOG_JSON").mapM flagOf
  return {
    config := weigh (g.value? .config) none "/etc/labeler/config.yaml"
    logLevel := weigh (g.value? .logLevel) (env.get? "LABELER_LOG_LEVEL") "info"
    logJson := weigh (if g.has .logJson then some true else none) logJson false
    dryRun := weigh (if g.has .dryRun then some true else none) none false }

def commandOf (env : Environment) (inner : Place) (g : Given) : Command :=
  match inner with
  | .predict => .predict (g.value? .projectId <|> env.get? "GOOGLE_CLOUD_PROJECT")
  | _ => .topology (g.has .once)

/-- Reads the arguments, the name of the program not among them. -/
def parse (env : Environment) (args : List String) : Except Refusal CommandLine := do
  let (outer, inner) ← readPlace .outer args {}
  let named ← inner.mapM fun (place, args) => do
    let (g, _) ← readPlace place args {}
    let g ← g.settle
    return (← globals env g, commandOf env place g)
  let outer ← outer.settle
  let top ← globals env outer
  match named with
  | none =>
    let something := ! outer.values.isEmpty || (env.get? "LABELER_LOG_LEVEL").isSome ||
      (env.get? "LABELER_LOG_JSON").isSome
    throw (if something then .missingSubcommand else .nothingGiven)
  | some (within, command) =>
    return {
      config := (top.config.over within.config).value
      logLevel := (top.logLevel.over within.logLevel).value
      logJson := (top.logJson.over within.logJson).value
      dryRun := (top.dryRun.over within.dryRun).value
      command }

end CommandLine

end NodeLabels
