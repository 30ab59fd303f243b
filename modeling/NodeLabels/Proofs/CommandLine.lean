import NodeLabels.CommandLine
import NodeLabels.Entries
/-!
# The project on the command line

The environment can name a project, which stands in where the arguments name none, and that is all
that it does there (`parse_project`).
-/

namespace NodeLabels.CommandLine

def projectVariable : String := "GOOGLE_CLOUD_PROJECT"

def Environment.without (env : Environment) (name : String) : Environment :=
  env.filter (·.1 ≠ name)

/-- The project stands in where none is named. -/
def Command.withProject (project : Option String) : Command → Command
  | .predict flag => .predict (flag.or project)
  | .topology once => .topology once

variable {env env' : Environment}

theorem get?_without (env : Environment) (name name' : String) :
    (env.without name).get? name' = if name' = name then none else env.get? name' := by
  unfold Environment.without Environment.get?
  induction env with
  | nil => exact (ite_self none).symm
  | cons e env ih =>
    by_cases he : e.1 = name
    · rw [List.filter_cons_of_neg (by simp [he]), ih, lookup_entry_cons, he]
      split
      · rfl
      · rfl
    · rw [List.filter_cons_of_pos (by simp [he]), lookup_entry_cons, lookup_entry_cons, ih]
      by_cases hname : name' = e.1
      · rw [if_pos hname, if_pos hname, if_neg (hname ▸ he)]
      · rw [if_neg hname, if_neg hname]

/-- Apart from the project, two variables of the environment make a difference. -/
theorem globals_congr (hlevel : env'.get? "LABELER_LOG_LEVEL" = env.get? "LABELER_LOG_LEVEL")
    (hjson : env'.get? "LABELER_LOG_JSON" = env.get? "LABELER_LOG_JSON") (g : Given) :
    globals env' g = globals env g := by
  unfold globals
  rw [hlevel, hjson]

theorem commandOf_project (env : Environment) (place : Place) (g : Given) :
    commandOf env place g = (commandOf (env.without projectVariable) place g).withProject
      (env.get? projectVariable) := by
  cases place with
  | outer => rfl
  | topology => rfl
  | predict =>
    have hnone : (env.without projectVariable).get? "GOOGLE_CLOUD_PROJECT" = none := by
      rw [get?_without]
      exact if_pos rfl
    simp only [commandOf, hnone, Command.withProject]
    cases g.value? .projectId <;> rfl

/-- What is given after the name of a command. -/
def readCommand (env : Environment) (inner : Option (Place × List String)) :
    Except Refusal (Option (Globals × Command)) :=
  inner.mapM fun (place, args) => do
    let (g, _) ← readPlace place args {}
    let g ← g.settle
    return (← globals env g, commandOf env place g)

theorem readCommand_project
    (hglobals : ∀ g, globals (env.without projectVariable) g = globals env g)
    (inner : Option (Place × List String)) :
    readCommand env inner = Option.map (fun named =>
      (named.1, named.2.withProject (env.get? projectVariable))) <$>
        readCommand (env.without projectVariable) inner := by
  cases inner with
  | none => rfl
  | some inner =>
    unfold readCommand
    simp only [Option.mapM_some, hglobals, commandOf_project env, map_bind, map_pure,
      Option.map_some]

/-- Without the variable the arguments are read alike, and then its project stands in. -/
theorem parse_project (env : Environment) (args : List String) :
    parse env args = (fun line : CommandLine =>
      { line with command := line.command.withProject (env.get? projectVariable) }) <$>
        parse (env.without projectVariable) args := by
  have hlevel : (env.without projectVariable).get? "LABELER_LOG_LEVEL" =
      env.get? "LABELER_LOG_LEVEL" := by
    rw [get?_without]
    exact if_neg (by decide)
  have hjson : (env.without projectVariable).get? "LABELER_LOG_JSON" =
      env.get? "LABELER_LOG_JSON" := by
    rw [get?_without]
    exact if_neg (by decide)
  have hglobals := globals_congr hlevel hjson
  -- The variable is looked at in one step of the reading, and the steps before and after agree.
  unfold parse
  rw [map_bind]
  refine bind_congr ?_
  rintro ⟨outer, inner⟩
  change readCommand env inner >>= _ = _ <$> (readCommand _ inner >>= _)
  rw [readCommand_project hglobals inner, bind_map_left, map_bind]
  refine bind_congr fun named => ?_
  rw [map_bind]
  refine bind_congr fun outer => ?_
  rw [map_bind, hglobals, hlevel, hjson]
  refine bind_congr fun top => ?_
  cases named <;> rfl

/-- The project of a prediction is that of the arguments, or else that of the environment. -/
theorem exists_flag {args : List String} {line : CommandLine} {given : Option String}
    (h : parse env args = .ok line) (hcommand : line.command = .predict given) :
    ∃ flag, given = flag.or (env.get? projectVariable) ∧
      parse (env.without projectVariable) args = .ok { line with command := .predict flag } := by
  rw [parse_project] at h
  cases hbare : parse (env.without projectVariable) args with
  | error refusal =>
    rw [hbare] at h
    exact nomatch h
  | ok bare =>
    rw [hbare] at h
    obtain rfl := Except.ok.inj h
    obtain ⟨config, logLevel, logJson, dryRun, command⟩ := bare
    cases command with
    | topology once => exact nomatch hcommand
    | predict flag => exact ⟨flag, (Command.predict.inj hcommand).symm, rfl⟩

end NodeLabels.CommandLine
