import NodeLabels.Event
import NodeLabels.Text.Blank
import NodeLabels.Text.Digits
import NodeLabels.Text.Split
/-!
# Log filters

Which events are shown. A filter is a list of directives with commas between them, such as
`info,labeler=debug`: of the directives that apply to an event the most specific one decides. A
directive can also name spans, `[span\x7bfield=value\x7d]=level`; as this program opens no spans,
one that asks for a span or for the value of a field never applies.
-/

namespace NodeLabels.Log

/-- The least level that is shown, if any is. -/
abbrev Threshold := Option Level

structure Directive where
  /-- What the path of the reporter begins with. -/
  target : Option (List Char) := none
  span : Option (List Char) := none
  /-- Names of fields, perhaps with values that they must have. -/
  fields : List (List Char × Option (List Char)) := []
  threshold : Threshold := some .trace
deriving DecidableEq, Repr

inductive DirectiveFault
  | malformed
  /-- What should name a level does not. -/
  | unknownLevel
deriving DecidableEq, Repr

def DirectiveFault.message : DirectiveFault → String
  | .malformed => "invalid filter directive"
  | .unknownLevel =>
    "error parsing level filter: expected one of \"off\", \"error\", \"warn\", \"info\", " ++
      "\"debug\", \"trace\", or a number 0-5"

def thresholdNames : List (String × Threshold) :=
  [("off", none), ("error", some .error), ("warn", some .warn), ("info", some .info),
    ("debug", some .debug), ("trace", some .trace)]

/-- A level by its name, in small letters or capitals, or by its number. -/
def threshold? (cs : List Char) : Option Threshold :=
  let digits := if cs.head? = some '+' then cs.tail else cs
  match Text.decimal? digits with
  | some n => thresholdNames[n]?.map (·.2)
  | none => thresholdNames.lookup (String.ofList (cs.map Char.toLower))

/-! ## Reading -/

/-- Reads the level at the end of a directive. Where it is left out everything is shown. -/
def readThreshold (d : Directive) (cs : List Char) : Except DirectiveFault Directive :=
  if cs = [] then .ok d
  else match threshold? cs with
    | some threshold => .ok { d with threshold }
    | none => .error .unknownLevel

def readEnd (d : Directive) : List Char → Except DirectiveFault Directive
  | [] => .ok d
  | '=' :: cs => readThreshold d cs
  | _ => .error .malformed

/-- A field, with its value after an `=`. -/
def fieldOf (cs : List Char) : List Char × Option (List Char) :=
  match Text.splitAt '=' cs with
  | name :: value :: _ => (name, some value)
  | _ => (cs, none)

/-- Reads on behind the opening brace of the fields. An end that comes too early is let pass. -/
def readField (d : Directive) (cs : List Char) : Except DirectiveFault Directive :=
  let text := cs.takeWhile (· ≠ '\x7d')
  match cs.drop text.length with
  | [] => .ok d
  | _ :: rest =>
    if text = [] then .error .malformed
    else
      let d := { d with fields := d.fields ++ [fieldOf text] }
      match rest with
      | [] => .ok d
      | ']' :: rest => readEnd d rest
      | _ => .error .malformed

/-- Reads on behind the opening bracket of a span. -/
def readSpan (d : Directive) (cs : List Char) : Except DirectiveFault Directive :=
  let text := cs.takeWhile fun c => c ≠ ']' && c ≠ '\x7b'
  match cs.drop text.length with
  | [] => .ok d
  | ']' :: rest => readEnd { d with span := some text } rest
  | _ :: rest => readField { d with span := if text = [] then none else some text } rest

/-- What a name can begin with. All characters beyond ASCII are let pass. -/
def beginsName (c : Char) : Bool := c = '-' || c = ':' || c = '_' || c.isAlphanum || 128 ≤ c.toNat

/-- Reads a directive. A text without marks is a level, or else a target of which everything is
shown. -/
def Directive.parse (s : List Char) : Except DirectiveFault Directive :=
  match Text.trimChars s with
  | [] => .ok {}
  | '[' :: cs => readSpan {} cs
  | c :: cs =>
    if beginsName c then
      let name := (c :: cs).takeWhile fun c => c ≠ '=' && c ≠ '['
      match (c :: cs).drop name.length with
      | [] =>
        match threshold? name with
        | some threshold => .ok { threshold }
        | none => .ok { target := some name }
      | '=' :: cs => readThreshold { target := some name } cs
      | _ :: cs => readSpan { target := some name } cs
    else .error .malformed

/-! ## Filters -/

abbrev Filter := List Directive

namespace Filter

/-- The directives of a text, as far as they are written out. -/
def pieces (text : String) : List (List Char) := (Text.splitAt ',' text.toList).filter (· ≠ [])

/-- Without a directive only errors are shown. -/
def orErrors (directives : List Directive) : Filter :=
  if directives = [] then [{ threshold := some .error }] else directives

/-- The filter in a text of which every directive is well formed. -/
def parse (text : String) : Except DirectiveFault Filter := do
  return orErrors (← (pieces text).mapM Directive.parse)

def complaint (piece : List Char) (fault : DirectiveFault) : String :=
  "ignoring `" ++ String.ofList piece ++ "`: " ++ fault.message

/-- The filter in a text, from which malformed directives are left out, and the complaints about
them. -/
def parseLossy (text : String) : Filter × List String :=
  let read := (pieces text).map fun piece => (piece, Directive.parse piece)
  (orErrors (read.filterMap (·.2.toOption)),
    read.filterMap fun r =>
      match r.2 with
      | .error fault => some (complaint r.1 fault)
      | .ok _ => none)

/-- Whether a directive says anything about an event. -/
def applies (d : Directive) (e : Event) : Bool :=
  d.span = none && d.target.all (·.isPrefixOf e.reporter.path.toList) &&
    d.fields.all fun (name, value) =>
      value = none && (name = "message".toList || e.fields.any (·.1.toList = name))

/-- Directives with a longer target are more specific, then those with more fields. -/
def isLessSpecific (d e : Directive) : Bool :=
  let size := fun (d : Directive) => (d.target.map (·.length + 1)).getD 0
  size d < size e || (size d = size e && d.fields.length < e.fields.length)

/-- The directive that decides about an event: the most specific one, of equals the last. -/
def decisive? (f : Filter) (e : Event) : Option Directive :=
  f.foldl (fun best d =>
    if applies d e && ! best.any (isLessSpecific d) then some d else best) none

def shows (f : Filter) (e : Event) : Bool :=
  match f.decisive? e with
  | some { threshold := some least, .. } => least.severity ≤ e.level.severity
  | _ => false

end Filter

end NodeLabels.Log
