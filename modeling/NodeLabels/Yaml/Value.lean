import NodeLabels.Yaml.Node
import NodeLabels.Json.Basic
/-!
# Values in YAML documents

Reading the nodes of a document as texts, flags, numbers and records, and writing them. A reader
gives `none` for a node of the wrong shape.
-/

namespace NodeLabels.Yaml.Node

def coreTag (name : String) : String := "tag:yaml.org,2002:" ++ name

/-- Whether a scalar may be anything but a text: it is plain, or a literal block that says so. -/
def isBare (tagName : String) : Style → Option String → Bool
  | .plain, _ => true
  | .literal, some tag => tag = coreTag tagName
  | _, _ => false

def text? : Node → Option String
  | .scalar _ _ s => some s
  | _ => none

def isNullWord (s : String) : Bool := s = "null" || s = "Null" || s = "NULL" || s = "~"

/-- A text, or nothing. -/
def optionalText? : Node → Option (Option String)
  | .scalar .plain (some tag) s =>
    if tag = coreTag "null" then if isNullWord s then some none else none else some (some s)
  | .scalar .plain none s => if s = "" ∨ isNullWord s then some none else some (some s)
  | .scalar _ _ s => some (some s)
  | _ => none

def flagOf? (s : String) : Option Bool :=
  if s = "true" ∨ s = "True" ∨ s = "TRUE" then some true
  else if s = "false" ∨ s = "False" ∨ s = "FALSE" then some false
  else none

def flag? : Node → Option Bool
  | .scalar style tag s => if isBare "bool" style tag then flagOf? s else none
  | _ => none

def digits? (base : Nat) (cs : List Char) : Option Nat :=
  if cs = [] then none else Text.number? base cs

/-- A whole number: decimal without zeros in front, or marked as hexadecimal, octal or binary. -/
def natOf? (cs : List Char) : Option Nat :=
  match (match cs with | '+' :: cs => cs | cs => cs) with
  | '0' :: 'x' :: cs => digits? 16 cs
  | '0' :: 'o' :: cs => digits? 8 cs
  | '0' :: 'b' :: cs => digits? 2 cs
  | '0' :: _ :: _ => none
  | cs => digits? 10 cs

def natBelow? (bound : Nat) : Node → Option { n : Nat // n < bound }
  | .scalar style tag s =>
    if isBare "int" style tag then
      match natOf? s.toList with
      | some n => if h : n < bound then some ⟨n, h⟩ else none
      | none => none
    else none
  | _ => none

/-- The entries of a mapping by the text of their keys. Where nothing is written there are none. -/
def entries? : Node → Option (List (String × Node))
  | .mapping entries => entries.mapM fun e => e.1.text?.map (·, e.2)
  | .scalar .plain none s => if s = "" then some [] else none
  | _ => none

/-- The values of the known keys. Other keys are skipped, and a known key comes at most once. -/
def fields? (known : List String) (n : Node) : Option (List (Option Node)) := do
  let entries ← n.entries?
  if known.all fun key => (entries.filter (·.1 = key)).length ≤ 1 then
    return known.map fun key => entries.lookup key
  else none

/-- A field with a value that stands in when it is missing. -/
def orElse {α : Type} (read : Node → Option α) (default : α) : Option Node → Option α
  | some n => read n
  | none => some default

/-! ## Writing -/

def ofText (s : String) : Node := .scalar .doubleQuoted none s

def ofOptionalText : Option String → Node
  | some s => ofText s
  | none => .scalar .plain none "null"

def ofFlag (b : Bool) : Node := .scalar .plain none (if b then "true" else "false")

def ofNat (n : Nat) : Node := .scalar .plain none (String.ofList (Nat.toDigits 10 n))

def ofFields (fields : List (String × Node)) : Node :=
  .mapping (fields.map fun f => (ofText f.1, f.2))

/-- A plain scalar as JSON: nothing, a flag, a whole number or else a text. -/
def plainJson (s : String) : Json :=
  if s = "" ∨ isNullWord s then .null
  else match flagOf? s, natOf? s.toList with
    | some b, _ => .bool b
    | none, some n => .ofNat n
    | none, none => .string s

mutual

/-- The document as JSON. -/
def toJson : Node → Json
  | .scalar .plain none s => plainJson s
  | .scalar _ _ s => .string s
  | .sequence items => .array (itemsJson items)
  | .mapping entries => .object (entriesJson entries)
  | .enclosing => .null

def itemsJson : List Node → List Json
  | [] => []
  | item :: items => item.toJson :: itemsJson items

def entriesJson : List (Node × Node) → List (String × Json)
  | [] => []
  | (key, value) :: entries => (key.text?.getD "", value.toJson) :: entriesJson entries

end

end NodeLabels.Yaml.Node
