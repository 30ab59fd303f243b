import NodeLabels.Json.Double
import NodeLabels.Label.Map
/-!
# Reading records from JSON

A record is read from an object, where unknown members are skipped and a known member comes at most
once, or from an array that lists its fields in order. A reader gives `none` for a document of the
wrong shape.
-/

namespace NodeLabels.Json

abbrev Reader (α : Type) := Json → Option α

namespace Reader

variable {α : Type}

def string : Reader String
  | .string s => some s
  | _ => none

def bool : Reader Bool
  | .bool b => some b
  | _ => none

/-- A whole number below the bound. -/
def natBelow (bound : Nat) : Reader Nat
  | .number n => n.toNat?.filter (· < bound)
  | _ => none

/-- Null stands for a missing value. -/
def optional (r : Reader α) : Reader (Option α)
  | .null => some none
  | j => (r j).map some

def list (r : Reader α) : Reader (List α)
  | .array items => items.mapM r
  | _ => none

/-- An object with text values. Later members replace earlier ones. -/
def labels : Reader LabelMap
  | .object members => (members.mapM fun m => (string m.2).map (m.1, ·)).map LabelMap.ofList
  | _ => none

mutual

/-- Whether the document can be kept: no part of it is stray, and no number too large. -/
def isKept : Json → Bool
  | .stray => false
  | .number n => n.isWord || n.toDouble?.isSome
  | .array items => itemsKept items
  | .object members => membersKept members
  | _ => true

def itemsKept : List Json → Bool
  | [] => true
  | item :: items => isKept item && itemsKept items

def membersKept : List (String × Json) → Bool
  | [] => true
  | (_, value) :: members => isKept value && membersKept members

end

/-- Any document that can be kept and is not nested too deeply. -/
def any (depth : Nat) : Reader Json := fun j =>
  if isKept j ∧ j.depth ≤ depth then some j else none

/-- The values of the known fields of a record. -/
def fields (known : List String) : Reader (List (Option Json))
  | .object members =>
    if known.all fun key => (members.filter (·.1 = key)).length ≤ 1 then
      some (known.map fun key => members.lookup key)
    else none
  | .array items =>
    if items.length ≤ known.length then
      some ((List.range known.length).map fun i => items[i]?)
    else none
  | _ => none

/-- A field with a value that stands in when it is missing. -/
def orElse (r : Reader α) (default : α) : Option Json → Option α
  | some j => r j
  | none => some default

/-- A field that has to be there. -/
def required (r : Reader α) : Option Json → Option α
  | some j => r j
  | none => none

end Reader

end NodeLabels.Json
