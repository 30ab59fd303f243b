import NodeLabels.Yaml.Token
/-!
# YAML documents

The tree that a YAML text describes. An alias stands for the node that last bore its anchor. Where
that node is still open it is left as `enclosing`, except for an alias of the whole document among
its entries, where one more round of the document is put in. `Node.read?` tells a text without any
document apart from a text that is no YAML or holds more than one document.
-/

namespace NodeLabels.Yaml

inductive Node
  | scalar (style : Style) (tag : Option String) (text : String)
  | sequence (items : List Node)
  | mapping (entries : List (Node × Node))
  | enclosing

namespace Node

/-- The node that stands where nothing is written. -/
def missing : Node := .scalar .plain none ""

def coreTags : List Char := "tag:yaml.org,2002:".toList

/-- What the reading of a document keeps track of. -/
structure Reading where
  tokens : List Token
  anchors : List (List Char × Node) := []
  /-- The tag handles and what they stand for. -/
  handles : List (List Char × List Char) := []

abbrev Reader := StateT Reading Option

def peek : Reader (Option Token) := do return (← get).tokens.head?

def drop : Reader Unit := modify fun r => { r with tokens := r.tokens.tail }

/-- Takes the next token if it is `t`. -/
def accept (t : Token) : Reader Bool := do
  if (← peek) = some t then drop; return true
  else return false

def nextIs (ts : List Token) : Reader Bool := do
  match ← peek with
  | some t => return ts.contains t
  | none => return false

def fullTag (handle suffix : List Char) : Reader String := do
  if handle = [] then return String.ofList suffix
  match (← get).handles.lookup handle with
  | some expansion => return String.ofList (expansion ++ suffix)
  | none => failure

def takeAnchor : Reader (Option (List Char)) := do
  match ← peek with
  | some (.anchor name) => drop; return some name
  | _ => return none

def takeTag : Reader (Option String) := do
  match ← peek with
  | some (.tag handle suffix) => drop; return some (← fullTag handle suffix)
  | _ => return none

/-- The anchor and the tag in front of a node, in either order. -/
def properties : Reader (Option (List Char) × Option String) := do
  match ← takeAnchor with
  | some name => return (some name, ← takeTag)
  | none =>
    match ← takeTag with
    | some tag => return (← takeAnchor, some tag)
    | none => return (none, none)

def name (anchor : Option (List Char)) (n : Node) : Reader Unit :=
  match anchor with
  | some a => modify fun r => { r with anchors := (a, n) :: r.anchors }
  | none => return ()

/-- The tag `!` says no more than no tag. -/
def ownTag (tag : Option String) : Option String := tag.filter (· ≠ "!")

mutual

/-- A node. Block collections are read where `block` is set, and where `bare` is set also the
entries of a sequence that opens no block of its own. -/
def node (block bare : Bool) : (fuel : Nat) → Reader Node
  | 0 => failure
  | fuel + 1 => do
    if let some (.alias a) := ← peek then
      drop
      match (← get).anchors.lookup a with
      | some n => return n
      | none => failure
    let (anchor, tag) ← properties
    name anchor .enclosing
    let n ← match ← peek with
      | some .blockEntry => if bare then .sequence <$> bareEntries fuel else emptyNode anchor tag
      | some (.scalar style text) => do
        drop
        pure (.scalar style (ownTag tag) (String.ofList text))
      | some .flowSequenceStart => do drop; .sequence <$> flowItems fuel
      | some .flowMappingStart => do drop; .mapping <$> flowEntries fuel
      | some .blockSequenceStart =>
        if block then do drop; .sequence <$> blockItems fuel else emptyNode anchor tag
      | some .blockMappingStart =>
        if block then do drop; .mapping <$> blockEntries fuel else emptyNode anchor tag
      | _ => emptyNode anchor tag
    name anchor n
    return n

/-- A node with properties alone. -/
def emptyNode (anchor : Option (List Char)) (tag : Option String) : Reader Node :=
  if anchor.isSome ∨ tag.isSome then return .scalar .plain (ownTag tag) "" else failure

/-- The node at this place, unless one of the tokens comes next. -/
def nodeUnless (ends : List Token) (block bare : Bool) : (fuel : Nat) → Reader Node
  | 0 => failure
  | fuel + 1 => do if (← nextIs ends) then return missing else node block bare fuel

/-- The entries of a block sequence and its end. -/
def blockItems : (fuel : Nat) → Reader (List Node)
  | 0 => failure
  | fuel + 1 => do
    if ← accept .blockEntry then
      let item ← nodeUnless [.blockEntry, .blockEnd] true false fuel
      return item :: (← blockItems fuel)
    else if ← accept .blockEnd then return []
    else failure

/-- The entries of a sequence in a mapping that is not indented further. -/
def bareEntries : (fuel : Nat) → Reader (List Node)
  | 0 => failure
  | fuel + 1 => do
    if ← accept .blockEntry then
      let item ← nodeUnless [.blockEntry, .key, .value, .blockEnd] true false fuel
      return item :: (← bareEntries fuel)
    else return []

def blockEntries : (fuel : Nat) → Reader (List (Node × Node))
  | 0 => failure
  | fuel + 1 => do
    if ← accept .key then
      let ends := [Token.key, .value, .blockEnd]
      let key ← nodeUnless ends true true fuel
      let value ← if ← accept .value then nodeUnless ends true true fuel else pure missing
      return (key, value) :: (← blockEntries fuel)
    else if ← accept .blockEnd then return []
    else failure

/-- The items of a flow sequence, the cursor being before the first. -/
def flowItems : (fuel : Nat) → Reader (List Node)
  | 0 => failure
  | fuel + 1 => do
    if ← accept .flowSequenceEnd then return []
    let item ← flowItem fuel
    return item :: (← moreFlowItems fuel)

def moreFlowItems : (fuel : Nat) → Reader (List Node)
  | 0 => failure
  | fuel + 1 => do
    if ← accept .flowSequenceEnd then return []
    else if ← accept .flowEntry then flowItems fuel
    else failure

/-- An item of a flow sequence: a node, or a single entry of a mapping. -/
def flowItem : (fuel : Nat) → Reader Node
  | 0 => failure
  | fuel + 1 => do
    if ← accept .key then
      let ends := [Token.value, .flowEntry, .flowSequenceEnd]
      -- a key that is missing takes the token after it along
      let key ← if ← nextIs ends then do drop; pure missing else node false false fuel
      let value ← if ← accept .value then nodeUnless [.flowEntry, .flowSequenceEnd] false false fuel
        else pure missing
      return .mapping [(key, value)]
    else node false false fuel

def flowEntries : (fuel : Nat) → Reader (List (Node × Node))
  | 0 => failure
  | fuel + 1 => do
    if ← accept .flowMappingEnd then return []
    let entry ← flowMember fuel
    return entry :: (← moreFlowEntries fuel)

def moreFlowEntries : (fuel : Nat) → Reader (List (Node × Node))
  | 0 => failure
  | fuel + 1 => do
    if ← accept .flowMappingEnd then return []
    else if ← accept .flowEntry then flowEntries fuel
    else failure

def flowMember : (fuel : Nat) → Reader (Node × Node)
  | 0 => failure
  | fuel + 1 => do
    if ← accept .key then
      let key ← nodeUnless [.value, .flowEntry, .flowMappingEnd] false false fuel
      let value ← if ← accept .value then nodeUnless [.flowEntry, .flowMappingEnd] false false fuel
        else pure missing
      return (key, value)
    else return (← node false false fuel, missing)

end

/-- The directives in front of a document. -/
def directives : (fuel : Nat) → (version : Bool) → Reader Unit
  | 0, _ => failure
  | fuel + 1, version => do
    match ← peek with
    | some (.versionDirective major minor) =>
      if version ∨ major ≠ 1 ∨ (minor ≠ 1 ∧ minor ≠ 2) then failure
      drop
      directives fuel true
    | some (.tagDirective handle expansion) =>
      if ((← get).handles.lookup handle).isSome then failure
      modify fun r => { r with handles := (handle, expansion) :: r.handles }
      drop
      directives fuel version
    | _ =>
      let standard := [(['!'], ['!']), (['!', '!'], coreTags)]
      modify fun r => { r with handles := r.handles ++ standard }

def skipEnds : (fuel : Nat) → Reader Unit
  | 0 => return ()
  | fuel + 1 => do if ← accept .documentEnd then skipEnds fuel

/-- The one document of a text, if there is any. It is explicit when a directive or `---` opens
it, and only then it may be left empty. -/
def document (fuel : Nat) : Reader (Option Node) := do
  match ← peek with
  | none => return none
  | some first =>
    let explicit := match first with
      | .versionDirective _ _ | .tagDirective _ _ | .documentStart => true
      | _ => false
    directives fuel false
    if explicit then if ! (← accept .documentStart) then failure
    let left ← match ← peek with
      | none | some (.versionDirective _ _) | some (.tagDirective _ _) | some .documentStart
      | some .documentEnd => pure explicit
      | _ => pure false
    let n ← if left then pure missing else node true false fuel
    skipEnds fuel
    if (← peek).isSome then failure
    return some n

/-- The node, or the one around it if it stands for that. -/
def orAround (around : Node) : Node → Node
  | .enclosing => around
  | n => n

/-- A document in whose entries it stands itself. -/
def unfolded : Node → Node
  | .mapping entries => .mapping (entries.map fun e => (e.1, orAround (.mapping entries) e.2))
  | n => n

/-- The document that a text holds, if it is well-formed and holds at most one. -/
def read? (text : String) : Option (Option Node) := do
  let tokens ← Token.scan? text.toList
  let fuel := 4 * tokens.length + 8
  let (n, _) ← (document fuel).run { tokens }
  return n.map unfolded

end Node

end NodeLabels.Yaml
