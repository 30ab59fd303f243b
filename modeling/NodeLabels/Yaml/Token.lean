import NodeLabels.Yaml.Scalar
/-!
# YAML tokens

`Token.scan?` cuts a text into tokens. Indentation becomes tokens of its own that open and close
blocks. A scalar turns out to be a key only when the colon after it is met, so its place among the
tokens is kept until then, for as long as it may be a key: on one line and for 1024 characters.
-/

namespace NodeLabels.Yaml

inductive Token
  | versionDirective (major minor : Nat)
  | tagDirective (handle expansion : List Char)
  | documentStart
  | documentEnd
  | blockSequenceStart
  | blockMappingStart
  | blockEnd
  | flowSequenceStart
  | flowSequenceEnd
  | flowMappingStart
  | flowMappingEnd
  | blockEntry
  | flowEntry
  | key
  | value
  | alias (name : List Char)
  | anchor (name : List Char)
  | tag (handle suffix : List Char)
  | scalar (style : Style) (text : List Char)
deriving DecidableEq, Repr

/-- A place where a key may turn out to stand. -/
structure PossibleKey where
  /-- Whether there has to be a key. -/
  required : Bool
  /-- How many tokens come before it. -/
  position : Nat
  index : Nat
  line : Nat
  column : Nat

/-- Whether a possible key was left behind, on an earlier line or too far back. -/
def PossibleKey.isStale (k : PossibleKey) (c : Cursor) : Bool :=
  k.line < c.line || k.index + 1024 < c.index

/-- What the scanner has made of a text so far. -/
structure Scanner where
  cursor : Cursor
  tokens : Array Token := #[]
  /-- The column of the innermost block, -1 outside all blocks. -/
  indent : Int := -1
  outerIndents : List Int := []
  keyAllowed : Bool := true
  /-- The possible key of the innermost flow collection, or of the block around all of them. -/
  possibleKey : Option PossibleKey := none
  /-- The possible keys further out, one for each open flow collection. -/
  outerKeys : List (Option PossibleKey) := []

namespace Scanner

def inFlow (s : Scanner) : Bool := ! s.outerKeys.isEmpty

def push (s : Scanner) (t : Token) : Scanner := { s with tokens := s.tokens.push t }

def skip (s : Scanner) (n : Nat := 1) : Scanner := { s with cursor := s.cursor.skip n }

/-- Opens a block at the column, if it lies further in than the present one. -/
def openBlock (s : Scanner) (column position : Nat) (t : Token) : Scanner :=
  if ! s.inFlow ∧ s.indent < column then
    { s with outerIndents := s.indent :: s.outerIndents, indent := column
             tokens := s.tokens.insertIdxIfInBounds position t }
  else s

/-- Closes the blocks that lie further in than the column. -/
def closeBlocks (s : Scanner) (column : Int) : Scanner :=
  if s.inFlow then s
  else
    let closing := (s.indent :: s.outerIndents).takeWhile (column < ·)
    match (s.indent :: s.outerIndents).drop closing.length with
    | indent :: outerIndents =>
      { s with indent, outerIndents
               tokens := s.tokens ++ (closing.map fun _ => Token.blockEnd).toArray }
    | [] => s

/-- Forgets the possible key of the innermost level, unless there has to be one. -/
def dropKey? (s : Scanner) : Option Scanner :=
  match s.possibleKey with
  | some k => if k.required then none else some { s with possibleKey := none }
  | none => some s

/-- Notes that a key may stand here. -/
def noteKey? (s : Scanner) : Option Scanner :=
  if s.keyAllowed then do
    let s ← s.dropKey?
    let c := s.cursor
    let key : PossibleKey :=
      { required := ! s.inFlow && s.indent = c.column, position := s.tokens.size
        index := c.index, line := c.line, column := c.column }
    return { s with possibleKey := some key }
  else some s

def freshen? (c : Cursor) : Option PossibleKey → Option (Option PossibleKey)
  | some k => if k.isStale c then if k.required then none else some none else some (some k)
  | none => some none

/-- Forgets the possible keys that were left behind. -/
def dropStaleKeys? (s : Scanner) : Option Scanner := do
  let possibleKey ← freshen? s.cursor s.possibleKey
  let outerKeys ← s.outerKeys.mapM (freshen? s.cursor)
  return { s with possibleKey, outerKeys }

/-- Moves over blanks, comments and line breaks. A tab counts as a blank only where no key could
start. -/
def toNextToken : (fuel : Nat) → Scanner → Scanner
  | 0, s => s
  | fuel + 1, s =>
    let c := s.cursor
    let c := if c.index = 0 ∧ c.peek = '\ufeff' then c.skip else c
    let tabs := s.inFlow || ! s.keyAllowed
    let c := c.skipWhile fun ch => ch = ' ' || (ch = '\t' && tabs)
    let c := if c.peek = '#' then c.skipWhile (! isBreak ·) else c
    if isBreak c.peek then
      toNextToken fuel
        { s with cursor := c.breakLine.2, keyAllowed := s.keyAllowed || ! s.inFlow }
    else { s with cursor := c }

/-! ## Directives, anchors and tags -/

def decimal? (digits : List Char) : Option Nat :=
  if digits = [] ∨ 9 < digits.length then none
  else some (Text.decimal digits)

/-- Characters of a tag. Those that also end a flow entry count only where `everywhere` is set. -/
def isTagChar (everywhere : Bool) (c : Char) : Bool :=
  isWordChar c || [';', '/', '?', ':', '@', '&', '=', '+', '$', '.', '%', '!', '~', '*', '\'', '(',
    ')'].contains c || (everywhere && [',', '[', ']'].contains c)

/-- The bytes of an escaped character, without their lead. -/
def tailOctets? : Nat → List Char → Option (List Char)
  | 0, cs => some cs
  | n + 1, '%' :: a :: b :: cs => do
    let octet := ← Text.number? 16 [a, b]
    if octet / 64 = 2 then tailOctets? n cs else none
  | _ + 1, _ => none

/-- The text of a tag with its escapes left as they are, each a well-formed character. -/
def checkEscapes? : (fuel : Nat) → List Char → Option Unit
  | 0, _ => none
  | _ + 1, [] => some ()
  | fuel + 1, '%' :: a :: b :: cs => do
    let octet := ← Text.number? 16 [a, b]
    let tail ← if octet < 0x80 then some 0 else if octet / 32 = 6 then some 1
      else if octet / 16 = 14 then some 2 else if octet / 8 = 30 then some 3 else none
    checkEscapes? fuel (← tailOctets? tail cs)
  | _ + 1, '%' :: _ => none
  | fuel + 1, _ :: cs => checkEscapes? fuel cs

def tagText? (everywhere : Bool) (c : Cursor) : Option (List Char × Cursor) := do
  let (text, c) := c.takeWhile (isTagChar everywhere)
  checkEscapes? (text.length + 1) text
  return (text, c)

/-- A handle: `!`, or `!word!`, or for a tag without a closing mark `!word`. -/
def tagHandle? (c : Cursor) : Option (List Char × Cursor) :=
  if c.peek = '!' then
    let (word, c) := c.skip.takeWhile isWordChar
    if c.peek = '!' then some ('!' :: word ++ ['!'], c.skip) else some ('!' :: word, c)
  else none

def directive? (c : Cursor) : Option (Token × Cursor) := do
  let (name, c) := c.skip.takeWhile isWordChar
  if name = [] ∨ ¬ isGapOrEnd c.peek then none
  let c := c.skipWhile isGap
  if name = ['Y', 'A', 'M', 'L'] then
    let (major, c) := c.takeWhile Char.isDigit
    if c.peek ≠ '.' then none
    let (minor, c) := c.skip.takeWhile Char.isDigit
    return (.versionDirective (← decimal? major) (← decimal? minor), ← c.finishLine?)
  else if name = ['T', 'A', 'G'] then
    let (handle, c) ← tagHandle? c
    if handle ≠ ['!'] ∧ handle.getLast? ≠ some '!' then none
    if ¬ isGap c.peek then none
    let (expansion, c) ← tagText? true (c.skipWhile isGap)
    if expansion = [] ∨ ¬ isGapOrEnd c.peek then none
    return (.tagDirective handle expansion, ← c.finishLine?)
  else none

/-- The name of an anchor or of an alias. -/
def anchorName? (c : Cursor) : Option (List Char × Cursor) :=
  let (name, c) := c.takeWhile isWordChar
  let ended := isGapOrEnd c.peek || ['?', ':', ',', ']', '\x7d', '%', '@', '\x60'].contains c.peek
  if name = [] ∨ ! ended then none else some (name, c)

def tag? (inFlow : Bool) (c : Cursor) : Option (Token × Cursor) := do
  let (token, c) ←
    if c.peekAt 1 = '<' then do
      let (text, c) ← tagText? true (c.skip 2)
      if text = [] ∨ c.peek ≠ '>' then none
      else some (.tag [] text, c.skip)
    else do
      let (handle, c) ← tagHandle? c
      if handle.length ≥ 2 ∧ handle.getLast? = some '!' then
        let (suffix, c) ← tagText? false c
        if suffix = [] then none else some (.tag handle suffix, c)
      else
        let (more, c) ← tagText? false c
        let suffix := handle.tail ++ more
        if suffix = [] then some (.tag [] ['!'], c) else some (.tag ['!'] suffix, c)
  if isGapOrEnd c.peek ∨ (inFlow ∧ c.peek = ',') then some (token, c) else none

/-! ## Single tokens -/

def documentMark? (s : Scanner) (t : Token) : Option Scanner := do
  let s ← (s.closeBlocks (-1)).dropKey?
  return ({ s with keyAllowed := false }.skip 3).push t

def openFlow? (s : Scanner) (t : Token) : Option Scanner := do
  let s ← s.noteKey?
  return ({ s with outerKeys := s.possibleKey :: s.outerKeys, possibleKey := none
                   keyAllowed := true }.skip).push t

def closeFlow? (s : Scanner) (t : Token) : Option Scanner := do
  let s ← s.dropKey?
  let s := match s.outerKeys with
    | k :: ks => { s with possibleKey := k, outerKeys := ks }
    | [] => s
  return ({ s with keyAllowed := false }.skip).push t

def flowEntry? (s : Scanner) : Option Scanner := do
  let s ← s.dropKey?
  return ({ s with keyAllowed := true }.skip).push .flowEntry

/-- A mark that begins an entry opens a block where entries are allowed to stand. -/
def openEntry? (s : Scanner) (t : Token) : Option Scanner :=
  if s.inFlow then some s
  else if s.keyAllowed then some (s.openBlock s.cursor.column s.tokens.size t)
  else none

def blockEntry? (s : Scanner) : Option Scanner := do
  let s ← (← s.openEntry? .blockSequenceStart).dropKey?
  return ({ s with keyAllowed := true }.skip).push .blockEntry

def key? (s : Scanner) : Option Scanner := do
  let s ← (← s.openEntry? .blockMappingStart).dropKey?
  return ({ s with keyAllowed := ! s.inFlow }.skip).push .key

def value? (s : Scanner) : Option Scanner := do
  let s ← match s.possibleKey with
    | some k =>
      let s := { s with tokens := s.tokens.insertIdxIfInBounds k.position .key }
      let s := s.openBlock k.column k.position .blockMappingStart
      some { s with possibleKey := none, keyAllowed := false }
    | none => do
      let s ← s.openEntry? .blockMappingStart
      pure { s with keyAllowed := ! s.inFlow }
  return s.skip.push .value

/-- The next token or tokens, the cursor being at their first character. -/
def token? (s : Scanner) : Option Scanner :=
  let c := s.cursor
  let next := c.peekAt 1
  let fuel := c.rest.length + 1
  let inner := fun (s : Scanner) (t : Token) (c : Cursor) =>
    { s with cursor := c, keyAllowed := false : Scanner }.push t
  if c.column = 0 ∧ c.peek = '%' then do
    let s ← (s.closeBlocks (-1)).dropKey?
    let (t, c) ← directive? s.cursor
    return inner s t c
  else if c.atDocumentMark then
    s.documentMark? (if c.peek = '-' then .documentStart else .documentEnd)
  else if c.peek = '[' then s.openFlow? .flowSequenceStart
  else if c.peek = '\x7b' then s.openFlow? .flowMappingStart
  else if c.peek = ']' then s.closeFlow? .flowSequenceEnd
  else if c.peek = '\x7d' then s.closeFlow? .flowMappingEnd
  else if c.peek = ',' then s.flowEntry?
  else if c.peek = '-' ∧ isGapOrEnd next then s.blockEntry?
  else if c.peek = '?' ∧ (s.inFlow ∨ isGapOrEnd next) then s.key?
  else if c.peek = ':' ∧ (s.inFlow ∨ isGapOrEnd next) then s.value?
  else if c.peek = '*' then do
    let s ← s.noteKey?
    let (name, c) ← anchorName? c.skip
    return inner s (.alias name) c
  else if c.peek = '&' then do
    let s ← s.noteKey?
    let (name, c) ← anchorName? c.skip
    return inner s (.anchor name) c
  else if c.peek = '!' then do
    let s ← s.noteKey?
    let (t, c) ← tag? s.inFlow c
    return inner s t c
  else if (c.peek = '|' ∨ c.peek = '>') ∧ ! s.inFlow then do
    let literal := c.peek = '|'
    let s ← s.dropKey?
    let (text, c) ← block? literal s.indent c.skip
    return { s with cursor := c, keyAllowed := true }.push
      (.scalar (if literal then .literal else .folded) text)
  else if c.peek = '\'' then do
    let s ← s.noteKey?
    let (text, c) ← quoted? false fuel c.skip []
    return inner s (.scalar .singleQuoted text) c
  else if c.peek = '"' then do
    let s ← s.noteKey?
    let (text, c) ← quoted? true fuel c.skip []
    return inner s (.scalar .doubleQuoted text) c
  else
    let reserved := ['-', '?', ':', ',', '[', ']', '\x7b', '\x7d', '#', '&', '*', '!', '|', '>',
      '\'', '"', '%', '@', '\x60']
    let starts := ! (isGapOrEnd c.peek || reserved.contains c.peek) ||
      (c.peek = '-' && ! isGap next) ||
      (! s.inFlow && (c.peek = '?' || c.peek = ':') && ! isGapOrEnd next)
    if starts then do
      let s ← s.noteKey?
      let (text, broken, c) ← plain? s.inFlow (s.indent + 1) fuel c {} []
      return { s with cursor := c, keyAllowed := broken }.push (.scalar .plain text)
    else none

/-- Scans to the end of the text. -/
def run? : (fuel : Nat) → Scanner → Option Scanner
  | 0, _ => none
  | fuel + 1, s => do
    let s ← (s.toNextToken (s.cursor.rest.length + 1)).dropStaleKeys?
    let s := s.closeBlocks s.cursor.column
    if s.cursor.atEnd then (s.closeBlocks (-1)).dropKey?
    else run? fuel (← s.token?)

end Scanner

/-- The tokens of a text. -/
def Token.scan? (text : List Char) : Option (List Token) :=
  if text.all isPrintable then do
    let text := match text with
      | '\ufeff' :: rest => rest
      | text => text
    let s ← Scanner.run? (text.length + 1) { cursor := { rest := text } }
    return s.tokens.toList
  else none

end NodeLabels.Yaml
