import NodeLabels.Yaml.Cursor
import NodeLabels.Text.Digits
/-!
# YAML scalars

Reading the text of a scalar in each of its styles. In the flow styles a single line break between
two words stands for a space, and of several the first is dropped.
-/

namespace NodeLabels.Yaml

inductive Style
  | plain | singleQuoted | doubleQuoted | literal | folded
deriving DecidableEq, Repr

/-- What lies between two words of a scalar. -/
structure Between where
  gaps : List Char := []
  /-- Whether a line break was passed. -/
  broken : Bool := false
  firstBreak : List Char := []
  moreBreaks : List Char := []

/-- The characters that stand for it in the text of the scalar. -/
def Between.folded (b : Between) : List Char :=
  if b.broken then
    if b.firstBreak = ['\n'] then if b.moreBreaks = [] then [' '] else b.moreBreaks
    else b.firstBreak ++ b.moreBreaks
  else b.gaps

/-- Moves over blanks and line breaks. A tab at the start of a line left of `indent` is refused. -/
def Between.read? (indent : Int) : (fuel : Nat) → Cursor → Between → Option (Between × Cursor)
  | 0, c, b => some (b, c)
  | fuel + 1, c, b =>
    if isGap c.peek then
      if b.broken then
        if c.peek = '\t' ∧ (c.column : Int) < indent then none else read? indent fuel c.skip b
      else read? indent fuel c.skip { b with gaps := b.gaps ++ [c.peek] }
    else if isBreak c.peek then
      let (text, c) := c.breakLine
      if b.broken then read? indent fuel c { b with moreBreaks := b.moreBreaks ++ text }
      else read? indent fuel c { gaps := [], broken := true, firstBreak := text }
    else some (b, c)

/-! ## Plain scalars -/

/-- One word of a plain scalar. -/
def plainWord? (inFlow : Bool) : List Char → Option (List Char)
  | [] => some []
  | c :: cs =>
    let next := cs.headD '\x00'
    if isGapOrEnd c then some []
    else if inFlow ∧ c = ':' ∧ (isFlowMark next ∨ next = '?') then none
    else if (c = ':' ∧ isGapOrEnd next) ∨ (inFlow ∧ isFlowMark c) then some []
    else (plainWord? inFlow cs).map (c :: ·)

/-- A plain scalar: its text, whether it ends after a line break, and where it ends. -/
def plain? (inFlow : Bool) (indent : Int) :
    (fuel : Nat) → Cursor → Between → List Char → Option (List Char × Bool × Cursor)
  | 0, _, _, _ => none
  | fuel + 1, c, before, text =>
    if c.atDocumentMark ∨ c.peek = '#' then some (text, before.broken, c)
    else do
      let word ← plainWord? inFlow c.rest
      let text := if word = [] then text else text ++ before.folded ++ word
      let broken := word = [] ∧ before.broken
      let c := c.skip word.length
      if isGap c.peek ∨ isBreak c.peek then
        let (between, c) ← Between.read? indent (c.rest.length + 1) c {}
        if ¬ inFlow ∧ (c.column : Int) < indent then some (text, between.broken, c)
        else plain? inFlow indent fuel c between text
      else some (text, broken, c)

/-! ## Quoted scalars -/

/-- The character that a letter after a backslash stands for. -/
def escaped? (c : Char) : Option Char :=
  match c with
  | '0' => some '\x00'
  | 'a' => some '\x07'
  | 'b' => some '\x08'
  | 't' | '\t' => some '\t'
  | 'n' => some '\n'
  | 'v' => some '\x0b'
  | 'f' => some '\x0c'
  | 'r' => some '\r'
  | 'e' => some '\x1b'
  | ' ' | '"' | '/' | '\\' => some c
  | 'N' => some '\u0085'
  | '_' => some '\u00a0'
  | 'L' => some '\u2028'
  | 'P' => some '\u2029'
  | _ => none

/-- How many hexadecimal digits follow the letter. -/
def hexWidth? (c : Char) : Option Nat :=
  match c with
  | 'x' => some 2
  | 'u' => some 4
  | 'U' => some 8
  | _ => none

/-- The character with a code point that is in range and no surrogate. -/
def scalarValue? (n : Nat) : Option Char :=
  if n < 0xD800 ∨ (0xDFFF < n ∧ n ≤ 0x10FFFF) then some (Char.ofNat n) else none

/-- One word of a quoted scalar, and whether an escaped line break ends it. -/
def quotedWord? (double : Bool) : (fuel : Nat) → Cursor → Option (List Char × Bool × Cursor)
  | 0, _ => none
  | fuel + 1, c =>
    let and := fun (ch : Char) (c : Cursor) => do
      let (word, escape, c) ← quotedWord? double fuel c
      return (ch :: word, escape, c)
    if isGapOrEnd c.peek then some ([], false, c)
    else if double then
      if c.peek = '"' then some ([], false, c)
      else if c.peek = '\\' then
        let letter := c.peekAt 1
        if isBreak letter then some ([], true, c.skip.breakLine.2)
        else match hexWidth? letter with
          | some width => do
            let digits := (c.rest.drop 2).take width
            if digits.length ≠ width then none
            let ch ← Text.number? 16 digits >>= scalarValue?
            and ch (c.skip (2 + width))
          | none => do and (← escaped? letter) (c.skip 2)
      else and c.peek c.skip
    else if c.peek = '\'' then
      if c.peekAt 1 = '\'' then and '\'' (c.skip 2) else some ([], false, c)
    else and c.peek c.skip

/-- A quoted scalar after its opening quote. -/
def quoted? (double : Bool) : (fuel : Nat) → Cursor → List Char → Option (List Char × Cursor)
  | 0, _, _ => none
  | fuel + 1, c, text => do
    if c.atDocumentMark ∨ c.atEnd then none
    let (word, escape, c) ← quotedWord? double (c.rest.length + 1) c
    let text := text ++ word
    if c.peek = (if double then '"' else '\'') then some (text, c.skip)
    else
      let (between, c) ← Between.read? 0 (c.rest.length + 1) c { broken := escape }
      quoted? double fuel c (text ++ between.folded)

/-! ## Block scalars -/

/-- What becomes of the line breaks at the end. -/
inductive Chomp
  | strip | clip | keep
deriving DecidableEq

def chomp? (c : Char) : Option Chomp :=
  if c = '+' then some .keep else if c = '-' then some .strip else none

/-- The marks after `|` or `>`, in either order: the chomping and the indentation. -/
def blockHeader? (c : Cursor) : Option (Chomp × Option Nat × Cursor) :=
  let width := fun (c : Cursor) =>
    if c.peek = '0' then none
    else if c.peek.isDigit then some (some (c.peek.toNat - '0'.toNat), c.skip)
    else some (none, c)
  match chomp? c.peek with
  | some chomp => do
    let (indent, c) ← width c.skip
    return (chomp, indent, c)
  | none => do
    let (indent, c) ← width c
    match indent, chomp? c.peek with
    | some _, some chomp => return (chomp, indent, c.skip)
    | _, _ => return (.clip, indent, c)

/-- Moves over empty lines and the indentation of the next one. While the indentation is not known
(`indent` is zero), `widest` keeps the furthest column reached. -/
def blockBreaks? (indent : Nat) : (fuel : Nat) → Cursor → (widest : Nat) → (breaks : List Char) →
    Option (List Char × Nat × Cursor)
  | 0, _, _, _ => none
  | fuel + 1, c, widest, breaks =>
    let open' := fun (c : Cursor) => indent = 0 || c.column < indent
    let spaces := (c.rest.takeWhile (· = ' ')).length
    let c := c.skip (if indent = 0 then spaces else min spaces (indent - c.column))
    let widest := max widest c.column
    if open' c ∧ c.peek = '\t' then none
    else if isBreak c.peek then
      let (text, c) := c.breakLine
      blockBreaks? indent fuel c widest (breaks ++ text)
    else some (breaks, widest, c)

/-- The lines of a block scalar. `lastBreak` and `breaks` are the line breaks after the text so far,
and `afterGap` says whether its last line starts with a blank. -/
def blockLines? (literal : Bool) (chomp : Chomp) (indent : Nat) : (fuel : Nat) → Cursor →
    (text lastBreak breaks : List Char) → (afterGap : Bool) → Option (List Char × Cursor)
  | 0, _, _, _, _, _ => none
  | fuel + 1, c, text, lastBreak, breaks, afterGap =>
    if c.column = indent ∧ ¬ c.atEnd then do
      let startsWithGap := isGap c.peek
      let joint :=
        if ¬ literal ∧ lastBreak = ['\n'] ∧ ¬ afterGap ∧ ¬ startsWithGap then
          if breaks = [] then [' '] else breaks
        else lastBreak ++ breaks
      let (line, c) := c.takeWhile (! isBreak ·)
      let (lastBreak, c) := c.breakLine
      let (breaks, _, c) ← blockBreaks? indent (c.rest.length + 1) c 0 []
      blockLines? literal chomp indent fuel c (text ++ joint ++ line) lastBreak breaks startsWithGap
    else
      some (match chomp with
        | .strip => text
        | .clip => text ++ lastBreak
        | .keep => text ++ lastBreak ++ breaks, c)

/-- A block scalar after its first mark, inside a block with the indentation `outer`. -/
def block? (literal : Bool) (outer : Int) (c : Cursor) : Option (List Char × Cursor) := do
  let (chomp, marked, c) ← blockHeader? c
  let c ← c.finishLine?
  let fuel := c.rest.length + 1
  let given := match marked with
    | some n => (max outer 0).toNat + n
    | none => 0
  let (breaks, widest, c) ← blockBreaks? given fuel c 0 []
  let indent := if given = 0 then max (max widest (outer + 1).toNat) 1 else given
  blockLines? literal chomp indent (fuel + 1) c [] [] breaks false

end NodeLabels.Yaml
