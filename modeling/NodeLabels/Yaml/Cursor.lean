import NodeLabels.Text.Blank
/-!
# A place in a YAML text

A cursor holds what is left of a text, with the line and the column that it stands at. The end of
the text is shown as a NUL character, which no YAML text can hold.
-/

namespace NodeLabels.Yaml

/-- The characters that a text may hold. -/
def isPrintable (c : Char) : Bool :=
  let n := c.toNat
  n = 9 || n = 10 || n = 13 || (0x20 ≤ n && n ≤ 0x7E) || n = 0x85 || (0xA0 ≤ n && n ≤ 0xD7FF) ||
    (0xE000 ≤ n && n ≤ 0xFFFD) || 0x10000 ≤ n

def isGap (c : Char) : Bool := c = ' ' || c = '\t'

def isBreak (c : Char) : Bool :=
  c = '\n' || c = '\r' || c = '\u0085' || c = '\u2028' || c = '\u2029'

def isBreakOrEnd (c : Char) : Bool := isBreak c || c.toNat = 0

def isGapOrEnd (c : Char) : Bool := isGap c || isBreakOrEnd c

/-- The characters of anchors, tag handles and directive names. -/
def isWordChar (c : Char) : Bool := (c.isAlphanum && c.toNat < 128) || c = '_' || c = '-'

def isFlowMark (c : Char) : Bool := c = ',' || c = '[' || c = ']' || c = '\x7b' || c = '\x7d'

structure Cursor where
  rest : List Char
  /-- Characters before the cursor. -/
  index : Nat := 0
  line : Nat := 0
  column : Nat := 0

namespace Cursor

def peekAt (c : Cursor) (n : Nat) : Char := (c.rest.drop n).headD '\x00'

def peek (c : Cursor) : Char := c.peekAt 0

def atEnd (c : Cursor) : Bool := c.rest.isEmpty

/-- Moves over `n` characters of one line. -/
def skip (c : Cursor) (n : Nat := 1) : Cursor :=
  { c with rest := c.rest.drop n, index := c.index + n, column := c.column + n }

/-- Moves over a line break, if there is one, and gives the characters that it stands for. -/
def breakLine (c : Cursor) : List Char × Cursor :=
  let next := fun n => { c with rest := c.rest.drop n, index := c.index + n, line := c.line + 1
                                column := 0 : Cursor }
  if c.peek = '\r' ∧ c.peekAt 1 = '\n' then (['\n'], next 2)
  else if c.peek = '\u2028' ∨ c.peek = '\u2029' then ([c.peek], next 1)
  else if isBreak c.peek then (['\n'], next 1)
  else ([], c)

/-- Moves over the characters at the front that satisfy `p`, none of them a line break. -/
def takeWhile (p : Char → Bool) (c : Cursor) : List Char × Cursor :=
  let word := c.rest.takeWhile p
  (word, c.skip word.length)

def skipWhile (p : Char → Bool) (c : Cursor) : Cursor := (c.takeWhile p).2

/-- Whether the cursor is at the start of a line that begins with `---` or `...` and a blank. -/
def atDocumentMark (c : Cursor) : Bool :=
  c.column = 0 && (c.rest.take 3 = ['-', '-', '-'] || c.rest.take 3 = ['.', '.', '.']) &&
    isGapOrEnd (c.peekAt 3)

/-- Moves to the end of the line, over blanks and a comment. Anything else is refused. -/
def finishLine? (c : Cursor) : Option Cursor :=
  let c := c.skipWhile isGap
  let c := if c.peek = '#' then c.skipWhile (! isBreak ·) else c
  if isBreakOrEnd c.peek then some c.breakLine.2 else none

end Cursor

end NodeLabels.Yaml
