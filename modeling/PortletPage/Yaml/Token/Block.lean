import PortletPage.Text
import PortletPage.Yaml.Cursor

/-!
# Block scalars

The texts of scalars that are set off by indentation.  A *literal* scalar keeps
its line breaks.  A *folded* one joins lines with a space unless one of them
begins with a blank.  The header may say how the line breaks at the end are
treated and how far the text is indented; otherwise the first line that is not
empty shows its indentation.
-/

namespace PortletPage.Yaml.Block

/-- What becomes of the line breaks at the end. -/
inductive Chomping where
  /-- None is kept. -/
  | strip
  /-- That of the last line is kept. -/
  | clip
  /-- All are kept. -/
  | keep
  deriving DecidableEq, Repr

/-- What the header says. -/
structure Header where
  chomping : Chomping := .clip
  /-- How many columns the text is indented against its surroundings; zero if left open. -/
  indentation : Nat := 0
  deriving Repr

/-! ## The header -/

/-- The chomping that a character stands for. -/
def chomping? (x : Char) : Option Chomping :=
  if x = '+' then some .keep else if x = '-' then some .strip else none

/-- Reads the characters of a header, each of which may stand once. -/
def header? (c : Cursor) : Option (Header × Cursor) :=
  match c.rest with
  | [] => some ({}, c)
  | x :: rest =>
    match chomping? x with
    | some chomping =>
      match rest with
      | y :: _ =>
        if y.isDigit then
          if y = '0' then none else some (⟨chomping, y.toNat - 48⟩, c.skip 2)
        else some (⟨chomping, 0⟩, c.skip 1)
      | [] => some (⟨chomping, 0⟩, c.skip 1)
    | none =>
      if x.isDigit then
        if x = '0' then none
        else
          match rest.head?.bind chomping? with
          | some chomping => some (⟨chomping, x.toNat - 48⟩, c.skip 2)
          | none => some (⟨.clip, x.toNat - 48⟩, c.skip 1)
      else some ({}, c)

/-! ## The lines -/

/-- The cursor after spaces before column `indent`, or after all if that is zero. -/
def skipIndent (indent : Nat) (c : Cursor) : Cursor :=
  let spaces := (c.takeWhile (· == ' ')).1.length
  c.skip (if indent = 0 then spaces else min spaces (indent - c.column))

/-- Reads empty lines and the spaces before the next line: the text of the line
breaks, the greatest column that was reached, and the cursor.  A tab among the
spaces is refused. -/
def emptyLines? (indent : Nat) : Nat → Nat → List Char → Cursor → Option (Nat × List Char × Cursor)
  | 0, _, _, _ => none
  | fuel + 1, widest, breaks, c =>
    let c := skipIndent indent c
    let widest := max widest c.column
    if (indent = 0 ∨ c.column < indent) ∧ c.at? (· == '\t') then none
    else if c.at? isBreak then
      let (text, c) := c.takeBreak
      emptyLines? indent fuel widest (breaks ++ text) c
    else some (widest, breaks, c)

/-- What has been read of a block scalar. -/
structure Progress where
  /-- The text without what comes after the last line, last first. -/
  done : List Char := []
  /-- Whether the last line begins with a blank. -/
  beginsBlank : Bool := false
  /-- The line break of the last line. -/
  lastBreak : List Char := []
  /-- The line breaks of the empty lines after it. -/
  more : List Char

/-- What stands between the last line and one that begins with a blank or not. -/
def Progress.gap (p : Progress) (literal beginsBlank : Bool) : List Char :=
  if !literal && p.lastBreak == ['\n'] && !p.beginsBlank && !beginsBlank then
    if p.more = [] then [' '] else p.more
  else p.lastBreak ++ p.more

/-- Reads the lines that are indented as far as column `indent`. -/
def lines? (literal : Bool) (indent : Nat) : Nat → Progress → Cursor → Option (Progress × Cursor)
  | 0, _, _ => none
  | fuel + 1, p, c =>
    if c.column = indent ∧ c.rest ≠ [] then do
      let beginsBlank := c.at? isBlank
      let (line, c) := c.takeWhile fun x => !isBreak x
      let (text, c) := c.takeBreak
      let (_, more, c) ← emptyLines? indent (c.rest.length + 1) 0 [] c
      let done := line.reverse ++ (p.gap literal beginsBlank).reverse ++ p.done
      lines? literal indent fuel ⟨done, beginsBlank, text, more⟩ c
    else some (p, c)

/-- Reads a block scalar after its indicator.  Its surroundings begin at `margin`. -/
def scalar? (literal : Bool) (margin : Nat) (c : Cursor) : Option (List Char × Cursor) := do
  let (header, c) ← header? c
  let c ← c.finishLine?
  let asked := if header.indentation = 0 then 0 else margin - 1 + header.indentation
  let (widest, more, c) ← emptyLines? asked (c.rest.length + 1) 0 [] c
  let indent := if asked = 0 then max widest (max margin 1) else asked
  let (p, c) ← lines? literal indent (c.rest.length + 1) { more := more } c
  let tail := match header.chomping with
    | .strip => []
    | .clip => p.lastBreak
    | .keep => p.lastBreak ++ p.more
  return (p.done.reverse ++ tail, c)

end PortletPage.Yaml.Block
