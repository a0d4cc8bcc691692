/-!
# Places in a document

The syntax of YAML tells some classes of characters apart.  A cursor is what is left of
a document together with the place where it begins.  The column decides about the
structure of block collections, and line and index decide how long a key may be.
-/

namespace PortletPage.Yaml

/-! ## Characters -/

/-- Whether `c` may stand in a document at all: of the control characters only
tab, line feed, carriage return and next line may. -/
def isAllowed (c : Char) : Bool :=
  let n := c.toNat
  n == 9 || n == 10 || n == 13 || (0x20 ≤ n && n ≤ 0x7E) || n == 0x85
    || (0xA0 ≤ n && n ≤ 0xFFFD) || 0x10000 ≤ n

/-- Whether `c` ends a line. -/
def isBreak (c : Char) : Bool :=
  c == '\n' || c == '\r' || c == '\u0085' || c == '\u2028' || c == '\u2029'

/-- Whether `c` separates words on a line. -/
def isBlank (c : Char) : Bool := c == ' ' || c == '\t'

/-- Whether `c` may stand in a name: an ASCII letter or digit, `_` or `-`. -/
def isNameChar (c : Char) : Bool := c.isAlphanum || c == '_' || c == '-'

/-- Whether `c` may stand in a tag, as itself or to begin an escape. -/
def isTagChar (c : Char) : Bool := isNameChar c || ";/?:@&=+$.%!~*'()".contains c

/-- Whether `c` is a bracket of a flow collection. -/
def isBracket (c : Char) : Bool := "[]\x7b\x7d".contains c

/-! ## Cursors -/

/-- What is left of a document, and where it begins. -/
structure Cursor where
  rest : List Char
  /-- How many octets of UTF-8 come before. -/
  index : Nat := 0
  line : Nat := 0
  /-- How many characters come before on the same line. -/
  column : Nat := 0
  deriving Repr

namespace Cursor

/-- Whether some character with that property comes next. -/
def at? (c : Cursor) (p : Char → Bool) : Bool :=
  match c.rest with
  | x :: _ => p x
  | [] => false

/-- Whether a blank, a line break or the end of the document comes next. -/
def endsWord (c : Cursor) : Bool :=
  match c.rest with
  | x :: _ => isBlank x || isBreak x
  | [] => true

/-- Whether a line break or the end of the document comes next. -/
def endsLine (c : Cursor) : Bool :=
  match c.rest with
  | x :: _ => isBreak x
  | [] => true

/-- How many octets the next `count` characters take in UTF-8. -/
def octets (c : Cursor) (count : Nat) : Nat :=
  (c.rest.take count).foldl (fun n x => n + x.utf8Size) 0

/-- The cursor after characters of the same line. -/
def skip (c : Cursor) (count : Nat) : Cursor :=
  { c with
    rest := c.rest.drop count
    index := c.index + c.octets count
    column := c.column + count }

/-- The characters with that property that come next, none of them a line break,
and the cursor after them. -/
def takeWhile (c : Cursor) (p : Char → Bool) : List Char × Cursor :=
  let taken := c.rest.takeWhile p
  (taken, c.skip taken.length)

/-- The cursor after blanks. -/
def skipBlanks (c : Cursor) : Cursor := (c.takeWhile isBlank).2

/-- The cursor at the end of the line. -/
def skipToBreak (c : Cursor) : Cursor := (c.takeWhile fun x => !isBreak x).2

/-- The cursor at the beginning of the next line, after `count` characters. -/
def newLine (c : Cursor) (count : Nat) : Cursor :=
  { rest := c.rest.drop count, index := c.index + c.octets count, line := c.line + 1, column := 0 }

/-- The text that a line break stands for and the cursor after it; no text if
there is none.  All line breaks count as a line feed but for the two separators
of lines and paragraphs, which stand for themselves. -/
def takeBreak (c : Cursor) : List Char × Cursor :=
  match c.rest with
  | '\r' :: '\n' :: _ => (['\n'], c.newLine 2)
  | x :: _ =>
    if x = '\u2028' ∨ x = '\u2029' then ([x], c.newLine 1)
    else if isBreak x then (['\n'], c.newLine 1)
    else ([], c)
  | [] => ([], c)

/-- The cursor after the blanks and the comment that may end a line, and after the
line break; none if something else stands there. -/
def finishLine? (c : Cursor) : Option Cursor :=
  let c := c.skipBlanks
  let c := if c.at? (· == '#') then c.skipToBreak else c
  if c.endsLine then some c.takeBreak.2 else none

/-- Whether a line begins here with that mark, on its own or as a word. -/
def atMark (c : Cursor) (mark : List Char) : Bool :=
  c.column == 0 && mark.isPrefixOf c.rest && (c.skip mark.length).endsWord

/-- Whether the mark of a document's beginning stands here. -/
def atDocumentStart (c : Cursor) : Bool := c.atMark ['-', '-', '-']

/-- Whether the mark of a document's end stands here. -/
def atDocumentEnd (c : Cursor) : Bool := c.atMark ['.', '.', '.']

/-- Reads the name of an anchor or alias.  A name is not empty and ends before a
blank, a line break, the end of the document, or one of a few marks. -/
def name? (c : Cursor) : Option (String × Cursor) :=
  let (name, c) := c.takeWhile isNameChar
  if name ≠ [] ∧ (c.endsWord || c.at? fun x => "?:,]\x7d%@\x60".contains x) then
    some (String.ofList name, c)
  else none

end Cursor

end PortletPage.Yaml
