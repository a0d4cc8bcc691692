import PortletPage.Text
import PortletPage.Yaml.Cursor

/-!
# Tokens

The words of a document.  Where blocks and keys begin and end is shown by
indentation and line structure; among the tokens it stands in so many words.

Two kinds of words are read here.  A tag is a sequence of octets.  Its escapes spell
characters in UTF-8; the octets are kept as characters of the same number, which are
otherwise all ASCII.  What is written after an escaped NUL is read, but is no part of the
tag.  Directives are the lines before a document that tell the version of YAML and what
tag handles stand for.
-/

namespace PortletPage.Yaml

/-- How a scalar is written. -/
inductive Style where
  | plain
  | quoted
  | literal
  | folded
  deriving DecidableEq, Repr

/-- A word of a document. -/
inductive Token where
  /-- The version that the document is written in. -/
  | version (major minor : Nat)
  /-- What a tag handle stands for. -/
  | tagHandle (handle text : String)
  | documentStart
  | documentEnd
  | blockSequenceStart
  | blockMappingStart
  /-- The end of a block sequence or block mapping. -/
  | blockEnd
  | flowSequenceStart
  | flowSequenceEnd
  | flowMappingStart
  | flowMappingEnd
  /-- An item of a block sequence follows. -/
  | blockItem
  /-- Divides the items of a flow collection. -/
  | comma
  /-- A key follows. -/
  | key
  /-- The value of a key follows. -/
  | value
  | alias (name : String)
  | anchor (name : String)
  | tag (handle suffix : String)
  | scalar (style : Style) (text : String)
  deriving DecidableEq, Repr

end PortletPage.Yaml

namespace PortletPage.Yaml.Tag

/-! ## Tags -/

/-- How many octets a character takes whose first octet is `octet`. -/
def width? (octet : Nat) : Option Nat :=
  if octet < 0x80 then some 1
  else if 0xC0 ≤ octet ∧ octet < 0xE0 then some 2
  else if 0xE0 ≤ octet ∧ octet < 0xF0 then some 3
  else if 0xF0 ≤ octet ∧ octet < 0xF8 then some 4
  else none

/-- Reads one escaped octet. -/
def octet? (c : Cursor) : Option (Nat × Cursor) :=
  match c.rest with
  | '%' :: a :: b :: _ => (Text.hexNumber? [a, b]).map fun octet => (octet, c.skip 3)
  | _ => none

/-- Reads as many further octets of an escaped character. -/
def octets? : Nat → Cursor → Option (List Char × Cursor)
  | 0, c => some ([], c)
  | count + 1, c => do
    let (octet, c) ← octet? c
    if 0x80 ≤ octet ∧ octet < 0xC0 then
      let (octets, c) ← octets? count c
      return (Char.ofNat octet :: octets, c)
    else none

/-- Reads an escaped character. -/
def escape? (c : Cursor) : Option (List Char × Cursor) := do
  let (octet, c) ← octet? c
  let (octets, c) ← octets? ((← width? octet) - 1) c
  return (Char.ofNat octet :: octets, c)

/-- Reads characters of a tag; `done` holds those read, last first. -/
def chars? (extra : String) : Nat → List Char → Cursor → Option (List Char × Cursor)
  | 0, _, _ => none
  | fuel + 1, done, c =>
    match c.rest with
    | [] => some (done.reverse, c)
    | x :: _ =>
      if x = '%' then do
        let (octets, c) ← escape? c
        chars? extra fuel (octets.reverse ++ done) c
      else if isTagChar x || extra.contains x then chars? extra fuel (x :: done) (c.skip 1)
      else some (done.reverse, c)

/-- Reads what follows `start` in a tag without angle brackets. -/
def suffix? (start : List Char) (c : Cursor) : Option (List Char × Cursor) :=
  chars? "" (c.rest.length + 1) start.reverse c

/-- Reads a tag without its exclamation mark in angle brackets, or the text that a
handle stands for; either is not empty and may hold commas and brackets. -/
def full? (c : Cursor) : Option (List Char × Cursor) := do
  let (text, c) ← chars? ",[]" (c.rest.length + 1) [] c
  if text = [] then none else some (text, c)

/-- Reads a handle: an exclamation mark, or a name between two.  If the second is
missing, what has been read is the beginning of a tag. -/
def handle? (c : Cursor) : Option (List Char × Cursor) :=
  if c.at? (· == '!') then
    let (name, c) := (c.skip 1).takeWhile isNameChar
    if c.at? (· == '!') then some ('!' :: name ++ ['!'], c.skip 1) else some ('!' :: name, c)
  else none

/-- Whether what has been read as a handle is one that has a name or is `!!`. -/
def isNamed (handle : List Char) : Bool := handle.length > 1 && handle.getLast? == some '!'

/-- The text of a tag, or of part of one, that is written with these octets. -/
def textOf (octets : List Char) : String :=
  String.ofList (octets.takeWhile fun octet => octet != '\x00')

/-- Reads a tag: the whole of it in angle brackets, a handle with a suffix, or a
suffix alone, to which the handle `!` is added.  The tag `!` is a suffix without
handle.  After a handle with a name something has to be written. -/
def tag? (c : Cursor) : Option (Token × Cursor) :=
  match c.rest with
  | '!' :: '<' :: _ => do
    let (text, c) ← full? (c.skip 2)
    if c.at? (· == '>') then some (.tag "" (textOf text), c.skip 1) else none
  | _ => do
    let (start, c) ← handle? c
    if isNamed start then
      let (suffix, c) ← suffix? [] c
      if suffix = [] then none else some (.tag (String.ofList start) (textOf suffix), c)
    else
      let (suffix, c) ← suffix? start.tail c
      return (if textOf suffix = "" then .tag "" "!" else .tag "!" (textOf suffix), c)

/-- Reads a tag, which ends a word, or stands before a comma in a flow collection. -/
def token? (inFlow : Bool) (c : Cursor) : Option (Token × Cursor) := do
  let (token, c) ← tag? c
  if c.endsWord || (inFlow && c.at? (· == ',')) then some (token, c) else none

end PortletPage.Yaml.Tag

namespace PortletPage.Yaml.Directive

/-! ## Directives -/

/-- Reads a number of at most nine digits. -/
def number? (c : Cursor) : Option (Nat × Cursor) :=
  let (digits, c) := c.takeWhile Char.isDigit
  if digits ≠ [] ∧ digits.length ≤ 9 then
    some (digits.foldl (fun n d => n * 10 + (d.toNat - 48)) 0, c)
  else none

/-- Reads the version of a version directive. -/
def version? (c : Cursor) : Option (Token × Cursor) := do
  let (major, c) ← number? c.skipBlanks
  if c.at? (· == '.') then
    let (minor, c) ← number? (c.skip 1)
    return (.version major minor, c)
  else none

/-- Reads the handle of a tag directive and what it stands for. -/
def tagHandle? (c : Cursor) : Option (Token × Cursor) := do
  let (handle, c) ← Tag.handle? c.skipBlanks
  if (handle.length = 1 ∨ Tag.isNamed handle) ∧ c.at? isBlank then
    let (text, c) ← Tag.full? c.skipBlanks
    if c.endsWord then some (.tagHandle (String.ofList handle) (Tag.textOf text), c) else none
  else none

/-- Reads a directive with the line that it stands on. -/
def token? (c : Cursor) : Option (Token × Cursor) := do
  let (name, c) := (c.skip 1).takeWhile isNameChar
  if c.endsWord then
    let (token, c) ←
      if name = ['Y', 'A', 'M', 'L'] then version? c
      else if name = ['T', 'A', 'G'] then tagHandle? c
      else none
    return (token, ← c.finishLine?)
  else none

end PortletPage.Yaml.Directive
