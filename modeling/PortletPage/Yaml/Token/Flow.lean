import PortletPage.Text
import PortletPage.Yaml.Cursor

/-!
# Plain and quoted scalars

The texts of scalars that flow over lines.  Between words, blanks stand for
themselves as long as no line ends there.  A line break becomes a space, and
further line breaks stand for themselves in its stead.

A loop reads at least one character in each turn, so the length of what is left
is fuel enough.
-/

namespace PortletPage.Yaml.Flow

/-! ## Between words -/

/-- What stands between two words. -/
inductive Gap where
  /-- Blanks on one line. -/
  | blanks (text : List Char)
  /-- The first line break and the others. -/
  | breaks (first more : List Char)
  deriving Repr

/-- The text that a gap stands for. -/
def Gap.fold : Gap → List Char
  | .blanks text => text
  | .breaks first more =>
    if first = ['\n'] then (if more = [] then [' '] else more) else first ++ more

/-- Whether the gap goes over a line break. -/
def Gap.isBroken : Gap → Bool
  | .blanks _ => false
  | .breaks _ _ => true

/-- The gap and the cursor after all blanks and line breaks.  A tab in a column
before `margin` is refused. -/
def gap? (margin : Nat) : Nat → Gap → Cursor → Option (Gap × Cursor)
  | 0, _, _ => none
  | fuel + 1, g, c =>
    match c.rest with
    | x :: _ =>
      if isBlank x then
        match g with
        | .blanks text => gap? margin fuel (.blanks (text ++ [x])) (c.skip 1)
        | .breaks _ _ =>
          if x = '\t' ∧ c.column < margin then none else gap? margin fuel g (c.skip 1)
      else if isBreak x then
        let (text, c) := c.takeBreak
        match g with
        | .blanks _ => gap? margin fuel (.breaks text []) c
        | .breaks first more => gap? margin fuel (.breaks first (more ++ text)) c
      else some (g, c)
    | [] => some (g, c)

/-! ## Plain scalars -/

/-- Whether the word of a plain scalar ends before a character: at a colon that
ends a word, and inside a flow collection also at a comma or bracket. -/
def endsPlain (inFlow : Bool) (c : Cursor) : Bool :=
  c.endsWord || (c.at? (· == ':') && (c.skip 1).endsWord)
    || (inFlow && c.at? fun x => x == ',' || isBracket x)

/-- Whether a colon stands where a plain scalar of a flow collection allows none. -/
def hasStrayColon (inFlow : Bool) (c : Cursor) : Bool :=
  inFlow && c.at? (· == ':') && (c.skip 1).at? fun x => x == ',' || x == '?' || isBracket x

/-- Reads a word of a plain scalar; `done` is what comes before it, last first. -/
def plainWord? (inFlow : Bool) : Nat → List Char → Cursor → Option (List Char × Cursor)
  | 0, _, _ => none
  | fuel + 1, done, c =>
    if hasStrayColon inFlow c then none
    else if endsPlain inFlow c then some (done, c)
    else
      match c.rest with
      | x :: _ => plainWord? inFlow fuel (x :: done) (c.skip 1)
      | [] => some (done, c)

/-- A plain scalar that has been read. -/
structure Plain where
  text : List Char
  /-- Whether a line ended after its last word. -/
  isBroken : Bool
  /-- The cursor at what follows. -/
  next : Cursor

/-- Reads words of a plain scalar.  `done` holds what has been read, last first,
`g` what stands before the next word, and the lines of a block begin at `margin`. -/
def plainWords? (inFlow : Bool) (margin : Nat) : Nat → List Char → Gap → Cursor → Option Plain
  | 0, _, _, _ => none
  | fuel + 1, done, g, c =>
    let ended : Plain := ⟨done.reverse, g.isBroken, c⟩
    if c.atDocumentStart || c.atDocumentEnd || c.at? (· == '#') then some ended
    else if hasStrayColon inFlow c then none
    else if endsPlain inFlow c then some ended
    else do
      let (done, c) ← plainWord? inFlow (c.rest.length + 1) (g.fold.reverse ++ done) c
      if c.at? fun x => isBlank x || isBreak x then
        let (g, c) ← gap? margin (c.rest.length + 1) (.blanks []) c
        if !inFlow && c.column < margin then some ⟨done.reverse, g.isBroken, c⟩
        else plainWords? inFlow margin fuel done g c
      else some ⟨done.reverse, false, c⟩

/-- Reads a plain scalar. -/
def plain? (inFlow : Bool) (margin : Nat) (c : Cursor) : Option Plain :=
  plainWords? inFlow margin (c.rest.length + 1) [] (.blanks []) c

/-! ## Quoted scalars -/

/-- The character for the letter of a short escape. -/
def shortEscape? (c : Char) : Option Char :=
  if c = '0' then some '\x00'
  else if c = 'a' then some '\x07'
  else if c = 'b' then some '\x08'
  else if c = 't' ∨ c = '\t' then some '\t'
  else if c = 'n' then some '\n'
  else if c = 'v' then some '\x0b'
  else if c = 'f' then some '\x0c'
  else if c = 'r' then some '\r'
  else if c = 'e' then some '\x1b'
  else if c = ' ' ∨ c = '"' ∨ c = '/' ∨ c = '\\' then some c
  else if c = 'N' then some '\u0085'
  else if c = '_' then some '\u00a0'
  else if c = 'L' then some '\u2028'
  else if c = 'P' then some '\u2029'
  else none

/-- How many hexadecimal digits follow the letter of an escape. -/
def escapeWidth? (c : Char) : Option Nat :=
  if c = 'x' then some 2 else if c = 'u' then some 4 else if c = 'U' then some 8 else none

/-- The character with that number, if there is one. -/
def charOfNumber? (n : Nat) : Option Char :=
  if n.isValidChar then some (Char.ofNat n) else none

/-- Reads an escape after its backslash. -/
def escape? (c : Cursor) : Option (Char × Cursor) :=
  match c.rest with
  | [] => none
  | x :: digits =>
    match shortEscape? x with
    | some e => some (e, c.skip 1)
    | none => do
      let width ← escapeWidth? x
      let number ← if digits.length < width then none else Text.hexNumber? (digits.take width)
      return (← charOfNumber? number, c.skip (width + 1))

/-- Reads a quoted scalar after its opening mark, up to and including the closing
one; `done` is what has been read, last first. -/
def quoted? (mark : Char) : Nat → List Char → Cursor → Option (List Char × Cursor)
  | 0, _, _ => none
  | fuel + 1, done, c =>
    if c.atDocumentStart || c.atDocumentEnd then none
    else
      match c.rest with
      | [] => none
      | x :: rest =>
        if isBlank x || isBreak x then do
          let (g, c) ← gap? 0 (c.rest.length + 1) (.blanks []) c
          quoted? mark fuel (g.fold.reverse ++ done) c
        else if x = mark then
          if mark = '\x27' ∧ rest.head? = some mark then quoted? mark fuel (mark :: done) (c.skip 2)
          else some (done.reverse, c.skip 1)
        else if mark = '"' ∧ x = '\\' then
          if (c.skip 1).at? isBreak then do
            let (g, c) ← gap? 0 (c.rest.length + 1) (.breaks [] []) (c.skip 1).takeBreak.2
            quoted? mark fuel (g.fold.reverse ++ done) c
          else do
            let (e, c) ← escape? (c.skip 1)
            quoted? mark fuel (e :: done) c
        else quoted? mark fuel (x :: done) (c.skip 1)

end PortletPage.Yaml.Flow
