import PortletPage.Yaml.Token.Basic
import PortletPage.Yaml.Token.Block
import PortletPage.Yaml.Token.Flow

/-!
# The tokens of a document

`Token.lex` splits a text into tokens.

A block collection begins where a key or an item stands further to the right
than the collection around it, and ends before a line that begins further to the
left.  A key is known as one only by the colon after it.  So the lexer remembers
where the latest key may have begun, its *candidate*; at a colon the key, and
perhaps a new mapping, is put there among the tokens.  A candidate must be
followed by its colon on the same line and within 1024 octets of UTF-8.

Every step but the last reads at least one character, so the length of the text
is fuel enough.
-/

namespace PortletPage.Yaml

/-- A place where a key may begin. -/
structure Candidate where
  /-- How many tokens come before. -/
  position : Nat
  index : Nat
  line : Nat
  column : Nat
  /-- Whether nothing but a key may stand here. -/
  required : Bool
  deriving Repr

/-- A text that has been split up to some place. -/
structure Lexer where
  cursor : Cursor
  /-- The tokens so far, last first. -/
  tokens : List Token := []
  /-- The first column to the right of the innermost block collection; zero
  outside of all. -/
  margin : Nat := 0
  /-- The margins around the innermost block collection, innermost first. -/
  outer : List Nat := []
  /-- Whether a key may begin here. -/
  keyAllowed : Bool := true
  /-- The candidate on the present level of flow collections. -/
  candidate : Option Candidate := none
  /-- The candidates on the levels around it, innermost first. -/
  levels : List (Option Candidate) := []
  deriving Repr

namespace Lexer

/-- Whether a flow collection is open. -/
def inFlow (l : Lexer) : Bool := !l.levels.isEmpty

/-- Adds a token and goes on at `c`. -/
def emit (l : Lexer) (t : Token) (c : Cursor) : Lexer :=
  { l with tokens := t :: l.tokens, cursor := c }

/-! ## Candidates -/

/-- Drops the candidate, which must not be required. -/
def dropKey (l : Lexer) : Option Lexer :=
  match l.candidate with
  | some k => if k.required then none else some { l with candidate := none }
  | none => some l

/-- Makes this place the candidate if a key may begin here. -/
def offerKey (l : Lexer) : Option Lexer :=
  if l.keyAllowed then do
    let l ← l.dropKey
    let c := l.cursor
    return { l with
      candidate := some {
        position := l.tokens.length
        index := c.index
        line := c.line
        column := c.column
        required := !l.inFlow && l.margin == c.column + 1 } }
  else some l

/-- The candidate unless its colon can no longer follow. -/
def keep? (c : Cursor) : Option Candidate → Option (Option Candidate)
  | none => some none
  | some k =>
    if k.line < c.line ∨ k.index + 1024 < c.index then
      if k.required then none else some none
    else some (some k)

/-- Drops the candidates on all levels whose colon can no longer follow. -/
def expireKeys (l : Lexer) : Option Lexer := do
  return { l with
    candidate := ← keep? l.cursor l.candidate
    levels := ← l.levels.mapM (keep? l.cursor) }

/-! ## Block collections -/

/-- Puts a token at a position among the tokens, which stand last first. -/
def insertAt (tokens : List Token) (position : Nat) (t : Token) : List Token :=
  let later := tokens.length - position
  tokens.take later ++ t :: tokens.drop later

/-- Begins a block collection at a column, if it lies to the right of the innermost one. -/
def openBlock (l : Lexer) (column position : Nat) (t : Token) : Lexer :=
  if !l.inFlow && l.margin ≤ column then
    { l with
      tokens := insertAt l.tokens position t
      margin := column + 1
      outer := l.margin :: l.outer }
  else l

/-- Ends block collections until the margin is at most `limit`. -/
def closeFrom (limit : Nat) : Nat → List Nat → List Token → Nat × List Nat × List Token
  | margin, [], tokens => (margin, [], tokens)
  | margin, m :: outer, tokens =>
    if limit < margin then closeFrom limit m outer (.blockEnd :: tokens)
    else (margin, m :: outer, tokens)

/-- Ends the block collections whose margin lies to the right of `limit`. -/
def closeBlocks (l : Lexer) (limit : Nat) : Lexer :=
  if l.inFlow then l
  else
    let (margin, outer, tokens) := closeFrom limit l.margin l.outer l.tokens
    { l with margin := margin, outer := outer, tokens := tokens }

/-! ## Tokens -/

/-- A mark or directive that stands outside of all block collections. -/
def outside (l : Lexer) (t : Token) (c : Cursor) : Option Lexer := do
  let l ← (l.closeBlocks 0).dropKey
  return { l with keyAllowed := false }.emit t c

/-- The beginning of a flow collection. -/
def openFlow (l : Lexer) (t : Token) : Option Lexer := do
  let l ← l.offerKey
  return { l with
    candidate := none
    levels := l.candidate :: l.levels
    keyAllowed := true }.emit t (l.cursor.skip 1)

/-- The end of a flow collection. -/
def closeFlow (l : Lexer) (t : Token) : Option Lexer := do
  let l ← l.dropKey
  let (candidate, levels) := match l.levels with
    | k :: levels => (k, levels)
    | [] => (none, [])
  return { l with
    candidate := candidate
    levels := levels
    keyAllowed := false }.emit t (l.cursor.skip 1)

/-- A comma. -/
def comma (l : Lexer) : Option Lexer := do
  let l ← l.dropKey
  return { l with keyAllowed := true }.emit .comma (l.cursor.skip 1)

/-- The dash before an item of a block sequence. -/
def blockItem (l : Lexer) : Option Lexer :=
  if !l.inFlow && !l.keyAllowed then none
  else do
    let l ← (l.openBlock l.cursor.column l.tokens.length .blockSequenceStart).dropKey
    return { l with keyAllowed := true }.emit .blockItem (l.cursor.skip 1)

/-- The question mark before a key. -/
def markedKey (l : Lexer) : Option Lexer :=
  if !l.inFlow && !l.keyAllowed then none
  else do
    let l ← (l.openBlock l.cursor.column l.tokens.length .blockMappingStart).dropKey
    return { l with keyAllowed := !l.inFlow }.emit .key (l.cursor.skip 1)

/-- The colon before a value: after a candidate that proves to be a key, or after
a key that was marked or left out. -/
def value (l : Lexer) : Option Lexer :=
  match l.candidate with
  | some k =>
    let l := { l with tokens := insertAt l.tokens k.position .key }
    let l := l.openBlock k.column k.position .blockMappingStart
    some ({ l with candidate := none, keyAllowed := false }.emit .value (l.cursor.skip 1))
  | none =>
    if !l.inFlow && !l.keyAllowed then none
    else
      let l := l.openBlock l.cursor.column l.tokens.length .blockMappingStart
      some ({ l with keyAllowed := !l.inFlow }.emit .value (l.cursor.skip 1))

/-- A token with which a key may begin. -/
def word (l : Lexer) (t : Token) (c : Cursor) : Option Lexer := do
  return { ← l.offerKey with keyAllowed := false }.emit t c

/-- A block scalar. -/
def blockScalar (l : Lexer) (literal : Bool) : Option Lexer := do
  let l ← l.dropKey
  let (text, c) ← Block.scalar? literal l.margin (l.cursor.skip 1)
  let style := if literal then Style.literal else Style.folded
  return { l with keyAllowed := true }.emit (.scalar style (String.ofList text)) c

/-- A quoted scalar. -/
def quotedScalar (l : Lexer) (mark : Char) : Option Lexer := do
  let c := l.cursor.skip 1
  let (text, c) ← Flow.quoted? mark (c.rest.length + 1) [] c
  l.word (.scalar .quoted (String.ofList text)) c

/-- A plain scalar.  A key may begin after it if its last line has ended. -/
def plainScalar (l : Lexer) : Option Lexer := do
  let p ← Flow.plain? l.inFlow l.margin l.cursor
  let l ← l.word (.scalar .plain (String.ofList p.text)) p.next
  return { l with keyAllowed := p.isBroken }

/-- The cursor at the next token, and whether a line has ended before it.  A tab
does not divide tokens where a block collection may begin. -/
def skipSpace : Nat → Bool → Bool → Cursor → Cursor × Bool
  | 0, _, keyAllowed, c => (c, keyAllowed)
  | fuel + 1, inFlow, keyAllowed, c =>
    let c := if c.column = 0 ∧ c.at? (· == '\ufeff') then c.skip 1 else c
    let c := (c.takeWhile fun x => x == ' ' || (x == '\t' && (inFlow || !keyAllowed))).2
    let c := if c.at? (· == '#') then c.skipToBreak else c
    if c.at? isBreak then skipSpace fuel inFlow (!inFlow || keyAllowed) c.takeBreak.2
    else (c, keyAllowed)

/-- Whether a plain scalar may begin with a character, if `next` follows. -/
def beginsPlain (inFlow : Bool) (x : Char) (next : Cursor) : Bool :=
  if x == '-' then !next.at? isBlank
  else if x == '?' || x == ':' then !inFlow && !next.endsWord
  else !(isBlank x || ",[]\x7b\x7d#&*!|>\x27\x22%@\x60".contains x)

/-- Reads the token that begins with character `x`. -/
def token (l : Lexer) (x : Char) : Option Lexer := do
  let c := l.cursor
  let next := c.skip 1
  if c.column = 0 ∧ x = '%' then
    let (t, c) ← Directive.token? c
    l.outside t c
  else if c.atDocumentStart then l.outside .documentStart (c.skip 3)
  else if c.atDocumentEnd then l.outside .documentEnd (c.skip 3)
  else if x = '[' then l.openFlow .flowSequenceStart
  else if x = '{' then l.openFlow .flowMappingStart
  else if x = ']' then l.closeFlow .flowSequenceEnd
  else if x = '}' then l.closeFlow .flowMappingEnd
  else if x = ',' then l.comma
  else if x = '-' ∧ next.endsWord then l.blockItem
  else if x = '?' ∧ (l.inFlow || next.endsWord) then l.markedKey
  else if x = ':' ∧ (l.inFlow || next.endsWord) then l.value
  else if x = '*' then
    let (name, c) ← next.name?
    l.word (.alias name) c
  else if x = '&' then
    let (name, c) ← next.name?
    l.word (.anchor name) c
  else if x = '!' then
    let (t, c) ← Tag.token? l.inFlow c
    l.word t c
  else if x = '|' ∧ !l.inFlow then l.blockScalar true
  else if x = '>' ∧ !l.inFlow then l.blockScalar false
  else if x = '\x27' ∨ x = '"' then l.quotedScalar x
  else if beginsPlain l.inFlow x next then l.plainScalar
  else none

/-- The lexer at the next token, with all block collections ended that do not
reach as far to the right. -/
def approach (l : Lexer) : Option Lexer := do
  let (c, keyAllowed) := skipSpace (l.cursor.rest.length + 1) l.inFlow l.keyAllowed l.cursor
  let l ← { l with cursor := c, keyAllowed := keyAllowed }.expireKeys
  return l.closeBlocks (c.column + 1)

/-- All tokens in order. -/
def run : Nat → Lexer → Option (List Token)
  | 0, _ => none
  | fuel + 1, l => do
    let l ← l.approach
    match l.cursor.rest with
    | x :: _ => run fuel (← l.token x)
    | [] =>
      let l ← (l.closeBlocks 0).dropKey
      return l.tokens.reverse

end Lexer

/-- The tokens of a text in which only allowed characters stand. -/
def Token.lex (text : List Char) : Option (List Token) :=
  if text.all isAllowed then Lexer.run (text.length + 1) { cursor := { rest := text } } else none

end PortletPage.Yaml
