import PortletPage.Yaml.Token.Lexer

/-!
# The nodes of a document

The tree of a document.  A node may be *anchored*: it has a number then, and an
alias with that number stands for it.  An anchor is numbered by how many different names
were anchored before it, so a number is given twice when a name is.  Of the nodes with one
number the last counts.

`Node.ofText?` reads the one document that a text may hold.  A text without any
is the empty node.  Every second call at least takes a token, so twice the number of
tokens, and some more, is fuel enough.
-/

namespace PortletPage.Yaml

/-! ## Trees -/

/-- A node of a document. -/
inductive Node where
  | scalar (tag : Option String) (style : Style) (text : String)
  | sequence (items : List Node)
  | mapping (entries : List (Node × Node))
  | alias (number : Nat)
  | anchored (number : Nat) (node : Node)
  deriving Repr

namespace Node

/-- The scalar that stands where nothing is written. -/
def empty : Node := .scalar none .plain ""

mutual

/-- The weight of a node in the limit on aliases: two for a collection and one
for each other node in it. -/
def weight : Node → Nat
  | .scalar _ _ _ | .alias _ => 1
  | .sequence items => 2 + weightItems items
  | .mapping entries => 2 + weightEntries entries
  | .anchored _ node => node.weight

/-- The weight of all items. -/
def weightItems : List Node → Nat
  | [] => 0
  | node :: rest => node.weight + weightItems rest

/-- The weight of all keys and values. -/
def weightEntries : List (Node × Node) → Nat
  | [] => 0
  | (key, value) :: rest => key.weight + value.weight + weightEntries rest

end

mutual

/-- The anchored nodes with their numbers, in the order in which they begin. -/
def anchors : Node → List (Nat × Node)
  | .scalar _ _ _ | .alias _ => []
  | .sequence items => anchorsOfItems items
  | .mapping entries => anchorsOfEntries entries
  | .anchored number node => (number, node) :: node.anchors

/-- The anchored nodes among items. -/
def anchorsOfItems : List Node → List (Nat × Node)
  | [] => []
  | node :: rest => node.anchors ++ anchorsOfItems rest

/-- The anchored nodes among keys and values. -/
def anchorsOfEntries : List (Node × Node) → List (Nat × Node)
  | [] => []
  | (key, value) :: rest => key.anchors ++ value.anchors ++ anchorsOfEntries rest

end

end Node

/-! ## Reading -/

/-- Where the reading of nodes has come to. -/
structure Reading where
  tokens : List Token
  /-- What tag handles stand for; of two entries the first counts. -/
  handles : List (String × String) := [("!", "!"), ("!!", "tag:yaml.org,2002:")]
  /-- The names that have been anchored, with their latest numbers. -/
  names : List (String × Nat) := []

/-- A reader of part of a document. -/
abbrev Reader := StateT Reading Option

namespace Reader

/-- The next token. -/
def peek : Reader (Option Token) := do return (← get).tokens.head?

/-- Takes the next token. -/
def skip : Reader Unit := modify fun r => { r with tokens := r.tokens.tail }

/-- Takes the next token if it is `t`, and says whether it was. -/
def skipIf (t : Token) : Reader Bool := do
  if (← peek) = some t then
    skip
    return true
  else return false

/-- Takes the comma before an item or entry, unless it is the first, and says
whether all is as it should be. -/
def divided (first : Bool) : Reader Bool := if first then return true else skipIf .comma

/-- Whether one of some tokens comes next. -/
def comes (ts : List Token) : Reader Bool := do
  match ← peek with
  | some t => return ts.contains t
  | none => return false

/-! ## Properties of nodes -/

/-- The number for a node that is anchored under a name. -/
def number (name : String) : Reader Nat := do
  let r ← get
  let number := r.names.length
  set { r with names := (name, number) :: r.names.filter fun entry => entry.1 != name }
  return number

/-- The tag that a handle and a suffix spell. -/
def resolve (handle suffix : String) : Reader String := do
  if handle = "" then return suffix
  else
    match (← get).handles.lookup handle with
    | some text => return text ++ suffix
    | none => failure

/-- Reads a tag, if there is one. -/
def tag? : Reader (Option String) := do
  match ← peek with
  | some (.tag handle suffix) =>
    skip
    return some (← resolve handle suffix)
  | _ => return none

/-- Reads an anchor, if there is one. -/
def anchor? : Reader (Option String) := do
  match ← peek with
  | some (.anchor name) =>
    skip
    return some name
  | _ => return none

/-- Reads an anchor and a tag, in either order. -/
def properties : Reader (Option String × Option String) := do
  match ← anchor? with
  | some name => return (some name, ← tag?)
  | none =>
    let tag ← tag?
    return (← anchor?, tag)

/-! ## Nodes -/

mutual

/-- Reads a node.  Block collections are read only where `block` says so, and
sequences that are not indented only where `level` says so. -/
def node : Nat → (block level : Bool) → Reader Node
  | 0, _, _ => failure
  | fuel + 1, block, level => do
    match ← peek with
    | some (.alias name) =>
      skip
      match (← get).names.lookup name with
      | some number => return .alias number
      | none => failure
    | _ =>
      let (anchor, tag) ← properties
      let number ← anchor.mapM number
      let body ← content fuel block level (anchor.isSome || tag.isSome) tag
      return match number with
        | some number => .anchored number body
        | none => body

/-- Reads a node after its properties.  With properties it may be left out. -/
def content : Nat → (block level mayBeEmpty : Bool) → Option String → Reader Node
  | 0, _, _, _, _ => failure
  | fuel + 1, block, level, mayBeEmpty, tag => do
    match ← peek with
    | some (.scalar style text) =>
      skip
      return .scalar tag style text
    | some .flowSequenceStart =>
      skip
      return .sequence (← flowItems fuel true [])
    | some .flowMappingStart =>
      skip
      return .mapping (← flowEntries fuel true [])
    | some .blockItem =>
      if level then return .sequence (← levelItems fuel []) else emptyContent mayBeEmpty tag
    | some .blockSequenceStart =>
      if block then
        skip
        return .sequence (← blockItems fuel [])
      else emptyContent mayBeEmpty tag
    | some .blockMappingStart =>
      if block then
        skip
        return .mapping (← blockEntries fuel [])
      else emptyContent mayBeEmpty tag
    | _ => emptyContent mayBeEmpty tag

/-- The empty scalar, where it may stand. -/
def emptyContent (mayBeEmpty : Bool) (tag : Option String) : Reader Node :=
  if mayBeEmpty then return .scalar tag .plain "" else failure

/-- Reads the items of a block sequence; `done` holds those read, last first. -/
def blockItems : Nat → List Node → Reader (List Node)
  | 0, _ => failure
  | fuel + 1, done => do
    if ← skipIf .blockEnd then return done.reverse
    else if ← skipIf .blockItem then
      let item ←
        if ← comes [.blockItem, .blockEnd] then pure .empty
        else node fuel true false
      blockItems fuel (item :: done)
    else failure

/-- Reads the items of a block sequence that is not indented. -/
def levelItems : Nat → List Node → Reader (List Node)
  | 0, _ => failure
  | fuel + 1, done => do
    if ← skipIf .blockItem then
      let item ←
        if ← comes [.blockItem, .key, .value, .blockEnd] then pure .empty
        else node fuel true false
      levelItems fuel (item :: done)
    else return done.reverse

/-- Reads the entries of a block mapping. -/
def blockEntries : Nat → List (Node × Node) → Reader (List (Node × Node))
  | 0, _ => failure
  | fuel + 1, done => do
    if ← skipIf .blockEnd then return done.reverse
    else if ← skipIf .key then
      let key ← blockPart fuel
      let value ← if ← skipIf .value then blockPart fuel else pure .empty
      blockEntries fuel ((key, value) :: done)
    else failure

/-- Reads the key or the value of a block mapping, which may be left out. -/
def blockPart : Nat → Reader Node
  | 0 => failure
  | fuel + 1 => do
    if ← comes [.key, .value, .blockEnd] then return .empty else node fuel true true

/-- Reads the items of a flow sequence.  A key makes an item a mapping of one entry. -/
def flowItems : Nat → (first : Bool) → List Node → Reader (List Node)
  | 0, _, _ => failure
  | fuel + 1, first, done => do
    if ← skipIf .flowSequenceEnd then return done.reverse
    else if ← divided first then
      if ← skipIf .flowSequenceEnd then return done.reverse
      else if ← skipIf .key then
        let key ←
          if ← comes [.value, .comma, .flowSequenceEnd] then
            skip
            pure .empty
          else node fuel false false
        let value ← if ← skipIf .value then flowPart fuel .flowSequenceEnd else pure .empty
        flowItems fuel false (.mapping [(key, value)] :: done)
      else
        let item ← node fuel false false
        flowItems fuel false (item :: done)
    else failure

/-- Reads a part of an entry, unless a comma or the token `last` comes next. -/
def flowPart : Nat → (last : Token) → Reader Node
  | 0, _ => failure
  | fuel + 1, last => do
    if ← comes [.comma, last] then return .empty else node fuel false false

/-- Reads the entries of a flow mapping.  A node that is not marked as a key has
no value. -/
def flowEntries : Nat → (first : Bool) → List (Node × Node) → Reader (List (Node × Node))
  | 0, _, _ => failure
  | fuel + 1, first, done => do
    if ← skipIf .flowMappingEnd then return done.reverse
    else if ← divided first then
      if ← skipIf .flowMappingEnd then return done.reverse
      else if ← skipIf .key then
        let key ←
          if ← comes [.value, .comma, .flowMappingEnd] then pure .empty
          else node fuel false false
        let value ← if ← skipIf .value then flowPart fuel .flowMappingEnd else pure .empty
        flowEntries fuel false ((key, value) :: done)
      else
        let key ← node fuel false false
        flowEntries fuel false ((key, .empty) :: done)
    else failure

end

/-! ## Documents -/

/-- Reads the directives before a document, and says whether there are any.  The
version may be given once, and what a handle stands for once for each handle. -/
def directives : Nat → (hasVersion : Bool) → (given : List (String × String)) → Reader Bool
  | 0, _, _ => failure
  | fuel + 1, hasVersion, given => do
    match ← peek with
    | some (.version major minor) =>
      if hasVersion ∨ major ≠ 1 ∨ (minor ≠ 1 ∧ minor ≠ 2) then failure
      else
        skip
        directives fuel true given
    | some (.tagHandle handle text) =>
      if (given.lookup handle).isSome then failure
      else
        skip
        directives fuel hasVersion ((handle, text) :: given)
    | _ =>
      modify fun r => { r with handles := given ++ r.handles }
      return hasVersion || !given.isEmpty

/-- Whether a token can stand only before or after a document. -/
def isOutside : Token → Bool
  | .version _ _ | .tagHandle _ _ | .documentStart | .documentEnd => true
  | _ => false

/-- Reads the document, if there is one. -/
def document (fuel : Nat) : Reader Node := do
  let announced ← directives fuel false []
  if ← skipIf .documentStart then
    match ← peek with
    | some t => if isOutside t then return .empty else node fuel true false
    | none => return .empty
  else if announced then failure
  else
    match ← peek with
    | some _ => node fuel true false
    | none => return .empty

/-- Reads the one document that there may be and all that comes after. -/
def whole (fuel : Nat) : Reader Node := do
  let node ← document fuel
  if (← get).tokens.all (· = .documentEnd) then return node else failure

end Reader

/-- The one document that a text holds. -/
def Node.ofText? (s : String) : Option Node := do
  let tokens ← Token.lex s.toList
  (Reader.whole (4 * tokens.length + 4)).run' { tokens := tokens }

end PortletPage.Yaml
