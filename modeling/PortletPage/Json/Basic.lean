/-!
# JSON documents

The tree of a JSON text, before anything is made of it.  The tree keeps what a
reader of records needs and what a plain value would lose:

* members of an object in the order in which they stand, repeated names included;
* strings whose escapes leave a surrogate unpaired: they are well formed, but
  denote no text, and are kept as `none`;
* numbers as written, `magnitude` times ten to the `exponent` after the sign, whatever
  their size; so there is a negative zero, which is no integer.

A reader refuses such a string or number only where it wants its value.

A number is wanted in binary64, whose numbers have 53 significant bits, and must have a
finite value there.  The value is the product of two numbers of the format.  One is made
of the leading digits, as many as fit in 64 bits; the other is the power of ten that moves
them to their place.  Each is rounded before they are multiplied, so of two spellings of
one number close to the bound, one may be finite and the other not.  A number that is
divided by a power of ten is never too large.

`Json.normalize` is the value of a tree where the order of members means nothing:
members are sorted by name, and of repeated names the last one counts.
-/

namespace PortletPage.Json

/-! ## Numbers of finite value -/

/-- The leading digits of `n` that fit in 64 bits, and how many digits follow them. -/
def leading (n : Nat) : Nat × Nat :=
  if n < 18446744073709551616 then (n, 0)
  else (leading (n / 10)).map id (· + 1)
termination_by n
decreasing_by omega

/-- The number with at most 53 significant bits that is nearest to `n`; between two,
the one whose last significant bit is zero. -/
def rounded (n : Nat) : Nat :=
  let unit := Nat.pow 2 (n.log2 - 52)
  let below := n / unit
  let rest := n % unit
  if 2 * rest < unit ∨ (2 * rest = unit ∧ below % 2 = 0) then below * unit
  else (below + 1) * unit

/-- A number of at most 53 bits is not changed. -/
theorem rounded_of_log2_le {n : Nat} (h : n.log2 ≤ 52) : rounded n = n := by
  have : n.log2 - 52 = 0 := by omega
  simp [rounded, this, Nat.mod_one]

/-- From here on, products round to infinity. -/
def finiteBound : Nat := Nat.pow 2 1024 - Nat.pow 2 970

/-- Whether `magnitude` times ten to the `exponent` has a finite value. -/
def isFinite (magnitude : Nat) (exponent : Int) : Bool :=
  let power := exponent + (leading magnitude).2
  magnitude = 0 || power < 0 ||
    (power ≤ 308 &&
      rounded (leading magnitude).1 * rounded (Nat.pow 10 power.toNat) < finiteBound)

end PortletPage.Json

namespace PortletPage

/-! ## Trees -/

/-- A JSON text as a tree. -/
inductive Json where
  | null
  | bool (b : Bool)
  | number (negative : Bool) (magnitude : Nat) (exponent : Int)
  | text (s : Option String)
  | array (items : List Json)
  | object (members : List (Option String × Json))
  deriving Repr, BEq, Inhabited

namespace Json

/-- The string `s`. -/
def str (s : String) : Json := .text (some s)

/-- The integer `n`. -/
def int (n : Int) : Json := .number (n < 0) n.natAbs 0

/-- The object with the given members. -/
def record (members : List (String × Json)) : Json :=
  .object (members.map fun member => (some member.1, member.2))

mutual

/-- How deeply arrays and objects are nested. -/
def depth : Json → Nat
  | .array items => depthItems items + 1
  | .object members => depthMembers members + 1
  | _ => 0

/-- The greatest depth of an item. -/
def depthItems : List Json → Nat
  | [] => 0
  | j :: rest => max j.depth (depthItems rest)

/-- The greatest depth of a member. -/
def depthMembers : List (Option String × Json) → Nat
  | [] => 0
  | (_, j) :: rest => max j.depth (depthMembers rest)

end

mutual

/-- Whether every string denotes a text and every number has a finite value. -/
def isSound : Json → Bool
  | .number _ magnitude exponent => isFinite magnitude exponent
  | .text s => s.isSome
  | .array items => isSoundItems items
  | .object members => isSoundMembers members
  | _ => true

/-- `isSound` of every item. -/
def isSoundItems : List Json → Bool
  | [] => true
  | j :: rest => j.isSound && isSoundItems rest

/-- `isSound` of every member, its name included. -/
def isSoundMembers : List (Option String × Json) → Bool
  | [] => true
  | (name, j) :: rest => name.isSome && j.isSound && isSoundMembers rest

end

/-- The deepest nesting that a reader of values accepts. -/
def maxDepth : Nat := 127

/-! ## Values without order -/

/-- Puts a member into sorted members; one of the same name is replaced. -/
def insertMember (name : Option String) (j : Json) :
    List (Option String × Json) → List (Option String × Json)
  | [] => [(name, j)]
  | (n, k) :: rest =>
    if name = n then (name, j) :: rest
    else if name.getD "" < n.getD "" then (name, j) :: (n, k) :: rest
    else (n, k) :: insertMember name j rest

mutual

/-- The value of a tree, members sorted and without repetition at every level. -/
def normalize : Json → Json
  | .array items => .array (normalizeItems items)
  | .object members => .object (normalizeMembers [] members)
  | j => j

/-- The values of the items. -/
def normalizeItems : List Json → List Json
  | [] => []
  | j :: rest => j.normalize :: normalizeItems rest

/-- Puts the values of members, one after the other, into those sorted already. -/
def normalizeMembers (sorted : List (Option String × Json)) :
    List (Option String × Json) → List (Option String × Json)
  | [] => sorted
  | (name, j) :: rest => normalizeMembers (insertMember name j.normalize sorted) rest

end

end Json

end PortletPage
