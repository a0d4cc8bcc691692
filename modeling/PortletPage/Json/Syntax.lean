import PortletPage.Json.Basic
import PortletPage.Json.Text

/-!
# Writing and reading JSON texts

`Json.print` writes a tree without blanks, members in the order in which they
stand.

`Json.parse` accepts exactly the JSON grammar: one value, with blanks around it
and nothing else.  The depth of nesting is not limited here; that is for those
who want a value (`Json.maxDepth`).  Every call reads at least one character before it
calls on, so the length of the text is fuel enough.
-/

namespace PortletPage.Json

/-! ## Writing -/

/-- The text of an integer. -/
def printInt : Int → List Char
  | .ofNat n => Nat.toDigits 10 n
  | .negSucc n => '-' :: Nat.toDigits 10 (n + 1)

/-- The text of a number.  A fraction tells the negative zero from the integer. -/
def printNumber (negative : Bool) (magnitude : Nat) (exponent : Int) : List Char :=
  (if negative then ['-'] else []) ++ Nat.toDigits 10 magnitude ++
    (if exponent ≠ 0 then 'e' :: printInt exponent
     else if negative ∧ magnitude = 0 then ['.', '0'] else [])

/-- The text of a string; one that denotes no text is written as a lone half. -/
def printText : Option String → List Char
  | some s => Text.encode s
  | none => ['"', '\\', 'u', 'd', '8', '0', '0', '"']

mutual

/-- The characters of a value. -/
def chars : Json → List Char
  | .null => ['n', 'u', 'l', 'l']
  | .bool true => ['t', 'r', 'u', 'e']
  | .bool false => ['f', 'a', 'l', 's', 'e']
  | .number negative magnitude exponent => printNumber negative magnitude exponent
  | .text s => printText s
  | .array items => '[' :: charsItems items ++ [']']
  | .object members => '{' :: charsMembers members ++ ['}']

/-- The characters of the items of an array, with commas between them. -/
def charsItems : List Json → List Char
  | [] => []
  | [j] => j.chars
  | j :: rest => j.chars ++ ',' :: charsItems rest

/-- The characters of the members of an object, with commas between them. -/
def charsMembers : List (Option String × Json) → List Char
  | [] => []
  | [(name, j)] => printText name ++ ':' :: j.chars
  | (name, j) :: rest => printText name ++ ':' :: j.chars ++ ',' :: charsMembers rest

end

/-- The text of a value. -/
def print (j : Json) : String := String.ofList j.chars

/-! ## Reading blanks -/

/-- The four blanks of JSON. -/
def isBlank (c : Char) : Bool := c == ' ' || c == '\n' || c == '\t' || c == '\r'

/-- What follows the blanks. -/
def skipBlanks : List Char → List Char
  | c :: rest => if isBlank c then skipBlanks rest else c :: rest
  | [] => []

/-! ## Reading numbers -/

/-- Whether `c` is a decimal digit. -/
def isDigit (c : Char) : Bool := '0' ≤ c && c ≤ '9'

/-- The value of a sequence of decimal digits. -/
def digitsValue (ds : List Char) : Nat := ds.foldl (fun n c => n * 10 + (c.toNat - 48)) 0

/-- Reads the digits after a decimal point, if there is one. -/
def fraction? : List Char → Option (List Char × List Char)
  | '.' :: rest =>
    match rest.takeWhile isDigit with
    | [] => none
    | ds => some (ds, rest.dropWhile isDigit)
  | cs => some ([], cs)

/-- Reads an exponent, if there is one. -/
def exponent? : List Char → Option (Int × List Char)
  | c :: rest =>
    if c = 'e' ∨ c = 'E' then
      let (negative, rest) := match rest with
        | '-' :: r => (true, r)
        | '+' :: r => (false, r)
        | r => (false, r)
      match rest.takeWhile isDigit with
      | [] => none
      | ds =>
        let n : Int := digitsValue ds
        some (if negative then -n else n, rest.dropWhile isDigit)
    else some (0, c :: rest)
  | [] => some (0, [])

/-- Reads a number without its sign.  A leading zero stands alone. -/
def unsigned? (negative : Bool) (cs : List Char) : Option (Json × List Char) := do
  let whole := cs.takeWhile isDigit
  if whole = [] ∨ (1 < whole.length ∧ whole.head? = some '0') then none
  else
    let (fractional, rest) ← fraction? (cs.dropWhile isDigit)
    let (power, rest) ← exponent? rest
    let magnitude := digitsValue (whole ++ fractional)
    some (.number negative magnitude (power - fractional.length), rest)

/-- Reads a number. -/
def number? : List Char → Option (Json × List Char)
  | '-' :: rest => unsigned? true rest
  | cs => unsigned? false cs

/-! ## Reading values -/

mutual

/-- Reads a value and the blanks before it. -/
def value? : Nat → List Char → Option (Json × List Char)
  | 0, _ => none
  | fuel + 1, cs =>
    match skipBlanks cs with
    | 'n' :: 'u' :: 'l' :: 'l' :: rest => some (.null, rest)
    | 't' :: 'r' :: 'u' :: 'e' :: rest => some (.bool true, rest)
    | 'f' :: 'a' :: 'l' :: 's' :: 'e' :: rest => some (.bool false, rest)
    | '"' :: rest => (Text.decode rest).map fun (s, rest) => (.text s, rest)
    | '[' :: rest =>
      match skipBlanks rest with
      | ']' :: rest => some (.array [], rest)
      | rest => (items? fuel [] rest).map fun (js, rest) => (.array js, rest)
    | '{' :: rest =>
      match skipBlanks rest with
      | '}' :: rest => some (.object [], rest)
      | rest => (members? fuel [] rest).map fun (ms, rest) => (.object ms, rest)
    | cs => number? cs

/-- Reads the items of an array up to its end; `done` holds those read, last first. -/
def items? : Nat → List Json → List Char → Option (List Json × List Char)
  | 0, _, _ => none
  | fuel + 1, done, cs =>
    match value? fuel cs with
    | none => none
    | some (j, rest) =>
      match skipBlanks rest with
      | ',' :: rest => items? fuel (j :: done) rest
      | ']' :: rest => some ((j :: done).reverse, rest)
      | _ => none

/-- Reads the members of an object up to its end; `done` holds those read, last first. -/
def members? : Nat → List (Option String × Json) → List Char →
    Option (List (Option String × Json) × List Char)
  | 0, _, _ => none
  | fuel + 1, done, cs =>
    match skipBlanks cs with
    | '"' :: rest =>
      match Text.decode rest with
      | none => none
      | some (name, rest) =>
        match skipBlanks rest with
        | ':' :: rest =>
          match value? fuel rest with
          | none => none
          | some (j, rest) =>
            match skipBlanks rest with
            | ',' :: rest => members? fuel ((name, j) :: done) rest
            | '}' :: rest => some (((name, j) :: done).reverse, rest)
            | _ => none
        | _ => none
    | _ => none

end

/-- Reads a whole text as one value. -/
def parse (s : String) : Option Json :=
  let cs := s.toList
  match value? (cs.length + 1) cs with
  | some (j, rest) => if skipBlanks rest = [] then some j else none
  | none => none

end PortletPage.Json
