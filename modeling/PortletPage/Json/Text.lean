import PortletPage.Text

/-!
# JSON string literals

`Json.Text.encode` writes the characters of a string: quotation marks and
backslashes are escaped, control characters take their short escape or `\u00xx`,
and everything else stands for itself.  `Json.Text.decode` reads up to the
closing quotation mark.  A literal may spell a character above U+FFFF as two
escapes, one for each half; halves that do not pair leave a literal that is well
formed and denotes no text.
-/

namespace PortletPage.Json.Text

/-! ## Writing -/

/-- How one character is written. -/
def encodeChar (c : Char) : List Char :=
  if c = '"' then ['\\', '"']
  else if c = '\\' then ['\\', '\\']
  else if c = '\n' then ['\\', 'n']
  else if c = '\r' then ['\\', 'r']
  else if c = '\t' then ['\\', 't']
  else if c = '\x08' then ['\\', 'b']
  else if c = '\x0c' then ['\\', 'f']
  else if c.toNat < 32 then
    ['\\', 'u', '0', '0', Text.hexDigit (c.toNat / 16), Text.hexDigit (c.toNat % 16)]
  else [c]

/-- The literal for a string, with its quotation marks. -/
def encode (s : String) : List Char :=
  '"' :: s.toList.flatMap encodeChar ++ ['"']

/-! ## Reading -/

/-- The character for the letter of a short escape. -/
def shortEscape? (c : Char) : Option Char :=
  if c = '"' ∨ c = '\\' ∨ c = '/' then some c
  else if c = 'n' then some '\n'
  else if c = 'r' then some '\r'
  else if c = 't' then some '\t'
  else if c = 'b' then some '\x08'
  else if c = 'f' then some '\x0c'
  else none

/-- Whether a code unit is the first half of a pair. -/
def isHighHalf (n : Nat) : Bool := 0xD800 ≤ n && n < 0xDC00

/-- Whether a code unit is the second half of a pair. -/
def isLowHalf (n : Nat) : Bool := 0xDC00 ≤ n && n < 0xE000

/-- The character that two halves spell. -/
def joinHalves (high low : Nat) : Char :=
  Char.ofNat (0x10000 + (high - 0xD800) * 0x400 + (low - 0xDC00))

/-- What has been read of a literal: its characters, last first, whether a first
half waits for its partner, and whether some half has stayed alone. -/
structure Progress where
  chars : List Char := []
  waiting : Option Nat := none
  lone : Bool := false

/-- Takes a character; a waiting half stays alone. -/
def Progress.char (p : Progress) (c : Char) : Progress :=
  ⟨c :: p.chars, none, p.lone || p.waiting.isSome⟩

/-- Takes an escaped code unit; a second half completes a waiting first half. -/
def Progress.unit (p : Progress) (n : Nat) : Progress :=
  if isHighHalf n then ⟨p.chars, some n, p.lone || p.waiting.isSome⟩
  else if isLowHalf n then
    match p.waiting with
    | some high => ⟨joinHalves high n :: p.chars, none, p.lone⟩
    | none => ⟨p.chars, none, true⟩
  else p.char (Char.ofNat n)

/-- The text of a finished literal, or none if a half has stayed alone. -/
def Progress.text (p : Progress) : Option String :=
  if p.lone || p.waiting.isSome then none else some (String.ofList p.chars.reverse)

/-- Reads the rest of a literal, up to and including the closing quotation mark. -/
def decodeFrom (p : Progress) : List Char → Option (Option String × List Char)
  | [] => none
  | '"' :: rest => some (p.text, rest)
  | '\\' :: 'u' :: a :: b :: c :: d :: rest =>
    match Text.hexNumber? [a, b, c, d] with
    | some n => decodeFrom (p.unit n) rest
    | none => none
  | '\\' :: e :: rest =>
    match shortEscape? e with
    | some c => decodeFrom (p.char c) rest
    | none => none
  | c :: rest => if c.toNat < 32 ∨ c = '\\' then none else decodeFrom (p.char c) rest

/-- Reads a literal after its opening quotation mark. -/
def decode (cs : List Char) : Option (Option String × List Char) := decodeFrom {} cs

end PortletPage.Json.Text
