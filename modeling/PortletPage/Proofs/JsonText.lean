import Mathlib.Data.List.Basic
import PortletPage.Json.Syntax

/-!
# What is written in JSON is read back

`Json.parse` finds in a printed text the tree that was printed.

* `Text.decodeFrom_encodeChar`: the reader takes what stands for a character as that
  character, be it escaped or not.
* `number?_printNumber`: a number is read back with its sign, its magnitude and its
  exponent.  The one exception is the negative zero without an exponent, which is no
  integer and is written with a fraction (`Json.isLegible`).
* `value?_chars`: a value is read back, whatever follows it, and what follows is left.
  A number goes on as long as it can, so what follows must not continue it
  (`Json.Stops`).
* `parse_print`: so a whole text is read back.
-/

namespace PortletPage.Json

/-! ## Texts -/

namespace Text

/-- The escape for a control character stands for it. -/
theorem hexNumber?_control {n : Nat} (h : n < 32) :
    Text.hexNumber? ['0', '0', Text.hexDigit (n / 16), Text.hexDigit (n % 16)] = some n := by
  have hzero : Text.hexValue? '0' = some 0 := rfl
  have hhigh : Text.hexValue? (Text.hexDigit (n / 16)) = some (n / 16) :=
    Text.hexValue?_hexDigit (by omega)
  have hlow : Text.hexValue? (Text.hexDigit (n % 16)) = some (n % 16) :=
    Text.hexValue?_hexDigit (by omega)
  have hsplit : n / 16 * 16 + n % 16 = n := by omega
  simp [Text.hexNumber?, hzero, hhigh, hlow, hsplit]

/-- A control character is no half of a pair. -/
theorem unit_control {n : Nat} (h : n < 32) (p : Progress) :
    p.unit n = p.char (Char.ofNat n) := by
  have hhigh : isHighHalf n = false := by
    simp only [isHighHalf, Bool.and_eq_false_imp, decide_eq_true_eq]
    omega
  have hlow : isLowHalf n = false := by
    simp only [isLowHalf, Bool.and_eq_false_imp, decide_eq_true_eq]
    omega
  simp [Progress.unit, hhigh, hlow]

/-- A character that is not escaped stands for itself. -/
theorem decodeFrom_plain (p : Progress) {c : Char} (hquote : c ≠ '"') (hbackslash : c ≠ '\\')
    (hcontrol : ¬ c.toNat < 32) (rest : List Char) :
    decodeFrom p (c :: rest) = decodeFrom (p.char c) rest := by
  have hplain : ¬ (c.toNat < 32 ∨ c = '\\') := not_or.mpr ⟨hcontrol, hbackslash⟩
  rw [decodeFrom.eq_def]
  split
  · simp_all
  · simp_all
  · simp_all
  · simp_all
  · rename_i heq
    cases heq
    rw [if_neg hplain]

/-- What stands for a character is read as that character. -/
theorem decodeFrom_encodeChar (p : Progress) (c : Char) (rest : List Char) :
    decodeFrom p (encodeChar c ++ rest) = decodeFrom (p.char c) rest := by
  unfold encodeChar
  split
  · subst_vars; simp [decodeFrom, shortEscape?]
  split
  · subst_vars; simp [decodeFrom, shortEscape?]
  split
  · subst_vars; simp [decodeFrom, shortEscape?]
  split
  · subst_vars; simp [decodeFrom, shortEscape?]
  split
  · subst_vars; simp [decodeFrom, shortEscape?]
  split
  · subst_vars; simp [decodeFrom, shortEscape?]
  split
  · subst_vars; simp [decodeFrom, shortEscape?]
  split
  · rename_i hcontrol
    simp only [List.cons_append, List.nil_append]
    rw [decodeFrom, hexNumber?_control hcontrol]
    simp only
    rw [unit_control hcontrol, Char.ofNat_toNat]
  · rename_i hquote hbackslash _ _ _ _ _ hcontrol
    exact decodeFrom_plain p hquote hbackslash hcontrol rest

/-- The characters of a text are read one after the other. -/
theorem decodeFrom_flatMap (p : Progress) (cs rest : List Char) :
    decodeFrom p (cs.flatMap encodeChar ++ rest) =
      decodeFrom (cs.foldl Progress.char p) rest := by
  induction cs generalizing p with
  | nil => rfl
  | cons c cs ih =>
    rw [List.flatMap_cons, List.append_assoc, decodeFrom_encodeChar, ih, List.foldl_cons]

/-- Characters alone leave no half. -/
theorem foldl_char (cs done : List Char) :
    cs.foldl Progress.char ⟨done, none, false⟩ = ⟨cs.reverse ++ done, none, false⟩ := by
  induction cs generalizing done with
  | nil => rfl
  | cons c cs ih =>
    rw [List.foldl_cons, List.reverse_cons, List.append_assoc, List.singleton_append]
    exact ih (c :: done)

/-- A literal is read back. -/
theorem decode_encode (s : String) (rest : List Char) :
    decode (s.toList.flatMap encodeChar ++ '"' :: rest) = some (some s, rest) := by
  rw [decode, decodeFrom_flatMap, foldl_char, decodeFrom]
  simp [Progress.text, String.ofList_toList]

end Text

/-- The characters of a literal after its opening quotation mark. -/
theorem exists_printText (s : Option String) :
    ∃ cs, printText s = '"' :: cs ∧ ∀ rest, Text.decode (cs ++ rest) = some (s, rest) := by
  cases s with
  | none => exact ⟨_, rfl, fun rest => rfl⟩
  | some s =>
    refine ⟨s.toList.flatMap Text.encodeChar ++ ['"'], rfl, ?_⟩
    intro rest
    rw [List.append_assoc, List.singleton_append]
    exact Text.decode_encode s rest

/-! ## Numbers -/

/-- What follows does not continue a number. -/
def Stops (rest : List Char) : Prop :=
  ∀ c ∈ rest.head?, isDigit c = false ∧ c ≠ '.' ∧ c ≠ 'e' ∧ c ≠ 'E'

/-- A written natural number consists of digits. -/
theorem all_isDigit_toDigits (n : Nat) : ∀ c ∈ Nat.toDigits 10 n, isDigit c = true :=
  fun _ hc => Nat.isDigit_of_mem_toDigits (by decide) (by decide) hc

theorem takeWhile_toDigits (n : Nat) {rest : List Char}
    (h : ∀ c ∈ rest.head?, isDigit c = false) :
    (Nat.toDigits 10 n ++ rest).takeWhile isDigit = Nat.toDigits 10 n := by
  rw [List.takeWhile_append_of_pos (all_isDigit_toDigits n)]
  cases rest with
  | nil => simp
  | cons c rest => simp [h c rfl]

theorem dropWhile_toDigits (n : Nat) {rest : List Char}
    (h : ∀ c ∈ rest.head?, isDigit c = false) :
    (Nat.toDigits 10 n ++ rest).dropWhile isDigit = rest := by
  rw [List.dropWhile_append_of_pos (all_isDigit_toDigits n)]
  cases rest with
  | nil => rfl
  | cons c rest => simp [h c rfl]

/-- The digits of a number have its value. -/
theorem digitsValue_toDigits (n : Nat) : digitsValue (Nat.toDigits 10 n) = n := by
  have hvalue : Nat.ofDigitChars 10 (Nat.toDigits 10 n) 0 = n := Nat.ofDigitChars_ten_toDigits
  have hstep : (fun (n : Nat) (c : Char) => n * 10 + (c.toNat - 48)) =
      fun n c => 10 * n + (c.toNat - '0'.toNat) := by
    funext n c
    rw [Nat.mul_comm]
    rfl
  rw [digitsValue, hstep, ← Nat.ofDigitChars_eq_foldl, hvalue]

/-- Only zero is written with a leading zero. -/
theorem head?_toDigits {n : Nat} (h : 0 < n) : (Nat.toDigits 10 n).head? ≠ some '0' := by
  induction n using Nat.strongRecOn with
  | ind n ih =>
    by_cases hn : n < 10
    · rw [Nat.toDigits_of_lt_base hn, List.head?_cons, ne_eq, Option.some.injEq,
        Nat.digitChar_eq_zero]
      omega
    · have hfirst := ih (n / 10) (by omega) (by omega)
      rw [Nat.toDigits_of_base_le (by decide) (by omega), List.head?_append_of_ne_nil _
        Nat.toDigits_ne_nil]
      exact hfirst

/-- A written natural number has no superfluous zero. -/
theorem toDigits_not_padded (n : Nat) :
    ¬ (Nat.toDigits 10 n = [] ∨
      (1 < (Nat.toDigits 10 n).length ∧ (Nat.toDigits 10 n).head? = some '0')) := by
  intro hpadded
  rcases hpadded with hnil | ⟨hlength, hzero⟩
  · exact Nat.toDigits_ne_nil hnil
  · rcases Nat.eq_zero_or_pos n with rfl | hpos
    · rw [Nat.toDigits_zero] at hlength
      exact absurd hlength (by decide)
    · exact head?_toDigits hpos hzero

theorem Stops.head_not_digit {rest : List Char} (h : Stops rest) :
    ∀ c ∈ rest.head?, isDigit c = false :=
  fun c hc => (h c hc).1

/-- The first character of a written natural number is a digit. -/
theorem exists_cons_toDigits (n : Nat) :
    ∃ c cs, Nat.toDigits 10 n = c :: cs ∧ isDigit c = true := by
  obtain ⟨c, cs, hcs⟩ := List.exists_cons_of_ne_nil (Nat.toDigits_ne_nil (n := n) (b := 10))
  exact ⟨c, cs, hcs, all_isDigit_toDigits n c (hcs ▸ List.mem_cons_self)⟩

/-- An exponent is read back. -/
theorem exponent?_printInt (n : Int) {rest : List Char} (h : Stops rest) :
    exponent? ('e' :: printInt n ++ rest) = some (n, rest) := by
  have hread : ∀ m, (Nat.toDigits 10 m ++ rest).takeWhile isDigit = Nat.toDigits 10 m ∧
      (Nat.toDigits 10 m ++ rest).dropWhile isDigit = rest := fun m =>
    ⟨takeWhile_toDigits m h.head_not_digit, dropWhile_toDigits m h.head_not_digit⟩
  cases n with
  | ofNat n =>
    obtain ⟨c, cs, hcs, hc⟩ := exists_cons_toDigits n
    obtain ⟨htake, hdrop⟩ := hread n
    have hvalue := digitsValue_toDigits n
    rw [printInt, List.cons_append]
    rw [hcs] at htake hdrop hvalue ⊢
    rw [List.cons_append] at htake hdrop ⊢
    -- the first character is a digit and no sign
    have hsign : ∀ sign, isDigit sign = false → ∀ r, c :: (cs ++ rest) = sign :: r → False := by
      intro sign hsign r heq
      cases heq
      exact absurd hc (by rw [hsign]; exact Bool.false_ne_true)
    rw [exponent?, if_pos (Or.inl rfl)]
    · simp [htake, hdrop, hvalue]
    · exact hsign '-' rfl
    · exact hsign '+' rfl
  | negSucc n =>
    obtain ⟨c, cs, hcs, hc⟩ := exists_cons_toDigits (n + 1)
    obtain ⟨htake, hdrop⟩ := hread (n + 1)
    have hvalue := digitsValue_toDigits (n + 1)
    rw [printInt, List.cons_append, List.cons_append, exponent?, if_pos (Or.inl rfl)]
    simp only [htake, hdrop]
    rw [hcs] at hvalue ⊢
    simp [hvalue, Int.negSucc_eq]

theorem exponent?_of_stops {rest : List Char} (h : Stops rest) :
    exponent? rest = some (0, rest) := by
  cases rest with
  | nil => rfl
  | cons c rest =>
    obtain ⟨_, _, he, hE⟩ := h c rfl
    simp [exponent?, he, hE]

/-- A number without a fraction is read back. -/
theorem unsigned?_toDigits (negative : Bool) (magnitude : Nat) {tail rest : List Char}
    {exponent : Int} (hdigit : ∀ c ∈ tail.head?, isDigit c = false)
    (hpoint : ∀ c ∈ tail.head?, c ≠ '.') (hread : exponent? tail = some (exponent, rest)) :
    unsigned? negative (Nat.toDigits 10 magnitude ++ tail) =
      some (.number negative magnitude exponent, rest) := by
  have hfraction : fraction? tail = some ([], tail) := by
    cases tail with
    | nil => rfl
    | cons c tail =>
      have hc := hpoint c rfl
      unfold fraction?
      split
      · rename_i heq
        cases heq
        exact absurd rfl hc
      · rfl
  rw [unsigned?]
  simp only [takeWhile_toDigits magnitude hdigit, dropWhile_toDigits magnitude hdigit]
  rw [if_neg (toDigits_not_padded magnitude), hfraction]
  simp [hread, digitsValue_toDigits]

/-- Every number is read back but the negative zero without an exponent. -/
theorem number?_printNumber {negative : Bool} {magnitude : Nat} {exponent : Int}
    (legible : ¬ (negative = true ∧ magnitude = 0 ∧ exponent = 0)) {rest : List Char}
    (h : Stops rest) :
    number? (printNumber negative magnitude exponent ++ rest) =
      some (.number negative magnitude exponent, rest) := by
  obtain ⟨tail, htail, hdigit, hpoint, hread⟩ : ∃ tail,
      printNumber negative magnitude exponent ++ rest =
        (if negative then ['-'] else []) ++ (Nat.toDigits 10 magnitude ++ tail) ∧
      (∀ c ∈ tail.head?, isDigit c = false) ∧ (∀ c ∈ tail.head?, c ≠ '.') ∧
      exponent? tail = some (exponent, rest) := by
    by_cases hexponent : exponent = 0
    · subst hexponent
      refine ⟨rest, ?_, h.head_not_digit, fun c hc => (h c hc).2.1, exponent?_of_stops h⟩
      have hnot : ¬ (negative = true ∧ magnitude = 0) := fun hzero =>
        legible ⟨hzero.1, hzero.2, rfl⟩
      simp [printNumber, hnot]
    · refine ⟨'e' :: printInt exponent ++ rest, ?_, ?_, ?_, exponent?_printInt exponent h⟩
      · simp [printNumber, hexponent]
      · intro c hc
        cases hc
        rfl
      · intro c hc
        cases hc
        decide
  rw [htail]
  cases negative with
  | true => exact unsigned?_toDigits true magnitude hdigit hpoint hread
  | false =>
    obtain ⟨c, cs, hcs, hc⟩ := exists_cons_toDigits magnitude
    have hunsigned := unsigned?_toDigits false magnitude hdigit hpoint hread
    rw [hcs] at hunsigned
    rw [hcs, if_neg Bool.false_ne_true, List.nil_append, List.cons_append, number?]
    · exact hunsigned
    · intro r heq
      cases heq
      exact absurd hc (by decide)

/-! ## Values -/

mutual

/-- Whether no number is the negative zero without an exponent. -/
def isLegible : Json → Bool
  | .number negative magnitude exponent => !(negative && magnitude == 0 && exponent == 0)
  | .array items => isLegibleItems items
  | .object members => isLegibleMembers members
  | _ => true

/-- `isLegible` of every item. -/
def isLegibleItems : List Json → Bool
  | [] => true
  | j :: rest => j.isLegible && isLegibleItems rest

/-- `isLegible` of every member. -/
def isLegibleMembers : List (Option String × Json) → Bool
  | [] => true
  | (_, j) :: rest => j.isLegible && isLegibleMembers rest

end

/-- What does not belong to a number, but may follow a value. -/
theorem stops_cons {c : Char} (h : c = ',' ∨ c = ']' ∨ c = '}') (rest : List Char) :
    Stops (c :: rest) := by
  intro c' hc'
  cases hc'
  rcases h with rfl | rfl | rfl <;> decide

theorem skipBlanks_cons {c : Char} (h : isBlank c = false) (rest : List Char) :
    skipBlanks (c :: rest) = c :: rest := by
  rw [skipBlanks, h, if_neg Bool.false_ne_true]

/-- The first character of a number is a sign or a digit. -/
theorem exists_cons_printNumber (negative : Bool) (magnitude : Nat) (exponent : Int) :
    ∃ c cs, printNumber negative magnitude exponent = c :: cs ∧
      (c = '-' ∨ isDigit c = true) := by
  cases negative with
  | true => exact ⟨'-', _, rfl, .inl rfl⟩
  | false =>
    obtain ⟨c, cs, hcs, hc⟩ := exists_cons_toDigits magnitude
    rw [printNumber, hcs, if_neg Bool.false_ne_true]
    exact ⟨c, _, rfl, .inr hc⟩

/-- No other character is taken for the beginning of a number. -/
theorem ne_of_number {c : Char} (h : c = '-' ∨ isDigit c = true) {d : Char} (hsign : d ≠ '-')
    (hdigit : isDigit d = false) : c ≠ d := by
  rintro rfl
  rcases h with h | h
  · exact hsign h
  · rw [hdigit] at h
    exact Bool.false_ne_true h

theorem isBlank_of_number {c : Char} (h : c = '-' ∨ isDigit c = true) : isBlank c = false := by
  simp only [isBlank, Bool.or_eq_false_iff, beq_eq_false_iff_ne]
  exact ⟨⟨⟨ne_of_number h (by decide) rfl, ne_of_number h (by decide) rfl⟩,
    ne_of_number h (by decide) rfl⟩, ne_of_number h (by decide) rfl⟩

/-- A value begins neither with a blank nor with a bracket that closes. -/
theorem exists_cons_chars (j : Json) :
    ∃ c cs, j.chars = c :: cs ∧ isBlank c = false ∧ c ≠ ']' := by
  cases j with
  | null => exact ⟨_, _, rfl, rfl, by decide⟩
  | bool b => cases b <;> exact ⟨_, _, rfl, rfl, by decide⟩
  | number negative magnitude exponent =>
    obtain ⟨c, cs, hcs, hc⟩ := exists_cons_printNumber negative magnitude exponent
    exact ⟨c, cs, hcs, isBlank_of_number hc, ne_of_number hc (by decide) rfl⟩
  | text s =>
    obtain ⟨cs, hcs, _⟩ := exists_printText s
    exact ⟨_, _, hcs, rfl, by decide⟩
  | array items => exact ⟨_, _, rfl, rfl, by decide⟩
  | object members => exact ⟨_, _, rfl, rfl, by decide⟩

theorem charsItems_cons_cons (j k : Json) (items : List Json) :
    charsItems (j :: k :: items) = j.chars ++ ',' :: charsItems (k :: items) := by
  rw [charsItems]
  exact List.cons_ne_nil k items

theorem charsMembers_cons_cons (name : Option String) (j : Json) (m : Option String × Json)
    (members : List (Option String × Json)) :
    charsMembers ((name, j) :: m :: members) =
      printText name ++ ':' :: j.chars ++ ',' :: charsMembers (m :: members) := by
  rw [charsMembers]
  exact List.cons_ne_nil m members

theorem exists_cons_charsItems (j : Json) (items : List Json) :
    ∃ c cs, charsItems (j :: items) = c :: cs ∧ isBlank c = false ∧ c ≠ ']' := by
  obtain ⟨c, cs, hcs, hc⟩ := exists_cons_chars j
  cases items with
  | nil => exact ⟨c, cs, hcs, hc⟩
  | cons k items =>
    rw [charsItems_cons_cons, hcs]
    exact ⟨c, _, rfl, hc⟩

theorem exists_cons_charsMembers (m : Option String × Json)
    (members : List (Option String × Json)) : ∃ cs, charsMembers (m :: members) = '"' :: cs := by
  obtain ⟨name, j⟩ := m
  obtain ⟨cs, hcs, _⟩ := exists_printText name
  cases members with
  | nil =>
    rw [charsMembers, hcs]
    exact ⟨_, rfl⟩
  | cons m members =>
    rw [charsMembers_cons_cons, hcs]
    exact ⟨_, rfl⟩

/-- What begins with a sign or a digit is taken for a number. -/
theorem value?_of_number {c : Char} (h : c = '-' ∨ isDigit c = true) (fuel : Nat)
    (cs : List Char) : value? (fuel + 1) (c :: cs) = number? (c :: cs) := by
  have hskip := skipBlanks_cons (isBlank_of_number h) cs
  have hother : ∀ {d : Char} {rest}, skipBlanks (c :: cs) = d :: rest → d ≠ '-' →
      isDigit d = false → False := by
    intro d rest heq hsign hdigit
    rw [hskip] at heq
    cases heq
    exact ne_of_number h hsign hdigit rfl
  rw [value?]
  split
  case h_7 => rw [hskip]
  all_goals
    rename_i heq
    exact (hother heq (by decide) rfl).elim

/-- An array that does not end at once has items. -/
theorem value?_array {c : Char} (hblank : isBlank c = false) (hends : c ≠ ']') (fuel : Nat)
    (cs : List Char) :
    value? (fuel + 1) ('[' :: c :: cs) =
      (items? fuel [] (c :: cs)).map fun p => (.array p.1, p.2) := by
  rw [value?, skipBlanks_cons rfl]
  simp only
  rw [skipBlanks_cons hblank]
  split
  · rename_i heq
    cases heq
    exact absurd rfl hends
  · rfl

section Steps

variable {fuel : Nat} {j : Json} {cs cs' rest : List Char}

/-- After a comma the next item follows. -/
theorem items?_next (h : value? fuel cs = some (j, ',' :: rest)) (done : List Json) :
    items? (fuel + 1) done cs = items? fuel (j :: done) rest := by
  rw [items?, h]
  rfl

theorem items?_last (h : value? fuel cs = some (j, ']' :: rest)) (done : List Json) :
    items? (fuel + 1) done cs = some ((j :: done).reverse, rest) := by
  rw [items?, h]
  rfl

variable {name : Option String} (hname : Text.decode cs = some (name, ':' :: cs'))
include hname

/-- After a comma the next member follows. -/
theorem members?_next (h : value? fuel cs' = some (j, ',' :: rest))
    (done : List (Option String × Json)) :
    members? (fuel + 1) done ('"' :: cs) = members? fuel ((name, j) :: done) rest := by
  rw [members?, skipBlanks_cons rfl]
  simp only [hname]
  rw [skipBlanks_cons rfl]
  simp only [h]
  rfl

theorem members?_last (h : value? fuel cs' = some (j, '}' :: rest))
    (done : List (Option String × Json)) :
    members? (fuel + 1) done ('"' :: cs) = some (((name, j) :: done).reverse, rest) := by
  rw [members?, skipBlanks_cons rfl]
  simp only [hname]
  rw [skipBlanks_cons rfl]
  simp only [h]
  rfl

end Steps

mutual

/-- A value is read back, whatever follows it. -/
theorem value?_chars : ∀ (j : Json) (fuel : Nat) (rest : List Char), j.isLegible = true →
    j.chars.length < fuel → Stops rest → value? fuel (j.chars ++ rest) = some (j, rest)
  | .null, fuel + 1, rest, _, _, _ => rfl
  | .bool true, fuel + 1, rest, _, _, _ => rfl
  | .bool false, fuel + 1, rest, _, _, _ => rfl
  | .number negative magnitude exponent, fuel + 1, rest, legible, _, stops => by
    obtain ⟨c, cs, hcs, hc⟩ := exists_cons_printNumber negative magnitude exponent
    have hread : number? (printNumber negative magnitude exponent ++ rest) =
        some (.number negative magnitude exponent, rest) := by
      refine number?_printNumber ?_ stops
      rintro ⟨rfl, rfl, rfl⟩
      cases legible
    rw [hcs] at hread
    rw [chars, hcs, List.cons_append, value?_of_number hc]
    exact hread
  | .text s, fuel + 1, rest, _, _, _ => by
    obtain ⟨cs, hcs, hread⟩ := exists_printText s
    have hvalue : value? (fuel + 1) ('"' :: (cs ++ rest)) =
        (Text.decode (cs ++ rest)).map fun p => (.text p.1, p.2) := by
      rw [value?, skipBlanks_cons rfl]
      rfl
    rw [chars, hcs, List.cons_append, hvalue, hread, Option.map_some]
  | .array [], fuel + 1, rest, _, _, _ => rfl
  | .array (j :: items), fuel + 1, rest, legible, enough, _ => by
    obtain ⟨c, cs, hcs, hblank, hends⟩ := exists_cons_charsItems j items
    have hitems := items?_charsItems (j :: items) fuel [] rest legible (List.cons_ne_nil j items)
      (by simpa [chars] using enough)
    rw [hcs, List.cons_append] at hitems
    rw [chars, List.append_assoc, hcs, List.singleton_append, List.cons_append, List.cons_append,
      value?_array hblank hends, hitems]
    rfl
  | .object [], fuel + 1, rest, _, _, _ => rfl
  | .object (m :: members), fuel + 1, rest, legible, enough, _ => by
    have hmembers := members?_charsMembers (m :: members) fuel [] rest legible
      (List.cons_ne_nil m members) (by simpa [chars] using enough)
    obtain ⟨cs, hcs⟩ := exists_cons_charsMembers m members
    have hvalue : value? (fuel + 1) ('{' :: '"' :: (cs ++ '}' :: rest)) =
        (members? fuel [] ('"' :: (cs ++ '}' :: rest))).map fun p => (.object p.1, p.2) := by
      rw [value?, skipBlanks_cons rfl]
      rfl
    rw [hcs, List.cons_append] at hmembers
    rw [chars, List.append_assoc, hcs, List.singleton_append, List.cons_append, List.cons_append,
      hvalue, hmembers]
    rfl

/-- The items of an array are read back. -/
theorem items?_charsItems : ∀ (items : List Json) (fuel : Nat) (done : List Json)
    (rest : List Char), isLegibleItems items = true → items ≠ [] →
    (charsItems items).length + 1 < fuel →
    items? fuel done (charsItems items ++ ']' :: rest) = some (done.reverse ++ items, rest)
  | [], _, _, _, _, nonempty, _ => absurd rfl nonempty
  | [j], fuel + 1, done, rest, legible, _, enough => by
    rw [isLegibleItems, Bool.and_eq_true] at legible
    rw [charsItems] at enough ⊢
    have hj := value?_chars j fuel (']' :: rest) legible.1 (by omega) (stops_cons (by simp) rest)
    rw [items?_last hj]
    simp
  | j :: k :: items, fuel + 1, done, rest, legible, _, enough => by
    rw [isLegibleItems, Bool.and_eq_true] at legible
    simp only [charsItems, List.length_append, List.length_cons] at enough
    have hj := value?_chars j fuel (',' :: (charsItems (k :: items) ++ ']' :: rest)) legible.1
      (by omega) (stops_cons (by simp) _)
    have hrest := items?_charsItems (k :: items) fuel (j :: done) rest legible.2
      (List.cons_ne_nil k items) (by omega)
    rw [charsItems_cons_cons, List.append_assoc, List.cons_append, items?_next hj, hrest]
    simp

/-- The members of an object are read back. -/
theorem members?_charsMembers : ∀ (members : List (Option String × Json)) (fuel : Nat)
    (done : List (Option String × Json)) (rest : List Char), isLegibleMembers members = true →
    members ≠ [] → (charsMembers members).length + 1 < fuel →
    members? fuel done (charsMembers members ++ '}' :: rest) =
      some (done.reverse ++ members, rest)
  | [], _, _, _, _, nonempty, _ => absurd rfl nonempty
  | [(name, j)], fuel + 1, done, rest, legible, _, enough => by
    rw [isLegibleMembers, Bool.and_eq_true] at legible
    obtain ⟨cs, hcs, hname⟩ := exists_printText name
    simp only [charsMembers, List.length_append, List.length_cons] at enough
    have hj := value?_chars j fuel ('}' :: rest) legible.1 (by omega) (stops_cons (by simp) rest)
    rw [charsMembers, hcs, List.cons_append, List.cons_append, List.append_assoc,
      List.cons_append, members?_last (hname _) hj]
    simp
  | (name, j) :: m :: members, fuel + 1, done, rest, legible, _, enough => by
    rw [isLegibleMembers, Bool.and_eq_true] at legible
    obtain ⟨cs, hcs, hname⟩ := exists_printText name
    simp only [charsMembers, List.length_append, List.length_cons] at enough
    have hj := value?_chars j fuel (',' :: (charsMembers (m :: members) ++ '}' :: rest)) legible.1
      (by omega) (stops_cons (by simp) _)
    have hrest := members?_charsMembers (m :: members) fuel ((name, j) :: done) rest legible.2
      (List.cons_ne_nil m members) (by omega)
    have hchars : charsMembers ((name, j) :: m :: members) ++ '}' :: rest =
        '"' :: (cs ++ ':' :: (j.chars ++ ',' :: (charsMembers (m :: members) ++ '}' :: rest))) := by
      simp [charsMembers_cons_cons, hcs]
    rw [hchars, members?_next (hname _) hj, hrest]
    simp

end

/-- A printed text is read as the tree that was printed. -/
theorem parse_print {j : Json} (h : j.isLegible = true) : parse j.print = some j := by
  have hread := value?_chars j (j.chars.length + 1) [] h (by omega) (by intro c hc; cases hc)
  rw [List.append_nil] at hread
  rw [parse, print, String.toList_ofList]
  simp only [hread]
  rfl

end PortletPage.Json
