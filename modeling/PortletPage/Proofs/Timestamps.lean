import PortletPage.Proofs.JsonText
import PortletPage.Timestamp

/-!
# Timestamps are read back

A point in time is written in such a way that it is read as the same point in time.

* `Timestamp.digits?_padded`: a number that fits its width is written with so many digits,
  and as many are read.
* `Timestamp.fraction?_fractionChars`: a fraction of a second is written with the fewest
  digits, and the digits that are left out are zeros.
* `Timestamp.year?_yearChars` and `Timestamp.year?_signed`: the years 0 to 9999 are written
  with four digits, and all others with a sign and as many digits as they need.
* `Timestamp.toUtc_zero`: an offset of nothing changes nothing.
* `Timestamp.parse_print_of_isValid` puts the parts together, and `Timestamp.parse_print`
  does so for the years without a sign.
-/

namespace PortletPage.Timestamp

/-! ## Numbers of fixed width -/

/-- A number that fits is padded to the width. -/
theorem length_padded {width n : Nat} (hwidth : 0 < width) (h : n < Nat.pow 10 width) :
    (padded width n).length = width := by
  have hlength : (Nat.toDigits 10 n).length ≤ width :=
    (Nat.length_toDigits_le_iff (by decide) hwidth).mpr h
  rw [padded, List.length_append, List.length_replicate]
  omega

theorem all_isDigit_padded (width n : Nat) : ∀ c ∈ padded width n, Json.isDigit c = true := by
  intro c hc
  rcases List.mem_append.mp hc with hzero | hdigit
  · rw [List.eq_of_mem_replicate hzero]
    rfl
  · exact Json.all_isDigit_toDigits n c hdigit

/-- The zeros before a number do not change its value. -/
theorem digitsValue_padded (width n : Nat) : Json.digitsValue (padded width n) = n := by
  have hzeros : ∀ k, Json.digitsValue (List.replicate k '0' ++ Nat.toDigits 10 n) = n := by
    intro k
    induction k with
    | zero => exact Json.digitsValue_toDigits n
    | succ k ih => exact ih
  exact hzeros _

theorem padded_ne_nil (width n : Nat) : padded width n ≠ [] :=
  List.append_ne_nil_of_right_ne_nil _ Nat.toDigits_ne_nil

/-- The first character of a padded number is a digit. -/
theorem exists_cons_padded (width n : Nat) :
    ∃ c cs, padded width n = c :: cs ∧ Json.isDigit c = true := by
  obtain ⟨c, cs, hcs⟩ := List.exists_cons_of_ne_nil (padded_ne_nil width n)
  exact ⟨c, cs, hcs, all_isDigit_padded width n c (hcs ▸ List.mem_cons_self)⟩

theorem isBlank_of_isDigit {c : Char} (h : Json.isDigit c = true) : Text.isBlank c = false := by
  have hrange : 48 ≤ c.toNat ∧ c.toNat ≤ 57 := by
    simpa [Json.isDigit, Char.le_def, UInt32.le_iff_toNat_le] using h
  rw [Bool.eq_false_iff]
  intro hblank
  simp only [Text.isBlank, Bool.or_eq_true, Bool.and_eq_true, decide_eq_true_eq,
    beq_iff_eq] at hblank
  omega

/-- No blanks stand before a padded number. -/
theorem trimLeft_padded (width n : Nat) (rest : List Char) :
    Text.trimLeft (padded width n ++ rest) = padded width n ++ rest := by
  obtain ⟨c, cs, hcs, hc⟩ := exists_cons_padded width n
  rw [hcs, List.cons_append, Text.trimLeft,
    List.dropWhile_cons_of_neg (by rw [isBlank_of_isDigit hc]; exact Bool.false_ne_true)]

/-- What is taken of the digits is what is read of them. -/
theorem digits?_of_take {room width n : Nat} {rest : List Char}
    (htake : ((padded width n ++ rest).takeWhile Json.isDigit).take room = padded width n) :
    digits? room (padded width n ++ rest) = some (n, rest) := by
  rw [digits?]
  simp only [trimLeft_padded]
  show (if ((padded width n ++ rest).takeWhile Json.isDigit).take room = [] then none
    else some (Json.digitsValue (((padded width n ++ rest).takeWhile Json.isDigit).take room),
      (padded width n ++ rest).drop
        (((padded width n ++ rest).takeWhile Json.isDigit).take room).length)) = _
  rw [htake, if_neg (padded_ne_nil width n), digitsValue_padded, List.drop_left]

/-- A number that fits its width is read back, whatever follows it. -/
theorem digits?_padded {width n : Nat} (hwidth : 0 < width) (h : n < Nat.pow 10 width)
    (rest : List Char) : digits? width (padded width n ++ rest) = some (n, rest) := by
  apply digits?_of_take
  rw [List.takeWhile_append_of_pos (all_isDigit_padded width n)]
  exact List.take_left' (length_padded hwidth h)

/-- With room for all its digits a number is read up to where they end. -/
theorem digits?_padded_of_le (width n : Nat) {room : Nat} {rest : List Char}
    (hroom : (padded width n).length ≤ room) (hends : ∀ c ∈ rest.head?, Json.isDigit c = false) :
    digits? room (padded width n ++ rest) = some (n, rest) := by
  apply digits?_of_take
  have hdigits : (padded width n ++ rest).takeWhile Json.isDigit = padded width n := by
    rw [List.takeWhile_append_of_pos (all_isDigit_padded width n)]
    cases rest with
    | nil => simp
    | cons c rest => simp [hends c rfl]
  rw [hdigits, List.take_of_length_le hroom]

/-- A year of four digits is read back. -/
theorem year?_yearChars {year : Int} (h : 0 ≤ year ∧ year ≤ 9999) (rest : List Char) :
    year? (yearChars year ++ rest) = some (year, rest) := by
  obtain ⟨c, cs, hcs, hc⟩ := exists_cons_padded 4 year.natAbs
  have hread : digits? 4 (padded 4 year.natAbs ++ rest) = some (year.natAbs, rest) :=
    digits?_padded (by decide) (show year.natAbs < 10000 by omega) rest
  have htrim := trimLeft_padded 4 year.natAbs rest
  rw [yearChars, if_pos h, year?, htrim]
  rw [hcs, List.cons_append] at hread ⊢
  -- the first character is a digit and no sign
  split
  · rename_i heq
    cases heq
    exact absurd hc (by decide)
  · rename_i heq
    cases heq
    exact absurd hc (by decide)
  · rw [hread]
    show some ((year.natAbs : Int), rest) = some (year, rest)
    rw [Int.natAbs_of_nonneg h.1]

/-- A year with a sign is read back up to the mark that follows it. -/
theorem year?_signed {year : Int} (h : ¬ (0 ≤ year ∧ year ≤ 9999)) (rest : List Char) :
    year? (yearChars year ++ '-' :: rest) = some (year, '-' :: rest) := by
  obtain ⟨c, cs, hcs, hc⟩ := exists_cons_padded 4 year.natAbs
  have hread : year?.signed (padded 4 year.natAbs ++ '-' :: rest) =
      some (year.natAbs, '-' :: rest) := by
    have hdigits : digits? (padded 4 year.natAbs ++ '-' :: rest).length
        (padded 4 year.natAbs ++ '-' :: rest) = some (year.natAbs, '-' :: rest) := by
      refine digits?_padded_of_le 4 year.natAbs ?_ ?_
      · rw [List.length_append]
        omega
      · intro d hd
        cases hd
        rfl
    rw [hcs, List.cons_append] at hdigits ⊢
    have hrange : '0' ≤ c ∧ c ≤ '9' := by simpa [Json.isDigit] using hc
    exact (if_pos hrange).trans hdigits
  have hminus : Text.trimLeft ('-' :: (padded 4 year.natAbs ++ '-' :: rest)) =
      '-' :: (padded 4 year.natAbs ++ '-' :: rest) := rfl
  have hplus : Text.trimLeft ('+' :: (padded 4 year.natAbs ++ '-' :: rest)) =
      '+' :: (padded 4 year.natAbs ++ '-' :: rest) := rfl
  rw [yearChars, if_neg h, List.cons_append, year?]
  by_cases hnegative : year < 0
  · rw [if_pos hnegative, hminus]
    show (year?.signed _).map _ = _
    rw [hread]
    show some (-(year.natAbs : Int), '-' :: rest) = _
    rw [show -(year.natAbs : Int) = year by omega]
  · rw [if_neg hnegative, hplus]
    show (year?.signed _).map _ = _
    rw [hread]
    show some ((year.natAbs : Int), '-' :: rest) = _
    rw [show (year.natAbs : Int) = year by omega]

/-! ## Fractions of a second -/

/-- As many digits as stand after the point are read, up to nine. -/
theorem fraction?_padded {width n : Nat} (hwidth : 0 < width ∧ width ≤ 9)
    (h : n < Nat.pow 10 width) :
    fraction? ('.' :: padded width n ++ ['Z']) = some (n * Nat.pow 10 (9 - width), ['Z']) := by
  have hlength := length_padded hwidth.1 h
  have htake : (padded width n ++ ['Z']).takeWhile Json.isDigit = padded width n := by
    rw [List.takeWhile_append_of_pos (all_isDigit_padded width n),
      List.takeWhile_cons_of_neg (by decide), List.append_nil]
  have hkept : (padded width n).take 9 = padded width n := List.take_of_length_le (by omega)
  rw [List.cons_append, fraction?]
  show (if (padded width n ++ ['Z']).takeWhile Json.isDigit = [] then none
    else some (Json.digitsValue (((padded width n ++ ['Z']).takeWhile Json.isDigit).take 9) *
      Nat.pow 10 (9 - (((padded width n ++ ['Z']).takeWhile Json.isDigit).take 9).length),
      (padded width n ++ ['Z']).drop ((padded width n ++ ['Z']).takeWhile Json.isDigit).length))
    = _
  rw [htake, if_neg (padded_ne_nil width n), hkept, digitsValue_padded, hlength]
  rw [show (padded width n ++ ['Z']).drop width = ['Z'] from List.drop_left' hlength]

/-- The fraction of a second is read back, with however many digits it is written. -/
theorem fraction?_fractionChars {nano : Nat} (h : nano < 1000000000) :
    fraction? (fractionChars nano ++ ['Z']) = some (nano, ['Z']) := by
  rw [fractionChars]
  split
  · rename_i hzero
    rw [hzero]
    rfl
  split
  · rename_i hmilli
    have hread : fraction? ('.' :: padded 3 (nano / 1000000) ++ ['Z']) =
        some (nano / 1000000 * 1000000, ['Z']) :=
      fraction?_padded (by decide) (show nano / 1000000 < 1000 by omega)
    rwa [Nat.div_mul_cancel (Nat.dvd_of_mod_eq_zero hmilli)] at hread
  split
  · rename_i hmicro
    have hread : fraction? ('.' :: padded 6 (nano / 1000) ++ ['Z']) =
        some (nano / 1000 * 1000, ['Z']) :=
      fraction?_padded (by decide) (show nano / 1000 < 1000000 by omega)
    rwa [Nat.div_mul_cancel (Nat.dvd_of_mod_eq_zero hmicro)] at hread
  · have hread : fraction? ('.' :: padded 9 nano ++ ['Z']) = some (nano * 1, ['Z']) :=
      fraction?_padded (by decide) h
    rwa [Nat.mul_one] at hread

/-! ## Points in time -/

/-- An offset of nothing changes nothing. -/
theorem toUtc_zero {t : Timestamp} (hhour : t.hour < 24) (hminute : t.minute < 60) :
    t.toUtc 0 = t := by
  have hinDay : ((t.hour * 60 + t.minute - 0 : Int) % 1440).toNat = t.hour * 60 + t.minute := by
    omega
  rw [toUtc]
  simp only [hinDay]
  rw [if_neg (by omega), if_neg (by omega)]
  congr 1 <;> omega

theorem mark?_cons {c : Char} (h : Text.isBlank c = false) (rest : List Char) :
    mark? c (c :: rest) = some rest := by
  rw [mark?, Text.trimLeft, List.dropWhile_cons_of_neg (by rw [h]; exact Bool.false_ne_true)]
  exact if_pos rfl

/-- A point in time is read back if its year is. -/
theorem parse_print_of_year {t : Timestamp} (valid : t.isValid = true)
    (hyear : ∀ rest, year? (yearChars t.year ++ '-' :: rest) = some (t.year, '-' :: rest)) :
    parse t.print = some t := by
  have hvalid := valid
  simp only [isValid, Bool.and_eq_true, decide_eq_true_eq] at hvalid
  obtain ⟨⟨⟨⟨⟨⟨⟨⟨-, -⟩, hmonth⟩, -⟩, hday⟩, hhour⟩, hminute⟩, hsecond⟩, hnano⟩ := hvalid
  have hdays : daysInMonth t.year t.month ≤ 31 := by
    rw [daysInMonth]
    split
    · split <;> decide
    · split <;> decide
  have htwo : ∀ {n : Nat}, n ≤ 60 → ∀ rest, digits? 2 (padded 2 n ++ rest) = some (n, rest) :=
    fun {n} hn rest => digits?_padded (by decide) (show n < 100 by omega) rest
  rw [parse, print, String.toList_ofList]
  simp only [List.cons_append, List.append_assoc]
  refine Option.bind_eq_some_iff.mpr ⟨_, hyear _, ?_⟩
  refine Option.bind_eq_some_iff.mpr ⟨_, mark?_cons rfl _, ?_⟩
  refine Option.bind_eq_some_iff.mpr ⟨_, htwo (by omega) _, ?_⟩
  refine Option.bind_eq_some_iff.mpr ⟨_, mark?_cons rfl _, ?_⟩
  refine Option.bind_eq_some_iff.mpr ⟨_, htwo (by omega) _, ?_⟩
  -- the date is over
  dsimp only
  rw [if_pos (.inl rfl)]
  refine Option.bind_eq_some_iff.mpr ⟨_, rfl, ?_⟩
  refine Option.bind_eq_some_iff.mpr ⟨_, htwo (by omega) _, ?_⟩
  refine Option.bind_eq_some_iff.mpr ⟨_, mark?_cons rfl _, ?_⟩
  refine Option.bind_eq_some_iff.mpr ⟨_, htwo (by omega) _, ?_⟩
  refine Option.bind_eq_some_iff.mpr ⟨_, mark?_cons rfl _, ?_⟩
  refine Option.bind_eq_some_iff.mpr ⟨_, htwo hsecond _, ?_⟩
  refine Option.bind_eq_some_iff.mpr ⟨_, fraction?_fractionChars hnano, ?_⟩
  refine Option.bind_eq_some_iff.mpr ⟨(0, []), rfl, ?_⟩
  have hutc := toUtc_zero hhour hminute
  dsimp only
  rw [hutc, if_pos ⟨rfl, valid, valid⟩]

/-- A point in time of the years 0 to 9999 is read back. -/
theorem parse_print {t : Timestamp} (valid : t.isValid = true)
    (hyear : 0 ≤ t.year ∧ t.year ≤ 9999) : parse t.print = some t :=
  parse_print_of_year valid fun rest => year?_yearChars hyear ('-' :: rest)

/-- Every point in time is read back. -/
theorem parse_print_of_isValid {t : Timestamp} (valid : t.isValid = true) :
    parse t.print = some t := by
  by_cases hyear : 0 ≤ t.year ∧ t.year ≤ 9999
  · exact parse_print valid hyear
  · exact parse_print_of_year valid (year?_signed hyear)

end PortletPage.Timestamp
