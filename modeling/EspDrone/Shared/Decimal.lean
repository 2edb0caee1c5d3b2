import EspDrone.Shared.CString

set_option autoImplicit false

namespace Decimal

open CString

-- isspace: blank, tab, line feed, vertical tab, form feed and carriage return.
def isSpace (b : UInt8) : Bool :=
  b == 32 || (9 ≤ b && b ≤ 13)

def isDigit (b : UInt8) : Bool :=
  48 ≤ b && b ≤ 57

def digitsValue (digits : Bytes) : Nat :=
  digits.foldl (fun value digit => value * 10 + (digit.toNat - 48)) 0

-- strtol in base ten, before the range of its result is applied: '-' is 45, '+' is 43.
def signedPrefix : Bytes → Int
  | [] => 0
  | c :: rest =>
      if c = 45 then -(digitsValue (rest.takeWhile isDigit) : Int)
      else if c = 43 then digitsValue (rest.takeWhile isDigit)
      else digitsValue ((c :: rest).takeWhile isDigit)

-- Out of range, strtol returns the nearest end of the range.
def atoi (s : Bytes) : Int32 :=
  Int32.ofIntClamp (signedPrefix (s.dropWhile isSpace))

def natural (digits : Bytes) : Option Nat :=
  if digits ≠ [] ∧ digits.all isDigit then some (digitsValue digits) else none

def integer : Bytes → Option Int
  | [] => none
  | c :: rest =>
      if c = 45 then (natural rest).map fun value : Nat => -(value : Int)
      else if c = 43 then (natural rest).map fun value : Nat => (value : Int)
      else (natural (c :: rest)).map fun value : Nat => (value : Int)

def integer32 (field : Bytes) : Option Int32 :=
  (integer field).bind fun value =>
    if -2147483648 ≤ value ∧ value ≤ 2147483647 then some (Int32.ofInt value) else none

def digits (n : Nat) : Bytes :=
  (Nat.toDigits 10 n).map fun c => UInt8.ofNat c.toNat

-- The canonical rendering: no leading zeros, and a sign only below zero.
def decimal (value : Int) : Bytes :=
  if value < 0 then 45 :: digits value.natAbs else digits value.natAbs

theorem natural_value {digits : Bytes} {value : Nat} (whole : natural digits = some value) :
    digits ≠ [] ∧ digits.all isDigit = true ∧ digitsValue (digits.takeWhile isDigit) = value := by
  unfold natural at whole
  split at whole
  next number =>
    have all : digits.takeWhile isDigit = digits := by
      rw [List.takeWhile_eq_self_iff]
      exact List.all_eq_true.1 number.2
    rw [all]
    exact ⟨number.1, number.2, Option.some.inj whole⟩
  next => cases whole

theorem integer_cases {field : Bytes} {value : Int} (whole : integer field = some value) :
    ∃ digits number, natural digits = some number ∧
      (field = 45 :: digits ∧ value = -(number : Int) ∨
        (field = 43 :: digits ∨ field = digits) ∧ value = number) := by
  cases field with
  | nil => cases whole
  | cons c rest =>
    rw [integer] at whole
    by_cases minus : c = 45
    · rw [if_pos minus, Option.map_eq_some_iff] at whole
      obtain ⟨number, digits, rfl⟩ := whole
      exact ⟨rest, number, digits, .inl ⟨by rw [minus], rfl⟩⟩
    rw [if_neg minus] at whole
    by_cases plus : c = 43
    · rw [if_pos plus, Option.map_eq_some_iff] at whole
      obtain ⟨number, digits, rfl⟩ := whole
      exact ⟨rest, number, digits, .inr ⟨.inl (by rw [plus]), rfl⟩⟩
    · rw [if_neg plus, Option.map_eq_some_iff] at whole
      obtain ⟨number, digits, rfl⟩ := whole
      exact ⟨c :: rest, number, digits, .inr ⟨.inr rfl, rfl⟩⟩

theorem digit_bounds {c : UInt8} (digit : isDigit c = true) : 48 ≤ c.toNat ∧ c.toNat ≤ 57 := by
  simpa [isDigit, UInt8.le_iff_toNat_le] using digit

theorem digit_plain {c : UInt8} (digit : isDigit c = true) :
    isSpace c = false ∧ c ≠ 45 ∧ c ≠ 43 ∧ c ≠ 0 := by
  have bounds := digit_bounds digit
  have differs (d : UInt8) (below : d.toNat < 48) : c ≠ d := by
    rintro rfl
    omega
  have notControl : ¬ c ≤ 13 := by
    rw [UInt8.le_iff_toNat_le]
    have bound : (13 : UInt8).toNat = 13 := rfl
    omega
  refine ⟨?_, differs 45 (by decide), differs 43 (by decide), differs 0 (by decide)⟩
  simp [isSpace, differs 32 (by decide), notControl]

-- No sign and no digit is white space, so a number starts where atoi starts reading.
theorem integer_no_space {field : Bytes} {value : Int} (whole : integer field = some value) :
    field.dropWhile isSpace = field := by
  obtain ⟨digits, number, isNumber, (⟨rfl, -⟩ | ⟨rfl | rfl, -⟩)⟩ := integer_cases whole
  · rfl
  · rfl
  · obtain ⟨nonempty, all, -⟩ := natural_value isNumber
    obtain ⟨c, rest, rfl⟩ := List.exists_cons_of_ne_nil nonempty
    have digit : isDigit c = true := List.all_eq_true.1 all c (by simp)
    rw [List.dropWhile_cons, (digit_plain digit).1]
    rfl

theorem signedPrefix_integer {field : Bytes} {value : Int} (whole : integer field = some value) :
    signedPrefix field = value := by
  obtain ⟨digits, number, isNumber, shape⟩ := integer_cases whole
  obtain ⟨nonempty, all, read⟩ := natural_value isNumber
  obtain ⟨rfl, rfl⟩ | ⟨rfl | rfl, rfl⟩ := shape
  · rw [signedPrefix, if_pos rfl, read]
  · rw [signedPrefix, if_neg (by decide), if_pos rfl, read]
  · obtain ⟨c, rest, rfl⟩ := List.exists_cons_of_ne_nil nonempty
    obtain ⟨-, minus, plus, -⟩ := digit_plain (List.all_eq_true.1 all c (by simp))
    rw [signedPrefix, if_neg minus, if_neg plus, read]

theorem integer_clean {field : Bytes} {value : Int} (whole : integer field = some value) :
    field ≠ [] ∧ 0 ∉ field := by
  obtain ⟨digits, number, isNumber, shape⟩ := integer_cases whole
  obtain ⟨nonempty, all, -⟩ := natural_value isNumber
  have clean : 0 ∉ digits := fun member =>
    (digit_plain (List.all_eq_true.1 all 0 member)).2.2.2 rfl
  obtain ⟨rfl, -⟩ | ⟨rfl | rfl, -⟩ := shape
  · simpa using clean
  · simpa using clean
  · exact ⟨nonempty, clean⟩

theorem integer32_clean {field : Bytes} {value : Int32} (whole : integer32 field = some value) :
    field ≠ [] ∧ 0 ∉ field := by
  obtain ⟨number, isInteger, -⟩ := Option.bind_eq_some_iff.1 whole
  exact integer_clean isInteger

/-- On a field that is a 32-bit integer in decimal, `atoi` returns that integer. -/
theorem atoi_integer32 {field : Bytes} {value : Int32} (whole : integer32 field = some value) :
    atoi field = value := by
  unfold integer32 at whole
  rw [Option.bind_eq_some_iff] at whole
  obtain ⟨number, isInteger, fits⟩ := whole
  split at fits
  next range =>
    obtain rfl := Option.some.inj fits
    rw [atoi, integer_no_space isInteger, signedPrefix_integer isInteger, ← Int32.toInt_inj,
      Int32.toInt_ofIntClamp range.1 range.2,
      Int32.toInt_ofInt_of_le range.1 (by omega)]
  next => cases fits

theorem digits_of_lt {n : Nat} (small : n < 10) : digits n = [UInt8.ofNat (48 + n)] := by
  rw [digits, Nat.toDigits_of_lt_base small, List.map_singleton,
    Nat.toNat_digitChar_of_lt_ten small]

theorem digits_of_ge {n : Nat} (large : 10 ≤ n) :
    digits n = digits (n / 10) ++ [UInt8.ofNat (48 + n % 10)] := by
  rw [digits, Nat.toDigits_of_base_le (by omega) large, List.map_append, List.map_singleton,
    Nat.toNat_digitChar_of_lt_ten (Nat.mod_lt n (by omega)), digits]

theorem digit_toNat {n : Nat} (small : n < 10) : (UInt8.ofNat (48 + n)).toNat = 48 + n := by
  rw [UInt8.toNat_ofNat']
  omega

theorem isDigit_ofNat {n : Nat} (small : n < 10) : isDigit (UInt8.ofNat (48 + n)) = true := by
  have value := digit_toNat small
  simp only [isDigit, Bool.and_eq_true, decide_eq_true_eq, UInt8.le_iff_toNat_le, value]
  exact ⟨Nat.le_add_right 48 n, by simp; omega⟩

theorem digitsValue_snoc (earlier : Bytes) (last : UInt8) :
    digitsValue (earlier ++ [last]) = digitsValue earlier * 10 + (last.toNat - 48) := by
  rw [digitsValue, List.foldl_append]
  rfl

theorem digits_isDigit (n : Nat) : ∀ c ∈ digits n, isDigit c = true := by
  induction n using Nat.strongRecOn with
  | ind n ih =>
    by_cases small : n < 10
    · rw [digits_of_lt small]
      simpa using isDigit_ofNat small
    · rw [digits_of_ge (by omega)]
      intro c member
      rcases List.mem_append.1 member with earlier | last
      · exact ih (n / 10) (by omega) c earlier
      · rw [List.mem_singleton.1 last]
        exact isDigit_ofNat (Nat.mod_lt n (by omega))

theorem digitsValue_digits (n : Nat) : digitsValue (digits n) = n := by
  induction n using Nat.strongRecOn with
  | ind n ih =>
    by_cases small : n < 10
    · rw [digits_of_lt small, ← List.nil_append [_], digitsValue_snoc, digit_toNat small]
      simp [digitsValue]
    · have last : n % 10 < 10 := Nat.mod_lt n (by omega)
      rw [digits_of_ge (by omega), digitsValue_snoc, ih (n / 10) (by omega), digit_toNat last]
      omega

theorem digits_ne_nil (n : Nat) : digits n ≠ [] := by
  simp [digits]

theorem natural_digits (n : Nat) : natural (digits n) = some n := by
  rw [natural, if_pos ⟨digits_ne_nil n, List.all_eq_true.2 (digits_isDigit n)⟩,
    digitsValue_digits]

theorem integer_of_natural {field : Bytes} {value : Nat} (whole : natural field = some value) :
    integer field = some (value : Int) := by
  obtain ⟨nonempty, all, -⟩ := natural_value whole
  obtain ⟨c, rest, rfl⟩ := List.exists_cons_of_ne_nil nonempty
  obtain ⟨-, minus, plus, -⟩ := digit_plain (List.all_eq_true.1 all c (by simp))
  rw [integer, if_neg minus, if_neg plus, whole, Option.map_some]

theorem integer_decimal (value : Int) : integer (decimal value) = some value := by
  unfold decimal
  split
  next negative =>
    rw [integer, if_pos rfl, natural_digits, Option.map_some]
    congr 1
    omega
  next nonnegative =>
    rw [integer_of_natural (natural_digits value.natAbs)]
    congr 1
    omega

theorem integer32_decimal (value : Int32) : integer32 (decimal value.toInt) = some value := by
  have low := Int32.le_toInt value
  have high := Int32.toInt_lt value
  rw [integer32, integer_decimal, Option.bind_some, if_pos (by omega), Int32.ofInt_toInt]

theorem decimal_length (value : Int32) : (decimal value.toInt).length ≤ 11 := by
  have low := Int32.le_toInt value
  have high := Int32.toInt_lt value
  have short : (digits value.toInt.natAbs).length ≤ 10 := by
    rw [digits, List.length_map, Nat.length_toDigits_le_iff (by omega) (by omega)]
    omega
  unfold decimal
  split
  next => exact Nat.succ_le_succ short
  next => exact Nat.le_succ_of_le short

-- A string of ASCII characters is stored as their codes.
theorem utf8_of_ascii {chars : List Char} (ascii : ∀ c ∈ chars, c.toNat < 128) :
    (String.ofList chars).toUTF8.data.toList = chars.map fun c => UInt8.ofNat c.toNat := by
  rw [String.toUTF8_eq_toByteArray, String.toByteArray_ofList]
  induction chars with
  | nil => rfl
  | cons c rest ih =>
    have single : String.utf8EncodeChar c = [UInt8.ofNat c.toNat] := by
      apply String.utf8EncodeChar_eq_singleton
      rw [Char.utf8Size_eq_one_iff, UInt32.le_iff_toNat_le]
      exact Nat.le_of_lt_succ (ascii c (by simp))
    rw [List.utf8Encode_cons, List.utf8Encode_singleton, single]
    simp [ih fun d member => ascii d (List.mem_cons_of_mem _ member)]

def decimalChars (value : Int) : List Char :=
  (if value < 0 then ['-'] else []) ++ Nat.toDigits 10 value.natAbs

theorem toString_decimalChars (value : Int) :
    toString value = String.ofList (decimalChars value) := by
  cases value with
  | ofNat n =>
    have nonneg : ¬ Int.ofNat n < 0 := by simp
    rw [decimalChars, if_neg nonneg]
    rfl
  | negSucc n =>
    rw [decimalChars, if_pos (Int.negSucc_lt_zero n), String.ofList_append]
    rfl

theorem decimalChars_cases {value : Int} {c : Char} (member : c ∈ decimalChars value) :
    c = '-' ∨ c.isDigit = true := by
  rcases List.mem_append.1 member with sign | digit
  · split at sign
    next => exact .inl (List.mem_singleton.1 sign)
    next => cases sign
  · exact .inr (Nat.isDigit_of_mem_toDigits (by omega) (by omega) digit)

theorem toString_bytes (value : Int) : (toString value).toUTF8.data.toList = decimal value := by
  have ascii : ∀ c ∈ decimalChars value, c.toNat < 128 := by
    intro c member
    rcases decimalChars_cases member with rfl | digit
    · decide
    · have code : c.toNat = c.val.toNat := rfl
      simp only [Char.isDigit, ge_iff_le, Bool.and_eq_true, decide_eq_true_eq,
        UInt32.le_iff_toNat_le] at digit
      have nine : '9'.val.toNat = 57 := rfl
      omega
  rw [toString_decimalChars, utf8_of_ascii ascii, decimal, decimalChars]
  split <;> rfl

/-- `atoi` reads back the decimal rendering of every 32-bit integer. -/
theorem atoi_toString (value : Int32) :
    atoi (toString value.toInt).toUTF8.data.toList = value := by
  rw [toString_bytes]
  exact atoi_integer32 (integer32_decimal value)

example : decimal (-2147483648) = "-2147483648".toUTF8.data.toList := by decide
example : atoi " -12x".toUTF8.data.toList = -12 := by decide

end Decimal
