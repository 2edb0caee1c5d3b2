import Mathlib.Algebra.Order.Floor.Semiring
import Mathlib.Data.List.TakeWhile
import Mathlib.Data.Rat.Floor
import Mathlib.Tactic.FieldSimp
import Mathlib.Tactic.Linarith
import Mathlib.Tactic.NormNum
import Mathlib.Tactic.Positivity

set_option autoImplicit false

namespace FixedPoint

-- The last digits of a number, leading zeros included.
def padded : Nat → Nat → List Char
  | 0, _ => []
  | places + 1, n => padded places (n / 10) ++ [Nat.digitChar (n % 10)]

def text (places : Nat) (negative : Bool) (n : Nat) : String :=
  String.ofList ((if negative then ['-'] else []) ++
    (Nat.toDigits 10 (n / 10 ^ places) ++ '.' :: padded places n))

def value (places : Nat) (negative : Bool) (n : Nat) : ℚ :=
  if negative then -(n / 10 ^ places) else n / 10 ^ places

def readUnsigned (chars : List Char) : ℚ :=
  let whole := chars.takeWhile Char.isDigit
  match chars.dropWhile Char.isDigit with
  | '.' :: rest =>
      let fraction := rest.takeWhile Char.isDigit
      (Nat.ofDigitChars 10 (whole ++ fraction) 0 : ℚ) / 10 ^ fraction.length
  | _ => Nat.ofDigitChars 10 whole 0

def read (text : String) : ℚ :=
  match text.toList with
  | '-' :: rest => -readUnsigned rest
  | '+' :: rest => readUnsigned rest
  | chars => readUnsigned chars

def nearest (x : ℚ) : Nat :=
  ⌊x + 1 / 2⌋₊

def render (places : Nat) (x : ℚ) : String :=
  text places (decide (x < 0)) (nearest (|x| * 10 ^ places))

theorem padded_length (places n : Nat) : (padded places n).length = places := by
  induction places generalizing n with
  | zero => rfl
  | succ places ih => simp [padded, ih]

theorem padded_isDigit (places n : Nat) : ∀ c ∈ padded places n, c.isDigit = true := by
  induction places generalizing n with
  | zero => simp [padded]
  | succ places ih =>
    intro c member
    rcases List.mem_append.1 member with earlier | last
    · exact ih (n / 10) c earlier
    · rw [List.mem_singleton.1 last, Nat.isDigit_digitChar]
      exact decide_eq_true (Nat.mod_lt n (by omega))

theorem padded_value (places n init : Nat) :
    Nat.ofDigitChars 10 (padded places n) init = 10 ^ places * init + n % 10 ^ places := by
  induction places generalizing n with
  | zero => simp [padded, Nat.mod_one]
  | succ places ih =>
    have last : n % 10 < 10 := Nat.mod_lt n (by omega)
    have split : n % 10 ^ (places + 1) = n % 10 + 10 * (n / 10 % 10 ^ places) := by
      rw [Nat.pow_succ', Nat.mod_mul]
    rw [padded, Nat.ofDigitChars_append, ih, Nat.ofDigitChars_cons_digitChar_of_lt_ten last,
      Nat.ofDigitChars_nil, split, Nat.pow_succ']
    ring

theorem readUnsigned_text (places n : Nat) :
    readUnsigned (Nat.toDigits 10 (n / 10 ^ places) ++ '.' :: padded places n) =
      (n : ℚ) / 10 ^ places := by
  have digits : ∀ c ∈ Nat.toDigits 10 (n / 10 ^ places), c.isDigit = true :=
    fun c member => Nat.isDigit_of_mem_toDigits (by omega) (by omega) member
  have point : Char.isDigit '.' = false := by decide
  have whole : (Nat.toDigits 10 (n / 10 ^ places) ++ '.' :: padded places n).takeWhile
      Char.isDigit = Nat.toDigits 10 (n / 10 ^ places) := by
    rw [List.takeWhile_append_of_pos digits, List.takeWhile_cons_of_neg (by simp [point]),
      List.append_nil]
  have rest : (Nat.toDigits 10 (n / 10 ^ places) ++ '.' :: padded places n).dropWhile
      Char.isDigit = '.' :: padded places n := by
    rw [List.dropWhile_append_of_pos digits, List.dropWhile_cons_of_neg (by simp [point])]
  have fraction : (padded places n).takeWhile Char.isDigit = padded places n :=
    List.takeWhile_eq_self_iff.2 (padded_isDigit places n)
  simp only [readUnsigned, whole, rest, fraction, padded_length]
  rw [Nat.ofDigitChars_append, Nat.ofDigitChars_ten_toDigits, padded_value, Nat.div_add_mod]

/-- The reader reads back what the text stands for. -/
theorem read_text (places : Nat) (negative : Bool) (n : Nat) :
    read (text places negative n) = value places negative n := by
  have unsigned := readUnsigned_text places n
  unfold read text value
  rw [String.toList_ofList]
  cases negative with
  | true => simp [unsigned]
  | false =>
    obtain ⟨c, rest, digits⟩ := List.exists_cons_of_ne_nil
      (show Nat.toDigits 10 (n / 10 ^ places) ≠ [] from Nat.toDigits_ne_nil)
    have digit : c.isDigit = true :=
      Nat.isDigit_of_mem_toDigits (b := 10) (n := n / 10 ^ places) (by omega) (by omega)
        (by simp [digits])
    have minus : c ≠ '-' := by
      rintro rfl
      cases digit
    have plus : c ≠ '+' := by
      rintro rfl
      cases digit
    rw [digits] at unsigned ⊢
    simpa [minus, plus] using unsigned

theorem text_cases {places : Nat} {negative : Bool} {n : Nat} {c : Char}
    (member : c ∈ (text places negative n).toList) : c = '-' ∨ c = '.' ∨ c.isDigit = true := by
  rw [text, String.toList_ofList] at member
  rcases List.mem_append.1 member with sign | number
  · left
    split at sign
    next => exact List.mem_singleton.1 sign
    next => cases sign
  rcases List.mem_append.1 number with whole | rest
  · exact .inr (.inr (Nat.isDigit_of_mem_toDigits (by omega) (by omega) whole))
  rcases List.mem_cons.1 rest with point | fraction
  · exact .inr (.inl point)
  · exact .inr (.inr (padded_isDigit places n c fraction))

theorem nearest_near {x : ℚ} (nonneg : 0 ≤ x) : |x - nearest x| ≤ 1 / 2 := by
  have below := Nat.floor_le (show 0 ≤ x + 1 / 2 by linarith)
  have above := Nat.lt_floor_add_one (x + 1 / 2)
  rw [nearest, abs_le]
  constructor <;> linarith

theorem render_near (places : Nat) (x : ℚ) :
    |x - value places (decide (x < 0)) (nearest (|x| * 10 ^ places))| ≤ 1 / (2 * 10 ^ places) := by
  have scale : (0 : ℚ) < 10 ^ places := by positivity
  have near := nearest_near (show 0 ≤ |x| * 10 ^ places by positivity)
  generalize nearest (|x| * 10 ^ places) = n at near ⊢
  have unit : |(|x| - n / 10 ^ places)| ≤ 1 / (2 * 10 ^ places) := by
    have scaled : |x| - n / 10 ^ places = (|x| * 10 ^ places - n) / 10 ^ places := by
      field_simp
    have bound := mul_le_mul_of_nonneg_right near scale.le
    rw [scaled, abs_div, abs_of_pos scale, div_le_div_iff₀ scale (by positivity)]
    linarith
  by_cases negative : x < 0
  · rw [abs_of_neg negative] at unit
    rw [value, if_pos (decide_eq_true negative), ← abs_neg]
    convert unit using 2
    ring
  · rw [abs_of_nonneg (not_lt.1 negative)] at unit
    rwa [value, if_neg (by simpa using negative)]

def Units (places : Nat) (x : ℚ) : Prop :=
  ∃ m : Int, x = m / 10 ^ places

theorem value_units (places : Nat) (negative : Bool) (n : Nat) :
    Units places (value places negative n) := by
  cases negative with
  | true => exact ⟨-n, by simp [value, neg_div]⟩
  | false => exact ⟨n, by simp [value]⟩

/-- Half a unit away from a whole number of units there is no other. -/
theorem units_near {places : Nat} {x y : ℚ} (first : Units places x) (second : Units places y)
    (near : |x - y| ≤ 1 / (2 * 10 ^ places)) : y = x := by
  obtain ⟨m, rfl⟩ := first
  obtain ⟨k, rfl⟩ := second
  have scale : (0 : ℚ) < 10 ^ places := by positivity
  rw [← sub_div, abs_div, abs_of_pos scale, div_le_div_iff₀ scale (by positivity)] at near
  have close : |(m : ℚ) - k| < 1 := by
    have half : |(m : ℚ) - k| * 2 ≤ 1 := by
      apply le_of_mul_le_mul_right _ scale
      linarith
    linarith
  have same : |m - k| < 1 := by exact_mod_cast close
  rw [Int.abs_lt_one_iff.1 same |> sub_eq_zero.1]

end FixedPoint
