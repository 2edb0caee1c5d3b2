import Mathlib.Data.List.DropRight
import Mathlib.Tactic.IntervalCases

set_option autoImplicit false

namespace EspDrone.UdpXmitter

-- String.split(";"): a text without the separator is one field, and empty fields at the end
-- are left out.
def split (text : List Char) : List (List Char) :=
  if ';' ∈ text then (text.splitOn ';').rdropWhile List.isEmpty else [text]

def trim (text : List Char) : List Char :=
  (text.dropWhile fun c => c ≤ ' ').rdropWhile fun c => c ≤ ' '

-- Integer.valueOf for a text without a sign; `digit` is Character.digit.
def valueOf (digit : Char → Nat → Option Nat) (radix limit : Nat) (text : List Char) :
    Option Nat :=
  if text.isEmpty then none
  else
    (text.foldlM (fun value c => (digit c radix).map (value * radix + ·)) 0).filter
      fun value => decide (value ≤ limit)

-- The radix, and the text behind its mark.
def radixOf : List Char → Nat × List Char
  | '0' :: 'x' :: rest => (16, rest)
  | '0' :: 'X' :: rest => (16, rest)
  | '#' :: rest => (16, rest)
  | '0' :: c :: rest => (8, c :: rest)
  | text => (10, text)

def decode (digit : Char → Nat → Option Nat) (text : List Char) : Option Int :=
  let negative := text.head? == some '-'
  let unsigned := if negative || text.head? == some '+' then text.tail else text
  let marked := radixOf unsigned
  if marked.2.head? == some '-' || marked.2.head? == some '+' then none
  else if negative then
    (valueOf digit marked.1 2147483648 marked.2).map fun value => -(value : Int)
  else (valueOf digit marked.1 2147483647 marked.2).map fun value => (value : Int)

def toByte (value : Int) : Option UInt8 :=
  if value > 255 ∨ value < 0 then none else some (UInt8.ofNat value.toNat)

-- Helpers.StringToBytes; `none` is the NumberFormatException.
def stringToBytes (digit : Char → Nat → Option Nat) (input : List Char) : Option (List UInt8) :=
  (split (input.map fun c => if c = ',' then ';' else c)).mapM fun field =>
    (decode digit (trim field)).bind toByte

-- The loop of PacketReceived, and the substring behind the first semicolon.
def binaryText (bytes : List UInt8) : List Char :=
  (bytes.flatMap fun byte => ';' :: Nat.toDigits 10 byte.toNat).tail

-- What is used of Character.digit for the digits of ASCII.
def AsciiDigits (digit : Char → Nat → Option Nat) : Prop :=
  ∀ n, n < 10 → digit n.digitChar 10 = some n

variable {digit : Char → Nat → Option Nat}

theorem binaryText_intercalate (bytes : List UInt8) :
    binaryText bytes = [';'].intercalate (bytes.map fun byte => Nat.toDigits 10 byte.toNat) := by
  induction bytes with
  | nil => rfl
  | cons byte rest ih =>
    cases rest with
    | nil => simp [binaryText, List.intercalate_singleton]
    | cons next later =>
      simp only [List.map_cons] at ih ⊢
      rw [List.intercalate_cons_cons, ← ih]
      simp [binaryText]

theorem foldlM_toDigits (ascii : AsciiDigits digit) (n : Nat) :
    (Nat.toDigits 10 n).foldlM (fun value c => (digit c 10).map (value * 10 + ·)) 0 = some n := by
  induction n using Nat.strongRecOn with
  | ind n ih =>
    by_cases small : n < 10
    · simp [Nat.toDigits_of_lt_base small, ascii n small]
    · have last := ascii (n % 10) (Nat.mod_lt n (by omega))
      rw [Nat.toDigits_of_base_le (by omega) (by omega), List.foldlM_append,
        ih (n / 10) (by omega)]
      simp [last]
      omega

theorem digits_of_mem {n : Nat} {c : Char} (member : c ∈ Nat.toDigits 10 n) :
    c.isDigit = true :=
  Nat.isDigit_of_mem_toDigits (by omega) (by omega) member

theorem toDigits_head (n : Nat) (positive : 0 < n) :
    (Nat.toDigits 10 n).head? ≠ some '0' := by
  induction n using Nat.strongRecOn with
  | ind n ih =>
    by_cases small : n < 10
    · rw [Nat.toDigits_of_lt_base small, List.head?_cons]
      intro zero
      have code := congrArg Char.toNat (Option.some.inj zero)
      rw [Nat.toNat_digitChar_of_lt_ten small] at code
      simp at code
      omega
    · have earlier := ih (n / 10) (by omega) (by omega)
      rw [Nat.toDigits_of_base_le (by omega) (by omega),
        List.head?_append_of_ne_nil _ Nat.toDigits_ne_nil]
      exact earlier

theorem radixOf_plain (c : Char) (rest : List Char) (leading : c ≠ '0') (mark : c ≠ '#') :
    radixOf (c :: rest) = (10, c :: rest) := by
  unfold radixOf
  split <;> simp_all

-- A leading zero would ask for another radix.
theorem radixOf_toDigits (n : Nat) : radixOf (Nat.toDigits 10 n) = (10, Nat.toDigits 10 n) := by
  cases n with
  | zero => rfl
  | succ n =>
    have head := toDigits_head (n + 1) (Nat.succ_pos n)
    have digits := fun c => digits_of_mem (n := n + 1) (c := c)
    generalize Nat.toDigits 10 (n + 1) = text at head digits ⊢
    cases text with
    | nil => rfl
    | cons c rest =>
      refine radixOf_plain c rest (fun zero => head (by rw [zero, List.head?_cons])) ?_
      rintro rfl
      simpa using digits '#' (List.mem_cons_self ..)

theorem digit_not_sign {c : Char} (digit : c.isDigit = true) :
    c ≠ '-' ∧ c ≠ '+' ∧ c ≠ ';' ∧ c ≠ ',' ∧ ¬c ≤ ' ' := by
  refine ⟨?_, ?_, ?_, ?_, ?_⟩
  · rintro rfl; simp at digit
  · rintro rfl; simp at digit
  · rintro rfl; simp at digit
  · rintro rfl; simp at digit
  · intro blank
    simp only [Char.isDigit, Bool.and_eq_true, decide_eq_true_eq, ge_iff_le,
      UInt32.le_iff_toNat_le] at digit
    have below := UInt32.le_iff_toNat_le.1 (Char.le_def.1 blank)
    exact absurd (Nat.le_trans digit.1 below) (by decide)

theorem trim_digits (n : Nat) : trim (Nat.toDigits 10 n) = Nat.toDigits 10 n := by
  have clean : ∀ c ∈ Nat.toDigits 10 n, ¬decide (c ≤ ' ') = true := fun c member => by
    simpa using (digit_not_sign (digits_of_mem member)).2.2.2.2
  have front : (Nat.toDigits 10 n).dropWhile (fun c => c ≤ ' ') = Nat.toDigits 10 n :=
    List.dropWhile_eq_self_iff.2 fun inside => clean _ (List.getElem_mem inside)
  rw [trim, front]
  exact List.rdropWhile_eq_self_iff.2 fun more => clean _ (List.getLast_mem more)

theorem decode_toDigits (ascii : AsciiDigits digit) (n : Nat) (small : n ≤ 2147483647) :
    decode digit (Nat.toDigits 10 n) = some (n : Int) := by
  have value := foldlM_toDigits ascii n
  have radix := radixOf_toDigits n
  have unsigned : ∀ c, (Nat.toDigits 10 n).head? = some c → c ≠ '-' ∧ c ≠ '+' := by
    intro c head
    have plain := digit_not_sign (digits_of_mem (List.mem_of_head? head))
    exact ⟨plain.1, plain.2.1⟩
  have some' : Nat.toDigits 10 n ≠ [] := Nat.toDigits_ne_nil
  generalize Nat.toDigits 10 n = text at *
  cases text with
  | nil => exact absurd rfl some'
  | cons c rest =>
    obtain ⟨minus, plus⟩ := unsigned c rfl
    simp [decode, radix, minus, plus, valueOf, value, Option.filter_some, small]

theorem toByte_toNat (byte : UInt8) : toByte (byte.toNat : Int) = some byte := by
  have small := byte.toNat_lt
  rw [toByte, if_neg (by omega)]
  simp

theorem split_binaryText (bytes : List UInt8) (some' : bytes ≠ []) :
    split (binaryText bytes) = bytes.map fun byte => Nat.toDigits 10 byte.toNat := by
  have parts : (binaryText bytes).splitOn ';' =
      bytes.map fun byte => Nat.toDigits 10 byte.toNat := by
    rw [binaryText_intercalate]
    refine List.splitOn_intercalate ';' (fun field member inside => ?_) (by simpa using some')
    obtain ⟨byte, -, rfl⟩ := List.mem_map.1 member
    exact (digit_not_sign (digits_of_mem inside)).2.2.1 rfl
  unfold split
  split
  next =>
    rw [parts]
    refine List.rdropWhile_eq_self_iff.2 fun more => ?_
    obtain ⟨byte, -, last⟩ := List.mem_map.1 (List.getLast_mem more)
    rw [← last]
    simp
  next single => rw [← parts, List.splitOn_eq_singleton single]

theorem field_toByte (ascii : AsciiDigits digit) (byte : UInt8) :
    (decode digit (trim (Nat.toDigits 10 byte.toNat))).bind toByte = some byte := by
  have small := byte.toNat_lt
  rw [trim_digits, decode_toDigits ascii _ (by omega), Option.bind_some, toByte_toNat]

theorem stringToBytes_binaryText (ascii : AsciiDigits digit) (bytes : List UInt8)
    (some' : bytes ≠ []) : stringToBytes digit (binaryText bytes) = some bytes := by
  have plain : (binaryText bytes).map (fun c => if c = ',' then ';' else c) =
      binaryText bytes := by
    refine (List.map_congr_left fun c member => ?_).trans (List.map_id _)
    obtain ⟨byte, -, inside⟩ := List.mem_flatMap.1 (List.mem_of_mem_tail member)
    rcases List.mem_cons.1 inside with rfl | inside
    · rfl
    · exact if_neg (digit_not_sign (digits_of_mem inside)).2.2.2.1
  rw [stringToBytes, plain, split_binaryText bytes some']
  clear plain some'
  induction bytes with
  | nil => rfl
  | cons byte rest ih =>
    rw [List.map_cons, List.mapM_cons, field_toByte ascii, ih]
    rfl

def asciiDigit (c : Char) (radix : Nat) : Option Nat :=
  let value :=
    if c.isDigit then c.toNat - '0'.toNat
    else if c.isLower then c.toNat - 'a'.toNat + 10
    else if c.isUpper then c.toNat - 'A'.toNat + 10
    else radix
  if value < radix then some value else none

theorem asciiDigit_ascii : AsciiDigits asciiDigit := by
  intro n small
  interval_cases n <;> rfl

/-- Bytes shown in binary mode are read back one for one by `StringToBytes`, except that the text
of no bytes is no number. -/
theorem binaryText_round_trip (ascii : AsciiDigits digit) (bytes : List UInt8) :
    stringToBytes digit (binaryText bytes) = some bytes ↔ bytes ≠ [] := by
  constructor
  next =>
    rintro same rfl
    simp [binaryText, stringToBytes, split, trim, decode, radixOf, valueOf] at same
  next => exact stringToBytes_binaryText ascii bytes

theorem binaryText_round_trip_three :
    stringToBytes asciiDigit (binaryText [7, 0, 255]) = some [7, 0, 255] ↔
      ([7, 0, 255] : List UInt8) ≠ [] :=
  binaryText_round_trip asciiDigit_ascii [7, 0, 255]

example : stringToBytes asciiDigit " 0x10, 010;-0;;".toList = some [16, 8, 0] := by decide

end EspDrone.UdpXmitter
