import EspDrone.Joystick.Format

set_option autoImplicit false

namespace EspDrone.Joystick

open CString Decimal

def fieldsOf (leftX leftY rightX rightY : Int32) : List Bytes :=
  [leftX, leftY, rightX, rightY].map fun value => decimal value.toInt

def encode (leftX leftY rightX rightY : Int32) : Bytes :=
  comma.intercalate (fieldsOf leftX leftY rightX rightY)

theorem comma_not_mem_decimal (value : Int) : 44 ∉ decimal value := by
  have digit : 44 ∉ digits value.natAbs := fun member =>
    absurd (digits_isDigit value.natAbs 44 member) (by decide)
  unfold decimal
  split
  next => simpa using digit
  next => exact digit

theorem encode_splitOn (leftX leftY rightX rightY : Int32) :
    (encode leftX leftY rightX rightY).splitOn 44 = fieldsOf leftX leftY rightX rightY := by
  apply List.splitOn_intercalate
  · intro field member
    obtain ⟨value, -, rfl⟩ := List.mem_map.1 member
    exact comma_not_mem_decimal value.toInt
  · simp [fieldsOf]

theorem encode_decimalFields (leftX leftY rightX rightY : Int32) :
    DecimalFields (encode leftX leftY rightX rightY) [leftX, leftY, rightX, rightY] := by
  rw [DecimalFields, encode_splitOn, fieldsOf, List.map_map]
  simp only [Function.comp_def, integer32_decimal]

theorem encode_length (leftX leftY rightX rightY : Int32) :
    (encode leftX leftY rightX rightY).length ≤ 47 := by
  have first := decimal_length leftX
  have second := decimal_length leftY
  have third := decimal_length rightX
  have fourth := decimal_length rightY
  simp [encode, fieldsOf, comma, List.intercalate]
  omega

theorem encode_nonempty (leftX leftY rightX rightY : Int32) :
    (encode leftX leftY rightX rightY).length ≠ 0 := by
  intro empty
  have four := congrArg List.length (encode_splitOn leftX leftY rightX rightY)
  rw [List.length_eq_zero_iff.1 empty] at four
  simp [fieldsOf] at four

/-- Whatever the listener holds from earlier datagrams, four encoded integers fit the read,
are accepted and are reported as they were. -/
theorem encoded_packet_reported (k : Listener) (leftX leftY rightX rightY : Int32) :
    (encode leftX leftY rightX rightY).length ≤ 254 ∧
    ∃ after, k.loop (encode leftX leftY rightX rightY) =
      .ok (after, rawReport (encode leftX leftY rightX rightY) ++
        joystickLines leftX leftY rightX rightY) := by
  have short : (encode leftX leftY rightX rightY).length ≤ 254 :=
    (encode_length leftX leftY rightX rightY).trans (by omega)
  have decimal := encode_decimalFields leftX leftY rightX rightY
  have values : (segments (encode leftX leftY rightX rightY)).map atoi =
      [leftX, leftY, rightX, rightY] := by
    rw [segments_decimalFields short decimal]
    exact map_atoi_of_integer32 decimal
  obtain ⟨after, looped⟩ := loop_nonempty k (encode_nonempty leftX leftY rightX rightY)
  rw [values] at looped
  exact ⟨short, after, looped⟩

example : encode (-2147483648) 0 7 2147483647 =
    "-2147483648,0,7,2147483647".toUTF8.data.toList := by decide

end EspDrone.Joystick
