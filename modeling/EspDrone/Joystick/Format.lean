import EspDrone.Joystick.Report

set_option autoImplicit false

namespace EspDrone.Joystick

open CString Decimal

def DecimalFields (packet : Bytes) (values : List Int32) : Prop :=
  (packet.splitOn 44).map integer32 = values.map some

def FourValueFormat (packet : Bytes) : Prop :=
  ∃ values, DecimalFields packet values ∧ values.length = 4

theorem decimalFields_integer {packet : Bytes} {values : List Int32}
    (decimal : DecimalFields packet values) {field : Bytes} (member : field ∈ packet.splitOn 44) :
    ∃ value, integer32 field = some value := by
  have image : integer32 field ∈ values.map some := decimal ▸ List.mem_map_of_mem member
  obtain ⟨value, -, found⟩ := List.mem_map.1 image
  exact ⟨value, found.symm⟩

theorem map_atoi_of_integer32 {segments : List Bytes} {values : List Int32}
    (decimal : segments.map integer32 = values.map some) : segments.map atoi = values := by
  induction segments generalizing values with
  | nil =>
    rw [List.map_nil] at decimal
    rw [List.map_nil, List.map_eq_nil_iff.1 decimal.symm]
  | cons segment rest ih =>
    cases values with
    | nil => cases decimal
    | cons value later =>
      rw [List.map_cons, List.map_cons, List.cons.injEq] at decimal
      rw [List.map_cons, atoi_integer32 decimal.1, ih decimal.2]

-- Nothing is cut off such a packet, and none of its fields is dropped.
theorem segments_decimalFields {packet : Bytes} {values : List Int32}
    (short : packet.length ≤ 254) (decimal : DecimalFields packet values) :
    segments packet = packet.splitOn 44 := by
  have noNul : (0 : UInt8) ≠ 44 := by decide
  have clean : 0 ∉ packet := not_mem_of_splitOn noNul fun field member => by
    obtain ⟨value, whole⟩ := decimalFields_integer decimal member
    exact (integer32_clean whole).2
  have kept : payload packet = packet := by
    rw [payload, List.take_of_length_le short, List.takeWhile_eq_self_iff]
    intro b member
    simpa using ne_of_mem_of_not_mem member clean
  have delimiter : comma.contains = (· == (44 : UInt8)) := by
    funext b
    simp [comma, Bool.beq_eq_decide_eq]
  rw [segments, kept, fields, delimiter, ← List.splitOn_eq_splitOnP, List.filter_eq_self]
  intro field member
  obtain ⟨value, whole⟩ := decimalFields_integer decimal member
  simpa using (integer32_clean whole).1

theorem valuesReport_of_four {values : List Int32} (enough : 4 ≤ values.length) :
    ∃ leftX leftY rightX rightY, values.take 4 = [leftX, leftY, rightX, rightY] ∧
      valuesReport values = joystickLines leftX leftY rightX rightY := by
  match values, enough with
  | leftX :: leftY :: rightX :: rightY :: rest, _ =>
    exact ⟨leftX, leftY, rightX, rightY, rfl, rfl⟩

theorem valuesReport_of_short {values : List Int32} (short : values.length < 4) :
    valuesReport values = errorLines := by
  match values, short with
  | [], _ => rfl
  | [_], _ => rfl
  | [_, _], _ => rfl
  | [_, _, _], _ => rfl
  | _ :: _ :: _ :: _ :: rest, short =>
    simp only [List.length_cons] at short
    omega

theorem joystickLines_ne_errorLines (leftX leftY rightX rightY : Int32) :
    joystickLines leftX leftY rightX rightY ≠ errorLines := nofun

theorem joystickLines_inj {a b c d a' b' c' d' : Int32}
    (same : joystickLines a b c d = joystickLines a' b' c' d') :
    [a, b, c, d] = [a', b', c', d'] := by
  simpa [joystickLines] using same

theorem valuesReport_accepts_iff (values : List Int32) :
    (∃ leftX leftY rightX rightY, valuesReport values = joystickLines leftX leftY rightX rightY) ↔
      4 ≤ values.length := by
  constructor
  · rintro ⟨leftX, leftY, rightX, rightY, accepted⟩
    by_contra few
    rw [valuesReport_of_short (by omega)] at accepted
    exact joystickLines_ne_errorLines _ _ _ _ accepted.symm
  · intro enough
    obtain ⟨leftX, leftY, rightX, rightY, -, accepted⟩ := valuesReport_of_four enough
    exact ⟨leftX, leftY, rightX, rightY, accepted⟩

theorem valuesReport_refuses_iff (values : List Int32) :
    valuesReport values = errorLines ↔ values.length < 4 := by
  constructor
  · intro refused
    by_contra enough
    obtain ⟨leftX, leftY, rightX, rightY, -, accepted⟩ :=
      valuesReport_of_four (Nat.le_of_not_lt enough)
    exact joystickLines_ne_errorLines _ _ _ _ (accepted.symm.trans refused)
  · exact valuesReport_of_short

theorem valuesReport_values {values : List Int32} {leftX leftY rightX rightY : Int32}
    (accepted : valuesReport values = joystickLines leftX leftY rightX rightY) :
    values.take 4 = [leftX, leftY, rightX, rightY] := by
  have enough := (valuesReport_accepts_iff values).1 ⟨_, _, _, _, accepted⟩
  obtain ⟨a, b, c, d, first, lines⟩ := valuesReport_of_four enough
  rw [first, joystickLines_inj (lines.symm.trans accepted)]

-- What the lines printed for a packet say about it.
structure Outcome (packet : Bytes) (lines : List Output) : Prop where
  accepts : (∃ leftX leftY rightX rightY, lines = joystickLines leftX leftY rightX rightY) ↔
    4 ≤ (segments packet).length
  refuses : lines = errorLines ↔ (segments packet).length < 4
  values : ∀ leftX leftY rightX rightY, lines = joystickLines leftX leftY rightX rightY →
    ((segments packet).take 4).map atoi = [leftX, leftY, rightX, rightY]
  decimal : ∀ values, packet.length ≤ 254 → DecimalFields packet values →
    lines = valuesReport values

theorem valuesReport_outcome (packet : Bytes) :
    Outcome packet (valuesReport ((segments packet).map atoi)) where
  accepts := by rw [valuesReport_accepts_iff, List.length_map]
  refuses := by rw [valuesReport_refuses_iff, List.length_map]
  values := by
    intro leftX leftY rightX rightY accepted
    rw [List.map_take]
    exact valuesReport_values accepted
  decimal := by
    intro values short decimal
    rw [segments_decimalFields short decimal, map_atoi_of_integer32 decimal]

/-- A packet of any length is accepted exactly when what is read of it has four nonempty
segments, and the values printed are those of the first four; where all fields of a short
packet are decimal integers, they are the values of its first four fields. -/
theorem loop_accepts_iff (k : Listener) (packet : Bytes) (nonempty : packet.length ≠ 0) :
    ∃ after lines, k.loop packet = .ok (after, rawReport packet ++ lines) ∧
      Outcome packet lines := by
  obtain ⟨after, looped⟩ := loop_nonempty k nonempty
  exact ⟨after, _, looped, valuesReport_outcome packet⟩

def fiveFields : Bytes := "1,2,3,4,5".toUTF8.data.toList

theorem loop_accepts_five_fields :
    ∃ after lines, Listener.boot.loop fiveFields = .ok (after, rawReport fiveFields ++ lines) ∧
      Outcome fiveFields lines :=
  loop_accepts_iff Listener.boot fiveFields (by decide)

/-- A fifth field is no reason to refuse a packet. -/
theorem five_fields_accepted :
    (∃ after, Listener.boot.loop fiveFields =
      .ok (after, rawReport fiveFields ++ joystickLines 1 2 3 4)) ∧
    ¬ FourValueFormat fiveFields := by
  constructor
  · obtain ⟨after, looped⟩ := loop_nonempty Listener.boot (show fiveFields.length ≠ 0 by decide)
    have lines : valuesReport ((segments fiveFields).map atoi) = joystickLines 1 2 3 4 := by
      decide
    rw [lines] at looped
    exact ⟨after, looped⟩
  · rintro ⟨values, decimal, four⟩
    have five : (fiveFields.splitOn 44).length = 5 := by decide
    have same := congrArg List.length decimal
    rw [List.length_map, List.length_map] at same
    omega

end EspDrone.Joystick
