import EspDrone.Joystick.Listener

set_option autoImplicit false

namespace EspDrone.Joystick

open CString Decimal

-- The bytes the loop reads, up to the first NUL.
def payload (packet : Bytes) : Bytes :=
  (packet.take 254).takeWhile (· != 0)

def segments (packet : Bytes) : List Bytes :=
  fields comma (payload packet)

def joystickLines (leftX leftY rightX rightY : Int32) : List Output :=
  [.print "LEFT_X = ", .printlnInt leftX, .print "LEFT_Y = ", .printlnInt leftY,
    .print "RIGHT_X = ", .printlnInt rightX, .print "RIGHT_Y = ", .printlnInt rightY]

def errorLines : List Output :=
  [.println "Error: Did not receive 4 values!"]

def valuesReport : List Int32 → List Output
  | leftX :: leftY :: rightX :: rightY :: _ => joystickLines leftX leftY rightX rightY
  | _ => errorLines

def rawReport (packet : Bytes) : List Output :=
  [.print "Raw UDP: ", .printlnChars (payload packet)]

def reference (packet : Bytes) : List Output :=
  if packet.length = 0 then []
  else rawReport packet ++ valuesReport ((segments packet).map atoi)

def Values.Written (values : Values) (written : List Int32) : Prop :=
  ∃ rest, values.toList = written.map some ++ rest

theorem declared_written : Values.declared.Written [] := ⟨_, rfl⟩

theorem write_written {values : Values} {written : List Int32} (holds : values.Written written)
    {idx : Nat} (count : idx = written.length) (room : idx < 4) (value : Int32) :
    ∃ values', values.write idx value = .ok values' ∧ values'.Written (written ++ [value]) := by
  obtain ⟨rest, layout⟩ := holds
  refine ⟨_, dif_pos room, ?_⟩
  have length := congrArg List.length layout
  rw [Vector.length_toList, List.length_append, List.length_map] at length
  cases rest with
  | nil =>
    rw [List.length_nil] at length
    omega
  | cons old rest =>
    refine ⟨rest, ?_⟩
    rw [Vector.toList_set, layout, count, List.set_append_right _ _ (by simp)]
    simp

theorem read_written {values : Values} {written : List Int32} (holds : values.Written written)
    {idx : Nat} {value : Int32} (found : written[idx]? = some value) :
    values.read idx = .ok value := by
  obtain ⟨rest, layout⟩ := holds
  obtain ⟨inside, -⟩ := List.getElem?_eq_some_iff.1 found
  rw [Values.read, layout, List.getElem?_append_left (by simpa using inside), List.getElem?_map,
    found]
  rfl

theorem comma_noNul : comma.contains 0 = false := rfl

theorem tokenLoop_stops {scan : Scan} (stops : scan.token.token = none ∨ ¬ scan.idx < 4) :
    tokenLoop scan = .ok scan := by
  rw [tokenLoop]
  cases token : scan.token.token with
  | none => rfl
  | some start =>
    rw [token] at stops
    exact if_neg (stops.resolve_left nofun)

theorem tokenLoop_spec (scan : Scan) (written : List Int32) (pending : List Bytes)
    (holds : scan.values.Written written) (count : scan.idx = written.length)
    (bound : written.length ≤ 4) (next : scan.token.Pending comma pending) :
    ∃ done, tokenLoop scan = .ok done ∧
      done.values.Written ((written ++ pending.map atoi).take 4) ∧
      done.idx = ((written ++ pending.map atoi).take 4).length := by
  induction pending generalizing scan written with
  | nil =>
    rw [List.map_nil, List.append_nil, List.take_of_length_le bound]
    exact ⟨scan, tokenLoop_stops (.inl (Token.pending_nil next)), holds, count⟩
  | cons field later ih =>
    by_cases room : scan.idx < 4
    · obtain ⟨start, rest, token, rfl, string, saved⟩ := Token.pending_cons next
      obtain ⟨values, wrote, holds'⟩ := write_written holds count room (atoi field)
      obtain ⟨token', taken, next'⟩ := strtok_spec comma_noNul saved
      have longer : (written ++ [atoi field]).length = written.length + 1 := by simp
      obtain ⟨done, looped, result⟩ := ih ⟨token', values, scan.idx + 1⟩
        (written ++ [atoi field]) holds' (by rw [longer, count]) (by omega) next'
      refine ⟨done, ?_, by simpa using result⟩
      rw [tokenLoop, token]
      simp only [if_pos room, readString_eq string, wrote, taken, Except.bind]
      exact looped
    · have full : written.length = 4 := by omega
      have all : (written ++ (field :: later).map atoi).take 4 = written := by
        rw [← full, List.take_left]
      rw [all]
      exact ⟨scan, tokenLoop_stops (.inr room), holds, count⟩

theorem valuesReport_take (values : List Int32) :
    valuesReport (values.take 4) = valuesReport values := by
  rcases values with _ | ⟨a, _ | ⟨b, _ | ⟨c, _ | ⟨d, rest⟩⟩⟩⟩ <;> rfl

theorem printJoystick_eq {values : Values} {written : List Int32} (holds : values.Written written)
    (bound : written.length ≤ 4) :
    printJoystick values written.length = .ok (valuesReport written) := by
  match written, bound with
  | [leftX, leftY, rightX, rightY], _ =>
    have first := read_written holds (show _[0]? = some leftX from rfl)
    have second := read_written holds (show _[1]? = some leftY from rfl)
    have third := read_written holds (show _[2]? = some rightX from rfl)
    have fourth := read_written holds (show _[3]? = some rightY from rfl)
    have four : [leftX, leftY, rightX, rightY].length = 4 := rfl
    rw [printJoystick, if_pos four]
    simp only [printValue, first, second, third, fourth, Except.map, Except.bind]
    rfl
  | [], _ => rfl
  | [_], _ => rfl
  | [_, _], _ => rfl
  | [_, _, _], _ => rfl
  | _ :: _ :: _ :: _ :: _ :: rest, bound =>
    simp only [List.length_cons] at bound
    omega

theorem received_string (buffer : Memory 255) (packet : Bytes) (nonempty : packet.length ≠ 0) :
    ∃ received buffer', udpRead packet 254 buffer = .ok received ∧
      terminate received = .ok buffer' ∧ StringAt buffer' 0 (payload packet) := by
  have size : (packet.take 254).length = min 254 packet.length := List.length_take
  obtain ⟨copied, wrote, layout⟩ := copy_eq buffer 0 (packet.take 254) (by omega)
  obtain ⟨old, rest, tail⟩ :
      ∃ old rest, buffer.toList.drop (packet.take 254).length = old :: rest := by
    have remaining : (buffer.toList.drop (packet.take 254).length).length ≠ 0 := by
      rw [List.length_drop, Vector.length_toList]
      omega
    exact List.exists_cons_of_length_pos (by omega)
  have placed : copied.toList.drop 0 = packet.take 254 ++ old :: rest := by
    rw [layout, Nat.zero_add, tail]
    rfl
  obtain ⟨buffer', stored, terminated, -⟩ := store_splits placed
  refine ⟨⟨copied, min 254 packet.length⟩, buffer', ?_, ?_, stringAt_takeWhile terminated⟩
  · rw [udpRead, wrote]
    rfl
  · rw [Nat.zero_add, size] at stored
    rw [terminate, if_pos (show min 254 packet.length > 0 by omega)]
    exact stored

theorem loop_empty (k : Listener) {packet : Bytes} (empty : packet.length = 0) :
    k.loop packet = .ok (k, []) := by
  rw [Listener.loop, if_pos empty]

theorem loop_nonempty (k : Listener) {packet : Bytes} (nonempty : packet.length ≠ 0) :
    ∃ after, k.loop packet =
      .ok (after, rawReport packet ++ valuesReport ((segments packet).map atoi)) := by
  obtain ⟨received, buffer, read, terminated, string⟩ :=
    received_string k.packetBuffer packet nonempty
  have start : SavedAt buffer (some 0) (payload packet) := string
  obtain ⟨token, taken, next⟩ := strtok_spec comma_noNul start
  obtain ⟨scan, looped, written, count⟩ := tokenLoop_spec ⟨token, Values.declared, 0⟩ []
    (segments packet) declared_written rfl (by simp) next
  have printed := printJoystick_eq written (List.length_take_le 4 _)
  rw [← count, List.nil_append, valuesReport_take] at printed
  refine ⟨⟨scan.token.memory, scan.token.saved⟩, ?_⟩
  rw [Listener.loop, if_neg nonempty, read]
  simp only [Except.bind, terminated, readString_eq string, taken, looped, printed, Except.map]
  rfl

theorem loop_reference (k : Listener) (packet : Bytes) :
    ∃ after, k.loop packet = .ok (after, reference packet) := by
  unfold reference
  by_cases empty : packet.length = 0
  · rw [if_pos empty]
    exact ⟨k, loop_empty k empty⟩
  · rw [if_neg empty]
    exact loop_nonempty k empty

/-- From any buffer and any saved pointer, every sequence of packets is reported packet by
packet as the reference has it, with no access out of bounds and no read of an element of
`values` before it was written. -/
theorem run_reports (k : Listener) (packets : List Bytes) :
    ∃ after, k.run packets = .ok (after, packets.map reference) := by
  induction packets generalizing k with
  | nil => exact ⟨k, rfl⟩
  | cons packet rest ih =>
    obtain ⟨next, looped⟩ := loop_reference k packet
    obtain ⟨after, ran⟩ := ih next
    refine ⟨after, ?_⟩
    rw [Listener.run, looped]
    simp only [Except.bind, ran, Except.map, List.map_cons]

-- The empty first field shifts the values, and the third is not a number.
example : (segments ",1,2,x,4".toUTF8.data.toList).map atoi = [1, 2, 0, 4] := by decide

end EspDrone.Joystick
