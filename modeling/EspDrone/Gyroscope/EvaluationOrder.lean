import EspDrone.Gyroscope.Calibration

set_option autoImplicit false

namespace EspDrone.Gyroscope

def Frame.high (frame : Frame) : Axis → UInt8
  | .roll => frame.xHigh
  | .pitch => frame.yHigh
  | .yaw => frame.zHigh

def Frame.low (frame : Frame) : Axis → UInt8
  | .roll => frame.xLow
  | .pitch => frame.yLow
  | .yaw => frame.zLow

def Frame.bytes (frame : Frame) : List UInt8 :=
  [frame.xHigh, frame.xLow, frame.yHigh, frame.yLow, frame.zHigh, frame.zLow]

-- Wire.read(): the next byte of the receive buffer, or -1 when it is empty.
def read : List UInt8 → Int32 × List UInt8
  | [] => (-1, [])
  | byte :: rest => (wireRead byte, rest)

-- The expression read() << 8 | read(), and the buffer it leaves.
def readWord (order : Operand) (buffer : List UInt8) : Access × List UInt8 :=
  let first := read buffer
  let second := read first.2
  (⟨first.1, second.1, order⟩, second.2)

-- The expressions for GyroX, GyroY and GyroZ, in this order.
def readSampling (orders : Axis → Operand) (buffer : List UInt8) : Sampling :=
  let x := readWord (orders .roll) buffer
  let y := readWord (orders .pitch) x.2
  let z := readWord (orders .yaw) y.2
  ⟨x.1, y.1, z.1⟩

def samplings : List UInt8 → List (Axis → Operand) → List Sampling
  | _, [] => []
  | sent, orders :: rest => readSampling orders (sent.take 6) :: samplings (sent.drop 6) rest

def Decoded (sampling : Sampling) (frame : Frame) : Prop :=
  ∀ axis, (sampling.raw axis).toInt = frame.sample axis

theorem sample_bytes (frame : Frame) (axis : Axis) :
    frame.sample axis = twosComplement (frame.high axis) (frame.low axis) := by
  cases axis <;> rfl

theorem readSampling_raw (orders : Axis → Operand) (frame : Frame) (axis : Axis) :
    (readSampling orders frame.bytes).raw axis =
      Access.word ⟨wireRead (frame.high axis), wireRead (frame.low axis), orders axis⟩ := by
  cases axis <;> rfl

theorem samplings_cons (frame : Frame) (sent : List UInt8) (orders : Axis → Operand)
    (rest : List (Axis → Operand)) :
    samplings (frame.bytes ++ sent) (orders :: rest) =
      readSampling orders frame.bytes :: samplings sent rest := rfl

-- With the right operand first, the low byte ends up in the high half.
theorem word_right (high low : UInt8) :
    (Access.word ⟨wireRead high, wireRead low, .right⟩).toInt = twosComplement low high :=
  word_left low high

theorem twosComplement_swap {high low : UInt8} :
    twosComplement low high = twosComplement high low ↔ high = low := by
  have highByte := high.toNat_lt
  have lowByte := low.toNat_lt
  rw [← UInt8.toNat_inj, twosComplement, twosComplement]
  split <;> split <;> omega

theorem word_decoded_iff (order : Operand) (high low : UInt8) :
    (Access.word ⟨wireRead high, wireRead low, order⟩).toInt = twosComplement high low ↔
      order = .left ∨ high = low := by
  cases order with
  | left => simp [word_left]
  | right =>
    rw [word_right, twosComplement_swap]
    simp

theorem decoded_iff (orders : Axis → Operand) (frame : Frame) :
    Decoded (readSampling orders frame.bytes) frame ↔
      ∀ axis, orders axis = .left ∨ frame.high axis = frame.low axis := by
  unfold Decoded
  simp only [readSampling_raw, sample_bytes, word_decoded_iff]

/-- Over every sequence of calls and frames, all words read are the samples sent exactly
when in each expression the left call goes first or the two bytes are equal. -/
theorem samples_decoded_iff (calls : List ((Axis → Operand) × Frame)) :
    (samplings (calls.flatMap fun call => call.2.bytes) (calls.map Prod.fst)).Forall₂ Decoded
        (calls.map Prod.snd) ↔
      ∀ call ∈ calls, ∀ axis, call.1 axis = .left ∨ call.2.high axis = call.2.low axis := by
  induction calls with
  | nil => simp [samplings]
  | cons call rest ih =>
    rw [List.flatMap_cons, List.map_cons, List.map_cons, samplings_cons, List.forall₂_cons,
      decoded_iff, ih, List.forall_mem_cons]

/-- Of the sample 256 in x, a right operand evaluated first makes 1. -/
theorem right_first_swaps_bytes :
    let frame : Frame := ⟨1, 0, 0, 0, 0, 0⟩
    let orders : Axis → Operand := fun _ => .right
    ((readSampling orders frame.bytes).raw .roll).toInt = 1 ∧ frame.sample .roll = 256 ∧
      ¬ (samplings frame.bytes [orders]).Forall₂ Decoded [frame] := by
  intro frame orders
  refine ⟨by decide, by decide, ?_⟩
  intro decoded
  cases decoded with
  | cons first _ =>
    have roll := first .roll
    revert roll
    decide

end EspDrone.Gyroscope
