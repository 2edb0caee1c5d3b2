import EspDrone.Gyroscope.Reader
import Mathlib.Algebra.BigOperators.Field
import Mathlib.Tactic.Ring

set_option autoImplicit false

namespace EspDrone.Gyroscope

open RateGate

structure Frame where
  xHigh : UInt8
  xLow : UInt8
  yHigh : UInt8
  yLow : UInt8
  zHigh : UInt8
  zLow : UInt8
  deriving DecidableEq, Repr

def twosComplement (high low : UInt8) : Int :=
  if high.toNat < 128 then 256 * high.toNat + low.toNat
  else 256 * high.toNat + low.toNat - 65536

def Frame.sample (frame : Frame) : Axis → Int
  | .roll => twosComplement frame.xHigh frame.xLow
  | .pitch => twosComplement frame.yHigh frame.yLow
  | .yaw => twosComplement frame.zHigh frame.zLow

def wireRead (byte : UInt8) : Int32 :=
  Int32.ofNat byte.toNat

def Frame.sampling (frame : Frame) : Sampling where
  x := ⟨wireRead frame.xHigh, wireRead frame.xLow, .left⟩
  y := ⟨wireRead frame.yHigh, wireRead frame.yLow, .left⟩
  z := ⟨wireRead frame.zHigh, wireRead frame.zLow, .left⟩

-- The two bytes do not overlap, so the bitwise or joins them.
theorem wireRead_join (high low : UInt8) :
    wireRead high <<< 8 ||| wireRead low = Int32.ofNat (256 * high.toNat + low.toNat) := by
  have highByte := high.toNat_lt
  have lowByte := low.toNat_lt
  have small : high.toNat <<< 8 < 4294967296 := by
    rw [Nat.shiftLeft_eq]
    omega
  have joined : high.toNat <<< 8 + low.toNat = high.toNat <<< 8 ||| low.toNat :=
    Nat.shiftLeft_add_eq_or_of_lt (by omega) high.toNat
  have shifted : (wireRead high <<< 8 ||| wireRead low).toBitVec.toNat =
      high.toNat <<< 8 ||| low.toNat := by
    simp [wireRead, Nat.mod_eq_of_lt small]
  apply Int32.toBitVec_inj.1
  apply BitVec.eq_of_toNat_eq
  rw [shifted, ← joined, Nat.shiftLeft_eq]
  simp
  omega

theorem word_left (high low : UInt8) :
    (Access.word ⟨wireRead high, wireRead low, .left⟩).toInt = twosComplement high low := by
  have highByte := high.toNat_lt
  have lowByte := low.toNat_lt
  have narrowed : (Access.word ⟨wireRead high, wireRead low, .left⟩).toInt =
      (256 * high.toNat + low.toNat : Int).bmod 65536 := by
    rw [Access.word, wireRead_join, Int32.toInt_toInt16, Int32.toInt_ofNat_of_lt (by omega)]
    rfl
  rw [narrowed, twosComplement]
  split
  next => apply Int.bmod_eq_of_le <;> omega
  next =>
    rw [← Int.sub_bmod_right]
    apply Int.bmod_eq_of_le <;> omega

theorem sampling_raw (frame : Frame) (axis : Axis) :
    (frame.sampling.raw axis).toInt = frame.sample axis := by
  cases axis
  · exact word_left frame.xHigh frame.xLow
  · exact word_left frame.yHigh frame.yLow
  · exact word_left frame.zHigh frame.zLow

def mean (frames : Nat → Frame) (axis : Axis) : ℚ :=
  (∑ n ∈ Finset.range 2000, ((frames n).sample axis : ℚ)) / 2000

def calibrated (frames : Nat → Frame) : Globals :=
  setup fun n => (frames n).sampling

-- The rates printed in flight, after a calibration over the first 2000 of `frames`.
def flight (frames : Nat → Frame) (passes : List (Visit × Frame)) : List Report :=
  (run (calibrated frames) (passes.map fun pass => ⟨pass.1, pass.2.sampling⟩)).2

theorem calibrated_calibration (frames : Nat → Frame) (axis : Axis) :
    (calibrated frames).calibration axis = mean frames axis / 65.5 := by
  simp only [calibrated, setup_calibration, degreesPerSecond, sampling_raw, mean]
  rw [← Finset.sum_div, div_right_comm]

theorem calibrated_rate (frames : Nat → Frame) (frame : Frame) (axis : Axis) :
    (corrected (calibrated frames) frame.sampling).rate axis =
      (frame.sample axis - mean frames axis) / 65.5 := by
  rw [corrected_rate, calibrated_calibration, degreesPerSecond, sampling_raw, sub_div]

theorem flight_reports (frames : Nat → Frame) (passes : List (Visit × Frame)) :
    flight frames passes = (opened Prod.fst 20 0 passes).map fun pass =>
      corrected (calibrated frames) pass.2.sampling := by
  rw [flight, run_prints, opened_map, List.map_map, calibrated, setup_lastMainLoop]
  rfl

def Biased (bias : Axis → Int) (frame other : Frame) : Prop :=
  ∀ axis, other.sample axis = frame.sample axis + bias axis

theorem mean_biased {bias : Axis → Int} {frames others : Nat → Frame}
    (biased : ∀ n < 2000, Biased bias (frames n) (others n)) (axis : Axis) :
    mean others axis = mean frames axis + bias axis := by
  have shifted : ∑ n ∈ Finset.range 2000, ((others n).sample axis : ℚ) =
      ∑ n ∈ Finset.range 2000, (((frames n).sample axis : ℚ) + bias axis) := by
    apply Finset.sum_congr rfl
    intro n inside
    rw [biased n (Finset.mem_range.1 inside) axis, Int.cast_add]
  rw [mean, shifted, Finset.sum_add_distrib, Finset.sum_const, Finset.card_range, mean]
  simp only [nsmul_eq_mul]
  ring

theorem corrected_biased {bias : Axis → Int} {frames others : Nat → Frame}
    (biased : ∀ n < 2000, Biased bias (frames n) (others n)) {frame other : Frame}
    (shifted : Biased bias frame other) :
    corrected (calibrated others) other.sampling =
      corrected (calibrated frames) frame.sampling := by
  apply Report.ext_rate
  intro axis
  rw [calibrated_rate, calibrated_rate, mean_biased biased, shifted axis]
  push_cast
  ring

theorem map_eq_of_forall₂ {α β γ : Type} {R : α → β → Prop} {xs : List α} {ys : List β}
    {f : α → γ} {g : β → γ} (related : xs.Forall₂ R ys) (same : ∀ x y, R x y → g y = f x) :
    ys.map g = xs.map f := by
  induction related with
  | nil => rfl
  | cons first _ ih => rw [List.map_cons, List.map_cons, ih, same _ _ first]

theorem flight_biased {bias : Axis → Int} {frames others : Nat → Frame}
    (biased : ∀ n < 2000, Biased bias (frames n) (others n))
    {passes otherPasses : List (Visit × Frame)}
    (shifted : passes.Forall₂ (fun pass other => other.1 = pass.1 ∧ Biased bias pass.2 other.2)
      otherPasses) :
    flight others otherPasses = flight frames passes := by
  rw [flight_reports, flight_reports]
  exact map_eq_of_forall₂ (opened_related shifted 20 0) fun _ _ first =>
    corrected_biased biased first

theorem calibration_residual (frames : Nat → Frame) (axis : Axis) :
    ∑ n ∈ Finset.range 2000, (corrected (calibrated frames) (frames n).sampling).rate axis = 0 := by
  simp only [calibrated_rate]
  rw [← Finset.sum_div, Finset.sum_sub_distrib, Finset.sum_const, Finset.card_range, mean]
  simp only [nsmul_eq_mul]
  ring

/-- Every rate printed in flight is the sample's distance from the calibration mean, over
65.5. A bias on all samples of the calibration and of the flight changes none of them, and
over the calibration samples they sum to zero. -/
theorem bias_cancels :
    (∀ frames passes axis,
      (flight frames passes).map (fun printed => printed.rate axis) =
        (opened Prod.fst 20 0 passes).map fun pass =>
          (pass.2.sample axis - mean frames axis) / 65.5) ∧
    (∀ bias frames others passes otherPasses,
      (∀ n < 2000, Biased bias (frames n) (others n)) →
      passes.Forall₂ (fun pass other => other.1 = pass.1 ∧ Biased bias pass.2 other.2)
        otherPasses →
      flight others otherPasses = flight frames passes) ∧
    (∀ frames axis, ∑ n ∈ Finset.range 2000,
      (corrected (calibrated frames) (frames n).sampling).rate axis = 0) := by
  refine ⟨?_, ?_, calibration_residual⟩
  · intro frames passes axis
    rw [flight_reports, List.map_map]
    apply List.map_congr_left
    intro pass _
    exact calibrated_rate frames pass.2 axis
  · intro bias frames others passes otherPasses biased shifted
    exact flight_biased biased shifted

end EspDrone.Gyroscope
