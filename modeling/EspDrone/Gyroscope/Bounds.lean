import EspDrone.Gyroscope.Reader
import Mathlib.Algebra.Order.BigOperators.Group.Finset
import Mathlib.Tactic.Linarith
import Mathlib.Tactic.NormNum

set_option autoImplicit false

namespace EspDrone.Gyroscope

def InSampleRange (rate : ℚ) : Prop :=
  -32768 / 65.5 ≤ rate ∧ rate ≤ 32767 / 65.5

theorem degreesPerSecond_range (raw : Int16) : InSampleRange (degreesPerSecond raw) := by
  have low : (-32768 : ℚ) ≤ raw.toInt := by exact_mod_cast raw.le_toInt
  have high : (raw.toInt : ℚ) ≤ 32767 := by exact_mod_cast Int.le_of_lt_add_one raw.toInt_lt
  exact ⟨div_le_div_of_nonneg_right low (by norm_num),
    div_le_div_of_nonneg_right high (by norm_num)⟩

theorem mean_range {count : Nat} (positive : 0 < count) {rates : Nat → ℚ}
    (each : ∀ n, InSampleRange (rates n)) :
    InSampleRange ((∑ n ∈ Finset.range count, rates n) / count) := by
  have cast : (0 : ℚ) < count := by exact_mod_cast positive
  have low : count • (-32768 / 65.5 : ℚ) ≤ ∑ n ∈ Finset.range count, rates n := by
    simpa using Finset.card_nsmul_le_sum (Finset.range count) rates _ fun n _ => (each n).1
  have high : ∑ n ∈ Finset.range count, rates n ≤ count • (32767 / 65.5 : ℚ) := by
    simpa using Finset.sum_le_card_nsmul (Finset.range count) rates _ fun n _ => (each n).2
  rw [nsmul_eq_mul] at low high
  constructor
  · rw [le_div_iff₀ cast]
    linarith
  · rw [div_le_iff₀ cast]
    linarith

theorem setup_range (calls : Nat → Sampling) (axis : Axis) :
    InSampleRange ((setup calls).calibration axis) := by
  rw [setup_calibration]
  exact mean_range (show 0 < 2000 by omega) fun n => degreesPerSecond_range _

theorem corrected_range {g : Globals} (calibrated : ∀ axis, InSampleRange (g.calibration axis))
    (sampling : Sampling) (axis : Axis) :
    -65535 / 65.5 ≤ (corrected g sampling).rate axis ∧
      (corrected g sampling).rate axis ≤ 65535 / 65.5 := by
  obtain ⟨low, high⟩ := degreesPerSecond_range (sampling.raw axis)
  obtain ⟨calibratedLow, calibratedHigh⟩ := calibrated axis
  rw [corrected_rate]
  constructor <;> linarith

/-- For all results of the reads, bytes or -1 at any position, and all evaluation orders:
the rates read and, after `setup`, the calibration are in the range of a sample, and every
rate printed is in the range of a difference of two. -/
theorem rates_bounded (calls : Nat → Sampling) (passes : List Pass) :
    (∀ g sampling axis, InSampleRange ((gyroSignals g sampling).rate axis)) ∧
    (∀ axis, InSampleRange ((setup calls).calibration axis)) ∧
    (∀ printed ∈ (run (setup calls) passes).2, ∀ axis,
      -65535 / 65.5 ≤ printed.rate axis ∧ printed.rate axis ≤ 65535 / 65.5) := by
  refine ⟨?_, setup_range calls, ?_⟩
  · intro g sampling axis
    rw [gyroSignals_rate]
    exact degreesPerSecond_range (sampling.raw axis)
  · intro printed member axis
    rw [run_prints] at member
    obtain ⟨pass, -, rfl⟩ := List.mem_map.1 member
    exact corrected_range (setup_range calls) pass.sampling axis

-- A missing low byte sets all bits of the word.
example : (Access.word ⟨5, -1, .left⟩).toInt = -1 := by decide

end EspDrone.Gyroscope
