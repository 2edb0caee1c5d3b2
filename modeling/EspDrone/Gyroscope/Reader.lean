import EspDrone.MainLoop.RateLimit
import Mathlib.Algebra.BigOperators.Intervals
import Mathlib.Data.Rat.Floor

set_option autoImplicit false

namespace EspDrone.Gyroscope

open RateGate

-- C++ leaves open which operand of `read() << 8 | read()` is evaluated first.
inductive Operand where
  | left
  | right
  deriving DecidableEq, Repr

-- The results of the two calls in one such expression, in the order they are made.
structure Access where
  first : Int32
  second : Int32
  evaluatedFirst : Operand
  deriving DecidableEq

def Access.word (access : Access) : Int16 :=
  match access.evaluatedFirst with
  | .left => (access.first <<< 8 ||| access.second).toInt16
  | .right => (access.second <<< 8 ||| access.first).toInt16

-- One call of gyro_signals(): the expressions for GyroX, GyroY and GyroZ.
structure Sampling where
  x : Access
  y : Access
  z : Access
  deriving DecidableEq

structure Globals where
  rateRoll : ℚ := 0
  ratePitch : ℚ := 0
  rateYaw : ℚ := 0
  rateCalibrationRoll : ℚ := 0
  rateCalibrationPitch : ℚ := 0
  rateCalibrationYaw : ℚ := 0
  rateCalibrationNumber : Nat := 0
  lastMainLoop : UInt32 := 0
  deriving DecidableEq

def degreesPerSecond (raw : Int16) : ℚ :=
  raw.toInt / 65.5

def gyroSignals (g : Globals) (sampling : Sampling) : Globals :=
  { g with
    rateRoll := degreesPerSecond sampling.x.word
    ratePitch := degreesPerSecond sampling.y.word
    rateYaw := degreesPerSecond sampling.z.word }

def accumulate (g : Globals) : Globals :=
  { g with
    rateCalibrationRoll := g.rateCalibrationRoll + g.rateRoll
    rateCalibrationPitch := g.rateCalibrationPitch + g.ratePitch
    rateCalibrationYaw := g.rateCalibrationYaw + g.rateYaw }

def calibrate (g : Globals) (sampling : Sampling) : Globals :=
  let added := accumulate (gyroSignals g sampling)
  { added with rateCalibrationNumber := added.rateCalibrationNumber + 1 }

def calibrationLoop (calls : Nat → Sampling) (g : Globals) : Globals :=
  if g.rateCalibrationNumber < 2000 then
    calibrationLoop calls (calibrate g (calls g.rateCalibrationNumber))
  else g
termination_by 2000 - g.rateCalibrationNumber
decreasing_by
  simp only [calibrate, accumulate, gyroSignals]
  omega

def average (g : Globals) : Globals :=
  { g with
    rateCalibrationRoll := g.rateCalibrationRoll / 2000
    rateCalibrationPitch := g.rateCalibrationPitch / 2000
    rateCalibrationYaw := g.rateCalibrationYaw / 2000 }

-- `calls n` is the n-th call of gyro_signals() since power-on.
def setup (calls : Nat → Sampling) : Globals :=
  average (calibrationLoop calls { rateCalibrationNumber := 0 })

def correct (g : Globals) : Globals :=
  { g with
    rateRoll := g.rateRoll - g.rateCalibrationRoll
    ratePitch := g.ratePitch - g.rateCalibrationPitch
    rateYaw := g.rateYaw - g.rateCalibrationYaw }

structure Report where
  ratePitch : ℚ
  rateRoll : ℚ
  rateYaw : ℚ
  deriving DecidableEq, Repr

def report (g : Globals) : Report :=
  ⟨g.ratePitch, g.rateRoll, g.rateYaw⟩

structure Pass where
  mainLoop : Visit
  sampling : Sampling
  deriving DecidableEq

def loop (g : Globals) (pass : Pass) : Globals × Option Report :=
  match visit 20 g.lastMainLoop pass.mainLoop with
  | (last, some _) =>
      let corrected := correct (gyroSignals { g with lastMainLoop := last } pass.sampling)
      (corrected, some (report corrected))
  | (last, none) => ({ g with lastMainLoop := last }, none)

def run (g : Globals) : List Pass → Globals × List Report
  | [] => (g, [])
  | pass :: rest =>
      let done := loop g pass
      let later := run done.1 rest
      (later.1, done.2.toList ++ later.2)

inductive Axis where
  | roll
  | pitch
  | yaw
  deriving DecidableEq, Repr

-- X is roll, Y is pitch and Z is yaw.
def Sampling.raw (sampling : Sampling) : Axis → Int16
  | .roll => sampling.x.word
  | .pitch => sampling.y.word
  | .yaw => sampling.z.word

def Globals.rate (g : Globals) : Axis → ℚ
  | .roll => g.rateRoll
  | .pitch => g.ratePitch
  | .yaw => g.rateYaw

def Globals.calibration (g : Globals) : Axis → ℚ
  | .roll => g.rateCalibrationRoll
  | .pitch => g.rateCalibrationPitch
  | .yaw => g.rateCalibrationYaw

def Report.rate (printed : Report) : Axis → ℚ
  | .roll => printed.rateRoll
  | .pitch => printed.ratePitch
  | .yaw => printed.rateYaw

@[simp] theorem gyroSignals_rate (g : Globals) (sampling : Sampling) (axis : Axis) :
    (gyroSignals g sampling).rate axis = degreesPerSecond (sampling.raw axis) := by
  cases axis <;> rfl

@[simp] theorem gyroSignals_calibration (g : Globals) (sampling : Sampling) (axis : Axis) :
    (gyroSignals g sampling).calibration axis = g.calibration axis := by
  cases axis <;> rfl

@[simp] theorem calibrate_number (g : Globals) (sampling : Sampling) :
    (calibrate g sampling).rateCalibrationNumber = g.rateCalibrationNumber + 1 := rfl

@[simp] theorem calibrate_lastMainLoop (g : Globals) (sampling : Sampling) :
    (calibrate g sampling).lastMainLoop = g.lastMainLoop := rfl

@[simp] theorem calibrate_calibration (g : Globals) (sampling : Sampling) (axis : Axis) :
    (calibrate g sampling).calibration axis =
      g.calibration axis + degreesPerSecond (sampling.raw axis) := by
  cases axis <;> rfl

@[simp] theorem average_calibration (g : Globals) (axis : Axis) :
    (average g).calibration axis = g.calibration axis / 2000 := by
  cases axis <;> rfl

@[simp] theorem average_lastMainLoop (g : Globals) :
    (average g).lastMainLoop = g.lastMainLoop := rfl

@[simp] theorem correct_rate (g : Globals) (axis : Axis) :
    (correct g).rate axis = g.rate axis - g.calibration axis := by
  cases axis <;> rfl

@[simp] theorem report_rate (g : Globals) (axis : Axis) : (report g).rate axis = g.rate axis := by
  cases axis <;> rfl

theorem Report.ext_rate {p q : Report} (same : ∀ axis, p.rate axis = q.rate axis) : p = q := by
  have pitch := same .pitch
  have roll := same .roll
  have yaw := same .yaw
  cases p
  cases q
  simp_all [Report.rate]

theorem calibrationLoop_calibration (calls : Nat → Sampling) (g : Globals) (axis : Axis)
    (started : g.rateCalibrationNumber ≤ 2000) :
    (calibrationLoop calls g).calibration axis = g.calibration axis +
      ∑ n ∈ Finset.Ico g.rateCalibrationNumber 2000, degreesPerSecond ((calls n).raw axis) := by
  induction g using calibrationLoop.induct calls with
  | case1 g inside ih =>
    have next := ih inside
    rw [calibrationLoop, if_pos inside, next, calibrate_calibration, calibrate_number,
      Finset.sum_eq_sum_Ico_succ_bot inside, add_assoc]
  | case2 g done =>
    have finished : g.rateCalibrationNumber = 2000 := by omega
    rw [calibrationLoop, if_neg done, finished, Finset.Ico_self, Finset.sum_empty, add_zero]

theorem setup_calibration (calls : Nat → Sampling) (axis : Axis) :
    (setup calls).calibration axis =
      (∑ n ∈ Finset.range 2000, degreesPerSecond ((calls n).raw axis)) / 2000 := by
  have zero : Globals.calibration { rateCalibrationNumber := 0 } axis = 0 := by
    cases axis <;> rfl
  rw [setup, average_calibration, calibrationLoop_calibration _ _ _ (Nat.zero_le 2000), zero,
    zero_add, Finset.range_eq_Ico]

theorem setup_lastMainLoop (calls : Nat → Sampling) : (setup calls).lastMainLoop = 0 := by
  have kept (g : Globals) : (calibrationLoop calls g).lastMainLoop = g.lastMainLoop := by
    induction g using calibrationLoop.induct calls with
    | case1 g inside ih => rw [calibrationLoop, if_pos inside, ih, calibrate_lastMainLoop]
    | case2 g done => rw [calibrationLoop, if_neg done]
  rw [setup, average_lastMainLoop, kept]

def corrected (g : Globals) (sampling : Sampling) : Report :=
  report (correct (gyroSignals g sampling))

theorem corrected_rate (g : Globals) (sampling : Sampling) (axis : Axis) :
    (corrected g sampling).rate axis =
      degreesPerSecond (sampling.raw axis) - g.calibration axis := by
  simp [corrected]

theorem corrected_congr {g other : Globals}
    (same : ∀ axis, other.calibration axis = g.calibration axis) (sampling : Sampling) :
    corrected other sampling = corrected g sampling := by
  apply Report.ext_rate
  intro axis
  rw [corrected_rate, corrected_rate, same]

theorem loop_calibration (g : Globals) (pass : Pass) (axis : Axis) :
    (loop g pass).1.calibration axis = g.calibration axis := by
  unfold loop
  split
  next => cases axis <;> rfl
  next => cases axis <;> rfl

theorem loop_open (g : Globals) {pass : Pass} {last : UInt32} {entry : Entry}
    (opens : visit 20 g.lastMainLoop pass.mainLoop = (last, some entry)) :
    (loop g pass).1.lastMainLoop = last ∧ (loop g pass).2 = some (corrected g pass.sampling) := by
  simp only [loop, opens]
  exact ⟨rfl, rfl⟩

theorem loop_closed (g : Globals) {pass : Pass} {last : UInt32}
    (closed : visit 20 g.lastMainLoop pass.mainLoop = (last, none)) :
    (loop g pass).1.lastMainLoop = last ∧ (loop g pass).2 = none := by
  simp only [loop, closed]
  exact ⟨trivial, trivial⟩

/-- What a run prints: for each open pass the rates just read, less the calibration it
started with. Nothing of the earlier passes is left in them. -/
theorem run_prints (g : Globals) (passes : List Pass) :
    (run g passes).2 = (opened Pass.mainLoop 20 g.lastMainLoop passes).map fun pass =>
      corrected g pass.sampling := by
  induction passes generalizing g with
  | nil => rfl
  | cons pass rest ih =>
    have same := corrected_congr (loop_calibration g pass)
    rw [run, opened]
    cases gate : visit 20 g.lastMainLoop pass.mainLoop with
    | mk last entry =>
      cases entry with
      | some entry =>
        obtain ⟨stored, printed⟩ := loop_open g gate
        simp only [printed, ih, stored, same]
        rfl
      | none =>
        obtain ⟨stored, silent⟩ := loop_closed g gate
        simp only [silent, ih, stored, same]
        rfl

end EspDrone.Gyroscope
