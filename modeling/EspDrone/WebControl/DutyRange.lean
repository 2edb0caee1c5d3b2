import EspDrone.WebControl.ModeReset

set_option autoImplicit false

namespace EspDrone.WebControl

variable {F : Type}

def FitsLong (value : Int) : Prop :=
  -2147483648 ≤ value ∧ value < 2147483648

def InPwmRange (value : Int32) : Prop :=
  0 ≤ value.toInt ∧ value.toInt ≤ 1023

def InSliderRange (value : Int32) : Prop :=
  0 ≤ value.toInt ∧ value.toInt ≤ 100

instance (value : Int32) : Decidable (InPwmRange value) :=
  inferInstanceAs (Decidable (_ ∧ _))

instance (value : Int32) : Decidable (InSliderRange value) :=
  inferInstanceAs (Decidable (_ ∧ _))

-- The duties are in the range of analogWriteRange(1023), and no product in `map` overflows.
def DutyInRange (core : ArduinoCore F) (s : Settings F) : Prop :=
  (∀ call ∈ brushedESCPWMControl core s, InPwmRange call.2) ∧
    (s.mode = "manual_motor_pwm_control" → ∀ motor, FitsLong ((s.motor motor).toInt * 1023))

theorem duty_product {x : Int32} (fits : FitsLong (x.toInt * 1023)) :
    (x * 1023).toInt = x.toInt * 1023 := by
  have lower := fits.1
  have upper := fits.2
  have factor : (1023 : Int32).toInt = 1023 := rfl
  rw [Int32.toInt_mul, factor, Int.bmod_eq_of_le] <;> omega

theorem hundredth_in_range_iff (a : Int32) :
    InPwmRange (a / 100) ↔ -100 < a.toInt ∧ a.toInt < 102400 := by
  have divisor : (100 : Int32).toInt = 100 := rfl
  rw [InPwmRange, Int32.toInt_div_of_ne_right a 100 (by decide), divisor]
  rcases Int.le_total 0 a.toInt with nonneg | nonpos
  · rw [Int.tdiv_eq_ediv_of_nonneg nonneg]
    omega
  · have negated : a.toInt.tdiv 100 = -(-a.toInt / 100) := by
      rw [← Int.tdiv_eq_ediv_of_nonneg (by omega), Int.neg_tdiv, Int.neg_neg]
    rw [negated]
    omega

-- Adding the half of the divisor may carry the product past the end of `long`.
theorem rounded_in_range {x : Int32} (fits : FitsLong (x.toInt * 1023)) :
    InPwmRange ((x * 1023 + 50) / 100) ↔ InSliderRange x := by
  have lower := fits.1
  have upper := fits.2
  have half : (50 : Int32).toInt = 50 := rfl
  rw [hundredth_in_range_iff, Int32.toInt_add, duty_product fits, half, InSliderRange]
  by_cases carries : x.toInt * 1023 + 50 < 2147483648
  · rw [Int.bmod_eq_of_le (by omega) (by omega)]
    omega
  · have wrapped : (x.toInt * 1023 + 50).bmod (2 ^ 32) = x.toInt * 1023 + 50 - 4294967296 := by
      rw [← Int.sub_bmod_right, Int.bmod_eq_of_le] <;> omega
    rw [wrapped]
    omega

theorem map_in_range_iff (core : ArduinoCore F) (x : Int32) :
    (InPwmRange (core.map x 0 100 0 1023) ∧ FitsLong (x.toInt * 1023)) ↔ InSliderRange x := by
  have within (inside : InSliderRange x) : FitsLong (x.toInt * 1023) := by
    have lower := inside.1
    have upper := inside.2
    constructor <;> omega
  have duty (fits : FitsLong (x.toInt * 1023)) :
      InPwmRange (core.map x 0 100 0 1023) ↔ InSliderRange x := by
    unfold ArduinoCore.map
    simp only [Int32.sub_zero, Int32.add_zero]
    split
    · exact rounded_in_range fits
    · rw [hundredth_in_range_iff, duty_product fits, InSliderRange]
      omega
  constructor
  · rintro ⟨inRange, fits⟩
    exact (duty fits).1 inRange
  · intro inside
    exact ⟨(duty (within inside)).2 inside, within inside⟩

theorem duty_in_range_iff (core : ArduinoCore F) (s : Settings F) :
    DutyInRange core s ↔
      (s.mode = "manual_motor_pwm_control" → ∀ motor, InSliderRange (s.motor motor)) := by
  unfold DutyInRange brushedESCPWMControl
  by_cases manual : s.mode = "manual_motor_pwm_control"
  · simp only [manual, beq_self_eq_true, if_true, forall_const, List.mem_cons, List.not_mem_nil,
      or_false, forall_eq_or_imp, forall_eq]
    constructor
    · rintro ⟨⟨duty1, duty2, duty3, duty4⟩, fits⟩ motor
      refine (map_in_range_iff core (s.motor motor)).1 ⟨?_, fits motor⟩
      cases motor with
      | motor1 => exact duty1
      | motor2 => exact duty2
      | motor3 => exact duty3
      | motor4 => exact duty4
    · intro inside
      have duty (motor : Motor) := (map_in_range_iff core (s.motor motor)).2 (inside motor)
      exact ⟨⟨(duty .motor1).1, (duty .motor2).1, (duty .motor3).1, (duty .motor4).1⟩,
        fun motor => (duty motor).2⟩
  · have zero : InPwmRange 0 := by decide
    simp [manual, zero]

/-- At the end of every iteration of every run, the duties are in range exactly when the
manual mode is off or the last command to each motor was a slider value. -/
theorem run_duty_in_range_iff [OfScientific F] (core : ArduinoCore F) (before : List Iteration)
    (last : Iteration) :
    let history := requests (before ++ [last])
    DutyInRange core (Sketch.run core (before ++ [last])).settings ↔
      (modeOf history = "manual_motor_pwm_control" →
        ∀ motor, InSliderRange (motorAfter core motor history)) := by
  intro history
  rw [duty_in_range_iff, run_mode]
  simp only [run_motor]
  rfl

def doubleSpeed : Request :=
  ⟨.manualPWMControl, [("mode", "manual_motor_pwm_control"), ("motor1", "200")]⟩

/-- The motor is given 2046 of 1023. -/
theorem double_speed_out_of_range :
    (motorPin1, 2046) ∈ brushedESCPWMControl wholeNumberCore
        (Sketch.run wholeNumberCore [iterationOf doubleSpeed]).settings ∧
      ¬ DutyInRange wholeNumberCore
        (Sketch.run wholeNumberCore [iterationOf doubleSpeed]).settings := by
  have call : (motorPin1, 2046) ∈ brushedESCPWMControl wholeNumberCore
      (Sketch.run wholeNumberCore [iterationOf doubleSpeed]).settings := by
    decide
  refine ⟨call, fun inRange => ?_⟩
  have duty := inRange.1 _ call
  revert duty
  decide

end EspDrone.WebControl
