import EspDrone.WebControl.Semantics
import EspDrone.Shared.Decimal

set_option autoImplicit false

namespace EspDrone.WebControl

variable {F : Type}

inductive ConfigPage where
  | manualPWMControl
  | pidControl
  deriving DecidableEq, Repr

namespace ConfigPage

def route : ConfigPage → Route
  | manualPWMControl => .manualPWMControl
  | pidControl => .pidControl

def mode : ConfigPage → String
  | manualPWMControl => "manual_motor_pwm_control"
  | pidControl => "pid_control"

-- The sliders and text fields, which a form always sends.
def fieldNames : ConfigPage → List String
  | manualPWMControl => ["master", "motor1", "motor2", "motor3", "motor4"]
  | pidControl =>
      ["pitch_P_value", "roll_P_value", "yaw_P_value", "pitch_I_value", "roll_I_value",
        "yaw_I_value", "pitch_D_value", "roll_D_value", "yaw_D_value"]

structure UncheckedSubmission (page : ConfigPage) (request : Request) : Prop where
  route : request.route = page.route
  fields : ∀ name ∈ page.fieldNames, request.hasArg name = true
  unchecked : request.hasArg "mode" = false

-- The page's mode is off, and with it the motors if they are the page's.
def Cleared (page : ConfigPage) (k : Sketch F) : Prop :=
  k.settings.mode ≠ page.mode ∧
    (page = manualPWMControl → ∀ motor, k.pins (Motor.pin motor) = .duty 0)

end ConfigPage

theorem requests_snoc (before : List Iteration) {last : Iteration} {request : Request}
    (handled : last.request = some request) :
    requests (before ++ [last]) = requests before ++ [request] := by
  simp [requests, handled]

theorem modeOf_snoc (history : List Request) (request : Request) :
    modeOf (history ++ [request]) = modeAfter (modeOf history) request := by
  rw [modeOf, List.foldl_append]
  rfl

theorem modeAfter_unchecked {page : ConfigPage} {request : Request}
    (submission : page.UncheckedSubmission request) (mode : String) :
    modeAfter mode request =
      if page = .pidControl ∧ mode = "pid_control" then "none" else mode := by
  have absent : ¬ request.hasArg "mode" = true := by simp [submission.unchecked]
  cases page with
  | manualPWMControl =>
    rw [modeAfter, submission.route]
    exact if_neg absent
  | pidControl =>
    rw [modeAfter, submission.route]
    simp only [ConfigPage.route, if_neg absent, true_and]

theorem run_unchecked [OfScientific F] (core : ArduinoCore F) {page : ConfigPage}
    (before : List Iteration) {last : Iteration} {request : Request}
    (handled : last.request = some request) (submission : page.UncheckedSubmission request) :
    (Sketch.run core (before ++ [last])).settings.mode =
      if page = .pidControl ∧ (Sketch.run core before).settings.mode = "pid_control" then "none"
      else (Sketch.run core before).settings.mode := by
  rw [run_mode, run_mode, requests_snoc before handled, modeOf_snoc,
    modeAfter_unchecked submission]

theorem pins_zero_of_not_manual [OfScientific F] (core : ArduinoCore F) (before : List Iteration)
    (last : Iteration) (motor : Motor)
    (off : (Sketch.run core (before ++ [last])).settings.mode ≠ "manual_motor_pwm_control") :
    (Sketch.run core (before ++ [last])).pins motor.pin = .duty 0 := by
  rw [run_mode] at off
  rw [run_pins, if_neg off]

/-- After any run, an unchecked submission turns its page's mode off exactly when it is
the PID page's or the manual mode was off before it. -/
theorem unchecked_submission_clears_iff [OfScientific F] (core : ArduinoCore F)
    (page : ConfigPage) (before : List Iteration) (last : Iteration) (request : Request)
    (handled : last.request = some request) (submission : page.UncheckedSubmission request) :
    page.Cleared (Sketch.run core (before ++ [last])) ↔
      page = .pidControl ∨
        (Sketch.run core before).settings.mode ≠ "manual_motor_pwm_control" := by
  have after := run_unchecked core before handled submission
  cases page with
  | pidControl =>
    have off : (Sketch.run core (before ++ [last])).settings.mode ≠ "pid_control" := by
      rw [after]
      by_cases on : (Sketch.run core before).settings.mode = "pid_control"
      · rw [if_pos ⟨rfl, on⟩]
        decide
      · rw [if_neg fun both => on both.2]
        exact on
    exact ⟨fun _ => .inl rfl, fun _ => ⟨off, fun manual => nomatch manual⟩⟩
  | manualPWMControl =>
    have kept : (Sketch.run core (before ++ [last])).settings.mode =
        (Sketch.run core before).settings.mode := by
      rw [after, if_neg fun both => nomatch both.1]
    constructor
    · intro cleared
      right
      rw [← kept]
      exact cleared.1
    · rintro (pid | off)
      · cases pid
      · rw [← kept] at off
        exact ⟨off, fun _ motor => pins_zero_of_not_manual core before last motor off⟩

-- A core that reads whole numbers, with rationals for its floats.
def wholeNumberCore : ArduinoCore Rat where
  toInt text := Decimal.atoi text.toUTF8.data.toList
  toFloat text := (Decimal.atoi text.toUTF8.data.toList).toInt
  stringOfFloat value := toString value
  softAPIP := "192.168.4.1"
  mapRounds := true

def iterationOf (request : Request) : Iteration :=
  { clients := 1, blinkMillis := 0, printMillis := 0, printMillisAgain := 0,
    request := some request }

def halfSpeed : List (String × String) :=
  [("master", "0"), ("motor1", "50"), ("motor2", "0"), ("motor3", "0"), ("motor4", "0")]

def enableManual : Request :=
  ⟨.manualPWMControl, ("mode", "manual_motor_pwm_control") :: halfSpeed⟩

def disableManual : Request :=
  ⟨.manualPWMControl, halfSpeed⟩

theorem disableManual_unchecked :
    ConfigPage.manualPWMControl.UncheckedSubmission disableManual :=
  ⟨rfl, by decide, by decide⟩

def enablePid : Request :=
  ⟨.pidControl, [("mode", "pid_control")]⟩

-- The manual mode was on before, and the PID page has taken its place.
theorem unchecked_submission_in_pid_mode :
    ConfigPage.manualPWMControl.Cleared (Sketch.run wholeNumberCore
      ([iterationOf enableManual, iterationOf enablePid] ++ [iterationOf disableManual])) := by
  have other : (Sketch.run wholeNumberCore
      [iterationOf enableManual, iterationOf enablePid]).settings.mode ≠
        "manual_motor_pwm_control" := by
    rw [run_mode]
    decide
  exact (unchecked_submission_clears_iff wholeNumberCore .manualPWMControl
    [iterationOf enableManual, iterationOf enablePid] (iterationOf disableManual) disableManual rfl
    disableManual_unchecked).2 (.inr other)

/-- The manual page ignores the cleared box: the mode stays on and motor 1 keeps turning. -/
theorem manual_submission_not_cleared :
    ConfigPage.manualPWMControl.UncheckedSubmission disableManual ∧
    ¬ ConfigPage.manualPWMControl.Cleared
      (Sketch.run wholeNumberCore [iterationOf enableManual, iterationOf disableManual]) ∧
    (Sketch.run wholeNumberCore [iterationOf enableManual, iterationOf disableManual]).pins
      motorPin1 = .duty 512 := by
  have still : (Sketch.run wholeNumberCore
      [iterationOf enableManual, iterationOf disableManual]).settings.mode =
        "manual_motor_pwm_control" := by
    rw [run_mode]
    decide
  have turning := run_pins wholeNumberCore [iterationOf enableManual] (iterationOf disableManual)
    .motor1
  refine ⟨disableManual_unchecked, fun cleared => cleared.1 still, turning.trans ?_⟩
  decide

end EspDrone.WebControl
