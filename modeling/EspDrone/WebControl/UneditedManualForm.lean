import EspDrone.WebControl.DutyRange
import EspDrone.WebControl.Form

set_option autoImplicit false

namespace EspDrone.WebControl

variable {F : Type}

def uneditedManualSubmission (m : Master) (s : Settings F) : Request where
  route := .manualPWMControl
  args := (manualControls m s).filterMap fun shown => shown.2.sent

structure ShownInRange (m : Master) (s : Settings F) : Prop where
  master : InSliderRange m.value
  motors : ∀ motor, InSliderRange (s.motor motor)

-- Enabled, the master has overridden the motors before the page is rendered.
def Overridden (m : Master) (s : Settings F) : Prop :=
  m.enabled = true → ∀ motor, s.motor motor = m.value

theorem sent_in_range {value : Int32} (inside : InSliderRange value) (name output : String) :
    (Control.range name output value).sent = some (name, stringOfInt value) := by
  have low : ¬ value < 0 := by
    rw [Int32.lt_iff_toInt_lt]
    exact Int.not_lt.2 inside.1
  have high : ¬ value > 100 := by
    rw [gt_iff_lt, Int32.lt_iff_toInt_lt]
    exact Int.not_lt.2 inside.2
  rw [Control.sent, if_neg low, if_neg high]

theorem uneditedManualSubmission_args {m : Master} {s : Settings F} (inside : ShownInRange m s) :
    (uneditedManualSubmission m s).args =
      (if s.mode == "manual_motor_pwm_control" then [("mode", "manual_motor_pwm_control")]
        else []) ++
      (if m.enabled then [("master_enable", "1")] else []) ++
      [("master", stringOfInt m.value), ("motor1", stringOfInt s.motor1),
        ("motor2", stringOfInt s.motor2), ("motor3", stringOfInt s.motor3),
        ("motor4", stringOfInt s.motor4)] := by
  have motor1 : InSliderRange s.motor1 := inside.motors .motor1
  have motor2 : InSliderRange s.motor2 := inside.motors .motor2
  have motor3 : InSliderRange s.motor3 := inside.motors .motor3
  have motor4 : InSliderRange s.motor4 := inside.motors .motor4
  delta uneditedManualSubmission manualControls
  simp only [List.filterMap_cons, List.filterMap_nil, sent_in_range inside.master,
    sent_in_range motor1, sent_in_range motor2, sent_in_range motor3, sent_in_range motor4]
  cases s.mode == "manual_motor_pwm_control" <;> cases m.enabled <;> rfl

section

variable {core : ArduinoCore F} (inverse : ∀ n, core.toInt (stringOfInt n) = n)
  {m : Master} {s : Settings F} (inside : ShownInRange m s)

include inside in
theorem uneditedManual_mode : modeAfter s.mode (uneditedManualSubmission m s) = s.mode := by
  have route : (uneditedManualSubmission m s).route = .manualPWMControl := rfl
  by_cases on : s.mode = "manual_motor_pwm_control" <;> cases enabled : m.enabled <;>
    simp [modeAfter, route, Request.hasArg, Request.arg, uneditedManualSubmission_args inside, on,
      enabled]

include inverse inside in
theorem uneditedManual_motor (motor : Motor) :
    motorCommand core motor (uneditedManualSubmission m s) =
      some (if m.enabled then m.value else s.motor motor) := by
  have route : (uneditedManualSubmission m s).route = .manualPWMControl := rfl
  by_cases on : s.mode = "manual_motor_pwm_control" <;> cases enabled : m.enabled <;>
    cases motor <;>
    simp [motorCommand, route, Request.hasArg, Request.arg, uneditedManualSubmission_args inside,
      on, enabled, Motor.arg, Settings.motor, inverse]

include inverse inside in
theorem uneditedManual_master : master core (uneditedManualSubmission m s) = m := by
  obtain ⟨enabled, value⟩ := m
  by_cases on : s.mode = "manual_motor_pwm_control" <;> cases enabled <;>
    simp [master, Request.assign, Request.hasArg, Request.arg,
      uneditedManualSubmission_args inside, on, inverse]

include inverse inside in
theorem uneditedManual_next (overridden : Overridden m s) :
    s.next core (uneditedManualSubmission m s) = s := by
  apply Settings.ext_reads
  · rw [next_mode, uneditedManual_mode inside]
  · intro motor
    rw [next_motor, uneditedManual_motor inverse inside, Option.getD_some]
    split
    next enabled => exact (overridden enabled motor).symm
    next => rfl
  · intro gain
    rw [next_gain]
    rfl

end

theorem next_overridden (core : ArduinoCore F) {request : Request}
    (route : request.route = .manualPWMControl) (s : Settings F) :
    Overridden (master core request) (s.next core request) := by
  intro enabled motor
  have sent : request.hasArg "master_enable" = true := by
    by_contra absent
    simp [master, Request.assign, absent] at enabled
  rw [next_motor, motorCommand, route]
  simp only [if_pos sent]
  rfl

/-- From every state, a request to the manual page that leaves all its sliders in range
is answered with a page that, sent back as rendered, changes no setting and is answered with
the same page. -/
theorem unedited_manual_repeats (core : ArduinoCore F)
    (inverse : ∀ n, core.toInt (stringOfInt n) = n) (s : Settings F) (request : Request)
    (route : request.route = .manualPWMControl)
    (inside : ShownInRange (master core request) (s.next core request)) :
    let m := master core request
    let shown := handleClient core request s
    shown.2.body = weave (manualControls m shown.1) (manualFooter shown.1) ∧
      handleClient core (uneditedManualSubmission m shown.1) shown.1 = shown := by
  intro m shown
  have after : shown.1 = s.next core request := rfl
  have page : shown = (shown.1, ⟨200, "text/html", manualPWMControlPage m shown.1⟩) :=
    handleClient_manual core route s
  have kept := uneditedManual_next inverse inside (next_overridden core route s)
  have sameMaster := uneditedManual_master inverse inside
  rw [← after] at kept sameMaster inside
  constructor
  · rw [page]
    exact manualPWMControlPage_controls m shown.1
  · rw [handleClient_manual core rfl, kept, sameMaster]
    exact page.symm

def allAtForty : Request :=
  ⟨.manualPWMControl,
    [("mode", "manual_motor_pwm_control"), ("master_enable", "1"), ("master", "40")]⟩

theorem allAtForty_inRange : ShownInRange (master wholeNumberCore allAtForty)
    (Settings.initial.next wholeNumberCore allAtForty) where
  master := by decide
  motors motor := by cases motor <;> decide

theorem unedited_manual_at_forty :
    let m := master wholeNumberCore allAtForty
    let shown := handleClient wholeNumberCore allAtForty Settings.initial
    shown.2.body = weave (manualControls m shown.1) (manualFooter shown.1) ∧
      handleClient wholeNumberCore (uneditedManualSubmission m shown.1) shown.1 = shown :=
  unedited_manual_repeats wholeNumberCore Decimal.atoi_toString Settings.initial allAtForty rfl
    allAtForty_inRange

end EspDrone.WebControl
