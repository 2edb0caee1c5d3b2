import EspDrone.WebControl.Sketch
import EspDrone.Shared.LastWrite

set_option autoImplicit false

namespace EspDrone.WebControl

variable {F : Type}

inductive Motor where
  | motor1
  | motor2
  | motor3
  | motor4
  deriving DecidableEq, Repr

namespace Motor

def arg : Motor → String
  | motor1 => "motor1"
  | motor2 => "motor2"
  | motor3 => "motor3"
  | motor4 => "motor4"

def pin : Motor → Nat
  | motor1 => motorPin1
  | motor2 => motorPin2
  | motor3 => motorPin3
  | motor4 => motorPin4

end Motor

def Settings.motor (s : Settings F) : Motor → Int32
  | .motor1 => s.motor1
  | .motor2 => s.motor2
  | .motor3 => s.motor3
  | .motor4 => s.motor4

inductive Gain where
  | pitchP
  | rollP
  | yawP
  | pitchI
  | rollI
  | yawI
  | pitchD
  | rollD
  | yawD
  deriving DecidableEq, Repr

def Gain.arg : Gain → String
  | pitchP => "pitch_P_value"
  | rollP => "roll_P_value"
  | yawP => "yaw_P_value"
  | pitchI => "pitch_I_value"
  | rollI => "roll_I_value"
  | yawI => "yaw_I_value"
  | pitchD => "pitch_D_value"
  | rollD => "roll_D_value"
  | yawD => "yaw_D_value"

def Gain.initial [OfScientific F] : Gain → F
  | pitchP | rollP | yawP => 1.2
  | pitchI | rollI | yawI | pitchD | rollD | yawD => 0.0

def Settings.gain (s : Settings F) : Gain → F
  | .pitchP => s.pitchPValue
  | .rollP => s.rollPValue
  | .yawP => s.yawPValue
  | .pitchI => s.pitchIValue
  | .rollI => s.rollIValue
  | .yawI => s.yawIValue
  | .pitchD => s.pitchDValue
  | .rollD => s.rollDValue
  | .yawD => s.yawDValue

theorem Settings.ext_reads {s t : Settings F} (mode : s.mode = t.mode)
    (motors : ∀ motor, s.motor motor = t.motor motor) (gains : ∀ gain, s.gain gain = t.gain gain) :
    s = t := by
  cases s
  cases t
  rw [Settings.mk.injEq]
  exact ⟨mode, motors .motor1, motors .motor2, motors .motor3, motors .motor4, gains .pitchP,
    gains .rollP, gains .yawP, gains .pitchI, gains .rollI, gains .yawI, gains .pitchD,
    gains .rollD, gains .yawD⟩

-- What a request commands a motor to: the master wins over the motor's own argument.
def motorCommand (core : ArduinoCore F) (motor : Motor) (request : Request) : Option Int32 :=
  match request.route with
  | .manualPWMControl =>
      if request.hasArg "master_enable" then
        some (if request.hasArg "master" then core.toInt (request.arg "master") else 0)
      else if request.hasArg motor.arg then some (core.toInt (request.arg motor.arg))
      else none
  | _ => none

def gainCommand (core : ArduinoCore F) (gain : Gain) (request : Request) : Option F :=
  match request.route with
  | .pidControl =>
      if request.hasArg gain.arg then some (core.toFloat (request.arg gain.arg)) else none
  | _ => none

def modeAfter (mode : String) (request : Request) : String :=
  match request.route with
  | .home => mode
  | .manualPWMControl => if request.hasArg "mode" then request.arg "mode" else mode
  | .pidControl =>
      if request.hasArg "mode" then request.arg "mode"
      else if mode = "pid_control" then "none"
      else mode

theorem next_motor (core : ArduinoCore F) (motor : Motor) (s : Settings F) (request : Request) :
    (s.next core request).motor motor = (motorCommand core motor request).getD (s.motor motor) := by
  unfold Settings.next handleClient motorCommand
  cases request.route with
  | home => rfl
  | pidControl => cases motor <;> rfl
  | manualPWMControl =>
    simp only [manualPWMControlHTTP, manualPWMControlSettings]
    by_cases enabled : request.hasArg "master_enable" = true
    · have on : (master core request).enabled = true := by simp [master, Request.assign, enabled]
      rw [if_pos on, if_pos enabled]
      cases motor <;> rfl
    · have off : ¬ (master core request).enabled = true := by
        simp [master, Request.assign, enabled]
      have assigned := Request.assign_eq_assigned request motor.arg core.toInt (s.motor motor)
      rw [if_neg off, if_neg enabled]
      cases motor <;> exact assigned

theorem next_gain (core : ArduinoCore F) (gain : Gain) (s : Settings F) (request : Request) :
    (s.next core request).gain gain = (gainCommand core gain request).getD (s.gain gain) := by
  unfold Settings.next handleClient gainCommand
  cases request.route with
  | home => rfl
  | manualPWMControl =>
    simp only [manualPWMControlHTTP, manualPWMControlSettings]
    split <;> cases gain <;> rfl
  | pidControl =>
    have assigned := Request.assign_eq_assigned request gain.arg core.toFloat (s.gain gain)
    cases gain <;> exact assigned

theorem next_mode (core : ArduinoCore F) (s : Settings F) (request : Request) :
    (s.next core request).mode = modeAfter s.mode request := by
  unfold Settings.next handleClient modeAfter
  cases request.route with
  | home => rfl
  | manualPWMControl =>
    simp only [manualPWMControlHTTP, manualPWMControlSettings, Request.assign]
    split <;> rfl
  | pidControl => simp [pidControlHTTP, pidControlSettings]

def motorAfter (core : ArduinoCore F) (motor : Motor) (history : List Request) : Int32 :=
  LastWrite.value (motorCommand core motor) 0 history

def gainAfter [OfScientific F] (core : ArduinoCore F) (gain : Gain) (history : List Request) : F :=
  LastWrite.value (gainCommand core gain) gain.initial history

def modeOf (history : List Request) : String :=
  history.foldl modeAfter "none"

theorem initial_motor [OfScientific F] (motor : Motor) :
    (Settings.initial : Settings F).motor motor = 0 := by
  cases motor <;> rfl

theorem initial_gain [OfScientific F] (gain : Gain) :
    (Settings.initial : Settings F).gain gain = gain.initial := by
  cases gain <;> rfl

theorem run_motor [OfScientific F] (core : ArduinoCore F) (motor : Motor)
    (iterations : List Iteration) :
    (Sketch.run core iterations).settings.motor motor =
      motorAfter core motor (requests iterations) := by
  have written := LastWrite.foldl_project (Settings.next core) (Settings.motor · motor)
    (motorCommand core motor) (next_motor core motor) Settings.initial (requests iterations)
  rwa [initial_motor, ← run_settings] at written

theorem run_gain [OfScientific F] (core : ArduinoCore F) (gain : Gain)
    (iterations : List Iteration) :
    (Sketch.run core iterations).settings.gain gain =
      gainAfter core gain (requests iterations) := by
  have written := LastWrite.foldl_project (Settings.next core) (Settings.gain · gain)
    (gainCommand core gain) (next_gain core gain) Settings.initial (requests iterations)
  rwa [initial_gain, ← run_settings] at written

theorem foldl_mode (core : ArduinoCore F) (s : Settings F) (history : List Request) :
    (history.foldl (Settings.next core) s).mode = history.foldl modeAfter s.mode := by
  induction history generalizing s with
  | nil => rfl
  | cons request rest ih => rw [List.foldl_cons, ih, next_mode, List.foldl_cons]

theorem run_mode [OfScientific F] (core : ArduinoCore F) (iterations : List Iteration) :
    (Sketch.run core iterations).settings.mode = modeOf (requests iterations) := by
  rw [run_settings, foldl_mode]
  rfl

-- The four pins are distinct, so each keeps what it was written.
theorem writeAll_motor (core : ArduinoCore F) (pins : Pins) (s : Settings F) (motor : Motor) :
    writeAll pins (brushedESCPWMControl core s) motor.pin =
      .duty (if s.mode = "manual_motor_pwm_control" then core.map (s.motor motor) 0 100 0 1023
        else 0) := by
  unfold brushedESCPWMControl
  by_cases manual : s.mode = "manual_motor_pwm_control" <;>
    cases motor <;>
    simp [manual, writeAll, analogWrite, Settings.motor, Motor.pin, motorPin1, motorPin2,
      motorPin3, motorPin4, Function.update]

theorem run_pins [OfScientific F] (core : ArduinoCore F) (before : List Iteration)
    (last : Iteration) (motor : Motor) :
    (Sketch.run core (before ++ [last])).pins motor.pin =
      .duty (if modeOf (requests (before ++ [last])) = "manual_motor_pwm_control" then
        core.map (motorAfter core motor (requests (before ++ [last]))) 0 100 0 1023 else 0) := by
  obtain ⟨pins, written⟩ := loop_pins core (Sketch.run core before) last
  rw [run_snoc, written, ← run_snoc, writeAll_motor, run_mode, run_motor]

/-- After every iteration the motors, the gains, the mode and the motor pins are what
the requests handled so far command. -/
theorem run_semantics [OfScientific F] (core : ArduinoCore F) (before : List Iteration)
    (last : Iteration) :
    let history := requests (before ++ [last])
    let sketch := Sketch.run core (before ++ [last])
    (∀ motor, sketch.settings.motor motor = motorAfter core motor history) ∧
    (∀ gain, sketch.settings.gain gain = gainAfter core gain history) ∧
    sketch.settings.mode = modeOf history ∧
    ∀ motor, sketch.pins (Motor.pin motor) =
      .duty (if sketch.settings.mode = "manual_motor_pwm_control" then
        core.map (sketch.settings.motor motor) 0 100 0 1023 else 0) := by
  intro history sketch
  refine ⟨fun motor => run_motor core motor _, fun gain => run_gain core gain _,
    run_mode core _, fun motor => ?_⟩
  rw [run_mode, run_motor]
  exact run_pins core before last motor

end EspDrone.WebControl
