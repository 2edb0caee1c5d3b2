import EspDrone.WebControl.Semantics

set_option autoImplicit false

namespace EspDrone.WebControl

variable {F : Type}

inductive Control where
  | checkbox (name value : String) (checked : Bool)
  | text (name value : String)
  -- A slider from 0 to 100 with the output element that follows it.
  | range (name output : String) (value : Int32)
  deriving DecidableEq, Repr

namespace Control

def html : Control → String
  | checkbox name value checked =>
      "<input type='checkbox' name='" ++ name ++ "' value='" ++ value ++ "'" ++
        checkedIf checked ++ ">"
  | text name value => "<input type='text' name='" ++ name ++ "' value='" ++ value ++ "'>"
  | range name output value =>
      "<input class='slider' type='range' name='" ++ name ++ "' min='0' max='100' value='" ++
        stringOfInt value ++ "' oninput='" ++ output ++ ".value=this.value'>"

theorem html_checkbox (name value : String) (checked : Bool) :
    (checkbox name value checked).html =
      "<input type='checkbox' name='" ++ name ++ "' value='" ++ value ++ "'" ++
        checkedIf checked ++ ">" := rfl

theorem html_range (name output : String) (value : Int32) :
    (range name output value).html =
      "<input class='slider' type='range' name='" ++ name ++ "' min='0' max='100' value='" ++
        stringOfInt value ++ "' oninput='" ++ output ++ ".value=this.value'>" := rfl

theorem html_text (name value : String) :
    (text name value).html = "<input type='text' name='" ++ name ++ "' value='" ++ value ++ "'>" :=
  rfl

-- An unchecked box sends nothing; a slider moves a value outside its range to the nearer end.
def sent : Control → Option (String × String)
  | checkbox name value checked => if checked then some (name, value) else none
  | text name value => some (name, value)
  | range name _ value =>
      some (name, stringOfInt (if value < 0 then 0 else if value > 100 then 100 else value))

end Control

-- A page as its controls, each with the text before it, and the text after the last.
def weave : List (String × Control) → String → String
  | [], last => last
  | (before, control) :: rest, last => before ++ control.html ++ weave rest last

def gainLabel (core : ArduinoCore F) (label : String) (value : F) : String :=
  "Enter " ++ label ++ " value (current = " ++ core.stringOfFloat value ++ ") = "

def gainControl (core : ArduinoCore F) (s : Settings F) (gain : Gain) : Control :=
  .text gain.arg (core.stringOfFloat (s.gain gain))

def pidControls (core : ArduinoCore F) (s : Settings F) : List (String × Control) :=
  [("<!DOCTYPE html><html><head><title>PID Config</title>" ++
      "<style>body\x7bfont-family:Arial;margin:20px;\x7d input\x7bmargin:5px;\x7d</style>" ++
      "</head><body>" ++ "<h1>PID Control Configuration</h1>" ++
      "<form action='/pid-control' method='GET'>" ++ "<p>",
      .checkbox "mode" "pid_control" (s.mode == "pid_control")),
    (" Enable PID Control</p>" ++ "<h3>P Values</h3>" ++ gainLabel core "Pitch P" s.pitchPValue,
      gainControl core s .pitchP),
    ("<br>" ++ gainLabel core "Roll  P" s.rollPValue, gainControl core s .rollP),
    ("<br>" ++ gainLabel core "Yaw   P" s.yawPValue, gainControl core s .yawP),
    ("<br>" ++ "<h3>I Values</h3>" ++ gainLabel core "Pitch I" s.pitchIValue,
      gainControl core s .pitchI),
    ("<br>" ++ gainLabel core "Roll  I" s.rollIValue, gainControl core s .rollI),
    ("<br>" ++ gainLabel core "Yaw   I" s.yawIValue, gainControl core s .yawI),
    ("<br>" ++ "<h3>D Values</h3>" ++ gainLabel core "Pitch D" s.pitchDValue,
      gainControl core s .pitchD),
    ("<br>" ++ gainLabel core "Roll  D" s.rollDValue, gainControl core s .rollD),
    ("<br>" ++ gainLabel core "Yaw   D" s.yawDValue, gainControl core s .yawD)]

def pidFooter : String :=
  "<br>" ++ "<br><input type='submit' value='Save PID Settings'>" ++ "</form>" ++
    "</body></html>"

theorem gainField_control (core : ArduinoCore F) (label name : String) (value : F) :
    gainField core label name value =
      gainLabel core label value ++ (Control.text name (core.stringOfFloat value)).html ++
        "<br>" := by
  have opening : ") = <input type='text' name='" = ") = " ++ "<input type='text' name='" := by
    simp
  have closing : "'><br>" = "'>" ++ "<br>" := by simp
  -- delta here and below: deriving equations for functions that are long texts is slow.
  delta gainField gainLabel
  simp only [Control.html_text, opening, closing, String.append_assoc]

-- The source writes the box's markup in one literal with the text around it.
theorem checkbox_control {opening closing name value label : String}
    (opens : opening = "<p>" ++ ("<input type='checkbox' name='" ++ (name ++ ("' value='" ++
      (value ++ "'")))))
    (closes : closing = ">" ++ label) (checked : Bool) (rest : String) :
    opening ++ (checkedIf checked ++ (closing ++ rest)) =
      "<p>" ++ ((Control.checkbox name value checked).html ++ (label ++ rest)) := by
  simp only [Control.html_checkbox, opens, closes, String.append_assoc]

/-- The PID page shows these controls, in this order and with these values. -/
theorem pidControlPage_controls (core : ArduinoCore F) (s : Settings F) :
    pidControlPage core s = weave (pidControls core s) pidFooter := by
  have mode : "<p><input type='checkbox' name='mode' value='pid_control'" = "<p>" ++
      ("<input type='checkbox' name='" ++ ("mode" ++ ("' value='" ++ ("pid_control" ++ "'")))) := by
    simp
  have label : "> Enable PID Control</p>" = ">" ++ " Enable PID Control</p>" := by simp
  delta pidControlPage pidControls pidFooter
  simp only [weave, gainControl, Gain.arg, Settings.gain, gainField_control,
    checkbox_control mode label, String.append_assoc]

def sliderOutput (output : String) (value : Int32) : String :=
  " <output id='" ++ output ++ "'>" ++ stringOfInt value ++ "</output>%<br>"

def manualHeader : String :=
  "<!DOCTYPE html><html><head><title>ESP Config</title>" ++
    "<style>body\x7bfont-family:Arial;margin:20px;\x7d .slider\x7bwidth:300px;\x7d </style>" ++
    "</head><body>" ++ "<h1>Drone Configuration</h1>" ++ "<p><b>Current Mode:</b> "

def manualControls (m : Master) (s : Settings F) : List (String × Control) :=
  [(manualHeader ++ s.mode ++ "</p>" ++ "<form action='/manual-pwm-control' method='GET'>" ++ "<p>",
      .checkbox "mode" "manual_motor_pwm_control" (s.mode == "manual_motor_pwm_control")),
    (" Enable Manual Motor PWM Control</p>" ++ "<h3>Master Control</h3>" ++ "<p>",
      .checkbox "master_enable" "1" m.enabled),
    (" Enable Master Slider (controls all motors)</p>" ++ "Master" ++ ": ",
      .range "master" "mout" m.value),
    (sliderOutput "mout" m.value ++ "<h3>Motor Duty Cycles (0–100)</h3>" ++ "Motor 1" ++ ": ",
      .range "motor1" "m1out" s.motor1),
    (sliderOutput "m1out" s.motor1 ++ "Motor 2" ++ ": ", .range "motor2" "m2out" s.motor2),
    (sliderOutput "m2out" s.motor2 ++ "Motor 3" ++ ": ", .range "motor3" "m3out" s.motor3),
    (sliderOutput "m3out" s.motor3 ++ "Motor 4" ++ ": ", .range "motor4" "m4out" s.motor4)]

def manualFooter (s : Settings F) : String :=
  sliderOutput "m4out" s.motor4 ++ "<br><input type='submit' value='Save Settings'>" ++
    "</form>" ++ "</body></html>"

theorem slider_control (label name output : String) (value : Int32) :
    slider label name output value =
      label ++ ": " ++ (Control.range name output value).html ++ sliderOutput output value := by
  have opening : ": <input class='slider' type='range' name='" =
      ": " ++ "<input class='slider' type='range' name='" := by
    simp
  have closing : ".value=this.value'> <output id='" = ".value=this.value'>" ++ " <output id='" := by
    simp
  delta slider sliderOutput
  simp only [Control.html_range, opening, closing, String.append_assoc]

/-- The manual page shows these controls, in this order and with these values. -/
theorem manualPWMControlPage_controls (m : Master) (s : Settings F) :
    manualPWMControlPage m s = weave (manualControls m s) (manualFooter s) := by
  have mode : "<p><input type='checkbox' name='mode' value='manual_motor_pwm_control'" =
      "<p>" ++ ("<input type='checkbox' name='" ++ ("mode" ++ ("' value='" ++
        ("manual_motor_pwm_control" ++ "'")))) := by
    simp
  have modeLabel : "> Enable Manual Motor PWM Control</p>" =
      ">" ++ " Enable Manual Motor PWM Control</p>" := by
    simp
  have enable : "<p><input type='checkbox' name='master_enable' value='1'" =
      "<p>" ++ ("<input type='checkbox' name='" ++ ("master_enable" ++ ("' value='" ++
        ("1" ++ "'")))) := by
    simp
  have enableLabel : "> Enable Master Slider (controls all motors)</p>" =
      ">" ++ " Enable Master Slider (controls all motors)</p>" := by
    simp
  delta manualPWMControlPage manualControls manualHeader manualFooter
  simp only [weave, slider_control, checkbox_control mode modeLabel,
    checkbox_control enable enableLabel, String.append_assoc]

end EspDrone.WebControl
