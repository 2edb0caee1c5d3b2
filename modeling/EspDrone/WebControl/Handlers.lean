import EspDrone.WebControl.Core

set_option autoImplicit false

namespace EspDrone.WebControl

variable {F : Type}

structure Settings (F : Type) where
  mode : String
  motor1 : Int32
  motor2 : Int32
  motor3 : Int32
  motor4 : Int32
  pitchPValue : F
  rollPValue : F
  yawPValue : F
  pitchIValue : F
  rollIValue : F
  yawIValue : F
  pitchDValue : F
  rollDValue : F
  yawDValue : F
  deriving DecidableEq, Repr

def Settings.initial [OfScientific F] : Settings F where
  mode := "none"
  motor1 := 0
  motor2 := 0
  motor3 := 0
  motor4 := 0
  pitchPValue := 1.2
  rollPValue := 1.2
  yawPValue := 1.2
  pitchIValue := 0.0
  rollIValue := 0.0
  yawIValue := 0.0
  pitchDValue := 0.0
  rollDValue := 0.0
  yawDValue := 0.0

def checkedIf (condition : Bool) : String :=
  if condition then " checked" else ""

def slider (label name output : String) (value : Int32) : String :=
  label ++ ": <input class='slider' type='range' name='" ++ name ++
    "' min='0' max='100' value='" ++ stringOfInt value ++ "' oninput='" ++ output ++
    ".value=this.value'> <output id='" ++ output ++ "'>" ++ stringOfInt value ++
    "</output>%<br>"

def gainField (core : ArduinoCore F) (label name : String) (value : F) : String :=
  "Enter " ++ label ++ " value (current = " ++ core.stringOfFloat value ++
    ") = <input type='text' name='" ++ name ++ "' value='" ++ core.stringOfFloat value ++ "'><br>"

-- The locals masterEnabled and masterValue.
structure Master where
  enabled : Bool
  value : Int32
  deriving DecidableEq, Repr

def master (core : ArduinoCore F) (request : Request) : Master where
  enabled := request.assign "master_enable" (fun _ => true) false
  value := request.assign "master" core.toInt 0

def manualPWMControlSettings (core : ArduinoCore F) (request : Request) (s : Settings F) :
    Settings F :=
  let s := { s with
    mode := request.assign "mode" id s.mode
    motor1 := request.assign "motor1" core.toInt s.motor1
    motor2 := request.assign "motor2" core.toInt s.motor2
    motor3 := request.assign "motor3" core.toInt s.motor3
    motor4 := request.assign "motor4" core.toInt s.motor4 }
  let m := master core request
  if m.enabled then
    { s with motor1 := m.value, motor2 := m.value, motor3 := m.value, motor4 := m.value }
  else s

def manualPWMControlPage (m : Master) (s : Settings F) : String :=
  "<!DOCTYPE html><html><head><title>ESP Config</title>" ++
  "<style>body\x7bfont-family:Arial;margin:20px;\x7d .slider\x7bwidth:300px;\x7d </style>" ++
  "</head><body>" ++
  "<h1>Drone Configuration</h1>" ++
  "<p><b>Current Mode:</b> " ++ s.mode ++ "</p>" ++
  "<form action='/manual-pwm-control' method='GET'>" ++
  "<p><input type='checkbox' name='mode' value='manual_motor_pwm_control'" ++
  checkedIf (s.mode == "manual_motor_pwm_control") ++
  "> Enable Manual Motor PWM Control</p>" ++
  "<h3>Master Control</h3>" ++
  "<p><input type='checkbox' name='master_enable' value='1'" ++
  checkedIf m.enabled ++
  "> Enable Master Slider (controls all motors)</p>" ++
  slider "Master" "master" "mout" m.value ++
  "<h3>Motor Duty Cycles (0–100)</h3>" ++
  slider "Motor 1" "motor1" "m1out" s.motor1 ++
  slider "Motor 2" "motor2" "m2out" s.motor2 ++
  slider "Motor 3" "motor3" "m3out" s.motor3 ++
  slider "Motor 4" "motor4" "m4out" s.motor4 ++
  "<br><input type='submit' value='Save Settings'>" ++
  "</form>" ++
  "</body></html>"

def manualPWMControlHTTP (core : ArduinoCore F) (request : Request) (s : Settings F) :
    Settings F × Response :=
  let s := manualPWMControlSettings core request s
  (s, ⟨200, "text/html", manualPWMControlPage (master core request) s⟩)

def pidControlSettings (core : ArduinoCore F) (request : Request) (s : Settings F) : Settings F :=
  { s with
    mode :=
      if request.hasArg "mode" then request.arg "mode"
      else if s.mode == "pid_control" then "none"
      else s.mode
    pitchPValue := request.assign "pitch_P_value" core.toFloat s.pitchPValue
    rollPValue := request.assign "roll_P_value" core.toFloat s.rollPValue
    yawPValue := request.assign "yaw_P_value" core.toFloat s.yawPValue
    pitchIValue := request.assign "pitch_I_value" core.toFloat s.pitchIValue
    rollIValue := request.assign "roll_I_value" core.toFloat s.rollIValue
    yawIValue := request.assign "yaw_I_value" core.toFloat s.yawIValue
    pitchDValue := request.assign "pitch_D_value" core.toFloat s.pitchDValue
    rollDValue := request.assign "roll_D_value" core.toFloat s.rollDValue
    yawDValue := request.assign "yaw_D_value" core.toFloat s.yawDValue }

def pidControlPage (core : ArduinoCore F) (s : Settings F) : String :=
  "<!DOCTYPE html><html><head><title>PID Config</title>" ++
  "<style>body\x7bfont-family:Arial;margin:20px;\x7d input\x7bmargin:5px;\x7d</style>" ++
  "</head><body>" ++
  "<h1>PID Control Configuration</h1>" ++
  "<form action='/pid-control' method='GET'>" ++
  "<p><input type='checkbox' name='mode' value='pid_control'" ++
  checkedIf (s.mode == "pid_control") ++
  "> Enable PID Control</p>" ++
  "<h3>P Values</h3>" ++
  gainField core "Pitch P" "pitch_P_value" s.pitchPValue ++
  gainField core "Roll  P" "roll_P_value" s.rollPValue ++
  gainField core "Yaw   P" "yaw_P_value" s.yawPValue ++
  "<h3>I Values</h3>" ++
  gainField core "Pitch I" "pitch_I_value" s.pitchIValue ++
  gainField core "Roll  I" "roll_I_value" s.rollIValue ++
  gainField core "Yaw   I" "yaw_I_value" s.yawIValue ++
  "<h3>D Values</h3>" ++
  gainField core "Pitch D" "pitch_D_value" s.pitchDValue ++
  gainField core "Roll  D" "roll_D_value" s.rollDValue ++
  gainField core "Yaw   D" "yaw_D_value" s.yawDValue ++
  "<br><input type='submit' value='Save PID Settings'>" ++
  "</form>" ++
  "</body></html>"

def pidControlHTTP (core : ArduinoCore F) (request : Request) (s : Settings F) :
    Settings F × Response :=
  let s := pidControlSettings core request s
  (s, ⟨200, "text/html", pidControlPage core s⟩)

def homePage : String :=
  "<!DOCTYPE html><html><head><title>ESP Drone Control</title>" ++
  "<style>body\x7bfont-family:Arial;margin:20px;\x7d " ++
  "a\x7bdisplay:block;margin:10px 0;font-size:18px;\x7d</style>" ++
  "</head><body>" ++
  "<h1>Drone Control Home</h1>" ++
  "<p>Select a configuration page:</p>" ++
  "<a href='/manual-pwm-control' target='_blank'>Manual PWM Control</a>" ++
  "<a href='/pid-control' target='_blank'>PID Control</a>" ++
  "</body></html>"

def handleHomePageHTTP : Response :=
  ⟨200, "text/html", homePage⟩

-- server.handleClient() with one pending request.
def handleClient (core : ArduinoCore F) (request : Request) (s : Settings F) :
    Settings F × Response :=
  match request.route with
  | .home => (s, handleHomePageHTTP)
  | .manualPWMControl => manualPWMControlHTTP core request s
  | .pidControl => pidControlHTTP core request s

end EspDrone.WebControl
