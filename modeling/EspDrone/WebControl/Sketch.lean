import EspDrone.WebControl.Handlers
import Mathlib.Logic.Function.Basic

set_option autoImplicit false

namespace EspDrone.WebControl

variable {F : Type}

inductive PinOutput where
  | level (high : Bool)
  | duty (value : Int32)
  deriving DecidableEq, Repr

abbrev Pins := Nat → PinOutput

-- GPIO numbers of LED_BUILTIN, D1, D2, D5 and D6.
def connectionLed : Nat := 2
def motorPin1 : Nat := 5
def motorPin2 : Nat := 4
def motorPin3 : Nat := 14
def motorPin4 : Nat := 12

def digitalWrite (pins : Pins) (pin : Nat) (high : Bool) : Pins :=
  Function.update pins pin (.level high)

-- A pin keeps the value it was given; the core applies its own range to it later.
def analogWrite (pins : Pins) (pin : Nat) (value : Int32) : Pins :=
  Function.update pins pin (.duty value)

def brushedESCPWMControl (core : ArduinoCore F) (s : Settings F) : List (Nat × Int32) :=
  if s.mode == "manual_motor_pwm_control" then
    [(motorPin1, core.map s.motor1 0 100 0 1023),
      (motorPin2, core.map s.motor2 0 100 0 1023),
      (motorPin3, core.map s.motor3 0 100 0 1023),
      (motorPin4, core.map s.motor4 0 100 0 1023)]
  else
    [(motorPin1, 0), (motorPin2, 0), (motorPin3, 0), (motorPin4, 0)]

def writeAll (pins : Pins) (calls : List (Nat × Int32)) : Pins :=
  calls.foldl (fun pins call => analogWrite pins call.1 call.2) pins

structure Sketch (F : Type) where
  settings : Settings F
  lastClients : Int32 := 0
  previousMillis : UInt32 := 0
  ledState : Bool := false
  lastPrint : UInt32 := 0
  pins : Pins := fun _ => .level false
  serial : List String := []
  responses : List Response := []

structure Iteration where
  clients : Int32
  blinkMillis : UInt32
  printMillis : UInt32
  printMillisAgain : UInt32
  request : Option Request
  deriving DecidableEq, Repr

def Sketch.println (k : Sketch F) (text : String) : Sketch F :=
  { k with serial := k.serial ++ [text] }

def Sketch.clientMonitor (core : ArduinoCore F) (clients : Int32) (k : Sketch F) : Sketch F :=
  if clients ≠ k.lastClients then
    let k := { k with lastClients := clients }
    if clients > 0 then
      let k := { k with pins := digitalWrite k.pins connectionLed false }
      (k.println "Device Connected").println ("Access Point IP Address: " ++ core.softAPIP)
    else
      (k.println "No device connected...").println ("Access Point IP Address: " ++ core.softAPIP)
  else k

-- Blink the LED, active low, while no device is connected.
def Sketch.blink (clients : Int32) (currentMillis : UInt32) (k : Sketch F) : Sketch F :=
  if clients = 0 ∧ currentMillis - k.previousMillis ≥ 250 then
    let ledState := !k.ledState
    { k with
      previousMillis := currentMillis
      ledState
      pins := digitalWrite k.pins connectionLed (!ledState) }
  else k

def Sketch.handleRequest (core : ArduinoCore F) (request : Option Request) (k : Sketch F) :
    Sketch F :=
  match request with
  | none => k
  | some request =>
      let answer := handleClient core request k.settings
      { k with settings := answer.1, responses := k.responses ++ [answer.2] }

def settingsReport (core : ArduinoCore F) (s : Settings F) : List String :=
  ["========== Drone Config ==========",
    "Mode: " ++ s.mode,
    "Motor 1: " ++ stringOfInt s.motor1 ++ "%",
    "Motor 2: " ++ stringOfInt s.motor2 ++ "%",
    "Motor 3: " ++ stringOfInt s.motor3 ++ "%",
    "Motor 4: " ++ stringOfInt s.motor4 ++ "%",
    "  pitch_P_value: " ++ core.stringOfFloat s.pitchPValue ++
      "  pitch_I_value: " ++ core.stringOfFloat s.pitchIValue ++
      "  pitch_D_value: " ++ core.stringOfFloat s.pitchDValue,
    "  roll_P_value: " ++ core.stringOfFloat s.rollPValue ++
      "  roll_I_value: " ++ core.stringOfFloat s.rollIValue ++
      "  roll_D_value: " ++ core.stringOfFloat s.rollDValue,
    "  yaw_P_value: " ++ core.stringOfFloat s.yawPValue ++
      "  yaw_I_value: " ++ core.stringOfFloat s.yawIValue ++
      "  yaw_D_value: " ++ core.stringOfFloat s.yawDValue,
    "================================="]

def Sketch.printSettings (core : ArduinoCore F) (now again : UInt32) (k : Sketch F) : Sketch F :=
  if now - k.lastPrint > 5000 then
    { k with lastPrint := again, serial := k.serial ++ settingsReport core k.settings }
  else k

def Sketch.driveMotors (core : ArduinoCore F) (k : Sketch F) : Sketch F :=
  { k with pins := writeAll k.pins (brushedESCPWMControl core k.settings) }

def Sketch.loop (core : ArduinoCore F) (k : Sketch F) (it : Iteration) : Sketch F :=
  let k := k.clientMonitor core it.clients
  let k := k.blink it.clients it.blinkMillis
  let k := k.handleRequest core it.request
  let k := k.printSettings core it.printMillis it.printMillisAgain
  k.driveMotors core

def Sketch.boot [OfScientific F] : Sketch F :=
  { settings := Settings.initial }

def Sketch.run [OfScientific F] (core : ArduinoCore F) (iterations : List Iteration) : Sketch F :=
  iterations.foldl (Sketch.loop core) Sketch.boot

-- The request of an iteration is the only thing in it that reaches the settings.
def Settings.next (core : ArduinoCore F) (s : Settings F) (request : Request) : Settings F :=
  (handleClient core request s).1

theorem handleClient_manual (core : ArduinoCore F) {request : Request}
    (route : request.route = .manualPWMControl) (s : Settings F) :
    handleClient core request s = (s.next core request, ⟨200, "text/html",
      manualPWMControlPage (master core request) (s.next core request)⟩) := by
  unfold Settings.next handleClient
  rw [route]
  rfl

theorem handleClient_pid (core : ArduinoCore F) {request : Request}
    (route : request.route = .pidControl) (s : Settings F) :
    handleClient core request s = (s.next core request, ⟨200, "text/html",
      pidControlPage core (s.next core request)⟩) := by
  unfold Settings.next handleClient
  rw [route]
  rfl

@[simp] theorem clientMonitor_frame (core : ArduinoCore F) (clients : Int32) (k : Sketch F) :
    (k.clientMonitor core clients).settings = k.settings ∧
      (k.clientMonitor core clients).responses = k.responses := by
  unfold Sketch.clientMonitor
  split
  next => split <;> exact ⟨rfl, rfl⟩
  next => exact ⟨rfl, rfl⟩

@[simp] theorem blink_frame (clients : Int32) (now : UInt32) (k : Sketch F) :
    (k.blink clients now).settings = k.settings ∧
      (k.blink clients now).responses = k.responses := by
  unfold Sketch.blink
  split <;> exact ⟨rfl, rfl⟩

@[simp] theorem printSettings_frame (core : ArduinoCore F) (now again : UInt32) (k : Sketch F) :
    (k.printSettings core now again).settings = k.settings ∧
      (k.printSettings core now again).responses = k.responses := by
  unfold Sketch.printSettings
  split <;> exact ⟨rfl, rfl⟩

@[simp] theorem driveMotors_frame (core : ArduinoCore F) (k : Sketch F) :
    (k.driveMotors core).settings = k.settings ∧
      (k.driveMotors core).responses = k.responses := ⟨rfl, rfl⟩

theorem handleRequest_settings (core : ArduinoCore F) (request : Option Request) (k : Sketch F) :
    (k.handleRequest core request).settings =
      request.toList.foldl (Settings.next core) k.settings := by
  cases request <;> rfl

theorem handleRequest_responses (core : ArduinoCore F) (request : Option Request) (k : Sketch F) :
    (k.handleRequest core request).responses = k.responses ++
      request.toList.map fun request => (handleClient core request k.settings).2 := by
  cases request with
  | none => simp [Sketch.handleRequest]
  | some request => rfl

theorem loop_settings (core : ArduinoCore F) (k : Sketch F) (it : Iteration) :
    (k.loop core it).settings = it.request.toList.foldl (Settings.next core) k.settings := by
  simp [Sketch.loop, handleRequest_settings]

theorem loop_responses (core : ArduinoCore F) (k : Sketch F) (it : Iteration) :
    (k.loop core it).responses = k.responses ++
      it.request.toList.map fun request => (handleClient core request k.settings).2 := by
  simp [Sketch.loop, handleRequest_responses]

def requests (iterations : List Iteration) : List Request :=
  iterations.flatMap fun it => it.request.toList

theorem foldl_loop_settings (core : ArduinoCore F) (k : Sketch F) (iterations : List Iteration) :
    (iterations.foldl (Sketch.loop core) k).settings =
      (requests iterations).foldl (Settings.next core) k.settings := by
  induction iterations generalizing k with
  | nil => rfl
  | cons it rest ih =>
    rw [List.foldl_cons, ih, loop_settings, ← List.foldl_append]
    rfl

theorem run_settings [OfScientific F] (core : ArduinoCore F) (iterations : List Iteration) :
    (Sketch.run core iterations).settings =
      (requests iterations).foldl (Settings.next core) Settings.initial :=
  foldl_loop_settings core Sketch.boot iterations

theorem run_snoc [OfScientific F] (core : ArduinoCore F) (before : List Iteration)
    (last : Iteration) :
    Sketch.run core (before ++ [last]) = (Sketch.run core before).loop core last := by
  rw [Sketch.run, List.foldl_append]
  rfl

theorem run_request [OfScientific F] (core : ArduinoCore F) (before : List Iteration)
    {last : Iteration} {request : Request} (handled : last.request = some request) :
    (Sketch.run core (before ++ [last])).settings =
      (Sketch.run core before).settings.next core request := by
  rw [run_snoc, loop_settings, handled]
  rfl

theorem run_response [OfScientific F] (core : ArduinoCore F) (before : List Iteration)
    {last : Iteration} {request : Request} (handled : last.request = some request) :
    (Sketch.run core (before ++ [last])).responses = (Sketch.run core before).responses ++
      [(handleClient core request (Sketch.run core before).settings).2] := by
  rw [run_snoc, loop_responses, handled]
  rfl

theorem loop_pins (core : ArduinoCore F) (k : Sketch F) (it : Iteration) :
    ∃ pins, (k.loop core it).pins =
      writeAll pins (brushedESCPWMControl core (k.loop core it).settings) :=
  ⟨_, rfl⟩

end EspDrone.WebControl
