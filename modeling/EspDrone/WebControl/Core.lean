set_option autoImplicit false

/-!
# What the web sketch takes from the Arduino core and the web server library
-/

namespace EspDrone.WebControl

-- `F` stands for float. `toInt` and `toFloat` are those of String, `stringOfFloat` is
-- String(float), and newer cores round in `map`.
structure ArduinoCore (F : Type) where
  toInt : String → Int32
  toFloat : String → F
  stringOfFloat : F → String
  softAPIP : String
  mapRounds : Bool

def ArduinoCore.map {F : Type} (core : ArduinoCore F) (x inMin inMax outMin outMax : Int32) :
    Int32 :=
  let dividend := outMax - outMin
  let divisor := inMax - inMin
  let delta := x - inMin
  if core.mapRounds then (delta * dividend + divisor / 2) / divisor + outMin
  else delta * dividend / divisor + outMin

def stringOfInt (n : Int32) : String :=
  toString n.toInt

-- The routes registered with server.on: "/", "/manual-pwm-control" and "/pid-control".
inductive Route where
  | home
  | manualPWMControl
  | pidControl
  deriving DecidableEq, Repr

structure Request where
  route : Route
  args : List (String × String)
  deriving DecidableEq, Repr

namespace Request

def hasArg (request : Request) (name : String) : Bool :=
  request.args.any fun arg => arg.1 == name

def arg (request : Request) (name : String) : String :=
  ((request.args.find? fun arg => arg.1 == name).map Prod.snd).getD ""

-- if (server.hasArg(name)) variable = convert(server.arg(name));
def assign {β : Type} (request : Request) (name : String) (convert : String → β) (variable' : β) :
    β :=
  if request.hasArg name then convert (request.arg name) else variable'

def assigned {β : Type} (request : Request) (name : String) (convert : String → β) : Option β :=
  if request.hasArg name then some (convert (request.arg name)) else none

theorem assign_eq_assigned {β : Type} (request : Request) (name : String) (convert : String → β)
    (variable' : β) :
    request.assign name convert variable' = (request.assigned name convert).getD variable' := by
  unfold assign assigned
  split <;> rfl

end Request

structure Response where
  code : Nat
  contentType : String
  body : String
  deriving DecidableEq, Repr

end EspDrone.WebControl
