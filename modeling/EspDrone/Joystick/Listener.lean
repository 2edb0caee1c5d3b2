import EspDrone.Shared.Decimal

set_option autoImplicit false

namespace EspDrone.Joystick

open CString Decimal

inductive Output where
  | print (text : String)
  | println (text : String)
  | printlnChars (chars : Bytes)
  | printlnInt (value : Int32)
  deriving DecidableEq, Repr

-- The local array values[4]; `none` is an element not yet written.
abbrev Values := Vector (Option Int32) 4

def Values.declared : Values := Vector.replicate 4 none

def Values.write (values : Values) (idx : Nat) (value : Int32) : Except Fault Values :=
  if inside : idx < 4 then .ok (values.set idx (some value)) else .error (.outOfBounds idx)

def Values.read (values : Values) (idx : Nat) : Except Fault Int32 :=
  match values.toList[idx]? with
  | none => .error (.outOfBounds idx)
  | some none => .error (.uninitialised idx)
  | some (some value) => .ok value

structure Listener where
  packetBuffer : Memory 255
  saved : Option Nat

def Listener.boot : Listener where
  packetBuffer := Vector.replicate 255 0
  saved := none

def comma : Bytes := [44]

structure Received where
  buffer : Memory 255
  len : Nat

def udpRead (packet : Bytes) (size : Nat) (buffer : Memory 255) : Except Fault Received :=
  (copy buffer 0 (packet.take size)).map fun buffer => ⟨buffer, min size packet.length⟩

def terminate (received : Received) : Except Fault (Memory 255) :=
  if received.len > 0 then store received.buffer received.len 0 else .ok received.buffer

structure Scan where
  token : Token 255
  values : Values
  idx : Nat

-- while (token != NULL && idx < 4)
def tokenLoop (scan : Scan) : Except Fault Scan :=
  match scan.token.token with
  | none => .ok scan
  | some token =>
      if scan.idx < 4 then
        (readString scan.token.memory token).bind fun text =>
        (scan.values.write scan.idx (atoi text)).bind fun values =>
        (strtok comma scan.token.memory scan.token.saved).bind fun next =>
        tokenLoop ⟨next, values, scan.idx + 1⟩
      else .ok scan
termination_by 4 - scan.idx

def printValue (label : String) (values : Values) (idx : Nat) : Except Fault (List Output) :=
  (values.read idx).map fun value => [.print label, .printlnInt value]

def printJoystick (values : Values) (idx : Nat) : Except Fault (List Output) :=
  if idx = 4 then
    (printValue "LEFT_X = " values 0).bind fun leftX =>
    (printValue "LEFT_Y = " values 1).bind fun leftY =>
    (printValue "RIGHT_X = " values 2).bind fun rightX =>
    (printValue "RIGHT_Y = " values 3).map fun rightY =>
    leftX ++ leftY ++ rightX ++ rightY
  else .ok [.println "Error: Did not receive 4 values!"]

-- One call of loop(); an empty packet stands for parsePacket() = 0.
def Listener.loop (k : Listener) (packet : Bytes) : Except Fault (Listener × List Output) :=
  if packet.length = 0 then .ok (k, [])
  else
    (udpRead packet 254 k.packetBuffer).bind fun received =>
    (terminate received).bind fun buffer =>
    (readString buffer 0).bind fun raw =>
    (strtok comma buffer (some 0)).bind fun token =>
    (tokenLoop ⟨token, Values.declared, 0⟩).bind fun scan =>
    (printJoystick scan.values scan.idx).map fun joystick =>
    (⟨scan.token.memory, scan.token.saved⟩,
      [.print "Raw UDP: ", .printlnChars raw] ++ joystick)

def Listener.run (k : Listener) : List Bytes → Except Fault (Listener × List (List Output))
  | [] => .ok (k, [])
  | packet :: rest =>
      (k.loop packet).bind fun done =>
      (Listener.run done.1 rest).map fun later => (later.1, done.2 :: later.2)

end EspDrone.Joystick
