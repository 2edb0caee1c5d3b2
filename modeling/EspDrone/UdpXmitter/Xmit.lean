import EspDrone.UdpXmitter.AsyncFunction
import EspDrone.UdpXmitter.Base
import EspDrone.UdpXmitter.Bytes

set_option autoImplicit false

namespace EspDrone.UdpXmitter

structure Datagram where
  data : List UInt8
  address : UInt32
  port : Int
  deriving DecidableEq, Repr

-- A ByteArray argument of a wrong type has no bytes.
inductive Payload where
  | text (message : List Char)
  | byteArray (bytes : Option (List UInt8))
  deriving DecidableEq, Repr

structure Settings where
  binaryMode : Bool
  remoteIP : Option UInt32
  remotePort : Int
  localPort : Int
  deriving DecidableEq, Repr

inductive Target where
  | remoteIP (address : Option UInt32)
  | host (name : List Char)
  deriving DecidableEq, Repr

structure Request where
  payload : Payload
  binaryMode : Bool
  target : Target
  remotePort : Int
  localPort : Int
  async : Bool
  deriving DecidableEq, Repr

namespace Settings

def request (settings : Settings) (payload : Payload) (async : Bool) : Request :=
  { payload := payload, binaryMode := settings.binaryMode, target := .remoteIP settings.remoteIP
    remotePort := settings.remotePort, localPort := settings.localPort, async := async }

def requestTo (settings : Settings) (remoteHost : List Char) (remotePort : Int)
    (payload : Payload) (async : Bool) : Request :=
  { payload := payload, binaryMode := settings.binaryMode, target := .host remoteHost
    remotePort := remotePort, localPort := settings.localPort, async := async }

def xmit (settings : Settings) (message : List Char) : Request :=
  settings.request (.text message) false

def xmitTo (settings : Settings) (remoteHost : List Char) (remotePort : Int)
    (message : List Char) : Request :=
  settings.requestTo remoteHost remotePort (.text message) false

def xmitAsync (settings : Settings) (message : List Char) : Request :=
  settings.request (.text message) true

def xmitToAsync (settings : Settings) (remoteHost : List Char) (remotePort : Int)
    (message : List Char) : Request :=
  settings.requestTo remoteHost remotePort (.text message) true

def xmitByteArray (settings : Settings) (bytes : Option (List UInt8)) : Request :=
  settings.request (.byteArray bytes) false

def xmitByteArrayTo (settings : Settings) (remoteHost : List Char) (remotePort : Int)
    (bytes : Option (List UInt8)) : Request :=
  settings.requestTo remoteHost remotePort (.byteArray bytes) false

def xmitByteArrayAsync (settings : Settings) (bytes : Option (List UInt8)) : Request :=
  settings.request (.byteArray bytes) true

def xmitByteArrayToAsync (settings : Settings) (remoteHost : List Char) (remotePort : Int)
    (bytes : Option (List UInt8)) : Request :=
  settings.requestTo remoteHost remotePort (.byteArray bytes) true

end Settings

-- The bytes of the message; `encode` is Message.getBytes().
def Request.bytes (digit : Char → Nat → Option Nat) (encode : List Char → List UInt8)
    (request : Request) : Except ErrorCode (List UInt8) :=
  match request.payload with
  | .text message =>
      if request.binaryMode then
        match stringToBytes digit message with
        | some bytes => .ok bytes
        | none => .error .binaryConversionFailed
      else .ok (encode message)
  | .byteArray (some bytes) => .ok bytes
  | .byteArray none => .error .invalidDataType

-- `failed` is whether XmitTask returned an exception.
inductive XmitPc where
  | preparing
  | looking (data : List UInt8) (name : List Char)
  | resolving (data : List UInt8) (lookup : Nat)
  | locking (datagram : Datagram)
  | building (datagram : Datagram)
  | binding (datagram : Datagram)
  | calling (datagram : Datagram)
  | waiting (datagram : Datagram) (call : Nat)
  | closing (datagram : Datagram) (call : Nat) (failed : Bool)
  | unlocking
  | reporting
  | ended
  deriving DecidableEq, Repr

inductive XmitReport where
  | afterXmit (success : Bool) (errorCode : Nat)
  | xmitFailure (errorCode : Nat)
  deriving DecidableEq, Repr

-- `lookup` and `call` are the calls of the two doExecute; a socket that was made is open or not.
structure Xmit where
  request : Request
  pc : XmitPc
  lookup : Option Nat
  call : Option (Nat × Datagram)
  socket : Option Bool
  code : Option ErrorCode
  reports : List XmitReport
  deriving DecidableEq, Repr

inductive Holder where
  | xmit (index : Nat)
  | other
  deriving DecidableEq, Repr

-- getIpFromHostName is static, as the lock is. XmitTask returns an exception (`true`) or null.
structure Sender where
  lock : Option Holder
  getIpFromHostName : AsyncFunction (List Char) (Option UInt32)
  xmitTask : AsyncFunction Datagram Bool
  xmits : List Xmit
  errorInfo : ErrorInfo
  deriving DecidableEq, Repr

-- What becomes of the socket that doXmit makes.
inductive Opening where
  | refused
  | unbound
  | bound
  deriving DecidableEq, Repr

-- `resolver` is a statement of the threads of getIpFromHostName, of the property RemoteHost or of
-- another component.
inductive SenderEvent where
  | request (request : Request)
  | xmit (index : Nat) (opening : Opening)
  | resolver (event : FunctionEvent (List Char) (Option UInt32))
  | worker (worker : Nat) (failed : Bool)
  | lockOther
  | unlockOther
  deriving DecidableEq, Repr

def afterXmit (code : ErrorCode) : List XmitReport :=
  if code = .noError then [.afterXmit true code.ordinal]
  else [.afterXmit false code.ordinal, .xmitFailure code.ordinal]

def Xmit.resolved (xmit : Xmit) (data : List UInt8) : Option (Option (Option UInt32)) → Xmit
  | some (some (some address)) =>
      { xmit with pc := .locking ⟨data, address, xmit.request.remotePort⟩ }
  | some (some none) => { xmit with pc := .reporting, code := some .unknownRemoteHost }
  -- The exception of doExecute leaves the function.
  | _ => { xmit with pc := .ended }

namespace Sender

def initial : Sender :=
  { lock := none, getIpFromHostName := .initial none, xmitTask := .initial false, xmits := []
    errorInfo := setErrorInfo .noError }

def enter (request : Request) : Xmit :=
  { request := request, pc := .preparing, lookup := none, call := none, socket := none
    code := none, reports := [] }

def setXmit (sender : Sender) (index : Nat) (xmit : Xmit) : Sender :=
  { sender with xmits := sender.xmits.set index xmit }

def portOk (port : Int) : Bool := decide (0 ≤ port ∧ port ≤ 65535)

def xmitStep (digit : Char → Nat → Option Nat) (encode : List Char → List UInt8)
    (sender : Sender) (index : Nat) (xmit : Xmit) (opening : Opening) : Option Sender :=
  match xmit.pc with
  | .preparing =>
      some (sender.setXmit index
        (match xmit.request.bytes digit encode with
        | .error code => { xmit with pc := .reporting, code := some code }
        | .ok data =>
            match xmit.request.target with
            | .host name => { xmit with pc := .looking data name }
            | .remoteIP none => { xmit with pc := .reporting, code := some .unknownRemoteHost }
            | .remoteIP (some address) =>
                { xmit with pc := .locking ⟨data, address, xmit.request.remotePort⟩ }))
  | .looking data name =>
      (sender.getIpFromHostName.step (.call name)).map fun resolver =>
        { sender.setXmit index { xmit with
            pc := .resolving data sender.getIpFromHostName.calls.length
            lookup := some sender.getIpFromHostName.calls.length } with
          getIpFromHostName := resolver }
  | .resolving data lookup =>
      (sender.getIpFromHostName.calls[lookup]?).bind fun invocation =>
        if invocation.pc = .ended then
          some (sender.setXmit index (xmit.resolved data invocation.outcome))
        else (sender.getIpFromHostName.callerStep lookup invocation).map fun resolver =>
          { sender with getIpFromHostName := resolver }
  | .locking datagram =>
      if sender.lock.isSome then none
      else some { sender.setXmit index { xmit with pc := .building datagram } with
        lock := some (.xmit index) }
  | .building datagram =>
      some (sender.setXmit index
        (if portOk datagram.port then { xmit with pc := .binding datagram }
        else { xmit with pc := .unlocking, code := some .invalidRemotePort }))
  | .binding datagram =>
      some (sender.setXmit index
        (match opening with
        | .refused => { xmit with pc := .unlocking, code := some .invalidLocalPort }
        | .unbound =>
            { xmit with pc := .unlocking, socket := some true, code := some .invalidLocalPort }
        | .bound =>
            if portOk xmit.request.localPort then
              { xmit with pc := .calling datagram, socket := some true }
            else
              { xmit with
                pc := .unlocking, socket := some true, code := some .invalidLocalPort }))
  | .calling datagram =>
      (sender.xmitTask.step (.call datagram)).map fun function =>
        { sender.setXmit index { xmit with
            pc := .waiting datagram sender.xmitTask.calls.length
            call := some (sender.xmitTask.calls.length, datagram) } with
          xmitTask := function }
  | .waiting datagram call =>
      (sender.xmitTask.calls[call]?).bind fun invocation =>
        if invocation.pc = .ended then
          some (sender.setXmit index
            (match invocation.outcome with
            | some (some failed) => { xmit with pc := .closing datagram call failed }
            | _ => { xmit with pc := .unlocking }))
        else (sender.xmitTask.callerStep call invocation).map fun function =>
          { sender with xmitTask := function }
  | .closing _ _ failed =>
      some (sender.setXmit index { xmit with
        pc := .unlocking
        socket := some false
        code := some (if failed then .xmitError else .noError) })
  | .unlocking =>
      some { sender.setXmit index { xmit with
          pc := if xmit.code.isSome then .reporting else .ended } with
        lock := none }
  | .reporting =>
      xmit.code.map fun code =>
        { sender.setXmit index { xmit with
            pc := .ended
            reports := if xmit.request.async then afterXmit code else [] } with
          errorInfo := setErrorInfo code }
  | .ended => none

def step (digit : Char → Nat → Option Nat) (encode : List Char → List UInt8)
    (sender : Sender) : SenderEvent → Option Sender
  | .request request => some { sender with xmits := sender.xmits ++ [enter request] }
  | .xmit index opening =>
      (sender.xmits[index]?).bind fun xmit => sender.xmitStep digit encode index xmit opening
  | .resolver event =>
      (sender.getIpFromHostName.step event).map fun resolver =>
        { sender with getIpFromHostName := resolver }
  | .worker index failed =>
      (sender.xmitTask.step (.worker index (some failed))).map fun function =>
        { sender with xmitTask := function }
  | .lockOther =>
      if sender.lock.isSome then none else some { sender with lock := some .other }
  | .unlockOther =>
      if sender.lock = some .other then some { sender with lock := none } else none

end Sender

end EspDrone.UdpXmitter
