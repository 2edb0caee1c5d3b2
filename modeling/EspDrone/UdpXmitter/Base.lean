set_option autoImplicit false

namespace EspDrone.UdpXmitter

inductive ErrorCode where
  | noError
  | unknownRemoteHost
  | invalidLocalPort
  | invalidRemotePort
  | xmitError
  | binaryConversionFailed
  | listenerThreadAborted
  | listenerAlreadyRunning
  | invalidDataType
  deriving DecidableEq, Repr

namespace ErrorCode

def ordinal : ErrorCode → Nat
  | .noError => 0
  | .unknownRemoteHost => 1
  | .invalidLocalPort => 2
  | .invalidRemotePort => 3
  | .xmitError => 4
  | .binaryConversionFailed => 5
  | .listenerThreadAborted => 6
  | .listenerAlreadyRunning => 7
  | .invalidDataType => 8

def errorText : ErrorCode → String
  | .noError => ""
  | .unknownRemoteHost => "Unknown remote host"
  | .invalidLocalPort => "Invalid local port"
  | .invalidRemotePort => "Invalid remote port"
  | .xmitError => "Xmit failed"
  | .binaryConversionFailed => "Binary conversion failed"
  | .listenerThreadAborted => "Listener thread aborted"
  | .listenerAlreadyRunning => "Listener already running"
  | .invalidDataType => "Invalid data type."

end ErrorCode

structure ErrorInfo where
  lastErrMsg : String
  lastErrorCode : Nat
  deriving DecidableEq, Repr

def setErrorInfo (code : ErrorCode) : ErrorInfo :=
  { lastErrMsg := code.errorText, lastErrorCode := code.ordinal }

end EspDrone.UdpXmitter
