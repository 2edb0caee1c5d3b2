import EspDrone.Shared.Runs
import EspDrone.LatestPacket.Model
import EspDrone.LatestPacket.Delivery
import EspDrone.LatestPacket.Freshness
import EspDrone.Pid.Controller
import EspDrone.Pid.Integrator
import EspDrone.Pid.SharedReturn
import EspDrone.Pid.TimeStep
import EspDrone.Shared.LastWrite
import EspDrone.WebControl.Core
import EspDrone.WebControl.Handlers
import EspDrone.WebControl.Semantics
import EspDrone.Shared.CString
import EspDrone.Shared.Decimal
import EspDrone.WebControl.DutyRange
import EspDrone.Joystick.Listener
import EspDrone.Joystick.Report
import EspDrone.Joystick.Format
import EspDrone.MainLoop.RateLimit
import EspDrone.Pid.Monotone
import EspDrone.Pid.Saturation
import EspDrone.Joystick.Codec
import EspDrone.BlockingUdp.Listener
import EspDrone.LatestPacket.Capture
import EspDrone.Gyroscope.Reader
import EspDrone.Gyroscope.Calibration
import EspDrone.Gyroscope.Bounds
import EspDrone.Shared.FixedPoint
import EspDrone.WebControl.UneditedForm
import EspDrone.WebControl.PageView
import EspDrone.WebControl.UneditedManualForm
import EspDrone.Gyroscope.EvaluationOrder
import EspDrone.Shared.Markup
import EspDrone.WebControl.PageMarkup
import EspDrone.WebControl.Injection
import EspDrone.AsyncTcp.Transmit
import EspDrone.AsyncTcp.Delivery
import EspDrone.AsyncTcp.Client
import EspDrone.AsyncTcp.Wire
import EspDrone.AsyncTcp.Lifecycle
import EspDrone.AsyncTcp.Printer
import EspDrone.AsyncTcp.SyncClient
import EspDrone.AsyncTcp.Receive
import EspDrone.AsyncTcp.Reads
import EspDrone.AsyncTcp.Segments
import EspDrone.AsyncUdp.Socket
import EspDrone.AsyncUdp.Session
import EspDrone.AsyncUdp.Replies
import EspDrone.UdpXmitter.Bytes
import EspDrone.UdpXmitter.Receive
import EspDrone.UdpXmitter.Listener
import EspDrone.UdpXmitter.Stopping
import EspDrone.AsyncTcp.AbortContract
import EspDrone.AsyncTcp.Server
import EspDrone.UdpXmitter.AsyncFunction
import EspDrone.UdpXmitter.Xmit
import EspDrone.UdpXmitter.XmitRuns
import EspDrone.Flight.Model
import EspDrone.Flight.Components
import EspDrone.Flight.WholeSketch
