import EspDrone.Flight.Model
import EspDrone.LatestPacket.Delivery

set_option autoImplicit false

namespace EspDrone.Flight

open Runs RateGate
open MainLoop (Sketch Statics Event)
open Gyroscope (Sampling Globals)

variable {α : Type}

end EspDrone.Flight
