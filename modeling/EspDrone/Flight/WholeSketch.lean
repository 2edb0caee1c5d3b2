import EspDrone.Flight.Components

set_option autoImplicit false

namespace EspDrone.Flight

open Runs RateGate
open MainLoop (Sketch Statics Event bodies)
open Gyroscope (Sampling Globals degreesPerSecond)
open LatestPacket.History (payload Quiet)

variable {α : Type}

end EspDrone.Flight
