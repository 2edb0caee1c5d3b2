import EspDrone.Joystick.Report

set_option autoImplicit false

namespace EspDrone.BlockingUdp

open CString
open Joystick (Received udpRead terminate payload received_string)

inductive Output where
  | led (high : Bool)
  | print (text : String)
  | println (text : String)
  | printlnAddress (address : UInt32)
  | packetFrom (remoteIP : UInt32) (remotePort : UInt16)
  | packetContents (chars : Bytes)
  deriving DecidableEq, Repr

-- What one call of loop() is given; an empty packet stands for parsePacket() = 0.
structure Pass where
  clients : Int32
  softAPIP : UInt32
  packet : Bytes
  remoteIP : UInt32
  remotePort : UInt16
  deriving DecidableEq, Repr

structure Listener where
  incomingPacket : Memory 255
  lastClients : Int32

def Listener.boot : Listener where
  incomingPacket := Vector.replicate 255 0
  lastClients := 0

def connectionLines (lastClients : Int32) (pass : Pass) : List Output :=
  if pass.clients ≠ lastClients then
    if pass.clients > 0 then
      [.led false, .println "Device Connected", .print "Access Point IP Address: ",
        .printlnAddress pass.softAPIP]
    else
      [.led true, .println "No device connected...", .print "Access Point IP Address: ",
        .printlnAddress pass.softAPIP]
  else []

def receive (incomingPacket : Memory 255) (pass : Pass) :
    Except Fault (Memory 255 × List Output) :=
  if pass.packet.length = 0 then .ok (incomingPacket, [])
  else
    (udpRead pass.packet 255 incomingPacket).bind fun received =>
    (terminate received).bind fun buffer =>
    (readString buffer 0).map fun contents =>
      (buffer, [.packetFrom pass.remoteIP pass.remotePort, .packetContents contents])

def Listener.loop (k : Listener) (pass : Pass) : Except Fault (Listener × List Output) :=
  (receive k.incomingPacket pass).map fun received =>
    (⟨received.1, pass.clients⟩, connectionLines k.lastClients pass ++ received.2)

def Listener.run (k : Listener) : List Pass → Except Fault (Listener × List (List Output))
  | [] => .ok (k, [])
  | pass :: rest =>
      (k.loop pass).bind fun done =>
      (Listener.run done.1 rest).map fun later => (later.1, done.2 :: later.2)

def contentsPrinted (lines : List Output) : List Bytes :=
  lines.filterMap fun
    | .packetContents chars => some chars
    | _ => none

theorem connectionLines_contents (lastClients : Int32) (pass : Pass) :
    contentsPrinted (connectionLines lastClients pass) = [] := by
  unfold connectionLines
  split
  next => split <;> rfl
  next => rfl

theorem contentsPrinted_append (earlier later : List Output) :
    contentsPrinted (earlier ++ later) = contentsPrinted earlier ++ contentsPrinted later :=
  List.filterMap_append

-- The bytes of this datagram up to its first NUL, and nothing when there is none.
def ownContents (packet : Bytes) : List Bytes :=
  if packet.length = 0 then [] else [packet.takeWhile (· != 0)]

-- Up to 254 bytes the read is the joystick listener's.
theorem receive_short (incomingPacket : Memory 255) (pass : Pass)
    (short : pass.packet.length ≤ 254) :
    ∃ buffer lines, receive incomingPacket pass = .ok (buffer, lines) ∧
      contentsPrinted lines = ownContents pass.packet := by
  by_cases empty : pass.packet.length = 0
  · refine ⟨incomingPacket, [], by rw [receive, if_pos empty], ?_⟩
    rw [ownContents, if_pos empty]
    rfl
  · obtain ⟨received, buffer, read, terminated, string⟩ :=
      received_string incomingPacket pass.packet empty
    have whole : payload pass.packet = pass.packet.takeWhile (· != 0) := by
      rw [payload, List.take_of_length_le short]
    have same : udpRead pass.packet 255 incomingPacket = .ok received := by
      rw [← read, udpRead, udpRead, List.take_of_length_le short,
        List.take_of_length_le (by omega), Nat.min_eq_right short, Nat.min_eq_right (by omega)]
    refine ⟨buffer, [.packetFrom pass.remoteIP pass.remotePort,
      .packetContents (payload pass.packet)], ?_, ?_⟩
    · rw [receive, if_neg empty, same]
      simp only [Except.bind, terminated, readString_eq string, Except.map]
    · rw [ownContents, if_neg empty, ← whole]
      rfl

-- From 255 bytes on the NUL goes behind the buffer.
theorem receive_long (incomingPacket : Memory 255) (pass : Pass)
    (long : 255 ≤ pass.packet.length) :
    receive incomingPacket pass = .error (.outOfBounds 255) := by
  have size : (pass.packet.take 255).length = 255 := by
    rw [List.length_take]
    omega
  obtain ⟨copied, wrote, -⟩ := copy_eq incomingPacket 0 (pass.packet.take 255) (by omega)
  have read : udpRead pass.packet 255 incomingPacket = .ok ⟨copied, 255⟩ := by
    rw [udpRead, wrote, Nat.min_eq_left long]
    rfl
  have overflow : terminate ⟨copied, 255⟩ = .error (.outOfBounds 255) := by
    rw [terminate, if_pos (show 255 > 0 by omega), store, dif_neg (Nat.lt_irrefl 255)]
  rw [receive, if_neg (by omega), read]
  simp only [Except.bind, overflow]

theorem loop_short (k : Listener) (pass : Pass) (short : pass.packet.length ≤ 254) :
    ∃ after lines, k.loop pass = .ok (after, lines) ∧
      contentsPrinted lines = ownContents pass.packet := by
  obtain ⟨buffer, lines, received, printed⟩ := receive_short k.incomingPacket pass short
  refine ⟨⟨buffer, pass.clients⟩, connectionLines k.lastClients pass ++ lines, ?_, ?_⟩
  · rw [Listener.loop, received]
    rfl
  · rw [contentsPrinted_append, connectionLines_contents, printed, List.nil_append]

theorem loop_long (k : Listener) (pass : Pass) (long : 255 ≤ pass.packet.length) :
    k.loop pass = .error (.outOfBounds 255) := by
  rw [Listener.loop, receive_long k.incomingPacket pass long]
  rfl

def RunsInside (k : Listener) (passes : List Pass) : Prop :=
  ∃ after reports, k.run passes = .ok (after, reports) ∧
    reports.map contentsPrinted = passes.map fun pass => ownContents pass.packet

theorem runsInside_cons {k next : Listener} {pass : Pass} {rest : List Pass}
    {lines : List Output} (looped : k.loop pass = .ok (next, lines))
    (printed : contentsPrinted lines = ownContents pass.packet) :
    RunsInside k (pass :: rest) ↔ RunsInside next rest := by
  have ran : k.run (pass :: rest) =
      (next.run rest).map fun later => (later.1, lines :: later.2) := by
    rw [Listener.run, looped]
    rfl
  unfold RunsInside
  rw [ran]
  cases next.run rest with
  | error fault => simp [Except.map]
  | ok done => simp [Except.map, printed, Prod.ext_iff, and_assoc]

theorem not_runsInside_long {k : Listener} {pass : Pass} {rest : List Pass}
    (long : 255 ≤ pass.packet.length) : ¬ RunsInside k (pass :: rest) := by
  rintro ⟨after, reports, ran, -⟩
  rw [Listener.run, loop_long k pass long] at ran
  cases ran

/-- The listener stays inside its buffer and prints only the current datagram over exactly
the runs without a datagram of 255 bytes or more. -/
theorem runs_inside_iff (k : Listener) (passes : List Pass) :
    RunsInside k passes ↔ ∀ pass ∈ passes, pass.packet.length ≤ 254 := by
  induction passes generalizing k with
  | nil =>
    have nothing : RunsInside k [] := ⟨k, [], rfl, rfl⟩
    simp [nothing]
  | cons pass rest ih =>
    rw [List.forall_mem_cons]
    by_cases short : pass.packet.length ≤ 254
    · obtain ⟨next, lines, looped, printed⟩ := loop_short k pass short
      rw [runsInside_cons looped printed, ih next]
      simp [short]
    · have outside : ¬ RunsInside k (pass :: rest) :=
        not_runsInside_long (Nat.lt_of_not_le short)
      simp [outside, short]

def fullBuffer : Pass where
  clients := 0
  softAPIP := 0
  packet := List.replicate 255 65
  remoteIP := 0
  remotePort := 4210

/-- One datagram of 255 letters is enough. -/
theorem full_buffer_overflows :
    Listener.boot.run [fullBuffer] = .error (.outOfBounds 255) ∧
      ¬ ∀ passes, RunsInside Listener.boot passes := by
  have long : 255 ≤ fullBuffer.packet.length := List.length_replicate.ge
  constructor
  · rw [Listener.run, loop_long Listener.boot fullBuffer long]
    rfl
  · intro holds
    exact not_runsInside_long long (holds [fullBuffer])

end EspDrone.BlockingUdp
