import EspDrone.LatestPacket.Model
import EspDrone.Shared.CString
import Mathlib.Data.List.Forall2

set_option autoImplicit false

namespace EspDrone.LatestPacket

open CString

variable {n m : Nat}

structure Pbuf where
  payload : Nat
  len : Nat
  deriving DecidableEq, Repr

structure AsyncUDPPacket where
  data : Nat
  len : Nat
  deriving DecidableEq, Repr

-- The packet _recv builds: the payload where it lies, and its length.
def Pbuf.packet (pb : Pbuf) : AsyncUDPPacket :=
  ⟨pb.payload, pb.len⟩

def substring (s : Bytes) (left right : Nat) : Bytes :=
  if left > right then (s.take left).drop right else (s.take right).drop left

-- String((char*)packet.data()).substring(0, packet.length())
def capture (mem : Memory n) (packet : AsyncUDPPacket) : Except Fault Bytes :=
  (readString mem packet.data).map fun text => substring text 0 packet.len

def onPacket (mem : Memory n) (s : State Bytes) (packet : AsyncUDPPacket) :
    Except Fault (State Bytes) :=
  (capture mem packet).map fun text =>
    { s with latestPacket := text, newPacketAvailable := true }

def Holds (mem : Memory n) (pb : Pbuf) (payload tail : Bytes) : Prop :=
  mem.toList.drop pb.payload = payload ++ tail ∧ pb.len = payload.length

def firstString (payload : Bytes) : Bytes :=
  payload.takeWhile (· != 0)

theorem takeWhile_append_take {α : Type} (p : α → Bool) (s t : List α) :
    ((s ++ t).takeWhile p).take s.length = s.takeWhile p := by
  induction s with
  | nil => rfl
  | cons c s ih =>
    by_cases kept : p c = true
    · simp [kept, ih]
    · simp [kept]

theorem capture_eq {mem : Memory n} {pb : Pbuf} {payload tail : Bytes}
    (holds : Holds mem pb payload tail) (nul : 0 ∈ tail) :
    capture mem pb.packet = .ok (firstString payload) := by
  obtain ⟨placed, length⟩ := holds
  obtain ⟨more, string⟩ := stringAt_of_mem placed nul
  have cut : substring ((payload ++ more).takeWhile (· != 0)) 0 pb.len = firstString payload := by
    rw [substring, if_neg (Nat.not_lt_zero _), List.drop_zero, length, takeWhile_append_take,
      firstString]
  rw [capture, Pbuf.packet, readString_eq string, Except.map, cut]

theorem onPacket_eq {mem : Memory n} {pb : Pbuf} {payload tail : Bytes}
    (holds : Holds mem pb payload tail) (nul : 0 ∈ tail) (s : State Bytes) :
    onPacket mem s pb.packet =
      .ok { s with latestPacket := firstString payload, newPacketAvailable := true } := by
  rw [onPacket, capture_eq holds nul]
  rfl

/-- Whatever lies behind the payload, as long as some byte there is a NUL, the callback
stores the payload up to its own first NUL. -/
theorem capture_tail_independent (mem : Memory n) (mem' : Memory m) (pb pb' : Pbuf)
    (payload tail tail' : Bytes) (holds : Holds mem pb payload tail)
    (holds' : Holds mem' pb' payload tail') (nul : 0 ∈ tail) (nul' : 0 ∈ tail')
    (s : State Bytes) :
    onPacket mem s pb.packet = onPacket mem' s pb'.packet ∧
    onPacket mem s pb.packet =
      .ok { s with latestPacket := firstString payload, newPacketAvailable := true } ∧
    (0 ∉ payload → firstString payload = payload) := by
  have stored := onPacket_eq holds nul s
  refine ⟨stored.trans (onPacket_eq holds' nul' s).symm, stored, ?_⟩
  intro clean
  apply List.takeWhile_eq_self_iff.2
  intro c member
  simpa using ne_of_mem_of_not_mem member clean

theorem capture_tail_independent_ab :
    onPacket #v[97, 98, 0] (boot []) (Pbuf.packet ⟨0, 2⟩) =
        onPacket #v[97, 98, 99, 0, 1] (boot []) (Pbuf.packet ⟨0, 2⟩) ∧
      onPacket #v[97, 98, 0] (boot []) (Pbuf.packet ⟨0, 2⟩) =
        .ok { boot [] with latestPacket := firstString [97, 98], newPacketAvailable := true } ∧
      (0 ∉ ([97, 98] : Bytes) → firstString [97, 98] = [97, 98]) :=
  capture_tail_independent #v[97, 98, 0] #v[97, 98, 99, 0, 1] ⟨0, 2⟩ ⟨0, 2⟩ [97, 98] [0]
    [99, 0, 1] ⟨rfl, rfl⟩ ⟨rfl, rfl⟩ (by decide) (by decide) (boot [])

def CapturesInside (packet : Memory n) : Prop :=
  ∃ text, capture packet (Pbuf.packet ⟨0, n⟩) = .ok text

theorem capture_unterminated {packet : Memory n} (unterminated : 0 ∉ packet.toList) :
    capture packet (Pbuf.packet ⟨0, n⟩) = .error (.outOfBounds n) := by
  rw [capture, Pbuf.packet, readString_out (Nat.zero_le n) unterminated]
  rfl

/-- With only the packet readable, the scan stays inside exactly when the packet itself has a
NUL; without one it goes on to the byte at packet.length(). -/
theorem captures_inside_iff (packet : Memory n) :
    (CapturesInside packet ↔ 0 ∈ packet.toList) ∧
    (0 ∉ packet.toList → capture packet (Pbuf.packet ⟨0, n⟩) = .error (.outOfBounds n)) := by
  refine ⟨⟨?_, ?_⟩, capture_unterminated⟩
  · rintro ⟨text, captured⟩
    by_contra unterminated
    rw [capture_unterminated unterminated] at captured
    cases captured
  · intro nul
    have whole : packet.toList.drop 0 = [] ++ packet.toList := rfl
    obtain ⟨more, string⟩ := stringAt_of_mem whole nul
    refine ⟨substring (([] ++ more).takeWhile (· != 0)) 0 n, ?_⟩
    rw [capture, Pbuf.packet, readString_eq string]
    rfl

/-- A packet of one letter is enough. -/
theorem letter_read_past_end :
    capture #v[97] (Pbuf.packet ⟨0, 1⟩) = .error (.outOfBounds 1) ∧
      ¬ ∀ (length : Nat) (packet : Memory length), CapturesInside packet := by
  have past : capture #v[97] (Pbuf.packet ⟨0, 1⟩) = .error (.outOfBounds 1) :=
    capture_unterminated (by decide)
  refine ⟨past, ?_⟩
  intro holds
  obtain ⟨text, captured⟩ := holds 1 #v[97]
  rw [past] at captured
  cases captured

end EspDrone.LatestPacket
