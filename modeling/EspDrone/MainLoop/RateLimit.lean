import EspDrone.Shared.RateGate

set_option autoImplicit false

namespace EspDrone.MainLoop

open RateGate

inductive Sketch where
  | latestPackets
  | pidController
  | gyroscopeReader
  deriving DecidableEq, Repr

structure Statics where
  lastClients : Int32 := 0
  lastConnectionTestLoop : UInt32 := 0
  lastMainLoop : UInt32 := 0
  deriving DecidableEq

-- What one pass is given: softAPgetStationNum() and the readings of millis().
structure Pass where
  clients : Int32
  connectionTest : Visit
  mainLoop : Visit
  deriving DecidableEq

inductive Event where
  | connected
  | disconnected
  | body (entry : Entry)
  deriving DecidableEq, Repr

def connectionTestLoop (s : Statics) (pass : Pass) : Statics × List Event :=
  match visit 1000 s.lastConnectionTestLoop pass.connectionTest with
  | (last, none) => ({ s with lastConnectionTestLoop := last }, [])
  | (last, some _) =>
      if pass.clients ≠ s.lastClients then
        ({ s with lastConnectionTestLoop := last, lastClients := pass.clients },
          [if pass.clients > 0 then .connected else .disconnected])
      else ({ s with lastConnectionTestLoop := last }, [])

def mainControlLoop (s : Statics) (pass : Pass) : Statics × List Event :=
  ({ s with lastMainLoop := (visit 20 s.lastMainLoop pass.mainLoop).1 },
    (visit 20 s.lastMainLoop pass.mainLoop).2.toList.map .body)

def Sketch.loop (sketch : Sketch) (s : Statics) (pass : Pass) : Statics × List Event :=
  match sketch with
  | .latestPackets | .pidController =>
      let tested := connectionTestLoop s pass
      let controlled := mainControlLoop tested.1 pass
      (controlled.1, tested.2 ++ controlled.2)
  | .gyroscopeReader => mainControlLoop s pass

def Sketch.run (sketch : Sketch) : Statics → List Pass → List Event
  | _, [] => []
  | s, pass :: passes => (sketch.loop s pass).2 ++ sketch.run (sketch.loop s pass).1 passes

def bodies (events : List Event) : List Entry :=
  events.filterMap fun
    | .body entry => some entry
    | .connected | .disconnected => none

-- The executions of the main control block since power-on.
def Sketch.bodies (sketch : Sketch) (passes : List Pass) : List Entry :=
  MainLoop.bodies (sketch.run {} passes)

theorem bodies_append (earlier later : List Event) :
    bodies (earlier ++ later) = bodies earlier ++ bodies later :=
  List.filterMap_append

theorem connectionTestLoop_frame (s : Statics) (pass : Pass) :
    (connectionTestLoop s pass).1.lastMainLoop = s.lastMainLoop ∧
      bodies (connectionTestLoop s pass).2 = [] := by
  unfold connectionTestLoop
  split
  next => exact ⟨rfl, rfl⟩
  next =>
    split
    next =>
      refine ⟨rfl, ?_⟩
      by_cases connected : pass.clients > 0 <;> simp [bodies, connected]
    next => exact ⟨rfl, rfl⟩

theorem mainControlLoop_bodies (s : Statics) (pass : Pass) :
    bodies (mainControlLoop s pass).2 = (visit 20 s.lastMainLoop pass.mainLoop).2.toList := by
  rw [mainControlLoop]
  cases (visit 20 s.lastMainLoop pass.mainLoop).2 <;> rfl

theorem loop_gate (sketch : Sketch) (s : Statics) (pass : Pass) :
    (sketch.loop s pass).1.lastMainLoop = (visit 20 s.lastMainLoop pass.mainLoop).1 ∧
      bodies (sketch.loop s pass).2 = (visit 20 s.lastMainLoop pass.mainLoop).2.toList := by
  obtain ⟨same, silent⟩ := connectionTestLoop_frame s pass
  have watched : (mainControlLoop (connectionTestLoop s pass).1 pass).1.lastMainLoop =
      (visit 20 s.lastMainLoop pass.mainLoop).1 := by
    rw [mainControlLoop, same]
  have logged : bodies ((connectionTestLoop s pass).2 ++
      (mainControlLoop (connectionTestLoop s pass).1 pass).2) =
      (visit 20 s.lastMainLoop pass.mainLoop).2.toList := by
    rw [bodies_append, silent, List.nil_append, mainControlLoop_bodies, same]
  cases sketch with
  | latestPackets => exact ⟨watched, logged⟩
  | pidController => exact ⟨watched, logged⟩
  | gyroscopeReader => exact ⟨rfl, mainControlLoop_bodies s pass⟩

theorem bodies_run (sketch : Sketch) (s : Statics) (passes : List Pass) :
    bodies (sketch.run s passes) = entries 20 s.lastMainLoop (passes.map Pass.mainLoop) := by
  induction passes generalizing s with
  | nil => rfl
  | cons pass passes ih =>
    obtain ⟨stored, logged⟩ := loop_gate sketch s pass
    rw [Sketch.run, bodies_append, logged, ih, stored]
    rfl

theorem sketch_bodies (sketch : Sketch) (passes : List Pass) :
    sketch.bodies passes = entries 20 (clock 0) (passes.map Pass.mainLoop) :=
  bodies_run sketch {} passes

/-- On every sketch and over any number of roll-overs, executions of the main control block
are 20 ms past the reading the one before stored, a window holds one more than it has
periods, and a test that is due finds the gate open. -/
theorem rate_limited (sketch : Sketch) (passes : List Pass)
    (chronological : Chronological 0 (passes.map Pass.mainLoop)) :
    (sketch.bodies passes).Pairwise
      (fun p q => p.start ≤ p.stored ∧ p.stored + 20 ≤ q.start) ∧
    (∀ opening width, ((sketch.bodies passes).filter fun entry =>
      decide (opening ≤ entry.start ∧ entry.start ≤ opening + width)).length ≤
        width / 20 + 1) ∧
    (∀ before pass after, passes = before ++ pass :: after →
      lastStored 0 (sketch.bodies before) + 20 ≤ pass.mainLoop.test →
      pass.mainLoop.test - lastStored 0 (sketch.bodies before) < 4294967296 →
      ∃ rest, sketch.bodies passes =
        sketch.bodies before ++ ⟨pass.mainLoop.test, pass.mainLoop.reread⟩ :: rest) := by
  have spaced : (sketch.bodies passes).Pairwise
      (fun p q => p.start ≤ p.stored ∧ p.stored + 20 ≤ q.start) := by
    rw [sketch_bodies]
    exact (entries_spaced 20 _ 0 0 (Nat.le_refl 0) chronological).2
  refine ⟨spaced, ?_, ?_⟩
  · intro opening width
    apply window_length (by omega)
    apply spaced.imp
    rintro p q ⟨within, apart⟩
    omega
  · rintro before pass after rfl due fresh
    simp only [sketch_bodies, List.map_append, List.map_cons] at due fresh ⊢
    exact entries_due _ _ due fresh

-- The second pass is on the other side of the first roll-over.
def rollOver : List Pass :=
  [⟨0, ⟨4294967280, 4294967280⟩, ⟨4294967280, 4294967281⟩⟩,
    ⟨1, ⟨4294967300, 4294967300⟩, ⟨4294967301, 4294967301⟩⟩]

theorem rate_limited_rollOver :
    (Sketch.bodies .latestPackets rollOver).Pairwise
      (fun p q => p.start ≤ p.stored ∧ p.stored + 20 ≤ q.start) ∧
    (∀ opening width, ((Sketch.bodies .latestPackets rollOver).filter fun entry =>
      decide (opening ≤ entry.start ∧ entry.start ≤ opening + width)).length ≤
        width / 20 + 1) ∧
    (∀ before pass after, rollOver = before ++ pass :: after →
      lastStored 0 (Sketch.bodies .latestPackets before) + 20 ≤ pass.mainLoop.test →
      pass.mainLoop.test - lastStored 0 (Sketch.bodies .latestPackets before) < 4294967296 →
      ∃ rest, Sketch.bodies .latestPackets rollOver =
        Sketch.bodies .latestPackets before ++
          ⟨pass.mainLoop.test, pass.mainLoop.reread⟩ :: rest) :=
  rate_limited .latestPackets rollOver (by simp [rollOver, Chronological])

end EspDrone.MainLoop
