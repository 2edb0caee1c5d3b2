import EspDrone.Pid.Controller
import Mathlib.Data.List.Induction

set_option autoImplicit false

namespace EspDrone.Pid

inductive Axis where
  | pitch
  | roll
  | yaw
  deriving DecidableEq, Repr

variable {K : Type} [Add K] [Sub K] [Mul K] [Div K] [Neg K] [LT K] [DecidableLT K]
  [∀ n, OfNat K n] [OfScientific K]

structure Globals (K : Type) where
  inputPitch : K
  inputRoll : K
  inputYaw : K
  prevErrorRatePitch : K
  prevErrorRateRoll : K
  prevErrorRateYaw : K
  prevIntermRatePitch : K
  prevIntermRateRoll : K
  prevIntermRateYaw : K
  pidReturn : PIDReturn K
  pRatePitch : K
  iRatePitch : K
  dRatePitch : K
  pRateRoll : K
  iRateRoll : K
  dRateRoll : K
  pRateYaw : K
  iRateYaw : K
  dRateYaw : K

namespace Globals

def powerOn : Globals K where
  inputPitch := 0
  inputRoll := 0
  inputYaw := 0
  prevErrorRatePitch := 0
  prevErrorRateRoll := 0
  prevErrorRateYaw := 0
  prevIntermRatePitch := 0
  prevIntermRateRoll := 0
  prevIntermRateYaw := 0
  pidReturn := #v[0, 0, 0]
  pRatePitch := 0.6
  iRatePitch := 3.5
  dRatePitch := 0.03
  pRateRoll := 0.6
  iRateRoll := 3.5
  dRateRoll := 2
  pRateYaw := 2
  iRateYaw := 12
  dRateYaw := 0

def resetPID (g : Globals K) : Globals K :=
  { g with
    prevErrorRatePitch := 0
    prevErrorRateRoll := 0
    prevErrorRateYaw := 0
    prevIntermRatePitch := 0
    prevIntermRateRoll := 0
    prevIntermRateYaw := 0 }

def callController (g : Globals K) (error prevError P I D prevIterm : K) : Globals K :=
  { g with pidReturn := pidController error prevError P I D prevIterm }

def copyPitch (g : Globals K) : Globals K :=
  { g with
    inputPitch := g.pidReturn.output
    prevErrorRatePitch := g.pidReturn.error
    prevIntermRatePitch := g.pidReturn.iterm }

def copyRoll (g : Globals K) : Globals K :=
  { g with
    inputRoll := g.pidReturn.output
    prevErrorRateRoll := g.pidReturn.error
    prevIntermRateRoll := g.pidReturn.iterm }

def copyYaw (g : Globals K) : Globals K :=
  { g with
    inputYaw := g.pidReturn.output
    prevErrorRateYaw := g.pidReturn.error
    prevIntermRateYaw := g.pidReturn.iterm }

def updatePitch (g : Globals K) (error : K) : Globals K :=
  (g.callController error g.prevErrorRatePitch g.pRatePitch g.iRatePitch g.dRatePitch
    g.prevIntermRatePitch).copyPitch

def updateRoll (g : Globals K) (error : K) : Globals K :=
  (g.callController error g.prevErrorRateRoll g.pRateRoll g.iRateRoll g.dRateRoll
    g.prevIntermRateRoll).copyRoll

def updateYaw (g : Globals K) (error : K) : Globals K :=
  (g.callController error g.prevErrorRateYaw g.pRateYaw g.iRateYaw g.dRateYaw
    g.prevIntermRateYaw).copyYaw

end Globals

inductive Op (K : Type) where
  | reset
  | update (axis : Axis) (error : K)
  deriving DecidableEq, Repr

def Globals.step (g : Globals K) : Op K → Globals K
  | .reset => g.resetPID
  | .update .pitch error => g.updatePitch error
  | .update .roll error => g.updateRoll error
  | .update .yaw error => g.updateYaw error

def Globals.runOps (g : Globals K) (ops : List (Op K)) : Globals K :=
  ops.foldl step g

structure Controller (K : Type) where
  P : K
  I : K
  D : K
  prevError : K
  prevIterm : K
  output : K
  deriving DecidableEq, Repr

namespace Controller

def reset (c : Controller K) : Controller K :=
  { c with prevError := 0, prevIterm := 0 }

def update (c : Controller K) (error : K) : Controller K :=
  let returned := pidController error c.prevError c.P c.I c.D c.prevIterm
  { c with output := returned.output, prevError := returned.error, prevIterm := returned.iterm }

def step (axis : Axis) (c : Controller K) : Op K → Controller K
  | .reset => c.reset
  | .update other error => if other = axis then c.update error else c

end Controller

def Globals.controller (g : Globals K) : Axis → Controller K
  | .pitch => ⟨g.pRatePitch, g.iRatePitch, g.dRatePitch, g.prevErrorRatePitch,
      g.prevIntermRatePitch, g.inputPitch⟩
  | .roll => ⟨g.pRateRoll, g.iRateRoll, g.dRateRoll, g.prevErrorRateRoll,
      g.prevIntermRateRoll, g.inputRoll⟩
  | .yaw => ⟨g.pRateYaw, g.iRateYaw, g.dRateYaw, g.prevErrorRateYaw,
      g.prevIntermRateYaw, g.inputYaw⟩

-- The shared globals simulate the three controllers, step by step and over a run.
theorem step_controller (g : Globals K) (op : Op K) (axis : Axis) :
    (g.step op).controller axis = (g.controller axis).step axis op := by
  cases op with
  | reset => cases axis <;> rfl
  | update other error => cases other <;> cases axis <;> rfl

theorem runOps_controller (g : Globals K) (ops : List (Op K)) (axis : Axis) :
    (g.runOps ops).controller axis = ops.foldl (Controller.step axis) (g.controller axis) := by
  induction ops generalizing g with
  | nil => rfl
  | cons op ops ih =>
    rw [List.foldl_cons, ← step_controller]
    exact ih (g.step op)

def errorsSinceReset {E : Type} (axis : Axis) (ops : List (Op E)) : List E :=
  ops.foldl (fun errors op =>
    match op with
    | .reset => []
    | .update other error => if other = axis then errors ++ [error] else errors) []

theorem errorsSinceReset_snoc {E : Type} (axis : Axis) (ops : List (Op E)) (op : Op E) :
    errorsSinceReset axis (ops ++ [op]) =
      match op with
      | .reset => []
      | .update other error =>
          if other = axis then errorsSinceReset axis ops ++ [error]
          else errorsSinceReset axis ops := by
  simp only [errorsSinceReset, List.foldl_append, List.foldl_cons, List.foldl_nil]

def solo (c : Controller K) (errors : List K) : PIDReturn K :=
  run c.P c.I c.D #v[0, 0, 0] errors

theorem solo_snoc (c : Controller K) (errors : List K) (error : K) :
    solo c (errors ++ [error]) =
      pidController error (solo c errors).error c.P c.I c.D (solo c errors).iterm := by
  rw [solo, run_append]
  rfl

structure Controller.Tracks (start c : Controller K) (errors : List K) : Prop where
  gains : c.P = start.P ∧ c.I = start.I ∧ c.D = start.D
  error : c.prevError = (solo start errors).error
  iterm : c.prevIterm = (solo start errors).iterm

theorem Controller.update_tracks {start c : Controller K} {errors : List K}
    (tracks : start.Tracks c errors) (error : K) :
    start.Tracks (c.update error) (errors ++ [error]) ∧
      (c.update error).output = (solo start (errors ++ [error])).output := by
  obtain ⟨⟨samePGain, sameIGain, sameDGain⟩, sameError, sameIterm⟩ := tracks
  have returned : pidController error c.prevError c.P c.I c.D c.prevIterm =
      solo start (errors ++ [error]) := by
    rw [solo_snoc, samePGain, sameIGain, sameDGain, sameError, sameIterm]
  refine ⟨⟨⟨samePGain, sameIGain, sameDGain⟩, ?_, ?_⟩, ?_⟩ <;> rw [← returned] <;> rfl

theorem Controller.run_tracks (c : Controller K) (axis : Axis) (ops : List (Op K)) :
    c.Tracks (ops.foldl (Controller.step axis) c.reset) (errorsSinceReset axis ops) := by
  induction ops using List.reverseRecOn with
  | nil => exact ⟨⟨rfl, rfl, rfl⟩, rfl, rfl⟩
  | append_singleton ops op ih =>
    rw [List.foldl_append, errorsSinceReset_snoc]
    cases op with
    | reset => exact ⟨ih.gains, rfl, rfl⟩
    | update other error =>
      by_cases same : other = axis
      · simpa [Controller.step, same] using (Controller.update_tracks ih error).1
      · simpa [Controller.step, same] using ih

theorem reset_output (g : Globals K) (ops : List (Op K)) (axis : Axis) (error : K) :
    (((g.resetPID.runOps ops).step (.update axis error)).controller axis).output =
      (solo (g.controller axis) (errorsSinceReset axis ops ++ [error])).output := by
  have tracks := Controller.run_tracks (g.controller axis) axis ops
  have reset : g.resetPID.controller axis = (g.controller axis).reset :=
    step_controller g .reset axis
  rw [step_controller, runOps_controller, reset]
  simpa [Controller.step] using (Controller.update_tracks tracks error).2

/-- From power-on, and from any globals and any contents of PIDReturn once they are reset,
every output of an axis is that of a separate controller fed only this axis's errors since
the last reset. -/
theorem axis_output_independent (ops : List (Op K)) (axis : Axis) (error : K) :
    (((Globals.powerOn.runOps ops).step (.update axis error)).controller axis).output =
        (solo (Globals.powerOn.controller axis) (errorsSinceReset axis ops ++ [error])).output ∧
      ∀ g : Globals K, (((g.resetPID.runOps ops).step (.update axis error)).controller axis).output =
        (solo (g.controller axis) (errorsSinceReset axis ops ++ [error])).output :=
  ⟨reset_output Globals.powerOn ops axis error, fun g => reset_output g ops axis error⟩

end EspDrone.Pid
