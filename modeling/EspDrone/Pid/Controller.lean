import Mathlib.Data.Rat.Floor
import Mathlib.Tactic.NormNum
import Mathlib.Tactic.Linarith

set_option autoImplicit false

namespace EspDrone.Pid

-- What PID_Controller asks of its numbers; they are floats there.
variable {K : Type} [Add K] [Sub K] [Mul K] [Div K] [Neg K] [LT K] [DecidableLT K]
  [∀ n, OfNat K n] [OfScientific K]

abbrev PIDReturn (K : Type) := Vector K 3

def PIDReturn.output (returned : PIDReturn K) : K := returned[0]
def PIDReturn.error (returned : PIDReturn K) : K := returned[1]
def PIDReturn.iterm (returned : PIDReturn K) : K := returned[2]

-- if (x > 400) x = 400; else if (x < -400) x = -400;
def limit (x : K) : K :=
  if x > 400 then 400 else if x < -400 then -400 else x

def pTerm (error P : K) : K :=
  P * error

def iTerm (error prevError I prevIterm : K) : K :=
  limit (prevIterm + I * (error + prevError) * 0.004 / 2)

def dTerm (error prevError D : K) : K :=
  D * (error - prevError) / 0.004

-- The array it leaves: every call writes all three cells.
def pidController (error prevError P I D prevIterm : K) : PIDReturn K :=
  let pidOutput := limit
    (pTerm error P + iTerm error prevError I prevIterm + dTerm error prevError D)
  #v[pidOutput, error, iTerm error prevError I prevIterm]

@[simp] theorem pidController_output (error prevError P I D prevIterm : K) :
    (pidController error prevError P I D prevIterm).output =
      limit (pTerm error P + iTerm error prevError I prevIterm + dTerm error prevError D) := rfl

@[simp] theorem pidController_error (error prevError P I D prevIterm : K) :
    (pidController error prevError P I D prevIterm).error = error := rfl

@[simp] theorem pidController_iterm (error prevError P I D prevIterm : K) :
    (pidController error prevError P I D prevIterm).iterm = iTerm error prevError I prevIterm := rfl

theorem limit_eq_clamp (x : ℚ) : limit x = max (-400) (min 400 x) := by
  unfold limit
  split
  next above => rw [min_eq_left (le_of_lt above), max_eq_right (by norm_num)]
  next notAbove =>
    rw [min_eq_right (not_lt.1 notAbove)]
    split
    next below => rw [max_eq_left (le_of_lt below)]
    next notBelow => rw [max_eq_right (not_lt.1 notBelow)]

theorem limit_of_mem {x : ℚ} (low : -400 ≤ x) (high : x ≤ 400) : limit x = x := by
  rw [limit_eq_clamp, min_eq_right high, max_eq_right low]

theorem limit_mono : Monotone (limit : ℚ → ℚ) := by
  intro x y ordered
  simp only [limit_eq_clamp]
  exact max_le_max_left _ (min_le_min_left _ ordered)

-- One cycle with PIDReturn[1] and PIDReturn[2] of the previous one fed back.
def cycle (P I D : K) (previous : PIDReturn K) (error : K) : PIDReturn K :=
  pidController error previous.error P I D previous.iterm

def run (P I D : K) (start : PIDReturn K) (errors : List K) : PIDReturn K :=
  errors.foldl (cycle P I D) start

theorem run_cons (P I D : K) (start : PIDReturn K) (error : K) (errors : List K) :
    run P I D start (error :: errors) = run P I D (cycle P I D start error) errors := rfl

theorem run_append (P I D : K) (start : PIDReturn K) (first later : List K) :
    run P I D start (first ++ later) = run P I D (run P I D start first) later :=
  List.foldl_append

end EspDrone.Pid
