import EspDrone.WebControl.ModeReset

set_option autoImplicit false

namespace EspDrone.WebControl

variable {F : Type}

-- What a link to a page sends, or reloading it from the address without arguments.
def pageView (route : Route) : Request where
  route := route
  args := []

theorem pageView_next (core : ArduinoCore F) (route : Route) (s : Settings F) :
    s.next core (pageView route) = { s with
      mode := if route = .pidControl ∧ s.mode = "pid_control" then "none" else s.mode } := by
  apply Settings.ext_reads
  · rw [next_mode, modeAfter]
    cases route <;> simp [pageView, Request.hasArg]
  · intro motor
    rw [next_motor]
    cases route <;> cases motor <;> rfl
  · intro gain
    rw [next_gain]
    cases route <;> cases gain <;> rfl

theorem pageView_keeps_iff (core : ArduinoCore F) (route : Route) (s : Settings F) :
    s.next core (pageView route) = s ↔ ¬ (route = .pidControl ∧ s.mode = "pid_control") := by
  rw [pageView_next]
  by_cases reset : route = .pidControl ∧ s.mode = "pid_control"
  · rw [if_pos reset]
    constructor
    · intro same
      have mode : "none" = s.mode := congrArg Settings.mode same
      rw [reset.2] at mode
      exact absurd mode (by decide)
    · intro kept
      exact absurd reset kept
  · rw [if_neg reset]
    exact ⟨fun _ => reset, fun _ => rfl⟩

/-- After any run, opening a page keeps the mode, the motors and the gains exactly when
the page is not the PID page or its mode is off. -/
theorem page_view_changes_nothing_iff [OfScientific F] (core : ArduinoCore F) (route : Route)
    (before : List Iteration) (view : Iteration) (opened : view.request = some (pageView route)) :
    (Sketch.run core (before ++ [view])).settings = (Sketch.run core before).settings ↔
      ¬ (route = .pidControl ∧ (Sketch.run core before).settings.mode = "pid_control") := by
  rw [run_request core before opened]
  exact pageView_keeps_iff core route (Sketch.run core before).settings

theorem page_view_with_manual_on :
    (Sketch.run wholeNumberCore
        ([iterationOf enableManual] ++ [iterationOf (pageView .pidControl)])).settings =
      (Sketch.run wholeNumberCore [iterationOf enableManual]).settings := by
  have manual : (Sketch.run wholeNumberCore [iterationOf enableManual]).settings.mode ≠
      "pid_control" := by
    rw [run_mode]
    decide
  exact (page_view_changes_nothing_iff wholeNumberCore .pidControl [iterationOf enableManual]
    (iterationOf _) rfl).2 fun both => manual both.2

/-- With the PID mode on, opening the PID page turns it off. -/
theorem page_view_leaves_pid_mode :
    (Sketch.run wholeNumberCore [iterationOf enablePid]).settings.mode = "pid_control" ∧
    (Sketch.run wholeNumberCore
      [iterationOf enablePid, iterationOf (pageView .pidControl)]).settings.mode = "none" ∧
    (Sketch.run wholeNumberCore
      [iterationOf enablePid, iterationOf (pageView .pidControl)]).settings ≠
        (Sketch.run wholeNumberCore [iterationOf enablePid]).settings := by
  have on : (Sketch.run wholeNumberCore [iterationOf enablePid]).settings.mode = "pid_control" := by
    rw [run_mode]
    decide
  have off : (Sketch.run wholeNumberCore
      [iterationOf enablePid, iterationOf (pageView .pidControl)]).settings.mode = "none" := by
    rw [run_mode]
    decide
  refine ⟨on, off, fun same => ?_⟩
  rw [same, on] at off
  exact absurd off (by decide)

end EspDrone.WebControl
