import EspDrone.WebControl.Form
import EspDrone.WebControl.ModeReset
import EspDrone.Shared.FixedPoint

set_option autoImplicit false

namespace EspDrone.WebControl

open FixedPoint

def uneditedSubmission {F : Type} (core : ArduinoCore F) (s : Settings F) : Request where
  route := .pidControl
  args := (pidControls core s).filterMap fun shown => shown.2.sent

-- String(float) gives a nearest number of two decimals; toFloat reads such a number exactly.
structure TwoDecimals (core : ArduinoCore ℚ) : Prop where
  renders : ∀ x, ∃ negative n, core.stringOfFloat x = text 2 negative n ∧
    |x - value 2 negative n| ≤ 1 / (2 * 10 ^ 2)
  reads : ∀ negative n, core.toFloat (text 2 negative n) = value 2 negative n

def Unchanged (before after : Settings ℚ) : Prop :=
  after.mode = before.mode ∧ ∀ gain, after.gain gain = before.gain gain

def Gain.inPageOrder : List Gain :=
  [.pitchP, .rollP, .yawP, .pitchI, .rollI, .yawI, .pitchD, .rollD, .yawD]

theorem uneditedSubmission_args {F : Type} (core : ArduinoCore F) (s : Settings F) :
    (uneditedSubmission core s).args =
      (if s.mode == "pid_control" then [("mode", "pid_control")] else []) ++
        Gain.inPageOrder.map fun gain => (gain.arg, core.stringOfFloat (s.gain gain)) := by
  delta uneditedSubmission pidControls
  cases on : s.mode == "pid_control" <;> rfl

theorem unedited_mode {F : Type} (core : ArduinoCore F) (s : Settings F) :
    modeAfter s.mode (uneditedSubmission core s) = s.mode := by
  have route : (uneditedSubmission core s).route = .pidControl := rfl
  by_cases on : s.mode = "pid_control"
  · simp [modeAfter, route, Request.hasArg, Request.arg, uneditedSubmission_args, on]
  · simp [modeAfter, route, Request.hasArg, uneditedSubmission_args, on, Gain.inPageOrder, Gain.arg]

theorem unedited_gain {F : Type} (core : ArduinoCore F) (s : Settings F) (gain : Gain) :
    gainCommand core gain (uneditedSubmission core s) =
      some (core.toFloat (core.stringOfFloat (s.gain gain))) := by
  have route : (uneditedSubmission core s).route = .pidControl := rfl
  by_cases on : s.mode = "pid_control" <;> cases gain <;>
    simp [gainCommand, route, Request.hasArg, Request.arg, uneditedSubmission_args, on,
      Gain.inPageOrder, Gain.arg]

-- A request to the page is answered with the settings it leaves.
theorem pid_page_shown (core : ArduinoCore ℚ) (before : List Iteration) {opening : Iteration}
    {request : Request} (opened : opening.request = some request)
    (route : request.route = .pidControl) :
    (Sketch.run core (before ++ [opening])).responses =
      (Sketch.run core before).responses ++
        [⟨200, "text/html", weave (pidControls core
          (Sketch.run core (before ++ [opening])).settings) pidFooter⟩] := by
  rw [run_response core before opened, run_request core before opened, handleClient_pid core route,
    ← pidControlPage_controls]

theorem saved_gain_iff {core : ArduinoCore ℚ} (decimals : TwoDecimals core) (x : ℚ) :
    core.toFloat (core.stringOfFloat x) = x ↔ Units 2 x := by
  obtain ⟨negative, n, rendered, near⟩ := decimals.renders x
  have shown := value_units 2 negative n
  rw [rendered, decimals.reads]
  constructor
  · intro same
    rwa [same] at shown
  · intro units
    exact units_near units shown near

/-- In every reachable state, saving the page unedited keeps the gains and the mode exactly
when every gain is a whole number of hundredths. -/
theorem unedited_keeps_iff (core : ArduinoCore ℚ) (decimals : TwoDecimals core)
    (before : List Iteration) (save : Iteration)
    (submitted : save.request =
      some (uneditedSubmission core (Sketch.run core before).settings)) :
    Unchanged (Sketch.run core before).settings (Sketch.run core (before ++ [save])).settings ↔
      ∀ gain, Units 2 ((Sketch.run core before).settings.gain gain) := by
  rw [run_request core before submitted]
  generalize (Sketch.run core before).settings = s
  have saved (gain : Gain) : (s.next core (uneditedSubmission core s)).gain gain =
      core.toFloat (core.stringOfFloat (s.gain gain)) := by
    rw [next_gain, unedited_gain, Option.getD_some]
  simp only [Unchanged, next_mode, unedited_mode, saved, saved_gain_iff decimals, true_and]

-- A core with exact rationals for its floats.
def twoDecimalCore : ArduinoCore ℚ where
  toInt text := Decimal.atoi text.toUTF8.data.toList
  toFloat := read
  stringOfFloat := render 2
  softAPIP := "192.168.4.1"
  mapRounds := true

def submitQuarter : Iteration :=
  iterationOf ⟨.pidControl, [("mode", "pid_control"), ("pitch_P_value", "0.25")]⟩

theorem twoDecimalCore_twoDecimals : TwoDecimals twoDecimalCore where
  renders x := ⟨_, _, rfl, render_near 2 x⟩
  reads := read_text 2

theorem unedited_keeps_quarter :
    Unchanged (Sketch.run twoDecimalCore [submitQuarter]).settings
      (Sketch.run twoDecimalCore ([submitQuarter] ++ [iterationOf (uneditedSubmission twoDecimalCore
        (Sketch.run twoDecimalCore [submitQuarter]).settings)])).settings := by
  apply (unedited_keeps_iff twoDecimalCore twoDecimalCore_twoDecimals [submitQuarter]
    (iterationOf _) rfl).2
  intro gain
  rw [run_gain]
  refine ⟨(gainAfter twoDecimalCore gain (requests [submitQuarter]) * 100).num, ?_⟩
  cases gain <;> decide +kernel

def submitEighth : Iteration :=
  iterationOf ⟨.pidControl, [("pitch_P_value", "0.125")]⟩

def eighth : Settings ℚ :=
  (Sketch.run twoDecimalCore [submitEighth]).settings

def saveEighth : Iteration :=
  iterationOf (uneditedSubmission twoDecimalCore eighth)

/-- An eighth is shown as 0.13, and saving the page makes it that. -/
theorem eighth_saved_as_thirteen_hundredths :
    TwoDecimals twoDecimalCore ∧ eighth.gain .pitchP = 1 / 8 ∧
    (Sketch.run twoDecimalCore ([submitEighth] ++ [saveEighth])).settings.gain .pitchP =
      13 / 100 ∧
    ¬ Unchanged eighth (Sketch.run twoDecimalCore ([submitEighth] ++ [saveEighth])).settings := by
  have submitted : eighth.gain .pitchP = read "0.125" := by
    rw [eighth, run_gain]
    rfl
  have stored : eighth.gain .pitchP = 1 / 8 := submitted.trans (by decide +kernel)
  have saved : (Sketch.run twoDecimalCore ([submitEighth] ++ [saveEighth])).settings.gain .pitchP =
      read (render 2 (eighth.gain .pitchP)) := by
    rw [run_request twoDecimalCore [submitEighth] (show saveEighth.request = some _ from rfl),
      next_gain, ← eighth, unedited_gain]
    rfl
  rw [stored] at saved
  have rounded : read (render 2 (1 / 8)) = 13 / 100 := by decide +kernel
  rw [rounded] at saved
  refine ⟨twoDecimalCore_twoDecimals, stored, saved, ?_⟩
  intro unchanged
  have same := unchanged.2 .pitchP
  rw [saved, stored] at same
  norm_num at same

end EspDrone.WebControl
