import EspDrone.WebControl.PageMarkup
import EspDrone.WebControl.PageView
import EspDrone.WebControl.UneditedForm

set_option autoImplicit false

namespace EspDrone.WebControl

open Markup

variable {F : Type}

structure SameMarkup (page other : String) : Prop where
  tags : tags page = tags other
  opens : opens page = opens other

theorem stringOfInt_opens (n : Int32) : opens (stringOfInt n) = 0 :=
  opens_eq_zero.2 (stringOfInt_plain n).noTag

theorem checkedIf_opens (condition : Bool) : opens (checkedIf condition) = 0 := by
  rw [opens_eq_zero]
  cases condition <;> decide

-- Between two manual pages only the modes can make a difference.
theorem manualPage_opens (m m' : Master) (s t : Settings F) :
    opens (manualPWMControlPage m s) + opens t.mode =
      opens (manualPWMControlPage m' t) + opens s.mode := by
  delta manualPWMControlPage slider
  simp only [opens_append, stringOfInt_opens, checkedIf_opens]
  omega

theorem pidPage_opens {core : ArduinoCore F} (numerals : ∀ x, Plain (core.stringOfFloat x))
    (s t : Settings F) : opens (pidControlPage core s) = opens (pidControlPage core t) := by
  have numeral (x : F) : opens (core.stringOfFloat x) = 0 := opens_eq_zero.2 (numerals x).noTag
  delta pidControlPage gainField
  simp only [opens_append, numeral, checkedIf_opens]

theorem manualPage_sameMarkup_iff {m m' : Master} {s t : Settings F} (noTag : '<' ∉ t.mode.toList)
    (mode : (s.mode == "manual_motor_pwm_control") = (t.mode == "manual_motor_pwm_control"))
    (enabled : m.enabled = m'.enabled) :
    SameMarkup (manualPWMControlPage m s) (manualPWMControlPage m' t) ↔
      '<' ∉ s.mode.toList := by
  have counts := manualPage_opens m m' s t
  have plain := opens_eq_zero.2 noTag
  constructor
  · intro same
    have equal := same.opens
    apply opens_eq_zero.1
    omega
  · intro noTagShown
    have shown := opens_eq_zero.2 noTagShown
    exact ⟨(manualPage_alike noTagShown noTag mode enabled).tags, by omega⟩

theorem pidPage_sameMarkup {core : ArduinoCore F} (numerals : ∀ x, Plain (core.stringOfFloat x))
    {s t : Settings F} (mode : (s.mode == "pid_control") = (t.mode == "pid_control")) :
    SameMarkup (pidControlPage core s) (pidControlPage core t) :=
  ⟨(pidPage_alike numerals mode).tags, pidPage_opens numerals s t⟩

def Request.PlainTexts (request : Request) : Prop :=
  ∀ arg ∈ request.args, Plain arg.2

instance (request : Request) : Decidable request.PlainTexts :=
  List.decidableBAll _ request.args

theorem arg_plain {request : Request} (texts : request.PlainTexts) (name : String) :
    Plain (request.arg name) := by
  unfold Request.arg
  cases found : request.args.find? fun arg => arg.1 == name with
  | none =>
    intro c member
    simp at member
  | some arg => exact texts arg (List.mem_of_find?_eq_some found)

theorem modeAfter_plain {mode : String} (plain : Plain mode) {request : Request}
    (texts : request.PlainTexts) : Plain (modeAfter mode request) := by
  have none' : Plain "none" := by decide
  have sent := arg_plain texts "mode"
  unfold modeAfter
  split
  next => exact plain
  next => split <;> assumption
  next =>
    split
    next => exact sent
    next => split <;> assumption

theorem modeOf_plain {history : List Request}
    (texts : ∀ request ∈ history, request.PlainTexts) : Plain (modeOf history) := by
  induction history using List.reverseRecOn with
  | nil =>
    have none' : Plain "none" := by decide
    exact none'
  | append_singleton history request ih =>
    rw [modeOf_snoc]
    exact modeAfter_plain (ih fun earlier member => texts earlier (by simp [member]))
      (texts request (by simp))

section

variable [OfScientific F] (core : ArduinoCore F)

-- The page a request is answered with after a history of iterations.
def sentPage (before : List Iteration) (request : Request) : String :=
  (handleClient core request (Sketch.run core before).settings).2.body

-- Which boxes that page shows checked.
def checkedBoxes (page : ConfigPage) (before : List Iteration) (request : Request) : List Bool :=
  (((Sketch.run core before).settings.next core request).mode == page.mode) ::
    match page with
    | .manualPWMControl => [(master core request).enabled]
    | .pidControl => []

theorem sentPage_sent {page : ConfigPage} (before : List Iteration) {last : Iteration}
    {request : Request} (handled : last.request = some request)
    (route : request.route = page.route) :
    (Sketch.run core (before ++ [last])).responses =
      (Sketch.run core before).responses ++ [⟨200, "text/html", sentPage core before request⟩] := by
  rw [run_response core before handled]
  unfold sentPage handleClient
  rw [route]
  cases page <;> rfl

theorem sentPage_manual (before : List Iteration) {request : Request}
    (route : request.route = .manualPWMControl) :
    sentPage core before request = manualPWMControlPage (master core request)
      ((Sketch.run core before).settings.next core request) := by
  rw [sentPage, handleClient_manual core route]

theorem sentPage_pid (before : List Iteration) {request : Request}
    (route : request.route = .pidControl) :
    sentPage core before request =
      pidControlPage core ((Sketch.run core before).settings.next core request) := by
  rw [sentPage, handleClient_pid core route]

theorem sentPage_mode (before : List Iteration) (request : Request) :
    ((Sketch.run core before).settings.next core request).mode =
      modeOf (requests before ++ [request]) := by
  rw [next_mode, run_mode, modeOf_snoc]

/-- A configuration page sent after any history has the tags, the attribute names and the
count of `<` of one sent after plain texts with the same boxes checked, exactly when it is the
PID page or the mode then stored, by a request to either page, holds no `<`. -/
theorem sent_markup_plain_iff (numerals : ∀ x, Plain (core.stringOfFloat x)) (page : ConfigPage)
    (before plainBefore : List Iteration) (request plainRequest : Request)
    (route : request.route = page.route) (plainRoute : plainRequest.route = page.route)
    (plain : ∀ earlier ∈ requests plainBefore ++ [plainRequest], earlier.PlainTexts)
    (sameBoxes : checkedBoxes core page before request =
      checkedBoxes core page plainBefore plainRequest) :
    SameMarkup (sentPage core before request) (sentPage core plainBefore plainRequest) ↔
      page = .pidControl ∨ '<' ∉ (modeOf (requests before ++ [request])).toList := by
  cases page with
  | pidControl =>
    rw [sentPage_pid core before route, sentPage_pid core plainBefore plainRoute]
    have same := pidPage_sameMarkup numerals (List.cons.inj sameBoxes).1
    exact ⟨fun _ => .inl rfl, fun _ => same⟩
  | manualPWMControl =>
    obtain ⟨mode, rest⟩ := List.cons.inj sameBoxes
    have enabled := (List.cons.inj rest).1
    have plainMode := (modeOf_plain plain).noTag
    rw [← sentPage_mode core] at plainMode ⊢
    rw [sentPage_manual core before route, sentPage_manual core plainBefore plainRoute,
      manualPage_sameMarkup_iff plainMode mode enabled]
    simp

end

theorem twoDecimalCore_numerals (x : ℚ) : Plain (twoDecimalCore.stringOfFloat x) := by
  intro c member
  obtain sign | point | digit := FixedPoint.text_cases member
  · exact .inr (.inr (.inl sign))
  · exact .inr (.inr (.inr point))
  · exact .inl (by simp [Char.isAlphanum, digit])

def storeMode (text : String) : Iteration :=
  iterationOf ⟨.pidControl, [("mode", text)]⟩

theorem sent_markup_ampersand :
    SameMarkup
        (sentPage twoDecimalCore [storeMode "'a' > b & c"] (pageView .manualPWMControl))
        (sentPage twoDecimalCore [storeMode "idle"] (pageView .manualPWMControl)) ↔
      ConfigPage.manualPWMControl = .pidControl ∨
        '<' ∉ (modeOf (requests [storeMode "'a' > b & c"] ++
          [pageView .manualPWMControl])).toList := by
  refine sent_markup_plain_iff twoDecimalCore twoDecimalCore_numerals .manualPWMControl
    [storeMode "'a' > b & c"] [storeMode "idle"] (pageView .manualPWMControl)
    (pageView .manualPWMControl) rfl rfl (by decide) ?_
  rw [checkedBoxes, checkedBoxes, sentPage_mode, sentPage_mode]
  decide

/-- A script stored through the PID page is a script of the manual page sent to the next
visitor. -/
theorem stored_script_sent :
    (∀ x, Plain (twoDecimalCore.stringOfFloat x)) ∧
    (∀ earlier ∈ requests [storeMode "idle"] ++ [pageView .manualPWMControl],
      earlier.PlainTexts) ∧
    checkedBoxes twoDecimalCore .manualPWMControl [storeMode "<script>alert(1)</script>"]
        (pageView .manualPWMControl) =
      checkedBoxes twoDecimalCore .manualPWMControl [storeMode "idle"]
        (pageView .manualPWMControl) ∧
    ⟨false, "script".toList, []⟩ ∈ tags (sentPage twoDecimalCore
      [storeMode "<script>alert(1)</script>"] (pageView .manualPWMControl)) ∧
    ¬ SameMarkup
      (sentPage twoDecimalCore [storeMode "<script>alert(1)</script>"]
        (pageView .manualPWMControl))
      (sentPage twoDecimalCore [storeMode "idle"] (pageView .manualPWMControl)) := by
  have script : modeOf (requests [storeMode "<script>alert(1)</script>"] ++
      [pageView .manualPWMControl]) = "<script>alert(1)</script>" := by decide
  have idle : modeOf (requests [storeMode "idle"] ++ [pageView .manualPWMControl]) = "idle" := by
    decide
  rw [← sentPage_mode twoDecimalCore] at script idle
  have element : Reads .data "<script>alert(1)</script>" .data
      [⟨false, "script".toList, []⟩, ⟨true, "script".toList, []⟩] := .ofList rfl
  have noTag : '<' ∉ ((Sketch.run twoDecimalCore [storeMode "idle"]).settings.next twoDecimalCore
      (pageView .manualPWMControl)).mode.toList := by
    rw [idle]
    decide
  refine ⟨twoDecimalCore_numerals, by decide, ?_, ?_, ?_⟩
  · rw [checkedBoxes, checkedBoxes, script, idle]
    decide
  · rw [sentPage_manual twoDecimalCore _ rfl]
    apply manualPage_mode_tags
    rw [script, element.tags]
    exact List.mem_cons_self
  · rw [sentPage_manual twoDecimalCore _ rfl, sentPage_manual twoDecimalCore _ rfl,
      manualPage_sameMarkup_iff noTag (by rw [script, idle]; decide) rfl, script]
    decide

end EspDrone.WebControl
