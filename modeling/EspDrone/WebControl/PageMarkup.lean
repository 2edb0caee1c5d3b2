import EspDrone.Shared.Decimal
import EspDrone.Shared.Markup
import EspDrone.WebControl.Form

set_option autoImplicit false

namespace EspDrone.WebControl

open Markup

variable {F : Type}

-- Letters, digits and what numbers and the names of the modes use besides.
def Plain (text : String) : Prop :=
  ∀ c ∈ text.toList, c.isAlphanum = true ∨ c = '_' ∨ c = '-' ∨ c = '.'

instance (text : String) : Decidable (Plain text) :=
  List.decidableBAll _ text.toList

theorem Plain.noTag {text : String} (plain : Plain text) : '<' ∉ text.toList := by
  intro member
  have ordinary := plain '<' member
  revert ordinary
  decide

theorem Plain.noQuote {text : String} (plain : Plain text) : '\'' ∉ text.toList := by
  intro member
  have ordinary := plain '\'' member
  revert ordinary
  decide

theorem stringOfInt_plain (n : Int32) : Plain (stringOfInt n) := by
  intro c member
  rw [stringOfInt, Decimal.toString_decimalChars, String.toList_ofList] at member
  rcases Decimal.decimalChars_cases member with sign | digit
  · exact .inr (.inr (.inl sign))
  · exact .inl (by simp [Char.isAlphanum, digit])

namespace Control

def inputTag (attributes : List String) : Tag where
  closing := false
  name := "input".toList
  attributes := attributes.map String.toList

def tag : Control → Tag
  | checkbox _ _ checked =>
      inputTag (["type", "name", "value"] ++ if checked then ["checked"] else [])
  | text _ _ => inputTag ["type", "name", "value"]
  | range _ _ _ => inputTag ["class", "type", "name", "min", "max", "value", "oninput"]

-- No name or value ends the quotes it stands in.
def Quoted : Control → Prop
  | checkbox name value _ => '\'' ∉ name.toList ∧ '\'' ∉ value.toList
  | text name value => '\'' ∉ name.toList ∧ '\'' ∉ value.toList
  | range name output _ => '\'' ∉ name.toList ∧ '\'' ∉ output.toList

theorem checked_reads (name value : String) (checked : Bool) :
    Reads (.beforeAttribute (inputTag ["type", "name", "value"])) (checkedIf checked ++ ">") .data
      [(checkbox name value checked).tag] := by
  cases checked with
  | false =>
    have none' : Reads (.beforeAttribute (inputTag ["type", "name", "value"])) ""
        (.beforeAttribute (inputTag ["type", "name", "value"])) [] := .ofList rfl
    have ends : Reads (.beforeAttribute (inputTag ["type", "name", "value"])) ">" .data
        [inputTag ["type", "name", "value"]] := .ofList rfl
    exact none'.append ends
  | true =>
    have named : Reads (.beforeAttribute (inputTag ["type", "name", "value"])) " checked"
        (.attributeName (inputTag ["type", "name", "value"]) "checked".toList) [] := .ofList rfl
    have ends : Reads (.attributeName (inputTag ["type", "name", "value"]) "checked".toList) ">"
        .data [inputTag ["type", "name", "value", "checked"]] := .ofList rfl
    exact named.append ends

theorem html_reads (control : Control) (quoted : control.Quoted) :
    Reads .data control.html .data [control.tag] := by
  have name : Reads (.quoted (inputTag ["type", "name"]) '\'') "' value='"
      (.quoted (inputTag ["type", "name", "value"]) '\'') [] := .ofList rfl
  cases control with
  | checkbox name' value checked =>
    have opening : Reads .data "<input type='checkbox' name='"
        (.quoted (inputTag ["type", "name"]) '\'') [] := .ofList rfl
    have closing : Reads (.quoted (inputTag ["type", "name", "value"]) '\'') "'"
        (.beforeAttribute (inputTag ["type", "name", "value"])) [] := .ofList rfl
    rw [html_checkbox, String.append_assoc]
    exact ((((opening.append (reads_quoted quoted.1 _)).append name).append
      (reads_quoted quoted.2 _)).append closing).append (checked_reads name' value checked)
  | text name' value =>
    have opening : Reads .data "<input type='text' name='"
        (.quoted (inputTag ["type", "name"]) '\'') [] := .ofList rfl
    have closing : Reads (.quoted (inputTag ["type", "name", "value"]) '\'') "'>" .data
        [inputTag ["type", "name", "value"]] := .ofList rfl
    rw [html_text]
    exact (((opening.append (reads_quoted quoted.1 _)).append name).append
      (reads_quoted quoted.2 _)).append closing
  | range name' output value =>
    have opening : Reads .data "<input class='slider' type='range' name='"
        (.quoted (inputTag ["class", "type", "name"]) '\'') [] := .ofList rfl
    have bounds : Reads (.quoted (inputTag ["class", "type", "name"]) '\'')
        "' min='0' max='100' value='"
        (.quoted (inputTag ["class", "type", "name", "min", "max", "value"]) '\'') [] := .ofList rfl
    have handler : Reads
        (.quoted (inputTag ["class", "type", "name", "min", "max", "value"]) '\'') "' oninput='"
        (.quoted (inputTag ["class", "type", "name", "min", "max", "value", "oninput"]) '\'') [] :=
      .ofList rfl
    have closing : Reads
        (.quoted (inputTag ["class", "type", "name", "min", "max", "value", "oninput"]) '\'')
        ".value=this.value'>" .data
        [inputTag ["class", "type", "name", "min", "max", "value", "oninput"]] := .ofList rfl
    rw [html_range]
    exact (((((opening.append (reads_quoted quoted.1 _)).append bounds).append
      (reads_quoted (stringOfInt_plain value).noQuote _)).append handler).append
      (reads_quoted quoted.2 _)).append closing

theorem checkbox_alike {name value : String} (quoted : '\'' ∉ name.toList ∧ '\'' ∉ value.toList)
    {checked checked' : Bool} (same : checked = checked') :
    Alike (checkbox name value checked).html (checkbox name value checked').html := by
  rw [same]
  exact (html_reads (checkbox name value checked') quoted).complete.alike

theorem text_alike {name value value' : String} (quotedName : '\'' ∉ name.toList)
    (quoted : '\'' ∉ value.toList) (quoted' : '\'' ∉ value'.toList) :
    Alike (text name value).html (text name value').html :=
  ⟨_, html_reads (text name value) ⟨quotedName, quoted⟩,
    html_reads (text name value') ⟨quotedName, quoted'⟩⟩

theorem range_alike {name output : String} (quoted : '\'' ∉ name.toList ∧ '\'' ∉ output.toList)
    (value value' : Int32) : Alike (range name output value).html (range name output value').html :=
  ⟨_, html_reads (range name output value) quoted, html_reads (range name output value') quoted⟩

end Control

def ShownAlike (shown other : String × Control) : Prop :=
  Alike shown.1 other.1 ∧ Alike shown.2.html other.2.html

theorem weave_alike {controls others : List (String × Control)} {last last' : String}
    (each : controls.Forall₂ ShownAlike others)
    (ends : Alike last last') : Alike (weave controls last) (weave others last') := by
  induction each with
  | nil => exact ends
  | cons first _ ih => exact (first.1.append first.2).append ih

theorem paragraph_complete : Complete "<p>" := .ofList rfl

theorem formEnd_complete : Complete "</form>" := .ofList rfl

theorem pageEnd_complete : Complete "</body></html>" := .ofList rfl

theorem body_complete : Complete "</head><body>" := .ofList rfl

theorem manualHeader_complete : Complete manualHeader := by
  delta manualHeader
  have doctype : Complete "<!DOCTYPE html><html><head><title>ESP Config</title>" := .ofList rfl
  have style : Complete
      "<style>body\x7bfont-family:Arial;margin:20px;\x7d .slider\x7bwidth:300px;\x7d </style>" :=
    .ofList (by decide)
  have title : Complete "<h1>Drone Configuration</h1>" := .ofList rfl
  have mode : Complete "<p><b>Current Mode:</b> " := .ofList rfl
  exact (((doctype.append style).append body_complete).append title).append mode

theorem sliderOutput_alike {output : String} (quoted : '\'' ∉ output.toList) (value other : Int32) :
    Alike (sliderOutput output value) (sliderOutput output other) := by
  let outputTag : Tag := ⟨false, "output".toList, ["id".toList]⟩
  have opening : Reads .data " <output id='" (.quoted outputTag '\'') [] := .ofList rfl
  have opened : Reads (.quoted outputTag '\'') "'>" .data [outputTag] := .ofList rfl
  have closing : Complete "</output>%<br>" := .ofList rfl
  have reads (value : Int32) : Reads .data (sliderOutput output value) .data
      ([outputTag] ++ tags "</output>%<br>") :=
    (((opening.append (reads_quoted quoted outputTag)).append opened).append
      (reads_data (stringOfInt_plain value).noTag)).append closing
  exact ⟨_, reads value, reads other⟩

theorem manualHeader_alike {mode other : String} (noTag : '<' ∉ mode.toList)
    (noTag' : '<' ∉ other.toList) :
    Alike (manualHeader ++ mode ++ "</p>" ++ "<form action='/manual-pwm-control' method='GET'>" ++
        "<p>")
      (manualHeader ++ other ++ "</p>" ++ "<form action='/manual-pwm-control' method='GET'>" ++
        "<p>") := by
  have paragraph : Complete "</p>" := .ofList rfl
  have form : Complete "<form action='/manual-pwm-control' method='GET'>" := .ofList rfl
  exact (((manualHeader_complete.alike.append (alike_data noTag noTag')).append
    paragraph.alike).append form.alike).append paragraph_complete.alike

theorem manualControls_alike {m m' : Master} {s t : Settings F} (noTag : '<' ∉ s.mode.toList)
    (noTag' : '<' ∉ t.mode.toList)
    (mode : (s.mode == "manual_motor_pwm_control") = (t.mode == "manual_motor_pwm_control"))
    (enabled : m.enabled = m'.enabled) :
    (manualControls m s).Forall₂ ShownAlike (manualControls m' t) := by
  have modeLabel : Complete " Enable Manual Motor PWM Control</p>" := .ofList rfl
  have control : Complete "<h3>Master Control</h3>" := .ofList rfl
  have enableLabel : Complete " Enable Master Slider (controls all motors)</p>" := .ofList rfl
  have duty : Complete "<h3>Motor Duty Cycles (0–100)</h3>" := .ofList rfl
  have colon : Complete ": " := .ofList rfl
  have master : Complete "Master" := .ofList rfl
  have motor1 : Complete "Motor 1" := .ofList rfl
  have motor2 : Complete "Motor 2" := .ofList rfl
  have motor3 : Complete "Motor 3" := .ofList rfl
  have motor4 : Complete "Motor 4" := .ofList rfl
  refine .cons ⟨manualHeader_alike noTag noTag', Control.checkbox_alike (by decide) mode⟩ ?_
  refine .cons ⟨((modeLabel.append control).append paragraph_complete).alike,
    Control.checkbox_alike (by decide) enabled⟩ ?_
  refine .cons ⟨((enableLabel.append master).append colon).alike,
    Control.range_alike (by decide) _ _⟩ ?_
  refine .cons ⟨(((sliderOutput_alike (by decide) _ _).append duty.alike).append
    motor1.alike).append colon.alike, Control.range_alike (by decide) _ _⟩ ?_
  refine .cons ⟨((sliderOutput_alike (by decide) _ _).append motor2.alike).append colon.alike,
    Control.range_alike (by decide) _ _⟩ ?_
  refine .cons ⟨((sliderOutput_alike (by decide) _ _).append motor3.alike).append colon.alike,
    Control.range_alike (by decide) _ _⟩ ?_
  exact .cons ⟨((sliderOutput_alike (by decide) _ _).append motor4.alike).append colon.alike,
    Control.range_alike (by decide) _ _⟩ .nil

theorem manualPage_alike {m m' : Master} {s t : Settings F} (noTag : '<' ∉ s.mode.toList)
    (noTag' : '<' ∉ t.mode.toList)
    (mode : (s.mode == "manual_motor_pwm_control") = (t.mode == "manual_motor_pwm_control"))
    (enabled : m.enabled = m'.enabled) :
    Alike (manualPWMControlPage m s) (manualPWMControlPage m' t) := by
  have submit : Complete "<br><input type='submit' value='Save Settings'>" := .ofList rfl
  rw [manualPWMControlPage_controls, manualPWMControlPage_controls]
  exact weave_alike (manualControls_alike noTag noTag' mode enabled)
    ((((sliderOutput_alike (by decide) _ _).append submit.alike).append
      formEnd_complete.alike).append pageEnd_complete.alike)

-- The tags of the mode are tags of the page it is shown on.
theorem manualPage_mode_tags (m : Master) {s : Settings F} {tag : Tag}
    (member : tag ∈ tags s.mode) : tag ∈ tags (manualPWMControlPage m s) := by
  have shown : tag ∈ tags (manualHeader ++ s.mode) := by
    rw [tags_append manualHeader_complete]
    exact List.mem_append_right _ member
  rw [manualPWMControlPage_controls]
  unfold manualControls weave
  exact mem_tags_append (mem_tags_append (mem_tags_append (mem_tags_append
    (mem_tags_append shown _) _) _) _) _

section

variable {core : ArduinoCore F} (numerals : ∀ x, Plain (core.stringOfFloat x))

include numerals

theorem gainLabel_alike {label : String} (noTag : '<' ∉ label.toList) (value other : F) :
    Alike (gainLabel core label value) (gainLabel core label other) := by
  have enter : Complete "Enter " := .ofList rfl
  have current : Complete " value (current = " := .ofList rfl
  have field : Complete ") = " := .ofList rfl
  exact (((enter.alike.append (alike_data noTag noTag)).append current.alike).append
    (alike_data (numerals value).noTag (numerals other).noTag)).append field.alike

theorem gainControl_alike (s t : Settings F) (gain : Gain) :
    Alike (gainControl core s gain).html (gainControl core t gain).html := by
  have name : '\'' ∉ gain.arg.toList := by cases gain <;> decide
  exact Control.text_alike name (numerals _).noQuote (numerals _).noQuote

theorem pidControls_alike {s t : Settings F}
    (mode : (s.mode == "pid_control") = (t.mode == "pid_control")) :
    (pidControls core s).Forall₂ ShownAlike (pidControls core t) := by
  have doctype : Complete "<!DOCTYPE html><html><head><title>PID Config</title>" := .ofList rfl
  have style : Complete
      "<style>body\x7bfont-family:Arial;margin:20px;\x7d input\x7bmargin:5px;\x7d</style>" :=
    .ofList (by decide)
  have title : Complete "<h1>PID Control Configuration</h1>" := .ofList rfl
  have form : Complete "<form action='/pid-control' method='GET'>" := .ofList rfl
  have label : Complete " Enable PID Control</p>" := .ofList rfl
  have pValues : Complete "<h3>P Values</h3>" := .ofList rfl
  have iValues : Complete "<h3>I Values</h3>" := .ofList rfl
  have dValues : Complete "<h3>D Values</h3>" := .ofList rfl
  have line : Complete "<br>" := .ofList rfl
  have gains := gainControl_alike numerals s t
  refine .cons ⟨(((((doctype.append style).append body_complete).append title).append
    form).append paragraph_complete).alike, Control.checkbox_alike (by decide) mode⟩ ?_
  refine .cons ⟨(label.append pValues).alike.append (gainLabel_alike numerals (by decide) _ _),
    gains .pitchP⟩ ?_
  refine .cons ⟨line.alike.append (gainLabel_alike numerals (by decide) _ _), gains .rollP⟩ ?_
  refine .cons ⟨line.alike.append (gainLabel_alike numerals (by decide) _ _), gains .yawP⟩ ?_
  refine .cons ⟨(line.append iValues).alike.append (gainLabel_alike numerals (by decide) _ _),
    gains .pitchI⟩ ?_
  refine .cons ⟨line.alike.append (gainLabel_alike numerals (by decide) _ _), gains .rollI⟩ ?_
  refine .cons ⟨line.alike.append (gainLabel_alike numerals (by decide) _ _), gains .yawI⟩ ?_
  refine .cons ⟨(line.append dValues).alike.append (gainLabel_alike numerals (by decide) _ _),
    gains .pitchD⟩ ?_
  refine .cons ⟨line.alike.append (gainLabel_alike numerals (by decide) _ _), gains .rollD⟩ ?_
  exact .cons ⟨line.alike.append (gainLabel_alike numerals (by decide) _ _), gains .yawD⟩ .nil

theorem pidPage_alike {s t : Settings F}
    (mode : (s.mode == "pid_control") = (t.mode == "pid_control")) :
    Alike (pidControlPage core s) (pidControlPage core t) := by
  have line : Complete "<br>" := .ofList rfl
  have submit : Complete "<br><input type='submit' value='Save PID Settings'>" := .ofList rfl
  rw [pidControlPage_controls, pidControlPage_controls]
  exact weave_alike (pidControls_alike numerals mode)
    (((line.append submit).append formEnd_complete).append pageEnd_complete).alike

end

end EspDrone.WebControl
