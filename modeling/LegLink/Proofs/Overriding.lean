import LegLink.Program
import LegLink.Proofs.Arguments
import LegLink.Proofs.CalibrationList

/- Settings are checked where they are read, and the options are laid over them afterwards without
another check. Of what is checked they reach only the speed of the port. -/

set_option autoImplicit false

namespace LegLink

namespace Settings

structure Sound (s : Settings) : Prop where
  title : s.title = none ∨ s.title = some requiredTitle
  timeout : s.serial.timeoutMillis ≠ 0
  attempts : s.handshake.attempts ≠ 0
  calibrations : s.calibrations = [] ∨ s.calibrations.length = servoCount ∧ Distinct s.calibrations

structure Usable (s : Settings) : Prop extends Sound s where
  baudRate : s.serial.baudRate ≠ 0

theorem usable_default : Usable {} where
  title := .inl rfl
  timeout := by decide
  attempts := by decide
  calibrations := .inl rfl
  baudRate := by decide

section Checked

variable (s : Settings)

theorem wrong_title_iff :
    s.title.filter (· ≠ requiredTitle) = none ↔ s.title = none ∨ s.title = some requiredTitle := by
  cases s.title <;> simp

theorem validate_sound (sound : s.Sound) :
    s.validate = if s.serial.baudRate = 0 then .error .baudRate else .ok () := by
  have title := (wrong_title_iff s).mpr sound.title
  obtain ⟨t, taken⟩ := (calibration_table_ok_iff s).mpr sound.calibrations
  simp only [validate, title, sound.timeout, sound.attempts, taken, if_false]

theorem validate_eq_ok_iff : s.validate = .ok () ↔ s.Usable := by
  constructor
  · fun_cases validate s with
    | case1 | case2 | case3 | case4 | case5 => exact nofun
    | case6 title baudRate timeout attempts t taken =>
      have calibrations := (calibration_table_ok_iff s).mp ⟨t, taken⟩
      exact fun _ => ⟨⟨(wrong_title_iff s).mp title, timeout, attempts, calibrations⟩, baudRate⟩
  · intro usable
    rw [validate_sound s usable.toSound, if_neg usable.baudRate]

theorem usable_of_file (file : FileContents) (read : ofFile file = .ok s) : s.Usable := by
  revert read
  fun_cases ofFile file with
  | case1 | case2 | case3 | case4 => exact nofun
  | case5 bytes text decoded settings parsed valid =>
    rintro ⟨⟩
    exact (validate_eq_ok_iff s).mp valid

theorem usable_load (path : Option String) (read : String → FileContents)
    (loaded : load path read = .ok s) : s.Usable := by
  revert loaded
  fun_cases load path read with
  | case1 path => exact usable_of_file s _
  | case2 =>
    rintro ⟨⟩
    exact usable_default
  | case3 => exact usable_of_file s _

end Checked
end Settings

namespace CommandLine.Overrides

variable (o : Overrides) (s : Settings)

theorem sound_apply (sound : s.Sound) : (o.apply s).Sound :=
  ⟨sound.title, sound.timeout, sound.attempts, sound.calibrations⟩

theorem validate_apply (usable : s.Usable) :
    (o.apply s).validate = if o.baud = some 0 then .error .baudRate else .ok () := by
  rw [Settings.validate_sound _ (o.sound_apply s usable.toSound)]
  cases baud : o.baud with
  | none => simp [apply, baud, usable.baudRate]
  | some rate => simp [apply, baud]

end CommandLine.Overrides

namespace Program

open CommandLine (Invocation Overrides)

variable (read : String → FileContents)

theorem start_ready (i : Invocation) (args : List String) (loaded : Settings)
    (parsed : CommandLine.parse args = .ok i)
    (load : Settings.load i.overrides.config read = .ok loaded) :
    start args read = .ready (i.overrides.apply loaded) i.task := by
  simp only [start, parsed, load]

theorem exists_of_ready (args : List String) (s : Settings) (task : Task)
    (ready : start args read = .ready s task) :
    ∃ o loaded, CommandLine.parse args = .ok { task, overrides := o } ∧
      Settings.load o.config read = .ok loaded ∧ s = o.apply loaded := by
  revert ready
  fun_cases start args read with
  | case1 | case2 => exact nofun
  | case3 i parsed loaded load =>
    rintro ⟨⟩
    exact ⟨i.overrides, loaded, parsed, load, rfl⟩

/-- The settings that a run goes on with are as they have to be but for the speed of the port, which
is of use exactly if the options do not set it to zero; if they do, that is what a check would tell.
There are arguments for each such combination, whatever the task. -/
theorem ready_validate :
    (∀ args s task, start args read = .ready s task →
      ∃ o loaded, CommandLine.parse args = .ok { task, overrides := o } ∧
        Settings.load o.config read = .ok loaded ∧ loaded.validate = .ok () ∧
        s = o.apply loaded ∧ s.Sound ∧ (s.Usable ↔ o.baud ≠ some 0) ∧
        s.validate = if o.baud = some 0 then .error .baudRate else .ok ()) ∧
    ∀ (i : Invocation) loaded, i.overrides.config ≠ some "" →
      Settings.load i.overrides.config read = .ok loaded →
      start i.arguments read = .ready (i.overrides.apply loaded) i.task := by
  constructor
  · intro args s task ready
    obtain ⟨o, loaded, parsed, load, rfl⟩ := exists_of_ready read args s task ready
    have usable := Settings.usable_load loaded o.config read load
    have checked := o.validate_apply loaded usable
    refine ⟨o, loaded, parsed, load, (Settings.validate_eq_ok_iff loaded).mpr usable, rfl,
      o.sound_apply loaded usable.toSound, ?_, checked⟩
    rw [← Settings.validate_eq_ok_iff, checked]
    simp
  · intro i loaded named load
    exact start_ready read i i.arguments loaded (CommandLine.parse_arguments i named) load

theorem ready_validate_zero :
    let absent (_ : String) : FileContents := .error .missing
    let stopped : Overrides := { baud := some 0 }
    let slow : Overrides := { baud := some 9600 }
    Settings.validate {} = .ok () ∧
    start ["--baud=0", "handshake"] absent = .ready (stopped.apply {}) .handshake ∧
      (stopped.apply {}).validate = .error .baudRate ∧
    start ["--baud=9600", "handshake"] absent = .ready (slow.apply {}) .handshake ∧
      (slow.apply {}).validate = .ok () := by
  intro absent stopped slow
  obtain ⟨checked, asked⟩ := ready_validate absent
  have started (o : Overrides) (named : o.config = none) :
      start (Invocation.arguments ⟨.handshake, o⟩) absent = .ready (o.apply {}) .handshake :=
    asked ⟨.handshake, o⟩ {} (by simp [named]) (by rw [named]; rfl)
  have told (o : Overrides) (named : o.config = none) :
      (o.apply {}).validate = if o.baud = some 0 then .error .baudRate else .ok () := by
    obtain ⟨o', loaded, parsed, -, -, -, -, -, told⟩ := checked _ _ _ (started o named)
    rw [CommandLine.parse_arguments ⟨.handshake, o⟩ (by simp [named])] at parsed
    cases parsed
    exact told
  exact ⟨(Settings.validate_eq_ok_iff {}).mpr Settings.usable_default, started stopped rfl,
    told stopped rfl, started slow rfl, told slow rfl⟩

end Program
end LegLink
