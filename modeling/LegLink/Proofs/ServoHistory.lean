import LegLink.Proofs.HardwareLaws

set_option autoImplicit false

namespace LegLink.Servos

inductive Call where
  | setCalibration (channel : Channel) (pair : Calibration)
  | applyTable (table : CalibrationTable)
  | setAngle (channel : Channel) (angle : Single)
  | disableAll
deriving DecidableEq

namespace Call

def pair? (c : Channel) : Call → Option Calibration
  | setCalibration channel pair => if channel = c then some pair else none
  | applyTable table => some (table.get c)
  | setAngle _ _ | disableAll => none

def drives (c : Channel) : Call → Bool
  | setAngle channel _ => channel = c
  | disableAll => true
  | setCalibration _ _ | applyTable _ => false

def channel? : Call → Option Channel
  | setCalibration channel _ | setAngle channel _ => some channel
  | applyTable _ | disableAll => none

variable {c d : Channel}

theorem pair_of_other (call : Call) (about : call.channel? = some d) (other : d ≠ c) :
    call.pair? c = none := by
  cases call with
  | setCalibration channel pair =>
    obtain rfl : channel = d := Option.some.inj about
    exact if_neg other
  | setAngle channel angle => rfl
  | applyTable table => nomatch about
  | disableAll => nomatch about

theorem quiet_of_other (call : Call) (about : call.channel? = some d) (other : d ≠ c) :
    call.drives c = false := by
  cases call with
  | setCalibration channel pair => rfl
  | setAngle channel angle =>
    obtain rfl : channel = d := Option.some.inj about
    exact decide_eq_false other
  | applyTable table => rfl
  | disableAll => nomatch about

theorem quiet_of_pair (call : Call) (gives : call.pair? c ≠ none) : call.drives c = false := by
  cases call with
  | setCalibration channel pair => rfl
  | applyTable table => rfl
  | setAngle channel angle => exact absurd rfl gives
  | disableAll => exact absurd rfl gives

end Call

variable {π : Type} [PulseOutput π]

def perform (bank : Servos π) : Call → Servos π
  | .setCalibration channel pair => ServoBank.setCalibration channel pair bank
  | .applyTable table => ServoBank.applyTable table bank
  | .setAngle channel angle => ServoBank.setAngle channel angle bank
  | .disableAll => bank.disableAll

def performAll (calls : List Call) (bank : Servos π) : Servos π := calls.foldl perform bank

theorem perform_all_append (first later : List Call) (bank : Servos π) :
    performAll (first ++ later) bank = performAll later (performAll first bank) :=
  List.foldl_append

def width (c : Channel) (bank : Servos π) : Option Single := PulseOutput.width (bank.outputs.get c)

def lastPair (table : CalibrationTable) (calls : List Call) (c : Channel) : Calibration :=
  (calls.reverse.findSome? (Call.pair? c)).getD (table.get c)

def LastMove (c : Channel) (calls before : List Call) (angle : Single) : Prop :=
  ∃ after, calls = before ++ .setAngle c angle :: after ∧ ∀ call ∈ after, call.drives c = false

section Calibrations

variable (c : Channel)

theorem calibration_perform (call : Call) (bank : Servos π) :
    ServoBank.calibration c (perform bank call) =
      ((call.pair? c).map Calibration.range).getD (ServoBank.calibration c bank) := by
  cases call with
  | setCalibration channel pair =>
    rw [perform, LawfulServoBank.calibration_set_calibration, Call.pair?]
    split <;> rfl
  | applyTable table => exact ServoBank.calibration_apply_table table bank c
  | setAngle channel angle => rfl
  | disableAll => rfl

theorem calibration_perform_all (calls : List Call) (bank : Servos π) :
    ServoBank.calibration c (performAll calls bank) =
      ((calls.reverse.findSome? (Call.pair? c)).map Calibration.range).getD
        (ServoBank.calibration c bank) := by
  induction calls generalizing bank with
  | nil => rfl
  | cons call later ih =>
    have step : performAll (call :: later) bank = performAll later (perform bank call) := rfl
    rw [step, ih, calibration_perform, List.reverse_cons, List.findSome?_append,
      List.findSome?_singleton]
    cases later.reverse.findSome? (Call.pair? c) <;> rfl

theorem calibration_of_table (outputs : PerChannel π) (table : CalibrationTable) :
    ServoBank.calibration c (ofTable outputs table) = (table.get c).range :=
  ServoBank.calibration_apply_table table _ c

theorem calibration_history (outputs : PerChannel π) (table : CalibrationTable)
    (calls : List Call) :
    ServoBank.calibration c (performAll calls (ofTable outputs table)) =
      (lastPair table calls c).range := by
  rw [calibration_perform_all, calibration_of_table, lastPair]
  cases calls.reverse.findSome? (Call.pair? c) <;> rfl

end Calibrations

section Pulses

theorem outputs_apply_table (table : CalibrationTable) (bank : Servos π) :
    (ServoBank.applyTable table bank).outputs = bank.outputs := by
  unfold ServoBank.applyTable
  induction Channel.all generalizing bank with
  | nil => rfl
  | cons c channels ih => exact ih (ServoBank.setCalibration c (table.get c) bank)

variable (c : Channel)

theorem width_perform_quiet (call : Call) (bank : Servos π) (quiet : call.drives c = false) :
    width c (perform bank call) = width c bank := by
  cases call with
  | setCalibration channel pair => rfl
  | applyTable table => rw [perform, width, outputs_apply_table, width]
  | setAngle channel angle =>
    have other : channel ≠ c := of_decide_eq_false quiet
    rw [perform, width, width]
    exact congrArg PulseOutput.width ((PerChannel.get_set _ _ _ _).trans (if_neg other))
  | disableAll => exact Bool.noConfusion quiet

theorem width_perform_all_quiet (calls : List Call) (bank : Servos π)
    (quiet : ∀ call ∈ calls, call.drives c = false) :
    width c (performAll calls bank) = width c bank := by
  induction calls generalizing bank with
  | nil => rfl
  | cons call later ih =>
    rw [List.forall_mem_cons] at quiet
    exact (ih (perform bank call) quiet.2).trans (width_perform_quiet c call bank quiet.1)

theorem width_of_table (outputs : PerChannel π) (table : CalibrationTable) :
    width c (ofTable outputs table) = PulseOutput.width (outputs.get c) := by
  rw [width, ofTable, outputs_apply_table]

theorem last_drive_eq_some_iff (calls : List Call) (call : Call) :
    calls.reverse.find? (Call.drives c) = some call ↔ call.drives c = true ∧
      ∃ before after, calls = before ++ call :: after ∧
        ∀ later ∈ after, later.drives c = false := by
  rw [List.find?_eq_some_iff_append]
  refine and_congr_right fun _ => ⟨?_, ?_⟩
  · rintro ⟨after, before, split, quiet⟩
    refine ⟨before.reverse, after.reverse, ?_, fun later member => ?_⟩
    · rw [← List.reverse_reverse calls, split]
      simp
    · simpa using quiet later (List.mem_reverse.mp member)
  · rintro ⟨before, after, rfl, quiet⟩
    refine ⟨after.reverse, before.reverse, by simp, fun later member => ?_⟩
    simpa using quiet later (List.mem_reverse.mp member)

variable [LawfulPulse π]

theorem width_set_angle (angle : Single) (bank : Servos π) :
    width c (perform bank (.setAngle c angle)) =
      some (pulseFor (ServoBank.calibration c bank) angle) := by
  have output := PerChannel.get_set bank.outputs c c
    (PulseOutput.setWidth (pulseFor (bank.ranges.get c) angle) (bank.outputs.get c))
  rw [if_pos rfl] at output
  exact (congrArg PulseOutput.width output).trans (LawfulPulse.width_set_width _ _)

theorem width_disable_all (bank : Servos π) : width c (perform bank .disableAll) = none := by
  have output : (bank.outputs.map PulseOutput.disable).get c =
      PulseOutput.disable (bank.outputs.get c) := Vector.getElem_map _ c.isLt
  exact (congrArg PulseOutput.width output).trans (LawfulPulse.width_disable _)

theorem width_moved (before after : List Call) (angle : Single) (bank : Servos π)
    (quiet : ∀ call ∈ after, call.drives c = false) :
    width c (performAll (before ++ .setAngle c angle :: after) bank) =
      some (pulseFor (ServoBank.calibration c (performAll before bank)) angle) := by
  rw [perform_all_append]
  exact (width_perform_all_quiet c after _ quiet).trans (width_set_angle c angle _)

theorem width_stopped (before after : List Call) (bank : Servos π)
    (quiet : ∀ call ∈ after, call.drives c = false) :
    width c (performAll (before ++ .disableAll :: after) bank) = none := by
  rw [perform_all_append]
  exact (width_perform_all_quiet c after _ quiet).trans (width_disable_all c _)

theorem width_unmoved (calls : List Call) (bank : Servos π)
    (unmoved : ∀ before angle, ¬ LastMove c calls before angle)
    (idle : .disableAll ∈ calls ∨ width c bank = none) :
    width c (performAll calls bank) = none := by
  cases found : calls.reverse.find? (Call.drives c) with
  | none =>
    have quiet : ∀ call ∈ calls, call.drives c = false := fun call member =>
      Bool.eq_false_of_not_eq_true (List.find?_eq_none.mp found call (List.mem_reverse.mpr member))
    rw [width_perform_all_quiet c calls bank quiet]
    exact idle.resolve_left fun stopped => Bool.noConfusion (quiet .disableAll stopped)
  | some call =>
    obtain ⟨drives, before, after, rfl, quiet⟩ := (last_drive_eq_some_iff c calls call).mp found
    cases call with
    | setCalibration channel pair => exact Bool.noConfusion drives
    | applyTable table => exact Bool.noConfusion drives
    | setAngle channel angle =>
      obtain rfl : channel = c := of_decide_eq_true drives
      exact absurd ⟨after, rfl, quiet⟩ (unmoved before angle)
    | disableAll => exact width_stopped c before after bank quiet

end Pulses

/-- The calibration of a channel is the pair it was given last. Its pulse is that of its latest
move, as it was calibrated at that moment, if the servos were not stopped since; else there is none,
and only an output that came with a pulse keeps that until it is first moved or stopped. -/
theorem follows_history [LawfulPulse π] (outputs : PerChannel π) (table : CalibrationTable)
    (calls : List Call) (c : Channel) :
    let bank := performAll calls (ofTable outputs table)
    ServoBank.calibration c bank = (lastPair table calls c).range ∧
    (ServoBank.calibrations bank).get c = (lastPair table calls c).range ∧
    (∀ before angle, LastMove c calls before angle →
      width c bank = some (pulseFor (lastPair table before c).range angle)) ∧
    ((∀ before angle, ¬ LastMove c calls before angle) →
      .disableAll ∈ calls ∨ PulseOutput.width (outputs.get c) = none → width c bank = none) ∧
    ((∀ call ∈ calls, call.drives c = false) →
      width c bank = PulseOutput.width (outputs.get c)) ∧
    (∀ call d, call.channel? = some d → d ≠ c →
      ServoBank.calibration c (perform bank call) = ServoBank.calibration c bank ∧
        width c (perform bank call) = width c bank) ∧
    ∀ call, call.pair? c ≠ none → width c (perform bank call) = width c bank := by
  intro bank
  have calibrated := calibration_history c outputs table calls
  refine ⟨calibrated, ?list, ?moved, ?unmoved, ?quiet, ?other, ?recalibrated⟩
  case list => exact (PerChannel.get_of_fn _ c).trans calibrated
  case moved =>
    rintro before angle ⟨after, rfl, quiet⟩
    rw [width_moved c before after angle _ quiet, calibration_history]
  case unmoved =>
    intro unmoved idle
    rw [← width_of_table c outputs table] at idle
    exact width_unmoved c calls _ unmoved idle
  case quiet =>
    intro quiet
    exact (width_perform_all_quiet c calls _ quiet).trans (width_of_table c outputs table)
  case other =>
    intro call d about other
    refine ⟨?_, width_perform_quiet c call bank (call.quiet_of_other about other)⟩
    rw [calibration_perform, call.pair_of_other about other]
    rfl
  case recalibrated =>
    intro call gives
    exact width_perform_quiet c call bank (call.quiet_of_pair gives)

theorem follows_history_recalibrated :
    let one : Channel := ⟨0, by decide⟩
    let other : Channel := ⟨1, by decide⟩
    let table : CalibrationTable := Vector.replicate servoCount ⟨900, 2100⟩
    let calls : List Call := [.setAngle one .one, .setCalibration one ⟨1000, 2000⟩,
      .setAngle other .half, .disableAll, .setAngle other .one, .applyTable table,
      .setCalibration one ⟨1100, 1900⟩]
    let outputs : PerChannel IdealPulse := Vector.replicate servoCount {}
    let bank := performAll calls (ofTable outputs .factory)
    ServoBank.calibration one bank = Calibration.range ⟨1100, 1900⟩ ∧ width one bank = none ∧
      (ServoBank.calibrations bank).get other = Calibration.range ⟨900, 2100⟩ ∧
      width other bank = some (pulseFor (Calibration.range ⟨1003, 2016⟩) .one) := by
  intro one other table calls outputs bank
  obtain ⟨first, _, _, stopped, _⟩ := follows_history outputs .factory calls one
  obtain ⟨_, second, moved, _⟩ := follows_history outputs .factory calls other
  have unmoved (before : List Call) (angle : Single) : ¬ LastMove one calls before angle := by
    rintro ⟨after, split, quiet⟩
    have halted : calls.reverse.find? (Call.drives one) = some .disableAll := by decide
    have found := (last_drive_eq_some_iff one calls (.setAngle one angle)).mpr
      ⟨rfl, before, after, split, quiet⟩
    exact nomatch halted.symm.trans found
  have last : LastMove other calls (calls.take 4) .one := ⟨calls.drop 5, rfl, by decide⟩
  have own : lastPair .factory calls one = ⟨1100, 1900⟩ := by decide
  have listed : lastPair .factory calls other = ⟨900, 2100⟩ := by decide
  have earlier : lastPair .factory (calls.take 4) other = ⟨1003, 2016⟩ := by decide
  rw [own] at first
  rw [listed] at second
  have pulse := moved _ _ last
  rw [earlier] at pulse
  exact ⟨first, stopped unmoved (.inl (by decide)), second, pulse⟩

end LegLink.Servos
