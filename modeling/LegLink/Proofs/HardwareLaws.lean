import LegLink.Hardware.Log
import LegLink.Hardware.Relay
import LegLink.Hardware.Servos
import LegLink.Proofs.Codec

set_option autoImplicit false

namespace LegLink

class LawfulServoBank (β : Type) [ServoBank β] : Prop where
  calibration_set_calibration (c d : Channel) (pair : Calibration) (bank : β) :
    ServoBank.calibration d (ServoBank.setCalibration c pair bank) =
      if c = d then pair.range else ServoBank.calibration d bank
  calibration_set_angle (c d : Channel) (angle : Single) (bank : β) :
    ServoBank.calibration d (ServoBank.setAngle c angle bank) = ServoBank.calibration d bank

class LawfulRelay (δ : Type) [PowerRelay δ] : Prop where
  is_powered_set_power (on : Bool) (relay : δ) :
    PowerRelay.isPowered (PowerRelay.setPower on relay) = on

class LawfulPulse (π : Type) [PulseOutput π] : Prop where
  width_set_width (micros : Single) (output : π) :
    PulseOutput.width (PulseOutput.setWidth micros output) = some micros
  width_disable (output : π) : PulseOutput.width (PulseOutput.disable output) = none

instance : LawfulServoBank ServoLog where
  calibration_set_calibration c d pair bank := PerChannel.get_set bank.ranges c d pair.range
  calibration_set_angle _ _ _ _ := rfl

instance {π : Type} [PulseOutput π] : LawfulServoBank (Servos π) where
  calibration_set_calibration c d pair bank := PerChannel.get_set bank.ranges c d pair.range
  calibration_set_angle _ _ _ _ := rfl

instance : LawfulRelay RelayLog where
  is_powered_set_power on relay := by
    change (relay.writes ++ [on]).getLastD false = on
    rw [List.getLastD_eq_getLast?, List.getLast?_append]
    rfl

instance {π : Type} [OutputPin π] : LawfulRelay (PinRelay π) where
  is_powered_set_power _ _ := rfl

instance : LawfulPulse IdealPulse where
  width_set_width _ _ := rfl
  width_disable _ := rfl

namespace ServoBank

variable {β : Type} [ServoBank β] [LawfulServoBank β]

theorem calibration_foldl (table : CalibrationTable) (channels : List Channel) (bank : β)
    (d : Channel) (settled : d ∈ channels ∨ calibration d bank = (table.get d).range) :
    calibration d (channels.foldl (fun bank c => setCalibration c (table.get c) bank) bank) =
      (table.get d).range := by
  induction channels generalizing bank with
  | nil => exact settled.resolve_left List.not_mem_nil
  | cons c channels ih =>
    apply ih
    rw [LawfulServoBank.calibration_set_calibration]
    by_cases here : c = d
    · right
      rw [if_pos here, here]
    · rw [if_neg here]
      refine settled.imp_left fun member => ?_
      exact (List.mem_cons.mp member).resolve_left fun same => here same.symm

theorem calibration_apply_table (table : CalibrationTable) (bank : β) (d : Channel) :
    calibration d (applyTable table bank) = (table.get d).range := by
  unfold applyTable
  exact calibration_foldl table (List.finRange _) bank d (.inl (List.mem_finRange d))

theorem calibrations_apply_table (table : CalibrationTable) (bank : β) :
    calibrations (applyTable table bank) = table.ranges := by
  refine PerChannel.of_fn_eq table.ranges _ fun c => ?_
  rw [calibration_apply_table]
  exact (Vector.getElem_map Calibration.range c.isLt).symm

theorem calibrations_set_angle (c : Channel) (angle : Single) (bank : β) :
    calibrations (setAngle c angle bank) = calibrations bank :=
  congrArg Vector.ofFn (funext fun d => LawfulServoBank.calibration_set_angle c d angle bank)

end ServoBank

structure WatchedServos (β : Type) where
  bank : β
  moves : List (Channel × Single) := []

namespace WatchedServos

variable {β : Type} [ServoBank β]

instance : ServoBank (WatchedServos β) where
  setCalibration c pair w := { w with bank := ServoBank.setCalibration c pair w.bank }
  calibration c w := ServoBank.calibration c w.bank
  setAngle c angle w :=
    { bank := ServoBank.setAngle c angle w.bank, moves := w.moves ++ [(c, angle)] }

instance [LawfulServoBank β] : LawfulServoBank (WatchedServos β) where
  calibration_set_calibration c d pair w :=
    LawfulServoBank.calibration_set_calibration c d pair w.bank
  calibration_set_angle c d angle w := LawfulServoBank.calibration_set_angle c d angle w.bank

def lastMove? (w : WatchedServos β) (c : Channel) : Option Single :=
  (w.moves.reverse.find? fun move => move.1 = c).map Prod.snd

theorem last_move_set_angle (w : WatchedServos β) (c : Channel) (angle : Single) :
    lastMove? (ServoBank.setAngle c angle w) c = some angle := by
  have last : (w.moves ++ [(c, angle)]).reverse = (c, angle) :: w.moves.reverse := by
    rw [List.reverse_append]
    rfl
  change ((w.moves ++ [(c, angle)]).reverse.find? _).map Prod.snd = _
  simp only [last, List.find?_cons, decide_true, Option.map_some]

end WatchedServos

inductive Input where
  | current
  | voltage
  | sensor (channel : UInt8)
deriving DecidableEq

structure WatchedInputs (γ : Type) where
  inputs : γ
  samples : List (Input × Option Single) := []

namespace WatchedInputs

variable {γ : Type} [AnalogSensors γ]

def note (input : Input) (read : Option Single × γ) (w : WatchedInputs γ) :
    Option Single × WatchedInputs γ :=
  (read.1, { inputs := read.2, samples := w.samples ++ [(input, read.1)] })

instance : AnalogSensors (WatchedInputs γ) where
  readCurrent w := w.note .current (AnalogSensors.readCurrent w.inputs)
  readVoltage w := w.note .voltage (AnalogSensors.readVoltage w.inputs)
  readSensor channel w := w.note (.sensor channel) (AnalogSensors.readSensor channel w.inputs)

end WatchedInputs
end LegLink
