import LegLink.Bytes
import LegLink.Device

set_option autoImplicit false

namespace LegLink

class PulseOutput (π : Type) where
  setWidth : Single → π → π
  disable : π → π
  width : π → Option Single

structure IdealPulse where
  width : Option Single := none
deriving DecidableEq, Inhabited

instance : PulseOutput IdealPulse where
  setWidth micros _ := ⟨some micros⟩
  disable _ := ⟨none⟩
  width := IdealPulse.width

class DutyChannel (χ : Type) where
  fullScale : χ → UInt16
  setDuty : UInt16 → χ → Bool × χ

structure DutyPulse (χ : Type) where
  channel : χ
  periodMicros : UInt32
  width : Option Single := none

namespace DutyPulse

def servoPeriod : UInt32 := 20000

variable {χ : Type} [DutyChannel χ]

def duty (p : DutyPulse χ) (micros : Single) : UInt16 :=
  let fraction := (micros / Single.ofCount p.periodMicros).clamp .zero .one
  (fraction * Single.ofWord (DutyChannel.fullScale p.channel) + .half).toWord

def setWidth (micros : Single) (p : DutyPulse χ) : DutyPulse χ :=
  match DutyChannel.setDuty (p.duty micros) p.channel with
  | (true, channel) => { p with channel, width := some micros }
  | (false, channel) => { p with channel }

def disable (p : DutyPulse χ) : DutyPulse χ :=
  match DutyChannel.setDuty 0 p.channel with
  | (true, channel) => { p with channel, width := none }
  | (false, channel) => { p with channel }

instance : PulseOutput (DutyPulse χ) where
  setWidth := setWidth
  disable := disable
  width := DutyPulse.width

end DutyPulse

structure DutyLog where
  fullScale : UInt16
  fails : Bool := false
  duties : List UInt16 := []

instance : DutyChannel DutyLog where
  fullScale := DutyLog.fullScale
  setDuty count c :=
    if c.fails then (false, c) else (true, { c with duties := c.duties ++ [count] })

structure Servos (π : Type) where
  outputs : PerChannel π
  ranges : PerChannel PulseRange

namespace Servos

variable {π : Type} [PulseOutput π]

def minAngle : Single := .ofFloat (-45)
def maxAngle : Single := .ofFloat 45

def pulseFor (r : PulseRange) (angle : Single) : Single :=
  let fraction := (angle.clamp minAngle maxAngle - minAngle) / (maxAngle - minAngle)
  r.minPulse + fraction * (r.maxPulse - r.minPulse)

-- An angle is laid between the two ends of the servo's calibration as it is at that moment; a later
-- calibration leaves the pulse as it is.
instance : ServoBank (Servos π) where
  setCalibration c pair bank := { bank with ranges := bank.ranges.set c pair.range }
  calibration c bank := bank.ranges.get c
  setAngle c angle bank :=
    let output := PulseOutput.setWidth (pulseFor (bank.ranges.get c) angle) (bank.outputs.get c)
    { bank with outputs := bank.outputs.set c output }

def ofTable (outputs : PerChannel π) (table : CalibrationTable) : Servos π :=
  ServoBank.applyTable table { outputs, ranges := Vector.replicate servoCount default }

def disableAll (bank : Servos π) : Servos π :=
  { bank with outputs := bank.outputs.map PulseOutput.disable }

def pulses (bank : Servos π) : List (Channel × Single) :=
  Channel.all.filterMap fun c =>
    (PulseOutput.width (bank.outputs.get c)).map fun width => (c, width)

end Servos
end LegLink
