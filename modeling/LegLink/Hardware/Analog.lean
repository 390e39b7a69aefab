import LegLink.Device

set_option autoImplicit false

namespace LegLink

class AnalogFrontEnd (α : Type) where
  select : UInt8 → α → α
  settle : Duration → α → α
  convert : α → Option UInt16 × α
  fullScale : α → UInt16

structure AnalogConfig where
  vref : Single := .ofFloat 3.3
  voltageGain : Single := .ofFloat 0.28058608
  currentGain : Single := .ofFloat 69
  shuntResistor : Single := .ofFloat 0.003
  currentOffset : Single := .ofFloat (-0.02)
  settleMicros : UInt32 := 5
deriving DecidableEq

structure MuxedSensors (α : Type) where
  frontEnd : α
  config : AnalogConfig := {}

namespace MuxedSensors

-- Addresses of the multiplexer in front of the inputs.
def firstSensor : UInt8 := 0
def voltageSense : UInt8 := 6
def currentSense : UInt8 := 7
def addressMask : UInt8 := 7

variable {α : Type} [AnalogFrontEnd α]

def sample (address : UInt8) (s : MuxedSensors α) : Option Single × MuxedSensors α :=
  let selected := AnalogFrontEnd.select (address &&& addressMask) s.frontEnd
  let settled := if s.config.settleMicros = 0 then selected
    else AnalogFrontEnd.settle (.ofMicros s.config.settleMicros.toNat) selected
  let (raw, frontEnd) := AnalogFrontEnd.convert settled
  let volts := raw.map fun count =>
    Single.ofWord count * s.config.vref / Single.ofWord (AnalogFrontEnd.fullScale frontEnd)
  (volts, { s with frontEnd })

def readCurrent (s : MuxedSensors α) : Option Single × MuxedSensors α :=
  let (volts, s) := s.sample currentSense
  (volts.map fun v => v / s.config.currentGain / s.config.shuntResistor + s.config.currentOffset, s)

def readVoltage (s : MuxedSensors α) : Option Single × MuxedSensors α :=
  let (volts, s) := s.sample voltageSense
  (volts.map fun v => v / s.config.voltageGain, s)

def readSensor (channel : UInt8) (s : MuxedSensors α) : Option Single × MuxedSensors α :=
  s.sample (firstSensor + channel)

instance : AnalogSensors (MuxedSensors α) where
  readCurrent := readCurrent
  readVoltage := readVoltage
  readSensor := readSensor

end MuxedSensors

structure AnalogLog where
  levels : List (Option UInt16)
  fullScale : UInt16
  address : UInt8 := 0
  selected : List UInt8 := []
  waited : Duration := ⟨0⟩

instance : AnalogFrontEnd AnalogLog where
  select address a := { a with address, selected := a.selected ++ [address] }
  settle time a := { a with waited := ⟨a.waited.nanos + time.nanos⟩ }
  convert a := ((a.levels[a.address.toNat]?).join, a)
  fullScale := AnalogLog.fullScale

end LegLink
