import LegLink.Device

set_option autoImplicit false

namespace LegLink

structure ServoLog where
  ranges : PerChannel PulseRange := Vector.replicate servoCount default
  moves : List (Channel × Single) := []
  sets : Nat := 0

instance : ServoBank ServoLog where
  setCalibration c pair s := { s with ranges := s.ranges.set c pair.range, sets := s.sets + 1 }
  calibration c s := s.ranges.get c
  setAngle c angle s := { s with moves := s.moves ++ [(c, angle)] }

structure SensorLog where
  current : Option Single := none
  voltage : Option Single := none
  sensors : List (Option Single) := []
  channels : List UInt8 := []

namespace SensorLog

def sensor (channel : UInt8) (s : SensorLog) : Option Single :=
  (s.sensors[channel.toNat % s.sensors.length]?).join

instance : AnalogSensors SensorLog where
  readCurrent s := (s.current, s)
  readVoltage s := (s.voltage, s)
  readSensor channel s := (s.sensor channel, { s with channels := s.channels ++ [channel] })

end SensorLog

structure RelayLog where
  writes : List Bool := []

instance : PowerRelay RelayLog where
  setPower on r := { r with writes := r.writes ++ [on] }
  isPowered r := r.writes.getLastD false

end LegLink
