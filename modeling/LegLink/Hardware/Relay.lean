import LegLink.Device

set_option autoImplicit false

namespace LegLink

class OutputPin (π : Type) where
  set : Bool → π → π
  isHigh : π → Bool

-- A pin that refuses a write keeps its level.
class RawPin (ρ : Type) where
  write : Bool → ρ → Bool × ρ

structure TrackedPin (ρ : Type) where
  pin : ρ
  high : Bool := false

namespace TrackedPin

variable {ρ : Type} [RawPin ρ]

-- Drives the pin low first and takes it to be low, even if it refuses.
def ofPin (pin : ρ) : TrackedPin ρ := { pin := (RawPin.write false pin).2 }

def set (level : Bool) (p : TrackedPin ρ) : TrackedPin ρ :=
  match RawPin.write level p.pin with
  | (true, pin) => { pin, high := level }
  | (false, pin) => { p with pin }

instance : OutputPin (TrackedPin ρ) where
  set := set
  isHigh := TrackedPin.high

end TrackedPin

structure FreePin where
  level : Bool := false

instance : RawPin FreePin where
  write level _ := (true, ⟨level⟩)

structure PinLog where
  fails : Bool := false
  writes : List Bool := []

instance : RawPin PinLog where
  write level p := if p.fails then (false, p) else (true, { p with writes := p.writes ++ [level] })

structure PinRelay (π : Type) where
  pin : π
  inverted : Bool
  on : Bool := false

namespace PinRelay

variable {π : Type} [OutputPin π]

-- What is reported is the power asked for, whatever the pin makes of it.
def setPower (on : Bool) (r : PinRelay π) : PinRelay π :=
  { r with on, pin := OutputPin.set (on != r.inverted) r.pin }

def ofPin (pin : π) (inverted : Bool) : PinRelay π := setPower false { pin, inverted }

instance : PowerRelay (PinRelay π) where
  setPower := setPower
  isPowered := PinRelay.on

end PinRelay
end LegLink
