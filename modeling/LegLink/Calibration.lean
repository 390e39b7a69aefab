import LegLink.Bytes
import LegLink.Joint

set_option autoImplicit false

namespace LegLink

-- The pulse widths, in microseconds, at the two ends of a servo's travel.
structure Calibration where
  minPulse : UInt16
  maxPulse : UInt16
deriving DecidableEq, Inhabited

structure PulseRange where
  minPulse : Single
  maxPulse : Single
deriving DecidableEq, Inhabited

abbrev PerChannel (α : Type) := Vector α servoCount

abbrev CalibrationTable := PerChannel Calibration

namespace Calibration

def bytes (c : Calibration) : Bytes := Bytes.ofWord c.minPulse ++ Bytes.ofWord c.maxPulse

def range (c : Calibration) : PulseRange := ⟨Single.ofWord c.minPulse, Single.ofWord c.maxPulse⟩

theorem length_bytes (c : Calibration) : c.bytes.length = 4 := rfl

end Calibration

namespace PulseRange

def bytes (r : PulseRange) : Bytes := Bytes.ofSingle r.minPulse ++ Bytes.ofSingle r.maxPulse

theorem length_bytes (r : PulseRange) : r.bytes.length = 8 := rfl

def same (a b : PulseRange) : Bool := a.minPulse.same b.minPulse && a.maxPulse.same b.maxPulse

end PulseRange

namespace PerChannel

variable {α : Type}

def ofList [Inhabited α] (l : List α) : PerChannel α :=
  Vector.ofFn fun c : Channel => l.getD c.val default

def get (v : PerChannel α) (c : Channel) : α := Vector.get v c

def set (v : PerChannel α) (c : Channel) (a : α) : PerChannel α := Vector.set v c.val a c.isLt

theorem get_set (v : PerChannel α) (c d : Channel) (a : α) :
    (v.set c a).get d = if c = d then a else v.get d := by
  have same : c.val = d.val ↔ c = d := ⟨Fin.eq_of_val_eq, fun h => h ▸ rfl⟩
  change (Vector.set v c.val a c.isLt)[d.val] = if c = d then a else v[d.val]
  simp only [Vector.getElem_set, same]

def flatten (v : PerChannel α) (bytes : α → Bytes) : Bytes := v.toList.flatMap bytes

theorem length_flat_map (l : List α) (bytes : α → Bytes) (n : Nat)
    (each : ∀ a, (bytes a).length = n) : (l.flatMap bytes).length = l.length * n := by
  induction l with
  | nil => simp
  | cons a l ih => simp only [List.flatMap_cons, List.length_append, ih, each, List.length_cons,
      Nat.succ_mul, Nat.add_comm]

theorem length_flatten (v : PerChannel α) (bytes : α → Bytes) (n : Nat)
    (each : ∀ a, (bytes a).length = n) : (v.flatten bytes).length = servoCount * n := by
  rw [flatten, length_flat_map _ _ n each, Vector.length_toList]

end PerChannel

namespace CalibrationTable

def factory : CalibrationTable := #v[
  ⟨1031, 2088⟩, ⟨1003, 2016⟩, ⟨958, 1990⟩, ⟨941, 2022⟩, ⟨986, 2039⟩, ⟨958, 1988⟩,
  ⟨1007, 2048⟩, ⟨976, 2019⟩, ⟨1057, 2090⟩, ⟨993, 2015⟩, ⟨1011, 2013⟩, ⟨956, 2000⟩,
  ⟨1040, 2055⟩, ⟨983, 2057⟩, ⟨959, 1995⟩, ⟨1031, 1998⟩, ⟨951, 1978⟩, ⟨1035, 2027⟩]

def ranges (t : CalibrationTable) : PerChannel PulseRange := t.map Calibration.range

end CalibrationTable
end LegLink
