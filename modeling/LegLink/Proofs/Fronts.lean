import LegLink.Handshake
import LegLink.Proofs.Items

set_option autoImplicit false

namespace LegLink

-- Reading gives a value as soon as `size` bytes are there, the value is written as the first `size`
-- bytes, and only these decide which it is.
structure ReadsFront {ι α : Type} (data : ι → Bytes) (size : Nat) (write : α → Bytes)
    (read : ι → Option α) : Prop where
  none_iff (x : ι) : read x = none ↔ (data x).length < size
  written (x : ι) (value : α) (found : read x = some value) : write value = (data x).take size
  leading (x y : ι) (same : (data x).take size = (data y).take size) : read x = read y

theorem Bytes.length_lt_congr {data other : Bytes} {n : Nat} (same : data.take n = other.take n) :
    data.length < n ↔ other.length < n := by
  have lengths := congrArg List.length same
  simp only [List.length_take] at lengths
  omega

namespace ReadsFront

variable {ι α : Type} {data : ι → Bytes} {size : Nat} {write : α → Bytes} {read : ι → Option α}

theorem of_append (none_iff : ∀ x, read x = none ↔ (data x).length < size)
    (written : ∀ x value, read x = some value → write value = (data x).take size)
    (back : ∀ x value rest, data x = write value ++ rest → read x = some value) :
    ReadsFront data size write read where
  none_iff := none_iff
  written := written
  leading x y same := by
    cases found : read x with
    | none =>
      have short := (Bytes.length_lt_congr same).mp ((none_iff x).mp found)
      exact ((none_iff y).mpr short).symm
    | some value =>
      have front : write value = (data y).take size := (written x value found).trans same
      have whole : data y = write value ++ (data y).drop size := by
        rw [front, List.take_append_drop]
      exact (back y value _ whole).symm

end ReadsFront

theorem PerChannel.reads_front_table {ι α : Type} {size : Nat} {bytes : α → Bytes}
    {item : Bytes → Nat → α} (fixed : FixedSize size bytes item) (data : ι → Bytes) :
    ReadsFront data (servoCount * size) (fun v : PerChannel α => v.flatten bytes)
      fun x => ofBytes? size item (data x) := by
  constructor
  case none_iff =>
    intro x
    simp [ofBytes?]
  case written =>
    intro x v read
    exact flatten_of_of_bytes fixed (data x) v read
  case leading =>
    intro x y same
    have items (c : Channel) : item (data x) (size * c.val) = item (data y) (size * c.val) := by
      rw [← item_take fixed (data x) c, same, item_take fixed (data y) c]
    simp only [ofBytes?, Bytes.length_lt_congr same, items]

theorem Request.table_reads_front :
    ReadsFront id 72 (fun t : CalibrationTable => t.flatten Calibration.bytes) table? :=
  PerChannel.reads_front_table Calibration.fixed_size id

namespace Reply

theorem calibrations_reads_front :
    ReadsFront (fun p : Packet => p.payload.bytes) 144
      (fun ranges : PerChannel PulseRange => ranges.flatten PulseRange.bytes) calibrations? :=
  PerChannel.reads_front_table PulseRange.fixed_size fun p : Packet => p.payload.bytes

theorem single_reads_front :
    ReadsFront (fun p : Packet => p.payload.bytes) 4 Bytes.ofSingle single? := by
  apply ReadsFront.of_append
  · intro p
    rcases data : p.payload.bytes with - | ⟨a, - | ⟨b, - | ⟨c, - | ⟨d, rest⟩⟩⟩⟩ <;>
      simp [single?, data]
  · intro p value found
    rcases data : p.payload.bytes with - | ⟨a, - | ⟨b, - | ⟨c, - | ⟨d, rest⟩⟩⟩⟩ <;>
      simp [single?, data] at found
    subst found
    simp [Bytes.ofSingle, Bytes.single, Bytes.of_long_long]
  · intro p value rest whole
    simp [single?, whole, Bytes.ofSingle, Bytes.ofLong, Bytes.single, Bytes.long_of_long]

theorem command_ack_reads_front :
    ReadsFront (fun p : Packet => p.payload.bytes) 2
      (fun ack : UInt8 × UInt8 => [ack.1, ack.2]) commandAck? := by
  apply ReadsFront.of_append
  · intro p
    rcases data : p.payload.bytes with - | ⟨command, - | ⟨status, rest⟩⟩ <;>
      simp [commandAck?, data]
  · intro p ack found
    rcases data : p.payload.bytes with - | ⟨command, - | ⟨status, rest⟩⟩ <;>
      simp [commandAck?, data] at found
    simp [← found]
  · intro p ack rest whole
    simp [commandAck?, whole]

end Reply

theorem HelloAck.reads_front :
    ReadsFront id 3 (fun a : HelloAck => [a.version, a.status, a.deviceId]) ofBytes? := by
  apply ReadsFront.of_append
  · rintro (- | ⟨version, - | ⟨status, - | ⟨deviceId, rest⟩⟩⟩) <;> simp [ofBytes?]
  · rintro (- | ⟨version, - | ⟨status, - | ⟨deviceId, rest⟩⟩⟩) a found <;>
      simp [ofBytes?] at found
    simp [← found]
  · rintro _ a rest rfl
    rfl

theorem Hello.reads_front :
    ReadsFront id 2 (fun h : Hello => [h.version, h.capabilities]) ofBytes? := by
  apply ReadsFront.of_append
  · rintro (- | ⟨version, - | ⟨capabilities, rest⟩⟩) <;> simp [ofBytes?]
  · rintro (- | ⟨version, - | ⟨capabilities, rest⟩⟩) h found <;> simp [ofBytes?] at found
    simp [← found]
  · rintro _ h rest rfl
    rfl

end LegLink
