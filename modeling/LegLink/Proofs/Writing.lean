import LegLink.Frame

set_option autoImplicit false

namespace LegLink

namespace Scalar

def row (values : List Scalar) : Bytes := values.flatMap bytes

@[simp] theorem row_cons (value : Scalar) (values : List Scalar) :
    row (value :: values) = value.bytes ++ row values := List.flatMap_cons

theorem row_flat_map {α : Type} (items : List α) (values : α → List Scalar) :
    row (items.flatMap values) = items.flatMap fun item => row (values item) :=
  List.flatMap_assoc

end Scalar

namespace Payload

@[simp] theorem of_bytes_bytes (p : Payload) : ofBytes? p.bytes = some p := dif_pos p.fits

def putAll? : List Scalar → Payload → Option Payload
  | [], p => some p
  | value :: rest, p =>
    match p.put? value with
    | some p => putAll? rest p
    | none => none

theorem put_all_eq (values : List Scalar) (p : Payload) :
    p.putAll? values = ofBytes? (p.bytes ++ Scalar.row values) := by
  induction values generalizing p with
  | nil => simp [putAll?, Scalar.row]
  | cons value rest ih =>
    by_cases fits : (p.bytes ++ value.bytes).length ≤ maxPayload
    · have put : p.put? value = some ⟨p.bytes ++ value.bytes, fits⟩ := dif_pos fits
      simp [putAll?, put, ih]
    · have refused : p.put? value = none := dif_neg fits
      have larger : maxPayload < (p.bytes ++ Scalar.row (value :: rest)).length := by
        simp only [Scalar.row_cons, List.length_append] at fits ⊢
        omega
      simpa only [putAll?, refused] using ((of_bytes_eq_none_iff _).mpr larger).symm

end Payload

namespace Packet

@[simp] theorem of_bytes_bytes (p : Packet) : ofBytes p.seq p.cmd p.payload.bytes = .ok p := by
  simp [ofBytes]

def ofScalars (seq : UInt16) (cmd : UInt8) (values : List Scalar) : Except FrameError Packet :=
  match Payload.empty.putAll? values with
  | some payload => ofBytes seq cmd payload.bytes
  | none => .error .payloadTooLarge

theorem of_scalars_eq (seq : UInt16) (cmd : UInt8) (values : List Scalar) :
    ofScalars seq cmd values = ofBytes seq cmd (Scalar.row values) := by
  have put : Payload.empty.putAll? values = Payload.ofBytes? (Scalar.row values) :=
    Payload.put_all_eq values Payload.empty
  by_cases fits : (Scalar.row values).length ≤ maxPayload
  · have whole : Payload.ofBytes? (Scalar.row values) = some ⟨Scalar.row values, fits⟩ :=
      dif_pos fits
    simp [ofScalars, put, whole]
  · have refused : Payload.ofBytes? (Scalar.row values) = none := dif_neg fits
    simp [ofScalars, ofBytes, put, refused]

theorem of_scalars_row (p : Packet) (values : List Scalar)
    (same : Scalar.row values = p.payload.bytes) : ofScalars p.seq p.cmd values = .ok p := by
  rw [of_scalars_eq, same, of_bytes_bytes]

end Packet
end LegLink
