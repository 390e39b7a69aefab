import LegLink.Proofs.Codec
import LegLink.Proofs.Fronts
import LegLink.Proofs.Writing

set_option autoImplicit false

namespace LegLink.Reply

def values (ranges : PerChannel PulseRange) : List Scalar :=
  ranges.toList.flatMap fun range => [.f32 range.minPulse, .f32 range.maxPulse]

theorem row_values (ranges : PerChannel PulseRange) :
    Scalar.row (values ranges) = ranges.flatten PulseRange.bytes := by
  rw [values, Scalar.row_flat_map]
  rfl

theorem of_scalars_values (seq : UInt16) (ranges : PerChannel PulseRange) :
    Packet.ofScalars seq Command.getAngleCalibrations.code (values ranges) =
      .ok (calibrations seq ranges) :=
  Packet.of_scalars_row (calibrations seq ranges) _ (row_values ranges)

/-- No reply is refused when it is built, and each is read back as it was built. Each parser reads a
front of fixed size, whatever follows it. -/
theorem replies_exact :
    (∀ (seq : UInt16) (ranges : PerChannel PulseRange),
      Packet.ofScalars seq Command.getAngleCalibrations.code (values ranges) =
        .ok (calibrations seq ranges) ∧
      calibrations? (calibrations seq ranges) = some ranges) ∧
    (∀ (seq : UInt16) (command : Command) (value : Single),
      Packet.ofBytes seq command.code (Bytes.ofSingle value) = .ok (single seq command value) ∧
      single? (single seq command value) = some value) ∧
    (∀ (seq : UInt16) (command : Command) (status : UInt8),
      Packet.ofBytes seq Command.ack.code [command.code, status] =
        .ok (commandAck seq command status) ∧
      commandAck? (commandAck seq command status) = some (command.code, status)) ∧
    (∀ (seq : UInt16) (a : HelloAck),
      Packet.ofBytes seq Command.ack.code [a.version, a.status, a.deviceId] = .ok (a.packet seq) ∧
      HelloAck.ofBytes? (a.packet seq).payload.bytes = some a) ∧
    (∀ (seq : UInt16) (h : Hello),
      Packet.ofBytes seq Command.hello.code [h.version, h.capabilities] = .ok (h.packet seq) ∧
      Hello.ofBytes? (h.packet seq).payload.bytes = some h) ∧
    (∀ (seq : UInt16) (error : UInt8),
      Packet.ofBytes seq Command.nack.code [error] = .ok (nack seq error)) ∧
    ReadsFront (fun p : Packet => p.payload.bytes) 144
      (fun ranges : PerChannel PulseRange => ranges.flatten PulseRange.bytes) calibrations? ∧
    ReadsFront (fun p : Packet => p.payload.bytes) 4 Bytes.ofSingle single? ∧
    ReadsFront (fun p : Packet => p.payload.bytes) 2
      (fun ack : UInt8 × UInt8 => [ack.1, ack.2]) commandAck? ∧
    ReadsFront id 3 (fun a : HelloAck => [a.version, a.status, a.deviceId]) HelloAck.ofBytes? ∧
    ReadsFront id 2 (fun h : Hello => [h.version, h.capabilities]) Hello.ofBytes? := by
  refine ⟨?ranges, ?value, ?ack, ?helloAck, ?hello, ?refusal, calibrations_reads_front,
    single_reads_front, command_ack_reads_front, HelloAck.reads_front, Hello.reads_front⟩
  case ranges =>
    intro seq ranges
    exact ⟨of_scalars_values seq ranges, calibrations_calibrations seq ranges⟩
  case value =>
    intro seq command value
    exact ⟨Packet.of_bytes_bytes (single seq command value), single_single seq command value⟩
  case ack =>
    intro seq command status
    exact ⟨Packet.of_bytes_bytes (commandAck seq command status), rfl⟩
  case helloAck =>
    intro seq a
    exact ⟨Packet.of_bytes_bytes (a.packet seq), rfl⟩
  case hello =>
    intro seq h
    exact ⟨Packet.of_bytes_bytes (h.packet seq), rfl⟩
  case refusal =>
    intro seq error
    exact Packet.of_bytes_bytes (nack seq error)

end LegLink.Reply
