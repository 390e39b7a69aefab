import LegLink.Request
import LegLink.Proofs.Items

set_option autoImplicit false

namespace LegLink

namespace Command

theorem code_of_of_code (byte : UInt8) (c : Command) (known : ofCode? byte = some c) :
    c.code = byte := by
  unfold ofCode? at known
  split at known <;> cases known <;> rfl

theorem code_inj (a b : Command) (same : a.code = b.code) : a = b := by
  have known := of_code_code a
  rw [same, of_code_code b] at known
  exact (Option.some.inj known).symm

end Command

theorem Channel.of_index_raw (c : Channel) : ofIndex? c.raw = some c := by
  have bound := c.isLt
  have index : c.raw.toNat = c.val := by
    unfold servoCount at bound
    rw [raw, UInt8.toNat_ofNat']
    omega
  unfold ofIndex?
  rw [dif_pos (by rw [index]; exact bound)]
  exact congrArg some (Fin.ext index)

namespace Request

theorem command_of_of_packet (p : Packet) (r : Request) (read : ofPacket p = .ok r) :
    Command.ofCode? p.cmd = some r.command := by
  unfold ofPacket at read
  split at read
  case h_5 =>
    split at read
    · cases read
      assumption
    · cases read
  all_goals
    cases read
    try assumption

theorem hello_iff (p : Packet) (r : Request) (read : ofPacket p = .ok r) :
    r.command = .hello ↔ p.cmd = Command.hello.code := by
  rw [← Command.code_of_of_code _ _ (command_of_of_packet p r read)]
  exact ⟨congrArg Command.code, Command.code_inj _ _⟩

theorem table_flatten (table : CalibrationTable) :
    table? (table.flatten Calibration.bytes) = some table :=
  PerChannel.of_bytes_flatten Calibration.fixed_size table

theorem of_packet_packet (r : Request) (seq : UInt16) : ofPacket (r.packet seq) = .ok r := by
  cases r with
  | setAngleCalibrations table =>
    have read := table_flatten table
    simp only [ofPacket, packet, command, arguments, Command.of_code_code, read]
  | setTargetAngle channel angle =>
    have read := Bytes.word_of_word angle
    simp only [ofPacket, packet, command, arguments, Command.of_code_code, Bytes.ofWord, read]
  | hello | setPowerRelay | getAngleCalibrations | getCurrent | getVoltage | getSensor
  | heartbeat => rfl

end Request

namespace Reply

theorem single_single (seq : UInt16) (command : Command) (value : Single) :
    single? (single seq command value) = some value :=
  congrArg (fun bits => some (Single.mk bits)) (Bytes.long_of_long value.bits)

theorem calibrations_calibrations (seq : UInt16) (ranges : PerChannel PulseRange) :
    calibrations? (calibrations seq ranges) = some ranges :=
  PerChannel.of_bytes_flatten PulseRange.fixed_size ranges

end Reply
end LegLink
