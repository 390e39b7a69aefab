import LegLink.Proofs.Parsing
import LegLink.Proofs.Writing

set_option autoImplicit false

namespace LegLink

def Packet.cut (p : Packet) (size : Nat) : Packet :=
  { p with payload := ⟨p.payload.bytes.take size, by
      have fits := p.payload.fits
      rw [List.length_take]
      omega⟩ }

namespace Request

def values : Request → List Scalar
  | hello version capabilities => [.u8 version, .u8 capabilities]
  | setAngleCalibrations table =>
    table.toList.flatMap fun c => [.u16 c.minPulse, .u16 c.maxPulse]
  | setTargetAngle channel angle => [.u8 channel, .u16 angle]
  | setPowerRelay value => [.u8 value]
  | getSensor channel => [.u8 channel]
  | getAngleCalibrations | getCurrent | getVoltage | heartbeat => []

theorem row_values (r : Request) : Scalar.row r.values = r.arguments := by
  cases r with
  | setAngleCalibrations table =>
    rw [values, Scalar.row_flat_map]
    rfl
  | hello | setTargetAngle | setPowerRelay | getAngleCalibrations | getCurrent | getVoltage
  | getSensor | heartbeat => rfl

def build (r : Request) (seq : UInt16) : Except FrameError Packet :=
  Packet.ofScalars seq r.command.code r.values

theorem build_eq (r : Request) (seq : UInt16) : r.build seq = .ok (r.packet seq) :=
  Packet.of_scalars_row (r.packet seq) r.values r.row_values

section Read

variable (p : Packet) (r : Request) (read : ofPacket p = .ok r)

include read

theorem arguments_of_packet : r.arguments = p.payload.bytes.take r.command.argumentSize := by
  have known := command_of_of_packet p r read
  cases r with
  | setAngleCalibrations table =>
    have found : table? p.payload.bytes = some table := by
      simp only [ofPacket, known, command] at read
      cases parsed : table? p.payload.bytes with
      | none => simp [parsed] at read
      | some other => simpa [parsed] using read
    exact table_reads_front.written _ table found
  | setTargetAngle channel angle =>
    simp only [ofPacket, known, command] at read
    rcases data : p.payload.bytes with - | ⟨first, - | ⟨lo, - | ⟨hi, rest⟩⟩⟩ <;>
      simp [data] at read
    simp [arguments, command, Command.argumentSize, ← read.1, ← read.2, Bytes.of_word_word]
  | hello version capabilities =>
    simp only [ofPacket, known, command] at read
    rcases data : p.payload.bytes with - | ⟨first, - | ⟨second, rest⟩⟩ <;> simp [data] at read
    simp [arguments, command, Command.argumentSize, read.1, read.2]
  | setPowerRelay | getSensor =>
    simp only [ofPacket, known, command] at read
    rcases data : p.payload.bytes with - | ⟨first, rest⟩ <;> simp [data] at read
    simp [arguments, command, Command.argumentSize, read]
  | getAngleCalibrations | getCurrent | getVoltage | heartbeat => rfl

theorem packet_of_packet : r.packet p.seq = p.cut r.command.argumentSize := by
  have code := Command.code_of_of_code p.cmd r.command (command_of_of_packet p r read)
  have arguments := arguments_of_packet p r read
  simp only [packet, Packet.cut, arguments, code]

end Read

/-- Every request is read back from its packet. A packet whose code is none of the nine is refused
for it, one that is too short for the arguments is refused as truncated, and any other is the packet
of the request that it is read as, once the bytes behind the arguments are cut off. -/
theorem packets_exact :
    (∀ (r : Request) (seq : UInt16), r.build seq = .ok (r.packet seq) ∧
      (r.packet seq).seq = seq ∧ ofPacket (r.packet seq) = .ok r) ∧
    Command.ack.code ∉ codes ∧ Command.nack.code ∉ codes ∧
    ∀ p : Packet,
      (ofPacket p = .error (.unknownCommand p.cmd) ↔ p.cmd ∉ codes) ∧
      ∀ c ∈ commands, c.code = p.cmd →
        (ofPacket p = .error .truncated ↔ p.payload.length < c.argumentSize) ∧
        (c.argumentSize ≤ p.payload.length →
          ∃ r, ofPacket p = .ok r ∧ r.command = c ∧ r.packet p.seq = p.cut c.argumentSize) := by
  refine ⟨?_, by decide, by decide, ?_⟩
  · intro r seq
    exact ⟨r.build_eq seq, rfl, of_packet_packet r seq⟩
  intro p
  constructor
  · constructor
    · intro refused known
      obtain ⟨c, member, code⟩ := exists_command p.cmd known
      by_cases short : p.payload.length < c.argumentSize
      · simp [of_packet_short p c member code short] at refused
      · obtain ⟨r, read, -⟩ := of_packet_whole p c member code (Nat.le_of_not_lt short)
        simp [read] at refused
    · exact of_packet_strange p
  intro c member code
  have known : Command.ofCode? p.cmd = some c := by rw [← code, Command.of_code_code]
  constructor
  · constructor
    · intro truncated
      by_contra enough
      obtain ⟨r, read, -⟩ := of_packet_whole p c member known (Nat.le_of_not_lt enough)
      simp [read] at truncated
    · exact of_packet_short p c member known
  · intro enough
    obtain ⟨r, read, rfl⟩ := of_packet_whole p c member known enough
    exact ⟨r, read, rfl, packet_of_packet p r read⟩

theorem packets_exact_trailing :
    let p : Packet := ⟨7, 0x02, ⟨[4, 0x23, 0x01, 0x7E], by decide⟩⟩
    Command.setTargetAngle ∈ commands ∧ Command.setTargetAngle.code = p.cmd ∧
      Command.setTargetAngle.argumentSize ≤ p.payload.length ∧
      ∃ r, ofPacket p = .ok r ∧ r.command = .setTargetAngle ∧
        r.packet 7 = ⟨7, 0x02, ⟨[4, 0x23, 0x01], by decide⟩⟩ := by
  intro p
  have member : Command.setTargetAngle ∈ commands := by decide
  have enough : Command.setTargetAngle.argumentSize ≤ p.payload.length := by decide
  refine ⟨member, rfl, enough, ?_⟩
  exact ((packets_exact.2.2.2 p).2 .setTargetAngle member rfl).2 enough

end Request
end LegLink
