import LegLink.Proofs.Codec
import LegLink.Proofs.Fronts

set_option autoImplicit false

namespace LegLink

def Command.argumentSize : Command → Nat
  | .hello => 2
  | .setAngleCalibrations => 72
  | .setTargetAngle => 3
  | .setPowerRelay | .getSensor => 1
  | .getAngleCalibrations | .getCurrent | .getVoltage | .heartbeat | .ack | .nack => 0

namespace Request

def commands : List Command :=
  [.hello, .setAngleCalibrations, .setTargetAngle, .setPowerRelay, .getAngleCalibrations,
    .getCurrent, .getVoltage, .getSensor, .heartbeat]

def codes : List UInt8 := commands.map Command.code

theorem exists_command (code : UInt8) (known : code ∈ codes) :
    ∃ c ∈ commands, Command.ofCode? code = some c := by
  obtain ⟨c, member, rfl⟩ := List.mem_map.mp known
  exact ⟨c, member, Command.of_code_code c⟩

theorem table_short (data : Bytes) (short : data.length < 72) : table? data = none :=
  (table_reads_front.none_iff data).mpr short

theorem table_whole (data : Bytes) (enough : 72 ≤ data.length) :
    table? data = some (Vector.ofFn fun c : Channel =>
      ⟨Bytes.wordAt data (4 * c.val), Bytes.wordAt data (4 * c.val + 2)⟩) := by
  have long : ¬ data.length < servoCount * 4 := Nat.not_lt_of_le enough
  rw [table?, if_neg long]

section Parse

variable (p : Packet)

theorem of_packet_strange (strange : p.cmd ∉ codes) :
    ofPacket p = .error (.unknownCommand p.cmd) := by
  unfold ofPacket
  cases known : Command.ofCode? p.cmd with
  | none => rfl
  | some c =>
    have code := Command.code_of_of_code p.cmd c known
    cases c with
    | ack | nack => rfl
    | hello | setAngleCalibrations | setTargetAngle | setPowerRelay | getAngleCalibrations
    | getCurrent | getVoltage | getSensor | heartbeat =>
      rw [← code] at strange
      exact absurd (by decide) strange

variable (c : Command) (member : c ∈ commands) (known : Command.ofCode? p.cmd = some c)

include member known

theorem of_packet_short (short : p.payload.length < c.argumentSize) :
    ofPacket p = .error .truncated := by
  unfold ofPacket
  rw [known]
  unfold Payload.length at short
  cases c with
  | ack | nack => exact absurd member (by decide)
  | getAngleCalibrations | getCurrent | getVoltage | heartbeat =>
    exact absurd short (Nat.not_lt_zero _)
  | setAngleCalibrations => simp only [table_short _ short]
  | setPowerRelay | getSensor =>
    cases data : p.payload.bytes with
    | nil => rfl
    | cons first rest =>
      rw [data, List.length_cons] at short
      exact absurd short (Nat.not_lt_of_le (Nat.le_add_left _ _))
  | hello =>
    rcases data : p.payload.bytes with - | ⟨first, - | ⟨second, rest⟩⟩
    · rfl
    · rfl
    · rw [data, List.length_cons, List.length_cons] at short
      exact absurd short (Nat.not_lt_of_le (Nat.le_add_left _ _))
  | setTargetAngle =>
    rcases data : p.payload.bytes with - | ⟨first, - | ⟨second, - | ⟨third, rest⟩⟩⟩
    · rfl
    · rfl
    · rfl
    · rw [data, List.length_cons, List.length_cons, List.length_cons] at short
      exact absurd short (Nat.not_lt_of_le (Nat.le_add_left _ _))

theorem of_packet_whole (enough : c.argumentSize ≤ p.payload.length) :
    ∃ r, ofPacket p = .ok r ∧ r.command = c := by
  unfold ofPacket
  rw [known]
  unfold Payload.length at enough
  cases c with
  | ack | nack => exact absurd member (by decide)
  | getAngleCalibrations | getCurrent | getVoltage | heartbeat => exact ⟨_, rfl, rfl⟩
  | setAngleCalibrations =>
    simp only [table_whole _ enough]
    exact ⟨_, rfl, rfl⟩
  | setPowerRelay | getSensor =>
    cases data : p.payload.bytes with
    | nil =>
      rw [data] at enough
      exact absurd enough (by decide)
    | cons first rest => exact ⟨_, rfl, rfl⟩
  | hello =>
    rcases data : p.payload.bytes with - | ⟨first, - | ⟨second, rest⟩⟩
    · rw [data] at enough
      exact absurd enough (by decide)
    · rw [data] at enough
      exact absurd enough (Nat.not_succ_le_self 1)
    · exact ⟨_, rfl, rfl⟩
  | setTargetAngle =>
    rcases data : p.payload.bytes with - | ⟨first, - | ⟨second, - | ⟨third, rest⟩⟩⟩
    · rw [data] at enough
      exact absurd enough (by decide)
    · rw [data] at enough
      exact absurd enough (show ¬ 3 ≤ 1 by decide)
    · rw [data] at enough
      exact absurd enough (show ¬ 3 ≤ 2 by decide)
    · exact ⟨_, rfl, rfl⟩

end Parse
end Request
end LegLink
