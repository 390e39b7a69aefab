import LegLink.Line.Replay
import LegLink.Proofs.Receiving

set_option autoImplicit false

namespace LegLink

namespace Line

-- The record is written and never read, so apart from it the line is the plain one.
structure Recorded (σ : Type) where
  line : σ
  calls : List Call := []

namespace Recorded

variable {σ ε : Type} [Transport σ ε]

def note {α : Type} (call : Call) (r : Recorded σ) (outcome : α × σ) : α × Recorded σ :=
  (outcome.1, { line := outcome.2, calls := r.calls ++ [call] })

instance : Transport (Recorded σ) ε where
  openLine r := r.note .openLine (Transport.openLine r.line)
  closeLine r := r.note .closeLine (Transport.closeLine r.line)
  write data r := r.note (.write data) (Transport.write data r.line)
  readByte timeout r := r.note (.readByte timeout) (Transport.readByte timeout r.line)
  byteTimeout r := Transport.byteTimeout r.line
  pending r := Transport.pending r.line
  pending_read_byte timeout r r' byte taken := by
    obtain ⟨result, rfl⟩ := Prod.mk.inj taken
    exact Transport.pending_read_byte timeout r.line _ byte (Prod.ext result rfl)

def writes (r : Recorded σ) : List Bytes :=
  r.calls.filterMap fun
    | .write data => some data
    | _ => none

theorem writes_note {α : Type} (call : Call) (r : Recorded σ) (outcome : α × σ)
    (other : ∀ data, call ≠ .write data) : (r.note call outcome).2.writes = r.writes := by
  unfold note writes
  rw [List.filterMap_append]
  cases call with
  | write data => exact absurd rfl (other data)
  | openLine | closeLine | readByte => exact List.append_nil _

end Recorded
end Line

namespace Link

variable {σ ε : Type} [Transport σ ε]

theorem send_packet_written (p : Packet) (l : Link σ) (result : Except ε Unit) (line : σ)
    (written : Transport.write p.frame l.line = (result, line)) :
    l.sendPacket p = (result, { l with line }) := by
  simp only [sendPacket, written]

def unrecorded (l : Link (Line.Recorded σ)) : Link σ :=
  { line := l.line.line, rx := l.rx, nextSeq := l.nextSeq }

theorem send_packet_unrecorded (p : Packet) (l : Link (Line.Recorded σ)) :
    l.unrecorded.sendPacket p = ((l.sendPacket p).1, (l.sendPacket p).2.unrecorded) := rfl

theorem writes_send_packet (p : Packet) (l : Link (Line.Recorded σ)) :
    (l.sendPacket p).2.line.writes = l.line.writes ++ [p.frame] := by
  change ((l.line.calls ++ [Line.Call.write p.frame]).filterMap _) = _
  rw [List.filterMap_append]
  rfl

theorem writes_read (timeout : Duration) (r r' : Line.Recorded σ)
    (result : Except (ReadError ε) UInt8) (read : Transport.readByte timeout r = (result, r')) :
    Transport.readByte timeout r.line = (result, r'.line) ∧ r'.writes = r.writes := by
  obtain ⟨rfl, rfl⟩ := Prod.mk.inj read
  exact ⟨rfl, r.writes_note (.readByte timeout) _ fun data => nofun⟩

theorem recv_within_unrecorded (timeout : Duration) (l : Link (Line.Recorded σ)) :
    l.unrecorded.recvWithin timeout =
        ((l.recvWithin timeout).1, (l.recvWithin timeout).2.unrecorded) ∧
      (l.recvWithin timeout).2.line.writes = l.line.writes := by
  fun_induction recvWithin timeout l with
  | case1 l p rx decoded => exact ⟨recv_within_taken timeout l.unrecorded p rx decoded, rfl⟩
  | case2 l rx decoded e line read =>
    obtain ⟨inner, writes⟩ := writes_read timeout l.line line _ read
    exact ⟨recv_within_failed timeout l.unrecorded rx e line.line decoded inner, writes⟩
  | case3 l rx decoded byte line read ih =>
    obtain ⟨inner, writes⟩ := writes_read timeout l.line line _ read
    refine ⟨?_, ih.2.trans writes⟩
    rw [recv_within_read timeout l.unrecorded rx byte line.line decoded inner]
    exact ih.1

theorem poll_unrecorded (timeout : Duration) (l : Link (Line.Recorded σ)) :
    l.unrecorded.poll timeout = ((l.poll timeout).1, (l.poll timeout).2.unrecorded) ∧
      (l.poll timeout).2.line.writes = l.line.writes := by
  rcases decoded : l.rx.decode with ⟨found, rx⟩
  cases found with
  | some p =>
    rw [poll_taken timeout l p rx decoded, poll_taken timeout l.unrecorded p rx decoded]
    exact ⟨rfl, rfl⟩
  | none =>
    rcases read : Transport.readByte timeout l.line with ⟨result, line⟩
    obtain ⟨inner, writes⟩ := writes_read timeout l.line line _ read
    cases result with
    | error e =>
      rw [poll_failed timeout l rx e line decoded read,
        poll_failed timeout l.unrecorded rx e line.line decoded inner]
      exact ⟨rfl, writes⟩
    | ok byte =>
      obtain ⟨same, later⟩ := recv_within_unrecorded (Transport.byteTimeout line)
        { l with line, rx := rx.push byte }
      rw [poll_read timeout l rx byte line decoded read,
        poll_read timeout l.unrecorded rx byte line.line decoded inner]
      exact ⟨same, later.trans writes⟩

end Link
end LegLink
