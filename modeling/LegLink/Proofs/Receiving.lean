import LegLink.Link
import LegLink.Proofs.Buffer

set_option autoImplicit false

namespace LegLink

inductive Delivers {σ ε : Type} [Transport σ ε] : Bytes → σ → σ → Prop
  | nothing (line : σ) : Delivers [] line line
  | byte (byte : UInt8) (rest : Bytes) (line next after : σ)
      (read : ∀ timeout, Transport.readByte timeout line = (.ok byte, next))
      (later : Delivers rest next after) : Delivers (byte :: rest) line after

theorem Delivers.append {σ ε : Type} [Transport σ ε] (a b : Bytes) (line between after : σ)
    (first : Delivers a line between) (second : Delivers b between after) :
    Delivers (a ++ b) line after := by
  induction first with
  | nothing line => exact second
  | byte byte rest line next between read _ ih =>
    exact .byte byte _ line next after read (ih second)

namespace Link

variable {σ ε : Type} [Transport σ ε]

theorem recv_within_taken (timeout : Duration) (l : Link σ) (p : Packet) (rx : RxBuffer)
    (decoded : l.rx.decode = (some p, rx)) : l.recvWithin timeout = (.ok p, { l with rx }) := by
  rw [recvWithin, decoded]

theorem recv_within_failed (timeout : Duration) (l : Link σ) (rx : RxBuffer) (e : ReadError ε)
    (line : σ) (decoded : l.rx.decode = (none, rx))
    (read : Transport.readByte timeout l.line = (.error e, line)) :
    l.recvWithin timeout = (.error e, { l with line, rx }) := by
  rw [recvWithin, decoded]
  dsimp only
  split
  · rename_i e' line' read'
    rw [read] at read'
    cases read'
    rfl
  · rename_i byte line' read'
    rw [read] at read'
    cases read'

theorem recv_within_read (timeout : Duration) (l : Link σ) (rx : RxBuffer) (byte : UInt8)
    (line : σ) (decoded : l.rx.decode = (none, rx))
    (read : Transport.readByte timeout l.line = (.ok byte, line)) :
    l.recvWithin timeout = recvWithin timeout { l with line, rx := rx.push byte } := by
  rw [recvWithin, decoded]
  dsimp only
  split
  · rename_i e line' read'
    rw [read] at read'
    cases read'
  · rename_i byte' line' read'
    rw [read] at read'
    cases read'
    rfl

theorem poll_taken (timeout : Duration) (l : Link σ) (p : Packet) (rx : RxBuffer)
    (decoded : l.rx.decode = (some p, rx)) : l.poll timeout = (.ok p, { l with rx }) := by
  rw [poll, decoded]

theorem poll_failed (timeout : Duration) (l : Link σ) (rx : RxBuffer) (e : ReadError ε) (line : σ)
    (decoded : l.rx.decode = (none, rx))
    (read : Transport.readByte timeout l.line = (.error e, line)) :
    l.poll timeout = (.error e, { l with line, rx }) := by
  simp only [poll, decoded, read]

theorem poll_read (timeout : Duration) (l : Link σ) (rx : RxBuffer) (byte : UInt8) (line : σ)
    (decoded : l.rx.decode = (none, rx))
    (read : Transport.readByte timeout l.line = (.ok byte, line)) :
    l.poll timeout = recv { l with line, rx := rx.push byte } := by
  simp only [poll, decoded, read]

section AwaitReply

variable (seq : UInt16) (accept : Packet → Bool) (budget : Nat) (l l' : Link σ)

theorem await_reply_taken (p : Packet) (received : l.recv = (.ok p, l'))
    (wanted : p.seq = seq ∧ accept p = true) :
    l.awaitReply seq accept budget = (.ok (some p), l') := by
  rw [awaitReply]
  split
  · rename_i q other received'
    rw [received] at received'
    cases received'
    rw [if_pos wanted]
  · rename_i other received'
    rw [received] at received'
    cases received'
  · rename_i e other received'
    rw [received] at received'
    cases received'

end AwaitReply

section Reception

-- What has been received and what the line gives next are together some noise and a frame.
variable (noise bytes : Bytes) (p : Packet) (line' : σ)

theorem recv_within_frame (timeout : Duration) (l : Link σ) (quiet : Frame.stx ∉ noise)
    (given : Delivers bytes l.line line') (whole : l.rx.bytes ++ bytes = noise ++ p.frame) :
    l.recvWithin timeout = (.ok p, { l with line := line', rx := .empty }) := by
  generalize start : l.line = line at given
  induction given generalizing l noise with
  | nothing line =>
    rw [List.append_nil] at whole
    have decoded := Frame.decode_frame_after noise p [] quiet
    rw [List.append_nil, ← whole] at decoded
    rw [recv_within_taken timeout l p _ (RxBuffer.decode_eq l.rx _ _ decoded), ← start]
    rfl
  | byte byte rest line next after read later ih =>
    subst start
    obtain ⟨noise', kept, decoded, whole, quiet, room⟩ :=
      Frame.decode_cut noise p l.rx.bytes (byte :: rest) quiet whole (List.cons_ne_nil _ _)
    rw [recv_within_read timeout l _ byte next (RxBuffer.decode_eq l.rx _ _ decoded) (read timeout)]
    refine ih noise' _ quiet ?_ rfl
    rw [RxBuffer.bytes_push _ byte room, List.append_assoc]
    exact whole

theorem poll_frame (timeout : Duration) (l : Link σ) (quiet : Frame.stx ∉ noise)
    (given : Delivers bytes l.line line') (whole : l.rx.bytes ++ bytes = noise ++ p.frame) :
    l.poll timeout = (.ok p, { l with line := line', rx := .empty }) := by
  generalize start : l.line = line at given
  cases given with
  | nothing =>
    rw [List.append_nil] at whole
    have decoded := Frame.decode_frame_after noise p [] quiet
    rw [List.append_nil, ← whole] at decoded
    rw [poll_taken timeout l p _ (RxBuffer.decode_eq l.rx _ _ decoded), ← start]
    rfl
  | byte byte rest _ next _ read later =>
    subst start
    obtain ⟨noise', kept, decoded, whole, quiet, room⟩ :=
      Frame.decode_cut noise p l.rx.bytes (byte :: rest) quiet whole (List.cons_ne_nil _ _)
    rw [poll_read timeout l _ byte next (RxBuffer.decode_eq l.rx _ _ decoded) (read timeout)]
    refine recv_within_frame noise' rest p line' _ _ quiet later ?_
    dsimp only
    rw [RxBuffer.bytes_push _ byte room, List.append_assoc]
    exact whole

end Reception

end Link
end LegLink
