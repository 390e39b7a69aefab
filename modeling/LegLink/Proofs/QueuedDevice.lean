import LegLink.Bench
import LegLink.Proofs.Reaction
import LegLink.Proofs.Receiving

set_option autoImplicit false

namespace LegLink

namespace Line.Queue

theorem delivers (bytes rest : Bytes) (q : Queue) (waiting : q.inbox = bytes ++ rest) :
    Delivers bytes q { q with inbox := rest } := by
  induction bytes generalizing q with
  | nil =>
    have same : { q with inbox := rest } = q := by rw [← List.nil_append rest, ← waiting]
    rw [same]
    exact .nothing q
  | cons byte bytes ih =>
    refine .byte byte bytes q { q with inbox := bytes ++ rest } _ ?_ (ih _ rfl)
    intro timeout
    change readByte timeout q = _
    unfold readByte
    rw [waiting]
    rfl

end Line.Queue

namespace Device

variable {β γ δ : Type} [ServoBank β] [AnalogSensors γ] [PowerRelay δ]

def replied (d : Device Line.Queue β γ δ) (reply : Packet) (d' : Device Line.Queue β γ δ) :
    Device Line.Queue β γ δ :=
  { d' with
    link := { d.link with line.inbox := [], line.outbox := d.link.line.outbox ++ reply.frame,
                          rx := .empty }
    stats.handled := d'.stats.handled + 1 }

theorem poll_idle (d : Device Line.Queue β γ δ) (clear : d.link.rx = .empty)
    (nothing : d.link.line.inbox = []) : d.poll = (.ok .idle, d) := by
  have decoded : d.link.rx.decode = (none, d.link.rx) := by
    rw [clear]
    rfl
  have read : Transport.readByte d.config.pollTimeout d.link.line =
      (.error .timeout, d.link.line) := by
    change Line.Queue.readByte _ _ = _
    unfold Line.Queue.readByte
    rw [nothing]
  have polled := Link.poll_failed d.config.pollTimeout d.link d.link.rx .timeout d.link.line
    decoded read
  unfold poll
  rw [polled]

theorem poll_packet (noise : Bytes) (p : Packet) (d : Device Line.Queue β γ δ)
    (quiet : Frame.stx ∉ noise)
    (waiting : d.link.rx.bytes ++ d.link.line.inbox = noise ++ p.frame) :
    d.poll = (d.relink { d.link with line.inbox := [], rx := .empty }).handle p := by
  have given := Line.Queue.delivers d.link.line.inbox [] d.link.line (List.append_nil _).symm
  have polled := Link.poll_frame noise _ p _ d.config.pollTimeout d.link quiet given waiting
  unfold poll
  rw [polled]
  rfl

theorem poll_replied (noise : Bytes) (p reply : Packet) (command : Command)
    (d d' : Device Line.Queue β γ δ) (quiet : Frame.stx ∉ noise)
    (waiting : d.link.rx.bytes ++ d.link.line.inbox = noise ++ p.frame)
    (reacted : d.react p = (.reply command reply, d')) :
    d.poll = (.ok (.handled command), d.replied reply d') := by
  have relinked := react_relink p d { d.link with line.inbox := [], rx := .empty }
  rw [reacted] at relinked
  have answered := handle_sent p reply command _ _ _ relinked rfl
  rw [poll_packet noise p d quiet waiting]
  exact answered

theorem poll_ignored (noise : Bytes) (p : Packet) (reason : IgnoreReason)
    (d d' : Device Line.Queue β γ δ) (quiet : Frame.stx ∉ noise)
    (waiting : d.link.rx.bytes ++ d.link.line.inbox = noise ++ p.frame)
    (reacted : d.react p = (.ignore reason, d')) :
    d.poll = (.ok (.ignored reason), { d' with
      link := { d.link with line.inbox := [], rx := .empty }
      stats.ignored := d'.stats.ignored + 1 }) := by
  have relinked := react_relink p d { d.link with line.inbox := [], rx := .empty }
  rw [reacted] at relinked
  have answered := handle_ignored p reason _ _ relinked
  rw [poll_packet noise p d quiet waiting]
  exact answered

theorem drain_replied (noise : Bytes) (p reply : Packet) (command : Command)
    (d d' : Device Line.Queue β γ δ) (polls : Nat) (quiet : Frame.stx ∉ noise)
    (waiting : d.link.rx.bytes ++ d.link.line.inbox = noise ++ p.frame)
    (reacted : d.react p = (.reply command reply, d')) :
    d.drain (polls + 2) = ([.ok (.handled command)], d.replied reply d') := by
  have first := poll_replied noise p reply command d d' quiet waiting reacted
  have second := poll_idle (d.replied reply d') rfl rfl
  simp only [drain, first, second]

end Device

end LegLink
