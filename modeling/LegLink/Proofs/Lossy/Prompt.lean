import LegLink.Proofs.Lossy.Traffic

set_option autoImplicit false

namespace LegLink

def LineEvent.prompt : List LineEvent := [.poll true, .byte]

namespace LossyLine

variable {β γ δ : Type} [ServoBank β] [AnalogSensors γ] [PowerRelay δ]

theorem delivers_rest (bytes : Bytes) (traffic : Traffic β γ δ) :
    Delivers bytes (LossyLine.mk traffic bytes []) (LossyLine.mk traffic [] []) := by
  induction bytes with
  | nil => exact .nothing _
  | cons byte rest ih => exact .byte byte rest _ _ _ (fun _ => rfl) ih

theorem delivers_prompt (l : LossyLine β γ δ) (reply : Packet) (plan : l.plan = LineEvent.prompt)
    (arriving : l.arriving = []) (replied : l.traffic.reach.polled.toHost = [reply]) :
    Delivers reply.frame l (LossyLine.mk { l.traffic.reach.polled with toHost := [] } [] []) := by
  obtain ⟨byte, rest, frame⟩ : ∃ byte rest, reply.frame = byte :: rest := ⟨_, _, rfl⟩
  have later := delivers_rest rest { l.traffic.reach.polled with toHost := [] }
  rw [frame]
  refine .byte byte rest l _ _ (fun _ => ?_) later
  change read l.plan l = _
  rw [plan]
  simp only [LineEvent.prompt, read, Traffic.happen, begin, arriving, replied, take, frame]

end LossyLine

namespace Link

variable {β γ δ : Type} [ServoBank β] [AnalogSensors γ] [PowerRelay δ]

structure Idle (l : Link (LossyLine β γ δ)) : Prop where
  received : l.rx = .empty
  arriving : l.line.arriving = []
  toDevice : l.line.traffic.toDevice = []
  toHost : l.line.traffic.toHost = []
  clean : l.line.traffic.device.Clean

theorem exchange_prompt (l : Link (LossyLine β γ δ)) (idle : l.Idle)
    (plan : l.line.plan = LineEvent.prompt) (p reply : Packet) (command : Command)
    (after : Device Line.Queue β γ δ)
    (reacted : l.line.traffic.device.react p = (.reply command reply, after))
    (accept : Packet → Bool) (wanted : accept reply = true) (budget : Nat) :
    ∃ sent l' : Link (LossyLine β γ δ), l.sendPacket p = (.ok (), sent) ∧
      sent.awaitReply reply.seq accept budget = (.ok (some reply), l') ∧ l'.Idle ∧
      l'.line.traffic.device.Alike after ∧
      l'.line.traffic.issued = l.line.traffic.issued ++ [p] ∧ l'.nextSeq = l.nextSeq := by
  have next : (l.line.traffic.send p.frame).toDevice = [p] := by
    rw [Traffic.send_frame, idle.toDevice]
    rfl
  obtain ⟨device', clean, alike, polled⟩ :=
    (l.line.traffic.send p.frame).reached_replied p [] after command reply
      (by rw [Traffic.send_frame]; exact idle.clean) next
      (by rw [Traffic.send_frame]; exact reacted)
  let line : LossyLine β γ δ := { l.line with traffic := l.line.traffic.send p.frame }
  have replied : line.traffic.reach.polled.toHost = [reply] := by
    rw [polled, Traffic.send_frame, idle.toHost]
    rfl
  have given := LossyLine.delivers_prompt line reply plan idle.arriving replied
  have taken := recv_within_frame [] reply.frame reply _ ⟨0⟩ { l with line } List.not_mem_nil given
    (by rw [idle.received]; rfl)
  have awaited := await_reply_taken reply.seq accept budget { l with line } _ reply taken
    ⟨rfl, wanted⟩
  refine ⟨{ l with line }, _, rfl, awaited, ?_, ?_, ?_, rfl⟩
  · rw [polled]
    exact ⟨rfl, rfl, rfl, rfl, clean⟩
  · rw [polled]
    exact alike
  · rw [polled, Traffic.send_frame]

end Link
end LegLink
