import LegLink.Proofs.QueuedDevice

set_option autoImplicit false

namespace LegLink

namespace Cable

def after (c : Cable) (data : Bytes) : Cable := { c with sent := c.sent + data.length }

theorem carry_faultless (c : Cable) (data : Bytes) (faultless : c.faults = []) :
    c.carry data = (data, c.after data) := by
  have each (byte : UInt8) (index : Nat) : c.carryByte index byte = [byte] := by
    unfold carryByte
    rw [faultless]
    rfl
  have all (start : Nat) :
      (data.zipIdx start).flatMap (fun sent => c.carryByte sent.2 sent.1) = data := by
    induction data generalizing start with
    | nil => rfl
    | cons byte data ih =>
      rw [List.zipIdx_cons, List.flatMap_cons, ih (start + 1)]
      exact congrArg (· ++ data) (each byte start)
  unfold carry
  rw [all c.sent]
  rfl

end Cable

namespace Bench

structure Calm (b : Bench) : Prop where
  toDevice : b.toDevice.faults = []
  fromDevice : b.fromDevice.faults = []
  brought : b.device.link.line.outbox = []
  received : b.device.link.rx = .empty
  deviceQuiet : Frame.stx ∉ b.atDevice
  hostQuiet : Frame.stx ∉ b.toHost

def answered (command : Command) (p reply : Packet)
    (d' : Emulator.EmulatedDevice Line.Queue) (b : Bench) : Bench where
  device := { d' with
    link := { b.device.link with line := {}, rx := .empty }
    stats.handled := d'.stats.handled + 1 }
  toDevice := b.toDevice.after p.frame
  fromDevice := b.fromDevice.after reply.frame
  toHost := []
  stale := false
  dispatched := b.dispatched ++ [.handled command]

theorem delivers (bytes rest : Bytes) (b : Bench) (waiting : b.toHost = bytes ++ rest) :
    Delivers bytes b { b with toHost := rest } := by
  induction bytes generalizing b with
  | nil =>
    have same : { b with toHost := rest } = b := by rw [← List.nil_append rest, ← waiting]
    rw [same]
    exact .nothing b
  | cons byte bytes ih =>
    refine .byte byte bytes b { b with toHost := bytes ++ rest } _ ?_ (ih _ rfl)
    intro timeout
    change readByte timeout b = _
    have some_left : ¬ (b.toHost.isEmpty ∧ b.stale) := by
      rw [waiting]
      exact fun both => Bool.noConfusion both.1
    unfold readByte takeByte
    rw [if_neg some_left, waiting]
    rfl

-- The first byte that is looked for in vain lets the device run.
theorem delivers_settled (byte : UInt8) (rest : Bytes) (b after : Bench) (empty : b.toHost = [])
    (stale : b.stale = true) (given : Delivers (byte :: rest) b.settle after) :
    Delivers (byte :: rest) b after := by
  cases given with
  | byte _ _ _ next _ read later =>
    refine .byte byte rest b next after ?_ later
    intro timeout
    have here : readByte timeout b = b.settle.takeByte := by
      unfold readByte
      rw [if_pos ⟨by rw [empty]; rfl, stale⟩]
    have there : readByte timeout b.settle = b.settle.takeByte := by
      unfold readByte
      rw [if_neg fun both => Bool.noConfusion both.2]
    exact (here.trans there.symm).trans (read timeout)

theorem settle_replied (p reply : Packet) (command : Command)
    (d' : Emulator.EmulatedDevice Line.Queue) (b : Bench) (noise : Bytes)
    (quiet : Frame.stx ∉ noise) (received : b.device.link.rx = .empty)
    (arrived : b.atDevice = noise ++ p.frame) (brought : b.device.link.line.outbox = [])
    (faultless : b.fromDevice.faults = [])
    (reacted : b.device.react p = (.reply command reply, d')) :
    b.settle = { b with
      device := { b.device.replied reply d' with link.line.outbox := [] }
      fromDevice := b.fromDevice.after reply.frame
      toHost := b.toHost ++ reply.frame
      stale := false
      dispatched := b.dispatched ++ [.handled command] } := by
  have waiting : b.device.link.rx.bytes ++ b.device.link.line.inbox = noise ++ p.frame := by
    rw [received]
    exact arrived
  obtain ⟨polls, enough⟩ : ∃ polls, b.pollBudget = polls + 2 := by
    refine ⟨b.pollBudget - 2, ?_⟩
    have long := p.length_frame_ge
    unfold pollBudget Frame.minSize Frame.headerSize Frame.overhead at *
    rw [arrived, List.length_append]
    omega
  have drained := Device.drain_replied noise p reply command b.device d' polls quiet waiting reacted
  have carried := Cable.carry_faultless b.fromDevice reply.frame faultless
  unfold settle
  rw [enough, drained]
  simp only [Device.replied, brought, List.nil_append, carried, dispatches, List.filterMap_cons,
    List.filterMap_nil]

def asked (p : Packet) (b : Bench) : Bench :=
  enterDevice p.frame { b with toDevice := b.toDevice.after p.frame }

def heard (p : Packet) (b : Bench) : Bench := { b.asked p with toHost := [] }

theorem write_frame (p : Packet) (b : Bench) (calm : b.Calm) :
    b.write p.frame = (.ok (), b.asked p) := by
  simp only [write, Cable.carry_faultless b.toDevice p.frame calm.toDevice, asked]

theorem delivers_reply (p reply : Packet) (command : Command)
    (d' : Emulator.EmulatedDevice Line.Queue) (b : Bench) (calm : b.Calm)
    (reacted : b.device.react p = (.reply command reply, d')) :
    Delivers (b.toHost ++ reply.frame) (b.asked p) (b.answered command p reply d') := by
  have relinked := Device.react_relink p b.device (b.heard p).device.link
  rw [reacted] at relinked
  have settled := settle_replied p reply command _ (b.heard p) b.atDevice calm.deviceQuiet
    calm.received rfl calm.brought calm.fromDevice relinked
  have ready : (b.heard p).settle.toHost = reply.frame ++ [] := by
    rw [settled, List.append_nil]
    rfl
  have first : Delivers b.toHost (b.asked p) (b.heard p) :=
    delivers b.toHost [] (b.asked p) (List.append_nil _).symm
  have second := delivers reply.frame [] (b.heard p).settle ready
  obtain ⟨byte, rest, frame⟩ : ∃ byte rest, reply.frame = byte :: rest := ⟨_, _, rfl⟩
  rw [frame] at second
  have whole := delivers_settled byte rest (b.heard p) _ rfl rfl second
  rw [← frame, settled] at whole
  exact Delivers.append _ _ _ _ _ first whole

theorem calm_answered (command : Command) (p reply : Packet)
    (d' : Emulator.EmulatedDevice Line.Queue) (b : Bench) (calm : b.Calm) :
    (b.answered command p reply d').Calm where
  toDevice := calm.toDevice
  fromDevice := calm.fromDevice
  brought := rfl
  received := rfl
  deviceQuiet := List.not_mem_nil
  hostQuiet := List.not_mem_nil

end Bench

namespace Link

theorem send_packet_asked (p : Packet) (l : Link Bench) (calm : l.line.Calm) :
    l.sendPacket p = (.ok (), { l with line := l.line.asked p }) :=
  congrArg (fun outcome => (outcome.1, { l with line := outcome.2 }))
    (Bench.write_frame p l.line calm)

theorem await_reply_answered (p reply : Packet) (command : Command)
    (d' : Emulator.EmulatedDevice Line.Queue) (accept : Packet → Bool) (budget : Nat)
    (l : Link Bench) (calm : l.line.Calm) (received : l.rx = .empty)
    (reacted : l.line.device.react p = (.reply command reply, d')) (wanted : accept reply = true) :
    awaitReply reply.seq accept budget { l with line := l.line.asked p } =
      (.ok (some reply), { l with line := l.line.answered command p reply d' }) := by
  have given := Bench.delivers_reply p reply command d' l.line calm reacted
  have taken := recv_within_frame l.line.toHost _ reply _ ⟨0⟩ { l with line := l.line.asked p }
    calm.hostQuiet given (by rw [received]; rfl)
  rw [await_reply_taken reply.seq accept budget _ _ reply taken ⟨rfl, wanted⟩]
  rw [← received]

end Link
end LegLink
