import LegLink.Proofs.Frames
import LegLink.Proofs.QueuedDevice

set_option autoImplicit false

namespace LegLink

structure Traffic (β γ δ : Type) where
  device : Device Line.Queue β γ δ
  toDevice : List Packet := []
  toHost : List Packet := []
  -- All that the host has sent, lost or not.
  issued : List Packet := []

-- Between two reads of the host, and between two of its bytes, the device may poll, with or without
-- a frame reaching it, and any frame on its way may be lost. A frame that the host has begun to
-- read comes to it whole.
inductive LineEvent where
  | poll (reached : Bool)
  | loseToDevice (index : Nat)
  | loseToHost (index : Nat)
  | byte
  | silence

structure LossyLine (β γ δ : Type) where
  traffic : Traffic β γ δ
  arriving : Bytes := []
  -- What happens while the host reads; after that there is silence.
  plan : List LineEvent := []

namespace Traffic

variable {β γ δ : Type}

def send (data : Bytes) (t : Traffic β γ δ) : Traffic β γ δ :=
  { t with
    toDevice := t.toDevice ++ (Packet.ofFrame? data).toList
    issued := t.issued ++ (Packet.ofFrame? data).toList }

def reach (t : Traffic β γ δ) : Traffic β γ δ :=
  match t.toDevice with
  | [] => t
  | p :: toDevice =>
    { t with
      device.link.line.inbox := t.device.link.line.inbox ++ p.frame
      toDevice }

variable [ServoBank β] [AnalogSensors γ] [PowerRelay δ]

def polled (t : Traffic β γ δ) : Traffic β γ δ :=
  { t with
    device := { t.device.poll.2 with link.line.outbox := [] }
    toHost := t.toHost ++ (Packet.ofFrame? t.device.poll.2.link.line.outbox).toList }

def happen (t : Traffic β γ δ) : LineEvent → Traffic β γ δ
  | .poll true => t.reach.polled
  | .poll false => t.polled
  | .loseToDevice index => { t with toDevice := t.toDevice.eraseIdx index }
  | .loseToHost index => { t with toHost := t.toHost.eraseIdx index }
  | .byte | .silence => t

end Traffic

namespace LossyLine

variable {β γ δ : Type}

def begin (l : LossyLine β γ δ) : LossyLine β γ δ :=
  match l.arriving, l.traffic.toHost with
  | [], p :: toHost => { l with traffic.toHost := toHost, arriving := p.frame }
  | _, _ => l

def take (l : LossyLine β γ δ) : Except (ReadError Empty) UInt8 × LossyLine β γ δ :=
  match l.arriving with
  | [] => (.error .timeout, l)
  | byte :: arriving => (.ok byte, { l with arriving })

theorem length_take (l l' : LossyLine β γ δ) (byte : UInt8) (taken : l.take = (.ok byte, l')) :
    l'.plan = l.plan ∧ l'.arriving.length + 1 = l.arriving.length := by
  unfold take at taken
  split at taken
  · cases taken
  · rename_i first rest arriving
    cases taken
    exact ⟨rfl, by rw [arriving, List.length_cons]⟩

theorem length_begin (l : LossyLine β γ δ) :
    l.begin.plan = l.plan ∧ l.begin.arriving.length ≤ l.arriving.length + Frame.maxSize := by
  unfold begin
  split
  · rename_i p toHost idle _
    exact ⟨rfl, Nat.le_trans p.length_frame_le (Nat.le_add_left _ _)⟩
  · exact ⟨rfl, Nat.le_add_right _ _⟩

variable [ServoBank β] [AnalogSensors γ] [PowerRelay δ]

def read : List LineEvent → LossyLine β γ δ → Except (ReadError Empty) UInt8 × LossyLine β γ δ
  | [], l => { l with plan := [] }.take
  | .byte :: plan, l => { l with plan }.begin.take
  | .silence :: plan, l => { l with plan }.take
  | event :: plan, l => read plan { l with traffic := l.traffic.happen event }

def readByte (_timeout : Duration) (l : LossyLine β γ δ) :
    Except (ReadError Empty) UInt8 × LossyLine β γ δ :=
  read l.plan l

def pending (l : LossyLine β γ δ) : Nat := l.plan.length * Frame.maxSize + l.arriving.length

theorem pending_read (plan : List LineEvent) (l l' : LossyLine β γ δ) (byte : UInt8)
    (taken : read plan l = (.ok byte, l')) :
    l'.pending < plan.length * Frame.maxSize + l.arriving.length := by
  fun_induction read plan l with
  | case1 l =>
    obtain ⟨plan, shorter⟩ := length_take _ l' byte taken
    simp only [pending, plan] at *
    omega
  | case2 plan l =>
    obtain ⟨same, shorter⟩ := length_take _ l' byte taken
    obtain ⟨kept, longer⟩ := length_begin { l with plan }
    simp only [pending, same, kept, List.length_cons, Nat.succ_mul] at *
    omega
  | case3 plan l =>
    obtain ⟨same, shorter⟩ := length_take _ l' byte taken
    simp only [pending, same, List.length_cons, Nat.succ_mul] at *
    omega
  | case4 event plan l _ _ ih =>
    have rest := ih taken
    simp only [List.length_cons, Nat.succ_mul] at *
    omega

instance : Transport (LossyLine β γ δ) Empty where
  openLine l := (.ok (), l)
  closeLine l := (.ok (), l)
  write data l := (.ok (), { l with traffic := l.traffic.send data })
  readByte := readByte
  byteTimeout _ := ⟨0⟩
  pending := pending
  pending_read_byte _ l l' byte taken := pending_read l.plan l l' byte taken

end LossyLine
end LegLink
