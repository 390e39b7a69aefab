import LegLink.Proofs.Resuming

/- The decoder waits for more only while a frame is incomplete, so there is a free place: the one
that the last byte of the longest frame takes. -/

set_option autoImplicit false

namespace LegLink.Link

variable {σ ε : Type} [Transport σ ε]

inductive Action where
  | openLink
  | closeLink
  | discardInput
  | takeSeq
  | send (seq : UInt16) (cmd : UInt8) (data : Bytes)
  | sendPacket (p : Packet)
  | receive (call : Receive)

def act (l : Link σ) : Action → Link σ
  | .openLink => l.openLink.2
  | .closeLink => l.closeLink.2
  | .discardInput => l.discardInput
  | .takeSeq => l.takeSeq.2
  | .send seq cmd data => (l.send seq cmd data).2
  | .sendPacket p => (l.sendPacket p).2
  | .receive call => (l.receive call).2

def actAll (actions : List Action) (l : Link σ) : Link σ := actions.foldl act l

def recvWithinNoting (timeout : Duration) (l : Link σ) :
    (Except (ReadError ε) Packet × Link σ) × List RxBuffer :=
  match l.rx.decode with
  | (some p, rx) => ((.ok p, { l with rx }), [])
  | (none, rx) =>
    match _read : Transport.readByte timeout l.line with
    | (.error e, line) => ((.error e, { l with line, rx }), [])
    | (.ok byte, line) =>
      let (outcome, later) := recvWithinNoting timeout { l with line, rx := rx.push byte }
      (outcome, rx :: later)
termination_by Transport.pending l.line
decreasing_by exact Transport.pending_read_byte _ _ _ _ _read

def pollNoting (timeout : Duration) (l : Link σ) :
    (Except (ReadError ε) Packet × Link σ) × List RxBuffer :=
  match l.rx.decode with
  | (some p, rx) => ((.ok p, { l with rx }), [])
  | (none, rx) =>
    match Transport.readByte timeout l.line with
    | (.error e, line) => ((.error e, { l with line, rx }), [])
    | (.ok byte, line) =>
      let l := { l with line, rx := rx.push byte }
      let (outcome, later) := recvWithinNoting (Transport.byteTimeout l.line) l
      (outcome, rx :: later)

def receiveNoting (call : Receive) (l : Link σ) :
    (Except (ReadError ε) Packet × Link σ) × List RxBuffer :=
  match call with
  | .recv => recvWithinNoting (Transport.byteTimeout l.line) l
  | .poll timeout => pollNoting timeout l

def actNoting (l : Link σ) : Action → Link σ × List RxBuffer
  | .receive call => ((receiveNoting call l).1.2, (receiveNoting call l).2)
  | other => (l.act other, [])

def actAllNoting : List Action → Link σ → Link σ × List RxBuffer
  | [], l => (l, [])
  | action :: later, l =>
    let (l, found) := l.actNoting action
    let (final, others) := actAllNoting later l
    (final, found ++ others)

def Waiting (found : List RxBuffer) : Prop := ∀ b ∈ found, b.decode = (none, b)

theorem waiting_nil : Waiting [] := fun _ none => nomatch none

theorem waiting_cons (rx left : RxBuffer) (later : List RxBuffer)
    (decoded : rx.decode = (none, left)) (others : Waiting later) : Waiting (left :: later) := by
  intro b member
  rcases List.mem_cons.mp member with rfl | member
  · exact RxBuffer.decode_kept rx b decoded
  · exact others b member

theorem recv_within_noting_waiting (timeout : Duration) (l : Link σ) :
    (recvWithinNoting timeout l).1 = l.recvWithin timeout ∧
      Waiting (recvWithinNoting timeout l).2 := by
  fun_induction recvWithinNoting timeout l with
  | case1 l p rx decoded => exact ⟨(recv_within_taken timeout l p rx decoded).symm, waiting_nil⟩
  | case2 l rx decoded e line read =>
    exact ⟨(recv_within_failed timeout l rx e line decoded read).symm, waiting_nil⟩
  | case3 l rx decoded byte line read outcome later noted ih =>
    rw [noted] at ih
    rw [recv_within_read timeout l rx byte line decoded read]
    exact ⟨ih.1, waiting_cons l.rx rx later decoded ih.2⟩

theorem poll_noting_waiting (timeout : Duration) (l : Link σ) :
    (pollNoting timeout l).1 = l.poll timeout ∧ Waiting (pollNoting timeout l).2 := by
  rcases decoded : l.rx.decode with ⟨found, rx⟩
  cases found with
  | some p =>
    rw [poll_taken timeout l p rx decoded]
    simp only [pollNoting, decoded]
    exact ⟨trivial, waiting_nil⟩
  | none =>
    rcases read : Transport.readByte timeout l.line with ⟨result, line⟩
    cases result with
    | error e =>
      rw [poll_failed timeout l rx e line decoded read]
      simp only [pollNoting, decoded, read]
      exact ⟨trivial, waiting_nil⟩
    | ok byte =>
      obtain ⟨same, others⟩ := recv_within_noting_waiting (Transport.byteTimeout line)
        { l with line, rx := rx.push byte }
      rw [poll_read timeout l rx byte line decoded read]
      simp only [pollNoting, decoded, read]
      exact ⟨same, waiting_cons l.rx rx _ decoded others⟩

theorem receive_noting_waiting (call : Receive) (l : Link σ) :
    (receiveNoting call l).1 = l.receive call ∧ Waiting (receiveNoting call l).2 := by
  cases call with
  | recv => exact recv_within_noting_waiting (Transport.byteTimeout l.line) l
  | poll timeout => exact poll_noting_waiting timeout l

theorem act_noting_waiting (action : Action) (l : Link σ) :
    (l.actNoting action).1 = l.act action ∧ Waiting (l.actNoting action).2 := by
  cases action with
  | receive call =>
    obtain ⟨same, waiting⟩ := receive_noting_waiting call l
    exact ⟨congrArg Prod.snd same, waiting⟩
  | openLink | closeLink | discardInput | takeSeq | send | sendPacket => exact ⟨rfl, waiting_nil⟩

theorem act_all_noting_waiting (actions : List Action) (l : Link σ) :
    (actAllNoting actions l).1 = actAll actions l ∧ Waiting (actAllNoting actions l).2 := by
  -- By induction on the actions, of which each leaves a link that may be asked for anything.
  induction actions generalizing l with
  | nil => exact ⟨rfl, waiting_nil⟩
  | cons action later ih =>
    obtain ⟨same, waiting⟩ := act_noting_waiting action l
    obtain ⟨final, others⟩ := ih (l.actNoting action).1
    refine ⟨final.trans (congrArg (actAll later) same), ?_⟩
    intro b member
    exact (List.mem_append.mp member).elim (waiting b) (others b)

/-- Every push in a run of a fresh link finds room, and takes its byte without clearing what is
there. The line is assumed to obey `Transport.pending_read_byte`: it delivers finitely many bytes
between two failed reads. -/
theorem push_finds_room (line : σ) (actions : List Action) :
    (∀ b rest : RxBuffer, b.decode = (none, rest) → rest.length < Frame.maxSize) ∧
    (actAllNoting actions { line }).1 = actAll actions { line } ∧
    ∀ b ∈ (actAllNoting actions ({ line } : Link σ)).2,
      b.length < Frame.maxSize ∧ ∀ byte, b.append? [byte] = some (b.push byte) := by
  obtain ⟨same, waiting⟩ := act_all_noting_waiting actions ({ line } : Link σ)
  refine ⟨RxBuffer.room_of_waiting, same, ?_⟩
  intro b member
  have left := waiting b member
  exact ⟨RxBuffer.room_of_waiting b b left, fun byte => RxBuffer.append_waiting b byte left⟩

set_option maxRecDepth 10000 in
theorem push_finds_room_last :
    let p : Packet := ⟨0, 0, ⟨List.replicate maxPayload 0, Nat.le_of_eq List.length_replicate⟩⟩
    let script : Line.Script := { byteTimeout := ⟨0⟩, items := p.frame.map .byte }
    ∃ b ∈ (actAllNoting [.receive .recv] ({ line := script } : Link Line.Script)).2,
      b.length + 1 = Frame.maxSize ∧ b.append? [Frame.etx] = some (b.push Frame.etx) := by
  intro p script
  have last : ∃ b ∈ (actAllNoting [.receive .recv] ({ line := script } : Link Line.Script)).2,
      b.length + 1 = Frame.maxSize := by decide +kernel
  obtain ⟨b, member, full⟩ := last
  obtain ⟨_, _, room⟩ := push_finds_room script [.receive .recv]
  exact ⟨b, member, full, (room b member).2 Frame.etx⟩

end LegLink.Link
