import LegLink.Frame.Buffer
import LegLink.Transport

set_option autoImplicit false

namespace LegLink

inductive LinkError (ε : Type) where
  | frame (error : FrameError)
  | io (error : ε)
deriving DecidableEq

structure Link (σ : Type) where
  line : σ
  rx : RxBuffer := .empty
  nextSeq : UInt16 := 0

namespace Link

variable {σ ε : Type} [Transport σ ε]

def openLink (l : Link σ) : Except ε Unit × Link σ :=
  let (result, line) := Transport.openLine l.line
  (result, { l with line, rx := .empty })

def closeLink (l : Link σ) : Except ε Unit × Link σ :=
  let (result, line) := Transport.closeLine l.line
  (result, { l with line })

def discardInput (l : Link σ) : Link σ := { l with rx := .empty }

def takeSeq (l : Link σ) : UInt16 × Link σ := (l.nextSeq, { l with nextSeq := l.nextSeq + 1 })

def takeSeqs (n : Nat) (l : Link σ) : UInt16 × Link σ :=
  n.fold (fun _ _ (_, l) => l.takeSeq) (0, l)

def sendPacket (p : Packet) (l : Link σ) : Except ε Unit × Link σ :=
  let (result, line) := Transport.write p.frame l.line
  (result, { l with line })

def send (seq : UInt16) (cmd : UInt8) (data : Bytes) (l : Link σ) :
    Except (LinkError ε) Unit × Link σ :=
  match Packet.ofBytes seq cmd data with
  | .error e => (.error (.frame e), l)
  | .ok p =>
    match l.sendPacket p with
    | (.error e, l) => (.error (.io e), l)
    | (.ok (), l) => (.ok (), l)

-- A read that fails leaves the bytes received so far in the buffer.
def recvWithin (timeout : Duration) (l : Link σ) : Except (ReadError ε) Packet × Link σ :=
  match l.rx.decode with
  | (some p, rx) => (.ok p, { l with rx })
  | (none, rx) =>
    match _read : Transport.readByte timeout l.line with
    | (.error e, line) => (.error e, { l with line, rx })
    | (.ok byte, line) => recvWithin timeout { l with line, rx := rx.push byte }
termination_by Transport.pending l.line
decreasing_by exact Transport.pending_read_byte _ _ _ _ _read

def recv (l : Link σ) : Except (ReadError ε) Packet × Link σ :=
  recvWithin (Transport.byteTimeout l.line) l

def poll (timeout : Duration) (l : Link σ) : Except (ReadError ε) Packet × Link σ :=
  match l.rx.decode with
  | (some p, rx) => (.ok p, { l with rx })
  | (none, rx) =>
    match Transport.readByte timeout l.line with
    | (.error e, line) => (.error e, { l with line, rx })
    | (.ok byte, line) => recv { l with line, rx := rx.push byte }

-- The bytes that may still take part in a packet.
def weight (l : Link σ) : Nat := Transport.pending l.line + l.rx.length

theorem weight_decode {l : Link σ} {p : Packet} {rx : RxBuffer}
    (decoded : l.rx.decode = (some p, rx)) : weight { l with rx } < l.weight := by
  have taken : l.rx.decode.1 = some p := by rw [decoded]
  have shorter := RxBuffer.length_decode_lt taken
  rw [decoded] at shorter
  simp only [weight] at *
  omega

theorem weight_push {timeout : Duration} {l : Link σ} {rx : RxBuffer} {byte : UInt8} {line : σ}
    (none : l.rx.decode = (none, rx))
    (read : Transport.readByte timeout l.line = (.ok byte, line)) :
    weight { l with line, rx := rx.push byte } ≤ l.weight := by
  have fewer := Transport.pending_read_byte _ _ _ _ read
  have kept := RxBuffer.length_decode_le l.rx
  have grown := RxBuffer.length_push_le rx byte
  rw [none] at kept
  simp only [weight] at *
  omega

theorem weight_recv_within {timeout : Duration} {l l' : Link σ} {p : Packet}
    (received : l.recvWithin timeout = (.ok p, l')) : l'.weight < l.weight := by
  fun_induction recvWithin timeout l with
  | case1 l q rx decoded =>
    cases received
    exact weight_decode decoded
  | case2 => cases received
  | case3 l rx decoded byte line read ih =>
    exact Nat.lt_of_lt_of_le (ih received) (weight_push decoded read)

theorem weight_recv {l l' : Link σ} {p : Packet} (received : l.recv = (.ok p, l')) :
    l'.weight < l.weight := weight_recv_within received

-- Gives up at the timeout that uses up the budget.
def awaitReply (seq : UInt16) (accept : Packet → Bool) (budget : Nat) (l : Link σ) :
    Except ε (Option Packet) × Link σ :=
  match received : l.recv with
  | (.ok p, l') =>
    if p.seq = seq ∧ accept p then (.ok (some p), l') else awaitReply seq accept budget l'
  | (.error .timeout, l') =>
    if budget ≤ 1 then (.ok none, l') else awaitReply seq accept (budget - 1) l'
  | (.error (.io e), l') => (.error e, l')
termination_by (budget, l.weight)
decreasing_by
  · exact Prod.Lex.right _ (weight_recv received)
  · exact Prod.Lex.left _ _ (by omega)

end Link
end LegLink
