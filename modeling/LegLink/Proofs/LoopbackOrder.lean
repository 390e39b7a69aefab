import LegLink.Line.Loopback

set_option autoImplicit false

namespace LegLink.Loopback

-- The far port writes and may go away, the near one reads.
inductive Call where
  | write (data : Bytes)
  | writeSome (data : Bytes)
  | leave
  | readByte (timeout : Duration)
  | readSome (size : Nat)
  | readReady
deriving DecidableEq

inductive Answer where
  | written (result : Except PeerClosed Unit)
  | writtenSome (result : Except PeerClosed Nat)
  | left
  | byte (result : Except (ReadError PeerClosed) UInt8)
  | bytes (result : Except PeerClosed Bytes)
  | ready (result : Except PeerClosed Bool)

def Call.given : Call → Bytes
  | write data | writeSome data => data
  | leave | readByte _ | readSome _ | readReady => []

def Answer.got : Answer → Bytes
  | byte (.ok value) => [value]
  | bytes (.ok data) => data
  | written _ | writtenSome _ | left | byte (.error _) | bytes (.error _) | ready _ => []

def Answer.Closed : Answer → Prop
  | written (.error _) | writtenSome (.error _) | byte (.error (.io _)) | bytes (.error _)
  | ready (.error _) => True
  | written (.ok _) | writtenSome (.ok _) | left | byte (.ok _) | byte (.error .timeout)
  | bytes (.ok _) | ready (.ok _) => False

def perform (l : Loopback) : Call → Answer × Loopback
  | .write data => (.written (l.turned.write data).1, (l.turned.write data).2.turned)
  | .writeSome data =>
    (.writtenSome (l.turned.writeSome data).1, (l.turned.writeSome data).2.turned)
  | .leave => (.left, l.turned.leave.turned)
  | .readByte timeout => (.byte (l.readByte timeout).1, (l.readByte timeout).2)
  | .readSome size => (.bytes (l.readSome size).1, (l.readSome size).2)
  | .readReady => (.ready l.readReady.1, l.readReady.2)

-- A port that is gone is asked for nothing, and nobody asks for bytes where that would block.
def Call.Allowed (l : Loopback) : Call → Prop
  | write _ | writeSome _ | leave => l.far.present = true
  | readSome size => size = 0 ∨ l.waiting ≠ [] ∨ l.far.present = false
  | readByte _ | readReady => True

def performAll : List Call → Loopback → List Answer × Loopback
  | [], l => ([], l)
  | call :: later, l =>
    let (answers, final) := performAll later (l.perform call).2
    ((l.perform call).1 :: answers, final)

def AllowedAll : List Call → Loopback → Prop
  | [], _ => True
  | call :: later, l => call.Allowed l ∧ AllowedAll later (l.perform call).2

def Call.answer (waiting : Bytes) (writer : Bool) : Call → Answer
  | write _ => .written (.ok ())
  | writeSome data => .writtenSome (.ok data.length)
  | leave => .left
  | readByte _ =>
    match waiting with
    | value :: _ => .byte (.ok value)
    | [] => .byte (.error (if writer then .timeout else .io {}))
  | readSome size =>
    if size = 0 ∨ waiting ≠ [] then .bytes (.ok (waiting.take size))
    else .bytes (.error {})
  | readReady =>
    if waiting ≠ [] then .ready (.ok true)
    else .ready (if writer then .ok false else .error {})

-- The answer depends on what waits alone, and what a call takes off the line is the front of that,
-- with what it gives to the line behind the rest.
structure Carried (call : Call) (l : Loopback) (answer : Answer) (l' : Loopback) : Prop where
  answered : answer = call.answer l.waiting l.far.present
  kept : l.waiting ++ call.given = answer.got ++ l'.waiting
  reader : l'.near.present = l.near.present
  writer : l'.far.present = (l.far.present && decide (call ≠ .leave))

section Calls

variable (l : Loopback)

theorem write_far (data : Bytes) (present : l.near.present = true) :
    l.turned.write data = (.ok (), { l with near.queue := l.near.queue ++ data }.turned) :=
  if_pos (.inr present)

theorem carried_write (data : Bytes) (present : l.near.present = true) :
    Carried (.write data) l (l.perform (.write data)).1 (l.perform (.write data)).2 := by
  simp only [perform, write_far l data present]
  exact ⟨rfl, List.append_assoc _ _ _, rfl, (Bool.and_true _).symm⟩

theorem carried_write_some (data : Bytes) (present : l.near.present = true) :
    Carried (.writeSome data) l (l.perform (.writeSome data)).1
      (l.perform (.writeSome data)).2 := by
  simp only [perform, writeSome, write_far l data present]
  exact ⟨rfl, List.append_assoc _ _ _, rfl, (Bool.and_true _).symm⟩

theorem carried_leave : Carried .leave l (l.perform .leave).1 (l.perform .leave).2 :=
  ⟨rfl, List.append_nil _, rfl, (Bool.and_false _).symm⟩

theorem carried_read_byte (timeout : Duration) :
    Carried (.readByte timeout) l (l.perform (.readByte timeout)).1
      (l.perform (.readByte timeout)).2 := by
  rcases l with ⟨⟨queue, held, present⟩, far, limit⟩
  cases held with
  | some value => exact ⟨rfl, List.append_nil _, rfl, (Bool.and_true _).symm⟩
  | none =>
    cases queue with
    | cons value queue => exact ⟨rfl, List.append_nil _, rfl, (Bool.and_true _).symm⟩
    | nil => exact ⟨rfl, rfl, rfl, (Bool.and_true _).symm⟩

theorem carried_read_ready :
    Carried .readReady l (l.perform .readReady).1 (l.perform .readReady).2 := by
  rcases l with ⟨⟨queue, held, present⟩, far, limit⟩
  cases held with
  | some value => exact ⟨rfl, List.append_nil _, rfl, (Bool.and_true _).symm⟩
  | none =>
    cases queue with
    | cons value queue => exact ⟨rfl, List.append_nil _, rfl, (Bool.and_true _).symm⟩
    | nil => exact ⟨rfl, rfl, rfl, (Bool.and_true _).symm⟩

theorem carried_read_some (size : Nat) (allowed : (Call.readSome size).Allowed l) :
    Carried (.readSome size) l (l.perform (.readSome size)).1 (l.perform (.readSome size)).2 := by
  rcases l with ⟨⟨queue, held, present⟩, far, limit⟩
  cases size with
  | zero => exact ⟨rfl, List.append_nil _, rfl, (Bool.and_true _).symm⟩
  | succ size =>
    cases held with
    | some value =>
      refine ⟨rfl, ?_, rfl, (Bool.and_true _).symm⟩
      exact congrArg (value :: ·) ((List.append_nil _).trans (queue.take_append_drop size).symm)
    | none =>
      cases queue with
      | cons value queue =>
        refine ⟨rfl, ?_, rfl, (Bool.and_true _).symm⟩
        exact congrArg (value :: ·) ((List.append_nil _).trans (queue.take_append_drop size).symm)
      | nil =>
        rcases allowed with none | some | gone
        · cases none
        · exact absurd rfl some
        · have answered : readSome (size + 1) ⟨⟨[], none, present⟩, far, limit⟩ =
              (.error {}, ⟨⟨[], none, present⟩, far, limit⟩) := by
            simp only [readSome, show far.present = false from gone]
            rfl
          simp only [perform, answered]
          exact ⟨rfl, rfl, rfl, (Bool.and_true _).symm⟩

theorem closed_answer (call : Call) (allowed : call.Allowed l)
    (closed : (call.answer l.waiting l.far.present).Closed) :
    l.waiting = [] ∧ l.far.present = false := by
  cases call with
  | write | writeSome | leave => cases closed
  | readByte | readReady =>
    cases waits : l.waiting with
    | nil =>
      cases writer : l.far.present with
      | true => simp [Call.answer, Answer.Closed, waits, writer] at closed
      | false => exact ⟨rfl, rfl⟩
    | cons => simp [Call.answer, Answer.Closed, waits] at closed
  | readSome size =>
    by_cases served : size = 0 ∨ l.waiting ≠ []
    · rw [Call.answer, if_pos served] at closed
      cases closed
    · obtain ⟨some, none⟩ := not_or.mp served
      have waits := Decidable.not_not.mp none
      exact ⟨waits, (allowed.resolve_left some).resolve_left (absurd waits)⟩

theorem carried (call : Call) (present : l.near.present = true) (allowed : call.Allowed l) :
    Carried call l (l.perform call).1 (l.perform call).2 := by
  cases call with
  | write data => exact l.carried_write data present
  | writeSome data => exact l.carried_write_some data present
  | leave => exact l.carried_leave
  | readByte timeout => exact l.carried_read_byte timeout
  | readSome size => exact l.carried_read_some size allowed
  | readReady => exact l.carried_read_ready

end Calls

theorem carried_all (calls : List Call) (l : Loopback) (present : l.near.present = true)
    (allowed : AllowedAll calls l) :
    l.waiting ++ calls.flatMap Call.given =
        (performAll calls l).1.flatMap Answer.got ++ (performAll calls l).2.waiting ∧
      (performAll calls l).2.near.present = true := by
  induction calls generalizing l with
  | nil => exact ⟨List.append_nil _, present⟩
  | cons call later ih =>
    have one := l.carried call present allowed.1
    obtain ⟨rest, last⟩ := ih (l.perform call).2 (one.reader.trans present) allowed.2
    refine ⟨?_, last⟩
    calc l.waiting ++ (call.given ++ later.flatMap Call.given)
        = (l.perform call).1.got ++ ((l.perform call).2.waiting ++ later.flatMap Call.given) := by
          rw [← List.append_assoc, one.kept, List.append_assoc]
      _ = _ := by
          rw [rest, ← List.append_assoc]
          rfl

theorem drained (timeout : Duration) (l : Loopback) (waiting : Bytes) (same : l.waiting = waiting) :
    (performAll (List.replicate (waiting.length + 1) (.readByte timeout)) l).1 =
      waiting.map (fun value => .byte (.ok value)) ++
        [.byte (.error (if l.far.present then .timeout else .io {}))] := by
  induction waiting generalizing l with
  | nil =>
    have answer := (l.carried_read_byte timeout).answered
    rw [same] at answer
    exact congrArg (· :: []) answer
  | cons value waiting ih =>
    have one := l.carried_read_byte timeout
    have answer : (l.perform (.readByte timeout)).1 = .byte (.ok value) := by
      rw [one.answered, same]
      rfl
    have left : (l.perform (.readByte timeout)).2.waiting = waiting := by
      have kept := one.kept
      rw [answer, same] at kept
      exact (List.cons.inj ((List.append_nil _).symm.trans kept)).2.symm
    have writer : (l.perform (.readByte timeout)).2.far.present = l.far.present :=
      one.writer.trans (Bool.and_true _)
    have later := ih _ left
    rw [writer] at later
    exact (congrArg (_ :: ·) later).trans (congrArg (· :: _) answer)

/-- All bytes written come out in order and once: those that were read, by whichever call, then the
byte held back, then the queue. Asking whether a byte waits takes none, a closed peer is reported
only when none is left, and reading on delivers them all. -/
theorem loopback_in_order (byteTimeout : Duration) (calls : List Call)
    (allowed : AllowedAll calls { byteTimeout }) :
    let answers := (performAll calls { byteTimeout }).1
    let l := (performAll calls { byteTimeout }).2
    calls.flatMap Call.given =
      answers.flatMap Answer.got ++ (l.near.held.toList ++ l.near.queue) ∧
    (∀ call, call.Allowed l → (l.perform call).1 = call.answer l.waiting l.far.present) ∧
    l.readReady.2.waiting = l.waiting ∧
    (∀ call, call.Allowed l → (l.perform call).1.Closed → l.waiting = [] ∧ l.far.present = false) ∧
    ∀ timeout, (performAll (List.replicate (l.waiting.length + 1) (.readByte timeout)) l).1 =
      l.waiting.map (fun value => .byte (.ok value)) ++
        [.byte (.error (if l.far.present then .timeout else .io {}))] := by
  intro answers l
  obtain ⟨kept, present⟩ := carried_all calls { byteTimeout } rfl allowed
  refine ⟨kept, ?_, ?_, ?_, ?_⟩
  · intro call allowed
    exact (l.carried call present allowed).answered
  · exact l.carried_read_ready.kept.symm.trans (List.append_nil _)
  · intro call allowed closed
    rw [(l.carried call present allowed).answered] at closed
    exact closed_answer l call allowed closed
  · intro timeout
    exact drained timeout l l.waiting rfl

theorem loopback_in_order_left :
    let calls : List Call := [.write [1, 2, 3], .readReady, .writeSome [4], .readReady,
      .readSome 2, .readReady, .leave, .readByte ⟨0⟩]
    let l := (performAll calls { byteTimeout := ⟨0⟩ }).2
    AllowedAll calls { byteTimeout := ⟨0⟩ } ∧ l.waiting = [4] ∧ l.far.present = false ∧
      (performAll calls { byteTimeout := ⟨0⟩ }).1.flatMap Answer.got = [1, 2, 3] ∧
      (performAll [.readByte ⟨0⟩, .readByte ⟨0⟩] l).1 =
        [.byte (.ok 4), .byte (.error (.io {}))] := by
  intro calls l
  have allowed : AllowedAll calls { byteTimeout := ⟨0⟩ } :=
    ⟨rfl, trivial, rfl, trivial, .inr (.inl (by decide)), trivial, rfl, trivial, trivial⟩
  obtain ⟨kept, _, _, _, rest⟩ := loopback_in_order ⟨0⟩ calls allowed
  refine ⟨allowed, rfl, rfl, ?_, rest ⟨0⟩⟩
  exact List.append_cancel_right kept.symm

end LegLink.Loopback
