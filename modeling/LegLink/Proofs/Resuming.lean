import LegLink.Line.Script
import LegLink.Proofs.Feeding
import LegLink.Proofs.Recording

set_option autoImplicit false

namespace LegLink

instance decidableEqExcept {ε α : Type} [DecidableEq ε] [DecidableEq α] :
    DecidableEq (Except ε α)
  | .ok a, .ok b => decidable_of_iff (a = b) ⟨congrArg _, Except.ok.inj⟩
  | .error a, .error b => decidable_of_iff (a = b) ⟨congrArg _, Except.error.inj⟩
  | .ok _, .error _ => isFalse nofun
  | .error _, .ok _ => isFalse nofun

def failure? {ε α : Type} : Except ε α → Option ε
  | .ok _ => none
  | .error e => some e

namespace Line

def Item.outcome : Item → Except (ReadError Fault) UInt8
  | byte value => .ok value
  | silence => .error .timeout
  | fault f => .error (.io f)

-- At the end of the queue there is only silence.
def ahead (n : Nat) (items : List Item) : List Item :=
  items.take n ++ List.replicate (n - items.length) .silence

def bytesOf (items : List Item) : Bytes := items.filterMap fun item => item.outcome.toOption

def failuresOf (items : List Item) : List (ReadError Fault) :=
  items.filterMap fun item => failure? item.outcome

@[simp]
theorem ahead_zero (items : List Item) : ahead 0 items = [] := by
  simp [ahead]

theorem ahead_succ (n : Nat) (items : List Item) :
    ahead (n + 1) items = items.headD .silence :: ahead n items.tail := by
  cases items with
  | nil => simp [ahead, List.replicate_succ]
  | cons item items => simp [ahead]

theorem ahead_add (m n : Nat) (items : List Item) :
    ahead (m + n) items = ahead m items ++ ahead n (items.drop m) := by
  induction m generalizing items with
  | zero => simp [ahead]
  | succ m ih =>
    rw [Nat.add_right_comm, ahead_succ, ahead_succ, ih, List.drop_tail, List.cons_append]

theorem bytes_of_append (a b : List Item) : bytesOf (a ++ b) = bytesOf a ++ bytesOf b :=
  List.filterMap_append

theorem failures_of_append (a b : List Item) : failuresOf (a ++ b) = failuresOf a ++ failuresOf b :=
  List.filterMap_append

@[simp]
theorem bytes_of_nil : bytesOf [] = [] := rfl

theorem failures_of_nil : failuresOf [] = [] := rfl

theorem bytes_of_succ (n : Nat) (items : List Item) :
    bytesOf (ahead (n + 1) items) =
      (items.headD .silence).outcome.toOption.toList ++ bytesOf (ahead n items.tail) := by
  rw [ahead_succ, bytesOf, List.filterMap_cons]
  cases (items.headD .silence).outcome <;> rfl

theorem failures_of_succ (n : Nat) (items : List Item) :
    failuresOf (ahead (n + 1) items) =
      (failure? (items.headD .silence).outcome).toList ++ failuresOf (ahead n items.tail) := by
  rw [ahead_succ, failuresOf, List.filterMap_cons]
  cases (items.headD .silence).outcome <;> rfl

theorem bytes_of_ahead (n : Nat) (items : List Item) :
    bytesOf (ahead n items) = bytesOf (items.take n) := by
  rw [ahead, bytes_of_append, List.append_right_eq_self]
  simp [bytesOf, Item.outcome, Except.toOption]

theorem read_byte_recorded (timeout : Duration) (r r' : Recorded Script)
    (result : Except (ReadError Fault) UInt8) (read : Transport.readByte timeout r = (result, r')) :
    result = (r.line.items.headD .silence).outcome ∧
      r'.calls = r.calls ++ [.readByte timeout] ∧ r'.line.items = r.line.items.tail ∧
      r'.line.reads = r.line.reads + 1 ∧ r'.line.byteTimeout = r.line.byteTimeout := by
  obtain ⟨rfl, rfl⟩ := Prod.mk.inj read
  rcases r with ⟨⟨byteTimeout, items⟩, calls⟩
  cases items with
  | nil => exact ⟨rfl, rfl, rfl, rfl, rfl⟩
  | cons item items => cases item <;> exact ⟨rfl, rfl, rfl, rfl, rfl⟩

end Line

inductive Receive where
  | recv
  | poll (timeout : Duration)

def Receive.waits (byteTimeout : Duration) : Receive → Nat → List Duration
  | recv, n => List.replicate n byteTimeout
  | poll _, 0 => []
  | poll timeout, n + 1 => timeout :: List.replicate n byteTimeout

namespace Link

section Receive

variable {σ ε : Type} [Transport σ ε]

def receive (call : Receive) (l : Link σ) : Except (ReadError ε) Packet × Link σ :=
  match call with
  | .recv => l.recv
  | .poll timeout => l.poll timeout

def receiveAll : List Receive → Link σ → List (Except (ReadError ε) Packet) × Link σ
  | [], l => ([], l)
  | call :: calls, l =>
    let (result, l) := l.receive call
    let (results, l) := receiveAll calls l
    (result :: results, l)

theorem receive_unrecorded (call : Receive) (l : Link (Line.Recorded σ)) :
    l.unrecorded.receive call = ((l.receive call).1, (l.receive call).2.unrecorded) := by
  cases call with
  | recv => exact (recv_within_unrecorded (Transport.byteTimeout l.line) l).1
  | poll timeout => exact (poll_unrecorded timeout l).1

theorem receive_all_unrecorded (calls : List Receive) (l : Link (Line.Recorded σ)) :
    receiveAll calls l.unrecorded =
      ((receiveAll calls l).1, (receiveAll calls l).2.unrecorded) := by
  induction calls generalizing l with
  | nil => rfl
  | cons call calls ih =>
    simp only [receiveAll]
    rw [receive_unrecorded call l]
    simp only [ih]

end Receive

open Line RxBuffer

-- A call that asked for one byte within each of `waits`. Before each read nothing but bytes came,
-- and the decoder had just left the buffer, having found no packet; a read that failed left it so.
structure Heard (fed : Bytes) (packets : List Packet) (waits : List Duration)
    (l l' : Link (Recorded Script)) (result : Except (ReadError Fault) Packet) : Prop where
  asked : l'.line.calls = l.line.calls ++ waits.map .readByte
  used : l'.line.line.items = l.line.line.items.drop waits.length
  counted : l'.line.line.reads = l.line.line.reads + waits.length
  timeout : l'.line.line.byteTimeout = l.line.line.byteTimeout
  failed : failuresOf (ahead waits.length l.line.line.items) = (failure? result).toList
  waited : ∀ k < waits.length, failuresOf (ahead k l.line.line.items) = [] ∧
    ∃ b, Feeding (fed ++ bytesOf (ahead k l.line.line.items)) packets b ∧ b.decode = (none, b) ∧
      (k + 1 = waits.length → result.toOption = none → l'.rx = b)
  state : Feeding (fed ++ bytesOf (ahead waits.length l.line.line.items))
    (packets ++ result.toOption.toList) l'.rx

theorem Heard.read_of_failed (fed : Bytes) (packets : List Packet) (waits : List Duration)
    (l l' : Link (Recorded Script)) (result : Except (ReadError Fault) Packet)
    (heard : Heard fed packets waits l l' result) (missed : result.toOption = none) :
    0 < waits.length := by
  by_cases none : waits.length = 0
  · have failed := heard.failed
    rw [none, ahead_zero] at failed
    cases result with
    | ok p => cases missed
    | error e => cases failed
  · omega

section Heard

variable (fed : Bytes) (packets : List Packet) (timeout : Duration) (l : Link (Recorded Script))

theorem heard_taken (p : Packet) (rx : RxBuffer) (state : Feeding fed packets l.rx)
    (decoded : l.rx.decode = (some p, rx)) : Heard fed packets [] l { l with rx } (.ok p) where
  asked := (List.append_nil _).symm
  used := rfl
  counted := rfl
  timeout := rfl
  failed := by simp [failures_of_nil, failure?]
  waited k none := absurd none (Nat.not_lt_zero k)
  state := by
    have looked := state.look fed packets l.rx
    rw [decoded] at looked
    simpa [Except.toOption] using looked

theorem heard_failed (rx : RxBuffer) (e : ReadError Fault) (line : Recorded Script)
    (state : Feeding fed packets l.rx) (decoded : l.rx.decode = (none, rx))
    (read : Transport.readByte timeout l.line = (.error e, line)) :
    Heard fed packets [timeout] l { l with line, rx } (.error e) := by
  obtain ⟨result, asked, used, counted, kept⟩ := read_byte_recorded timeout l.line line _ read
  obtain ⟨looked, waiting⟩ := state.looked fed packets l.rx rx decoded
  refine ⟨asked, used.trans List.drop_one.symm, counted, kept, ?_, ?_, ?_⟩
  · rw [List.length_singleton, failures_of_succ, ← result, ahead_zero]
    rfl
  · intro k first
    obtain rfl : k = 0 := Nat.lt_one_iff.mp first
    refine ⟨by rw [ahead_zero, failures_of_nil], rx, ?_, waiting, fun _ _ => rfl⟩
    simpa using looked
  · rw [List.length_singleton, bytes_of_succ, ← result, ahead_zero]
    simpa [Except.toOption] using looked

theorem heard_read (rx : RxBuffer) (byte : UInt8) (line : Recorded Script) (waits : List Duration)
    (l' : Link (Recorded Script)) (result : Except (ReadError Fault) Packet)
    (state : Feeding fed packets l.rx) (decoded : l.rx.decode = (none, rx))
    (read : Transport.readByte timeout l.line = (.ok byte, line))
    (later : Heard (fed ++ [byte]) packets waits { l with line, rx := rx.push byte } l' result) :
    Heard fed packets (timeout :: waits) l l' result := by
  obtain ⟨outcome, asked, used, counted, kept⟩ := read_byte_recorded timeout l.line line _ read
  obtain ⟨looked, waiting⟩ := state.looked fed packets l.rx rx decoded
  have bytes (n : Nat) : fed ++ bytesOf (ahead (n + 1) l.line.line.items) =
      (fed ++ [byte]) ++ bytesOf (ahead n line.line.items) := by
    rw [bytes_of_succ, ← outcome, used, ← List.append_assoc]
    rfl
  have failures (n : Nat) : failuresOf (ahead (n + 1) l.line.line.items) =
      failuresOf (ahead n line.line.items) := by
    rw [failures_of_succ, ← outcome, used]
    rfl
  constructor
  · rw [later.asked]
    simp [asked]
  · rw [later.used]
    simp [used]
  · rw [later.counted]
    simp [counted]
    omega
  · exact later.timeout.trans kept
  · exact (failures _).trans later.failed
  · intro k inside
    cases k with
    | zero =>
      refine ⟨by rw [ahead_zero, failures_of_nil], rx, ?_, waiting, ?_⟩
      · simpa using looked
      · intro last missed
        have another := later.read_of_failed _ _ _ _ _ _ missed
        have none := Nat.succ.inj last
        omega
    | succ k =>
      obtain ⟨whole, b, state, waiting, kept⟩ := later.waited k (Nat.lt_of_succ_lt_succ inside)
      refine ⟨(failures k).trans whole, b, (bytes k) ▸ state, waiting, ?_⟩
      intro last
      exact kept (Nat.succ.inj last)
  · exact (bytes waits.length) ▸ later.state

theorem recv_within_heard (state : Feeding fed packets l.rx) :
    ∃ n, Heard fed packets (List.replicate n timeout) l (l.recvWithin timeout).2
      (l.recvWithin timeout).1 := by
  fun_induction recvWithin timeout l generalizing fed with
  | case1 l p rx decoded => exact ⟨0, heard_taken fed packets l p rx state decoded⟩
  | case2 l rx decoded e line read =>
    exact ⟨1, heard_failed fed packets timeout l rx e line state decoded read⟩
  | case3 l rx decoded byte line read ih =>
    have pushed := state.pushed fed packets l.rx rx byte decoded
    obtain ⟨n, later⟩ := ih (fed ++ [byte]) pushed
    exact ⟨n + 1, heard_read fed packets timeout l rx byte line _ _ _ state decoded read later⟩

theorem receive_heard (call : Receive) (state : Feeding fed packets l.rx) :
    ∃ n, Heard fed packets (call.waits l.line.line.byteTimeout n) l (l.receive call).2
      (l.receive call).1 := by
  cases call with
  | recv => exact recv_within_heard fed packets l.line.line.byteTimeout l state
  | poll timeout =>
    simp only [receive]
    rcases decoded : l.rx.decode with ⟨found, rx⟩
    cases found with
    | some p =>
      rw [poll_taken timeout l p rx decoded]
      exact ⟨0, heard_taken fed packets l p rx state decoded⟩
    | none =>
      rcases read : Transport.readByte timeout l.line with ⟨outcome, line⟩
      cases outcome with
      | error e =>
        rw [poll_failed timeout l rx e line decoded read]
        exact ⟨1, heard_failed fed packets timeout l rx e line state decoded read⟩
      | ok byte =>
        rw [poll_read timeout l rx byte line decoded read]
        have pushed := state.pushed fed packets l.rx rx byte decoded
        have kept := (read_byte_recorded timeout l.line line _ read).2.2.2.2
        obtain ⟨n, later⟩ := recv_within_heard (fed ++ [byte]) packets line.line.byteTimeout
          { l with line, rx := rx.push byte } pushed
        rw [← kept]
        exact ⟨n + 1, heard_read fed packets timeout l rx byte line _ _ _ state decoded read later⟩

end Heard

-- Each read took one item, the failures among these are the failures of the calls, and their bytes
-- are what has been fed to the buffer.
structure Resumed (script : Script) (results : List (Except (ReadError Fault) Packet))
    (l : Link (Recorded Script)) : Prop where
  used : l.line.line.items = script.items.drop l.line.calls.length
  counted : l.line.line.reads = script.reads + l.line.calls.length
  timeout : l.line.line.byteTimeout = script.byteTimeout
  failed : results.filterMap failure? = failuresOf (ahead l.line.calls.length script.items)
  state : Feeding (bytesOf (ahead l.line.calls.length script.items))
    (results.filterMap Except.toOption) l.rx
  settled : ∀ e, results.getLast? = some (.error e) → l.rx.decode = (none, l.rx)

theorem resumed_start (script : Script) : Resumed script [] { line := { line := script } } where
  used := rfl
  counted := rfl
  timeout := rfl
  failed := by simp [failures_of_nil]
  state := by simpa using Feeding.start
  settled e last := by cases last

theorem resumed_receive (script : Script) (results : List (Except (ReadError Fault) Packet))
    (result : Except (ReadError Fault) Packet) (waits : List Duration)
    (l l' : Link (Recorded Script)) (resumed : Resumed script results l)
    (heard : Heard (bytesOf (ahead l.line.calls.length script.items))
      (results.filterMap Except.toOption) waits l l' result) :
    Resumed script (results ++ [result]) l' := by
  have reads : l'.line.calls.length = l.line.calls.length + waits.length := by
    rw [heard.asked, List.length_append, List.length_map]
  have found : ahead l'.line.calls.length script.items =
      ahead l.line.calls.length script.items ++ ahead waits.length l.line.line.items := by
    rw [reads, ahead_add, resumed.used]
  constructor
  · rw [heard.used, resumed.used, List.drop_drop, reads]
  · rw [heard.counted, resumed.counted, reads, Nat.add_assoc]
  · exact heard.timeout.trans resumed.timeout
  · rw [found, failures_of_append, heard.failed, ← resumed.failed, List.filterMap_append]
    cases result <;> rfl
  · have state := heard.state
    rw [← bytes_of_append, ← found] at state
    rw [List.filterMap_append]
    cases result <;> exact state
  · intro e last
    rw [List.getLast?_concat] at last
    cases last
    have some := heard.read_of_failed _ _ _ _ _ _ rfl
    obtain ⟨_, b, _, waiting, kept⟩ := heard.waited (waits.length - 1) (by omega)
    rwa [kept (by omega) rfl]

theorem resumed_receive_all (script : Script) (calls : List Receive)
    (results : List (Except (ReadError Fault) Packet)) (l : Link (Recorded Script))
    (resumed : Resumed script results l) :
    Resumed script (results ++ (receiveAll calls l).1) (receiveAll calls l).2 := by
  induction calls generalizing results l with
  | nil => rwa [receiveAll, List.append_nil]
  | cons call calls ih =>
    obtain ⟨n, heard⟩ := receive_heard _ _ l call resumed.state
    have next := resumed_receive script results _ _ l _ resumed heard
    have last := ih _ _ next
    rwa [List.append_assoc] at last

theorem feed_waiting (bytes : Bytes) (packets : List Packet) (b : RxBuffer)
    (state : Feeding bytes packets b) (waiting : b.decode = (none, b)) :
    ∃ timed, feed bytes.zipIdx .empty = (.ok timed, b) ∧ timed.map Prod.snd = packets := by
  obtain ⟨timed, rest, fed, _, found, kept⟩ := feed_decode_all bytes
  rw [state.waiting bytes packets b waiting] at found kept
  exact ⟨timed, ext rest b kept ▸ fed, found⟩

theorem feed_front (bytes more : Bytes) (packets : List Packet) (b : RxBuffer)
    (state : Feeding bytes packets b) :
    ∃ timed rest, feed (bytes ++ more).zipIdx .empty = (.ok timed, rest) ∧
      packets <+: timed.map Prod.snd := by
  obtain ⟨timed, rest, fed, _, found, _⟩ := feed_decode_all (bytes ++ more)
  obtain ⟨between, taken, _⟩ := state.taken bytes packets b
  have all := (taken.append bytes between more packets).decode_all _ _ _
  rw [all] at found
  exact ⟨timed, rest, fed, _, found.symm⟩

/-- Calls on a fresh link lose and reorder nothing, whatever fails between the bytes of the script.
Their packets begin those of the bytes alone, and are all of them once the script is used up and the
last call failed. Each call reads only while the decoder finds nothing. -/
theorem receive_all_resumes (script : Script) (calls : List Receive) :
    ∃ results l, receiveAll calls { line := { line := script } } = (results, l) ∧
      receiveAll calls { line := script } = (results, l.unrecorded) ∧
      Resumed script results l ∧
      (∃ timed rest, feed (bytesOf script.items).zipIdx .empty = (.ok timed, rest) ∧
        results.filterMap Except.toOption <+: timed.map Prod.snd ∧
        ∀ e, l.line.line.items = [] → results.getLast? = some (.error e) →
          results.filterMap Except.toOption = timed.map Prod.snd ∧ l.rx = rest) ∧
      ∀ call, ∃ n, Heard (bytesOf (ahead l.line.calls.length script.items))
        (results.filterMap Except.toOption) (call.waits script.byteTimeout n) l
        (l.receive call).2 (l.receive call).1 := by
  rcases run : receiveAll calls ({ line := { line := script } } : Link (Recorded Script)) with
    ⟨results, l⟩
  have plain := receive_all_unrecorded calls { line := ({ line := script } : Recorded Script) }
  have resumed := resumed_receive_all script calls [] _ (resumed_start script)
  rw [run] at plain resumed
  refine ⟨results, l, rfl, plain, resumed, ?_, ?_⟩
  · have whole : bytesOf script.items = bytesOf (ahead l.line.calls.length script.items) ++
        bytesOf l.line.line.items := by
      rw [bytes_of_ahead, resumed.used, ← bytes_of_append, List.take_append_drop]
    obtain ⟨timed, rest, fed, begins⟩ :=
      feed_front _ (bytesOf l.line.line.items) _ l.rx resumed.state
    rw [← whole] at fed
    refine ⟨timed, rest, fed, begins, ?_⟩
    intro e empty last
    obtain ⟨timed', fed', found⟩ := feed_waiting _ _ l.rx resumed.state (resumed.settled e last)
    rw [empty, bytes_of_nil, List.append_nil] at whole
    rw [← whole, fed] at fed'
    cases fed'
    exact ⟨found.symm, rfl⟩
  · intro call
    obtain ⟨n, heard⟩ := receive_heard _ _ l call resumed.state
    rw [resumed.timeout] at heard
    exact ⟨n, heard⟩

theorem receive_all_resumes_cut :
    ∃ (script : Script) (results : List (Except (ReadError Fault) Packet))
      (l : Link (Recorded Script)),
      script.items = [0x7E, 0x03, 0x01, 0x00].map Item.byte ++ .silence ::
        [0x08, 0x24, 0xA9, 0x7F, 0x7E].map Item.byte ++ [.fault ⟨7⟩] ∧
      receiveAll [.recv, .poll (.ofMillis 1), .recv] { line := { line := script } } =
        (results, l) ∧
      l.line.line.items = [] ∧ results.getLast? = some (.error (.io ⟨7⟩)) ∧
      results.filterMap failure? = [.timeout, .io ⟨7⟩] ∧ l.rx.bytes = [0x7E] ∧
      ∃ timed, feed (bytesOf script.items).zipIdx .empty = (.ok timed, l.rx) ∧
        timed.map Prod.snd = [⟨1, 0x08, .empty⟩] := by
  let script : Script :=
    { byteTimeout := .ofMillis 20
      items := [0x7E, 0x03, 0x01, 0x00].map Item.byte ++ .silence ::
        [0x08, 0x24, 0xA9, 0x7F, 0x7E].map Item.byte ++ [.fault ⟨7⟩] }
  have results : (receiveAll [.recv, .poll (.ofMillis 1), .recv]
      ({ line := { line := script } } : Link (Recorded Script))).1 =
        [.error .timeout, .ok ⟨1, 0x08, .empty⟩, .error (.io ⟨7⟩)] := by decide +kernel
  have rest : (receiveAll [.recv, .poll (.ofMillis 1), .recv]
      ({ line := { line := script } } : Link (Recorded Script))).2.line.line.items = [] ∧
        (receiveAll [.recv, .poll (.ofMillis 1), .recv]
          ({ line := { line := script } } : Link (Recorded Script))).2.rx.bytes = [0x7E] := by
    decide +kernel
  obtain ⟨_, l, run, _, resumed, ⟨timed, _, fed, _, all⟩, _⟩ :=
    receive_all_resumes script [.recv, .poll (.ofMillis 1), .recv]
  rw [run] at results rest
  cases results
  obtain ⟨packets, rfl⟩ := all (.io ⟨7⟩) rest.1 rfl
  exact ⟨script, _, l, rfl, run, rest.1, rfl, rfl, rest.2, timed, fed, packets.symm⟩

end Link
end LegLink
