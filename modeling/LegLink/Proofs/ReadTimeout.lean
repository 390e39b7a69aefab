import LegLink.Line.Replay
import LegLink.Line.Serial

set_option autoImplicit false

namespace LegLink

-- Its timeout changes only when it takes the one that it is asked to have.
class TimedPort (π : Type) [SerialPort π] where
  timeout : π → Duration
  timeout_taken (asked : Duration) (port port' : π) :
    SerialPort.setTimeout asked port = (.ok (), port') → timeout port' = asked
  timeout_refused (asked : Duration) (port port' : π) (e : IoError) :
    SerialPort.setTimeout asked port = (.error e, port') → timeout port' = timeout port
  timeout_read_byte (port : π) : timeout (SerialPort.readByte port).2 = timeout port
  timeout_write_some (data : Bytes) (port : π) :
    timeout (SerialPort.writeSome data port).2 = timeout port
  timeout_flush (port : π) : timeout (SerialPort.flush port).2 = timeout port
  timeout_clear_input (port : π) : timeout (SerialPort.clearInput port).2 = timeout port

inductive PortUse where
  | setTimeout (asked : Duration)
  | read (timeout : Duration)
deriving DecidableEq

-- The port keeps which timeouts it is asked to have, and which one it has whenever it is read. What
-- the line believes stays true through any calls.
structure WatchedPort (π : Type) where
  port : π
  uses : List PortUse := []

namespace WatchedPort

variable {π : Type} [SerialPort π] [TimedPort π]

def note {α : Type} (use : List PortUse) (w : WatchedPort π) (outcome : α × π) :
    α × WatchedPort π :=
  (outcome.1, { port := outcome.2, uses := w.uses ++ use })

instance : SerialPort (WatchedPort π) where
  setTimeout asked w := w.note [.setTimeout asked] (SerialPort.setTimeout asked w.port)
  readByte w := w.note [.read (TimedPort.timeout w.port)] (SerialPort.readByte w.port)
  writeSome data w := w.note [] (SerialPort.writeSome data w.port)
  flush w := w.note [] (SerialPort.flush w.port)
  clearInput w := w.note [] (SerialPort.clearInput w.port)

end WatchedPort

namespace SerialLine

section Calls

variable {π : Type} [SerialPort π]

def perform (call : Line.Call) (line : SerialLine π) : SerialLine π :=
  match call with
  | .openLine => line.openLine.2
  | .closeLine => line.closeLine.2
  | .write data => (line.write data).2
  | .readByte asked => (line.readByte asked).2

def performAll (calls : List Line.Call) (line : SerialLine π) : SerialLine π :=
  calls.foldl (fun line call => line.perform call) line

def IsRead (call : Line.Call) : Prop := ∃ asked, call = .readByte asked

def verdict : Except IoError (Option UInt8) → Except (ReadError IoError) UInt8
  | .ok (some byte) => .ok byte
  | .ok none => .error .timeout
  | .error e => .error (if e = .timedOut then .timeout else .io e)

def reads (line : SerialLine π) : Except (ReadError IoError) UInt8 × SerialLine π :=
  (verdict (SerialPort.readByte line.port).1,
    { line with port := (SerialPort.readByte line.port).2 })

theorem read_byte_adjusted (asked : Duration) (line adjusted : SerialLine π)
    (done : line.adjustTimeout asked = (.ok (), adjusted)) :
    line.readByte asked = adjusted.reads := by
  rw [readByte, done, reads]
  dsimp only
  rcases SerialPort.readByte adjusted.port with ⟨result, port⟩
  rcases result with e | byte
  · rfl
  · cases byte with
    | none | some => rfl

theorem read_byte_kept (asked : Duration) (line : SerialLine π) (same : asked = line.readTimeout) :
    line.readByte asked = line.reads :=
  read_byte_adjusted asked line line (if_pos same)

section Differs

variable {asked : Duration} {line : SerialLine π} {port : π}
  (differs : asked ≠ line.readTimeout)
include differs

theorem read_byte_taken (taken : SerialPort.setTimeout asked line.port = (.ok (), port)) :
    line.readByte asked = reads { line with port, readTimeout := asked } := by
  apply read_byte_adjusted
  rw [adjustTimeout, if_neg differs, taken]

theorem read_byte_refused {e : IoError}
    (refused : SerialPort.setTimeout asked line.port = (.error e, port)) :
    line.readByte asked = (.error (.io e), { line with port }) := by
  rw [readByte, adjustTimeout, if_neg differs, refused]

end Differs

structure Unmoved {α : Type} (see : π → α) : Prop where
  writeSome (data : Bytes) (port : π) : see (SerialPort.writeSome data port).2 = see port
  flush (port : π) : see (SerialPort.flush port).2 = see port
  clearInput (port : π) : see (SerialPort.clearInput port).2 = see port

section Unmoved

variable {α : Type} {see : π → α} (unmoved : Unmoved see)
include unmoved

-- By induction on the writes that the port is asked for.
theorem write_all_unmoved (data : Bytes) (line : SerialLine π)
    (outcome : Except IoError Unit × SerialLine π) (ends : line.writeAll data = some outcome) :
    see outcome.2.port = see line.port ∧ outcome.2.readTimeout = line.readTimeout := by
  refine writeAll.partial_correctness
    (fun data line outcome =>
      see outcome.2.port = see line.port ∧ outcome.2.readTimeout = line.readTimeout)
    ?_ data line outcome ends
  intro again ih data line outcome ends
  split at ends
  · cases ends
    exact ⟨rfl, rfl⟩
  · rename_i byte rest
    have kept := unmoved.writeSome (byte :: rest) line.port
    split at ends <;> rename_i written <;> rw [written] at kept
    · split at ends
      · obtain ⟨seen, known⟩ := ih _ _ outcome ends
        exact ⟨seen.trans kept, known⟩
      · cases ends
        exact ⟨kept, rfl⟩
    · cases ends
      exact ⟨kept, rfl⟩
    · obtain ⟨seen, known⟩ := ih _ _ outcome ends
      exact ⟨seen.trans kept, known⟩

theorem write_unmoved (data : Bytes) (line : SerialLine π) :
    see (line.write data).2.port = see line.port ∧
      (line.write data).2.readTimeout = line.readTimeout := by
  unfold write write?
  rcases ends : line.writeAll data with - | ⟨result, written⟩
  · exact ⟨rfl, rfl⟩
  · obtain ⟨seen, known⟩ := write_all_unmoved unmoved data line _ ends
    cases result with
    | error e => exact ⟨seen, known⟩
    | ok _ => exact ⟨(unmoved.flush written.port).trans seen, known⟩

theorem perform_unmoved (call : Line.Call) (line : SerialLine π) (other : ¬ IsRead call) :
    see (line.perform call).port = see line.port ∧
      (line.perform call).readTimeout = line.readTimeout := by
  cases call with
  | openLine => exact ⟨unmoved.clearInput line.port, rfl⟩
  | closeLine => exact ⟨unmoved.flush line.port, rfl⟩
  | write data => exact write_unmoved unmoved data line
  | readByte asked => exact absurd ⟨asked, rfl⟩ other

end Unmoved
end Calls

variable {π : Type} [SerialPort π] [TimedPort π]

def Knows (line : SerialLine π) : Prop := line.readTimeout = TimedPort.timeout line.port

-- A port is read at once if its timeout is the one asked for. Else it is asked to have that one,
-- and it is read if it takes it, and left alone if not.
inductive Reads (asked : Duration) (port : π) :
    List PortUse → Except (ReadError IoError) UInt8 × π → Prop where
  | kept (same : TimedPort.timeout port = asked) :
    Reads asked port [.read asked]
      (verdict (SerialPort.readByte port).1, (SerialPort.readByte port).2)
  | taken (port' : π) (differs : TimedPort.timeout port ≠ asked)
      (taken : SerialPort.setTimeout asked port = (.ok (), port')) :
    Reads asked port [.setTimeout asked, .read asked]
      (verdict (SerialPort.readByte port').1, (SerialPort.readByte port').2)
  | refused (port' : π) (e : IoError) (differs : TimedPort.timeout port ≠ asked)
      (refused : SerialPort.setTimeout asked port = (.error e, port')) :
    Reads asked port [.setTimeout asked] (.error (.io e), port')

section Watched

def bare (line : SerialLine (WatchedPort π)) : SerialLine π :=
  { port := line.port.port, byteTimeout := line.byteTimeout, readTimeout := line.readTimeout }

theorem unmoved_uses : Unmoved (WatchedPort.uses : WatchedPort π → List PortUse) where
  writeSome _ w := List.append_nil w.uses
  flush w := List.append_nil w.uses
  clearInput w := List.append_nil w.uses

theorem unmoved_timeout : Unmoved (TimedPort.timeout : π → Duration) where
  writeSome := TimedPort.timeout_write_some
  flush := TimedPort.timeout_flush
  clearInput := TimedPort.timeout_clear_input

theorem write_some_bare {data : Bytes} {line : SerialLine (WatchedPort π)}
    {result : Except IoError Nat} {port : WatchedPort π}
    (written : SerialPort.writeSome data line.port = (result, port)) :
    SerialPort.writeSome data line.bare.port = (result, port.port) := by
  obtain ⟨same, rfl⟩ := Prod.mk.inj written
  exact Prod.ext same rfl

theorem write_all_bare_of_some (data : Bytes) (line : SerialLine (WatchedPort π))
    (outcome : Except IoError Unit × SerialLine (WatchedPort π))
    (ends : line.writeAll data = some outcome) :
    line.bare.writeAll data = some (outcome.1, outcome.2.bare) := by
  refine writeAll.partial_correctness
    (fun data (line : SerialLine (WatchedPort π)) outcome =>
      line.bare.writeAll data = some (outcome.1, outcome.2.bare)) ?_ data line outcome ends
  intro again ih data line outcome ends
  split at ends
  · cases ends
    rw [writeAll]
  · rw [writeAll]
    split at ends <;> rename_i written <;> rw [write_some_bare written] <;> dsimp only
    · split at ends <;> rename_i kind
      · rw [if_pos kind]
        exact ih _ _ outcome ends
      · rw [if_neg kind]
        cases ends
        rfl
    · cases ends
      rfl
    · exact ih _ _ outcome ends

theorem is_some_write_all (data : Bytes) (line : SerialLine (WatchedPort π))
    (outcome : Except IoError Unit × SerialLine π)
    (ends : line.bare.writeAll data = some outcome) : (line.writeAll data).isSome := by
  refine writeAll.partial_correctness
    (fun data (unwatched : SerialLine π) _ => ∀ line : SerialLine (WatchedPort π),
      line.bare = unwatched → (line.writeAll data).isSome) ?_ data line.bare outcome ends line rfl
  rintro again ih data _ outcome ends line rfl
  split at ends
  · rw [writeAll]
    rfl
  · rename_i byte rest
    rw [writeAll]
    rcases written : SerialPort.writeSome (byte :: rest) line.port with ⟨result, port⟩
    rw [write_some_bare written] at ends
    rcases result with e | taken
    · dsimp only at ends ⊢
      split at ends <;> rename_i kind
      · rw [if_pos kind]
        exact ih _ _ outcome ends _ rfl
      · rw [if_neg kind]
        rfl
    · cases taken with
      | zero => rfl
      | succ taken => exact ih _ _ outcome ends _ rfl

theorem write_bare (data : Bytes) (line : SerialLine (WatchedPort π)) :
    line.bare.write data = ((line.write data).1, (line.write data).2.bare) := by
  unfold write write?
  rcases ends : line.writeAll data with - | ⟨result, written⟩
  · have never : line.bare.writeAll data = none := by
      refine Option.eq_none_iff_forall_ne_some.mpr fun outcome bare => ?_
      have settles := is_some_write_all data line outcome bare
      rw [ends] at settles
      cases settles
    rw [never]
    rfl
  · rw [write_all_bare_of_some data line _ ends]
    cases result with
    | error e => rfl
    | ok _ => rfl

theorem read_byte_watched (asked : Duration) (line : SerialLine (WatchedPort π))
    (knows : line.bare.Knows) :
    line.bare.readByte asked = ((line.readByte asked).1, (line.readByte asked).2.bare) ∧
    (line.bare.readByte asked).2.Knows ∧
    ∃ uses, (line.readByte asked).2.port.uses = line.port.uses ++ uses ∧
      Reads asked line.bare.port uses
        ((line.bare.readByte asked).1, (line.bare.readByte asked).2.port) := by
  by_cases same : asked = line.readTimeout
  · rw [read_byte_kept asked line same, read_byte_kept asked line.bare same]
    have had : TimedPort.timeout line.bare.port = asked := (same.trans knows).symm
    refine ⟨rfl, ?_, [.read asked], ?_, .kept had⟩
    · exact knows.trans (TimedPort.timeout_read_byte line.bare.port).symm
    · rw [← had]
      rfl
  · have differs : TimedPort.timeout line.bare.port ≠ asked := fun had =>
      same (had.symm.trans knows.symm)
    rcases set : SerialPort.setTimeout asked line.bare.port with ⟨result, port⟩
    have noted : SerialPort.setTimeout asked line.port =
        (result, ⟨port, line.port.uses ++ [.setTimeout asked]⟩) := by
      change line.port.note [.setTimeout asked] (SerialPort.setTimeout asked line.bare.port) = _
      rw [set]
      rfl
    have same' : asked ≠ line.bare.readTimeout := same
    cases result with
    | ok _ =>
      rw [read_byte_taken same noted, read_byte_taken same' set]
      have has : TimedPort.timeout port = asked := TimedPort.timeout_taken asked _ port set
      refine ⟨rfl, ?_, [.setTimeout asked, .read asked], ?_, .taken port differs set⟩
      · exact has.symm.trans (TimedPort.timeout_read_byte port).symm
      · change line.port.uses ++ [.setTimeout asked] ++ [.read (TimedPort.timeout port)] = _
        rw [has, List.append_assoc]
        rfl
    | error e =>
      rw [read_byte_refused same noted, read_byte_refused same' set]
      have has := TimedPort.timeout_refused asked _ port e set
      exact ⟨rfl, knows.trans has.symm, [.setTimeout asked], rfl, .refused port e differs set⟩

theorem perform_watched (call : Line.Call) (line : SerialLine (WatchedPort π))
    (knows : line.bare.Knows) :
    (line.perform call).bare = line.bare.perform call ∧ (line.bare.perform call).Knows := by
  by_cases read : IsRead call
  · obtain ⟨asked, rfl⟩ := read
    obtain ⟨same, known, _⟩ := read_byte_watched asked line knows
    exact ⟨(congrArg Prod.snd same).symm, known⟩
  · constructor
    · cases call with
      | openLine | closeLine => rfl
      | write data => exact (congrArg Prod.snd (write_bare data line)).symm
      | readByte asked => exact absurd ⟨asked, rfl⟩ read
    · obtain ⟨timeout, readTimeout⟩ := perform_unmoved unmoved_timeout call line.bare read
      exact readTimeout.trans (knows.trans timeout.symm)

theorem perform_all_watched (calls : List Line.Call) (line : SerialLine (WatchedPort π))
    (knows : line.bare.Knows) :
    (line.performAll calls).bare = line.bare.performAll calls ∧
      (line.bare.performAll calls).Knows := by
  induction calls generalizing line with
  | nil => exact ⟨rfl, knows⟩
  | cons call later ih =>
    obtain ⟨same, known⟩ := perform_watched call line knows
    rw [← same] at known
    have rest := ih (line.perform call) known
    rw [same] at rest
    exact rest

end Watched

/-- However many timeouts the port has refused, the line knows the one that it has; a read goes by
that one, and no other call sets it or reads. -/
theorem reads_at_timeout (port : π) (calls : List Line.Call) :
    let line := (ofPort port (TimedPort.timeout port)).performAll calls
    let watched := (ofPort (WatchedPort.mk port []) (TimedPort.timeout port)).performAll calls
    watched.bare = line ∧ line.Knows ∧
    (∀ call, ¬ IsRead call → (watched.perform call).port.uses = watched.port.uses) ∧
    ∀ asked, ∃ uses, (watched.readByte asked).2.port.uses = watched.port.uses ++ uses ∧
      Reads asked line.port uses ((line.readByte asked).1, (line.readByte asked).2.port) := by
  intro line watched
  obtain ⟨same, knows⟩ :
      watched.bare = line ∧ line.Knows :=
    perform_all_watched calls (ofPort (WatchedPort.mk port []) (TimedPort.timeout port)) rfl
  refine ⟨same, knows, ?_, ?_⟩
  · intro call other
    exact (perform_unmoved unmoved_uses call watched other).1
  · intro asked
    rw [← same] at knows ⊢
    exact (read_byte_watched asked watched knows).2.2

end SerialLine

structure TimedLog where
  log : PortLog
  timeout : Duration
  refuses : List Bool := []

namespace TimedLog

def setTimeout (asked : Duration) (p : TimedLog) : Except IoError Unit × TimedLog :=
  match p.refuses with
  | true :: refuses => (.error .invalidInput, { p with refuses })
  | false :: refuses => (.ok (), { p with timeout := asked, refuses })
  | [] => (.ok (), { p with timeout := asked })

def logged {α : Type} (p : TimedLog) (outcome : α × PortLog) : α × TimedLog :=
  (outcome.1, { p with log := outcome.2 })

instance : SerialPort TimedLog where
  setTimeout := setTimeout
  readByte p := p.logged (SerialPort.readByte p.log)
  writeSome data p := p.logged (SerialPort.writeSome data p.log)
  flush p := p.logged (SerialPort.flush p.log)
  clearInput p := p.logged (SerialPort.clearInput p.log)

instance : TimedPort TimedLog where
  timeout := TimedLog.timeout
  timeout_taken asked p p' taken := by
    change setTimeout asked p = _ at taken
    unfold setTimeout at taken
    split at taken <;> cases taken <;> rfl
  timeout_refused asked p p' e refused := by
    change setTimeout asked p = _ at refused
    unfold setTimeout at refused
    split at refused <;> cases refused
    rfl
  timeout_read_byte _ := rfl
  timeout_write_some _ _ := rfl
  timeout_flush _ := rfl
  timeout_clear_input _ := rfl

end TimedLog

namespace SerialLine

theorem reads_at_timeout_refused :
    let port : TimedLog :=
      { log := { reads := [.byte 7, .nothing, .byte 8] }, timeout := .ofMillis 100
        refuses := [false, true] }
    let calls := [.readByte (.ofMillis 100), .readByte (.ofMillis 20), .readByte (.ofMillis 100)]
    let line := (ofPort port (.ofMillis 100)).performAll calls
    let watched := (ofPort (WatchedPort.mk port []) (.ofMillis 100)).performAll calls
    line.readTimeout = .ofMillis 20 ∧
    watched.port.uses = [.read (.ofMillis 100), .setTimeout (.ofMillis 20), .read (.ofMillis 20),
      .setTimeout (.ofMillis 100)] ∧
    (watched.readByte (.ofMillis 20)).2.port.uses =
      watched.port.uses ++ [.read (.ofMillis 20)] ∧
    (line.readByte (.ofMillis 20)).1 = .ok 8 := by
  intro port calls line watched
  obtain ⟨-, knows, -, goes⟩ := reads_at_timeout port calls
  refine ⟨knows, rfl, ?_, rfl⟩
  obtain ⟨uses, noted, reads⟩ := goes (.ofMillis 20)
  generalize ((line.readByte (.ofMillis 20)).1, _) = outcome at reads
  cases reads with
  | kept same => exact noted
  | taken _ differs | refused _ _ differs => exact absurd rfl differs

end SerialLine
end LegLink
