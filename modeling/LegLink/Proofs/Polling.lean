import LegLink.Line.Uart

set_option autoImplicit false

namespace LegLink

namespace Uart

variable {υ ε : Type} [Uart υ ε]

def polled : Nat → υ → υ
  | 0, uart => uart
  | n + 1, uart => polled n (takeByte uart).2

def found (uart : υ) (n : Nat) : Except ε (Option UInt8) := (takeByte (polled n uart)).1

def taken : Nat → υ → Bytes
  | 0, _ => []
  | n + 1, uart =>
    (takeByte uart).1.toOption.join.toList ++ taken n (takeByte uart).2

theorem polled_add (n m : Nat) (uart : υ) : polled (n + m) uart = polled m (polled n uart) := by
  induction n generalizing uart with
  | zero => rw [Nat.zero_add, polled]
  | succ n ih =>
    rw [Nat.succ_add]
    exact ih (takeByte uart).2

theorem taken_add (n m : Nat) (uart : υ) :
    taken (n + m) uart = taken n uart ++ taken m (polled n uart) := by
  induction n generalizing uart with
  | zero => rw [Nat.zero_add, taken, polled, List.nil_append]
  | succ n ih =>
    rw [Nat.succ_add, taken, ih, taken, List.append_assoc]
    rfl

theorem taken_silent (n : Nat) (uart : υ) (silent : ∀ m < n, found uart m = .ok none) :
    taken (n + 1) uart = (found uart n).toOption.join.toList := by
  induction n generalizing uart with
  | zero => exact List.append_nil _
  | succ n ih =>
    have first : (takeByte uart).1 = .ok none := silent 0 (Nat.succ_pos n)
    rw [taken, first, ih _ fun m before => silent (m + 1) (Nat.succ_lt_succ before)]
    rfl

end Uart

namespace Clock

variable {κ : Type} [Clock κ]

def ticked : Nat → κ → κ
  | 0, clock => clock
  | n + 1, clock => ticked n (now clock).2

def reading (clock : κ) (n : Nat) : UInt64 := (now (ticked n clock)).1

theorem to_nat_elapsed (since : UInt64) (clock : κ) :
    (elapsed since clock).1.toNat = (reading clock 0).toNat - since.toNat := by
  change (if since ≤ (now clock).1 then (now clock).1 - since else 0).toNat =
    (now clock).1.toNat - since.toNat
  by_cases later : since ≤ (now clock).1
  · rw [if_pos later, UInt64.toNat_sub_of_le _ _ later]
  · have back : (now clock).1.toNat < since.toNat := UInt64.not_le.mp later
    rw [if_neg later, Nat.sub_eq_zero_of_le (Nat.le_of_lt back)]
    rfl

end Clock

namespace UartLine

variable {υ κ : Type}

def limitMicros (timeout : Duration) (line : UartLine υ κ) : Nat :=
  min (min timeout.nanos line.config.maxWait.nanos / 1000) (UInt64.size - 1)

theorem to_nat_limit (timeout : Duration) (line : UartLine υ κ) :
    (line.limit timeout).toNat = line.limitMicros timeout := by
  have whole : (timeout.min line.config.maxWait).wholeMicros =
      min timeout.nanos line.config.maxWait.nanos / 1000 := by
    unfold Duration.min Duration.wholeMicros
    split <;> omega
  rw [limit, whole, UInt64.toNat_ofNat_of_lt']
  · rfl
  · exact Nat.lt_of_le_of_lt (Nat.min_le_right _ _) (by decide)

variable {ε : Type} [Uart υ ε] [Clock κ]

def after (polls readings : Nat) (line : UartLine υ κ) : UartLine υ κ :=
  { line with uart := Uart.polled polls line.uart, clock := Clock.ticked readings line.clock }

section Await

variable (start limit : UInt64) (line : UartLine υ κ)

def Late (n : Nat) : Prop :=
  limit.toNat ≤ (Clock.reading line.clock n).toNat - start.toNat

instance (n : Nat) : Decidable (line.Late start limit n) := inferInstanceAs (Decidable (_ ≤ _))

def Silent (n : Nat) : Prop :=
  ∀ m < n, Uart.found line.uart m = .ok none ∧ ¬ line.Late start limit m

inductive Ends (n : Nat) : Except (ReadError ε) UInt8 × UartLine υ κ → Prop where
  | byte (value : UInt8) (found : Uart.found line.uart n = .ok (some value)) :
    Ends n (.ok value, line.after (n + 1) n)
  | fault (e : ε) (failed : Uart.found line.uart n = .error e) :
    Ends n (.error (.io e), line.after (n + 1) n)
  | late (none : Uart.found line.uart n = .ok none) (late : line.Late start limit n) :
    Ends n (.error .timeout, line.after (n + 1) (n + 1))

theorem late_iff :
    limit ≤ (Clock.elapsed start line.clock).1 ↔ line.Late start limit 0 := by
  rw [UInt64.le_iff_toNat_le, Clock.to_nat_elapsed]
  rfl

theorem silent_succ (n : Nat) :
    line.Silent start limit (n + 1) ↔
      (Uart.found line.uart 0 = .ok none ∧ ¬ line.Late start limit 0) ∧
        (line.after 1 1).Silent start limit n := by
  constructor
  · intro silent
    exact ⟨silent 0 (Nat.succ_pos n), fun m before => silent (m + 1) (Nat.succ_lt_succ before)⟩
  · rintro ⟨first, later⟩ m before
    cases m with
    | zero => exact first
    | succ m => exact later m (Nat.lt_of_succ_lt_succ before)

theorem ends_succ (n : Nat) (outcome : Except (ReadError ε) UInt8 × UartLine υ κ) :
    line.Ends start limit (n + 1) outcome ↔ (line.after 1 1).Ends start limit n outcome := by
  constructor
  · rintro (⟨value, found⟩ | ⟨e, failed⟩ | ⟨none, late⟩)
    · exact .byte value found
    · exact .fault e failed
    · exact .late none late
  · rintro (⟨value, found⟩ | ⟨e, failed⟩ | ⟨none, late⟩)
    · exact .byte value found
    · exact .fault e failed
    · exact .late none late

theorem await_silent (none : Uart.found line.uart 0 = .ok none)
    (early : ¬ line.Late start limit 0) :
    await start limit line = await start limit (line.after 1 1) := by
  have polled : Uart.takeByte line.uart = (.ok .none, (Uart.takeByte line.uart).2) :=
    Prod.ext none rfl
  rw [await, polled]
  exact if_neg fun reached => early (line.late_iff start limit |>.mp reached)

theorem await_settled (outcome : Except (ReadError ε) UInt8 × UartLine υ κ)
    (ends : line.Ends start limit 0 outcome) : await start limit line = some outcome := by
  cases ends with
  | byte value found =>
    have polled : Uart.takeByte line.uart = (.ok (some value), (Uart.takeByte line.uart).2) :=
      Prod.ext found rfl
    rw [await, polled]
    rfl
  | fault e failed =>
    have polled : Uart.takeByte line.uart = (.error e, (Uart.takeByte line.uart).2) :=
      Prod.ext failed rfl
    rw [await, polled]
    rfl
  | late none late =>
    have polled : Uart.takeByte line.uart = (.ok .none, (Uart.takeByte line.uart).2) :=
      Prod.ext none rfl
    rw [await, polled]
    exact if_pos ((line.late_iff start limit).mpr late)

theorem await_ends (n : Nat) (outcome : Except (ReadError ε) UInt8 × UartLine υ κ)
    (silent : line.Silent start limit n) (ends : line.Ends start limit n outcome) :
    await start limit line = some outcome := by
  -- By induction on the rounds before the one that settles it.
  induction n generalizing line with
  | zero => exact line.await_settled start limit outcome ends
  | succ n ih =>
    obtain ⟨⟨none, early⟩, later⟩ := (line.silent_succ start limit n).mp silent
    rw [line.await_silent start limit none early]
    exact ih _ later ((line.ends_succ start limit n outcome).mp ends)

-- By induction on the rounds that a wait with a result was made of.
theorem ends_of_await (outcome : Except (ReadError ε) UInt8 × UartLine υ κ)
    (settled : await start limit line = some outcome) :
    ∃ n, line.Silent start limit n ∧ line.Ends start limit n outcome := by
  refine await.partial_correctness start limit
    (fun line outcome => ∃ n, line.Silent start limit n ∧ line.Ends start limit n outcome)
    ?_ line outcome settled
  intro again ih line outcome settled
  have first : line.Silent start limit 0 := fun m before => absurd before (Nat.not_lt_zero m)
  split at settled
  · rename_i e uart polled
    obtain rfl := congrArg Prod.snd polled
    cases settled
    exact ⟨0, first, .fault e (congrArg Prod.fst polled)⟩
  · rename_i value uart polled
    obtain rfl := congrArg Prod.snd polled
    cases settled
    exact ⟨0, first, .byte value (congrArg Prod.fst polled)⟩
  · rename_i uart polled
    obtain rfl := congrArg Prod.snd polled
    have none : Uart.found line.uart 0 = .ok .none := congrArg Prod.fst polled
    dsimp only at settled
    split at settled
    · rename_i late
      cases settled
      exact ⟨0, first, .late none ((line.late_iff start limit).mp late)⟩
    · rename_i early
      obtain ⟨n, silent, ends⟩ := ih (line.after 1 1) outcome settled
      refine ⟨n + 1, (line.silent_succ start limit n).mpr ⟨⟨none, ?_⟩, silent⟩, ?_⟩
      · exact fun late => early ((line.late_iff start limit).mpr late)
      · exact (line.ends_succ start limit n outcome).mpr ends

theorem await_eq_some_iff (outcome : Except (ReadError ε) UInt8 × UartLine υ κ) :
    await start limit line = some outcome ↔
      ∃ n, line.Silent start limit n ∧ line.Ends start limit n outcome :=
  ⟨line.ends_of_await start limit outcome,
    fun ⟨n, silent, ends⟩ => line.await_ends start limit n outcome silent ends⟩

theorem exists_ends (n : Nat)
    (settles : Uart.found line.uart n ≠ .ok none ∨ line.Late start limit n) :
    ∃ outcome, line.Ends start limit n outcome := by
  rcases found : Uart.found line.uart n with e | - | value
  · exact ⟨_, .fault e found⟩
  · exact ⟨_, .late found (settles.resolve_left (absurd found))⟩
  · exact ⟨_, .byte value found⟩

theorem is_some_at_once
    (settles : Uart.found line.uart 0 ≠ .ok none ∨ line.Late start limit 0) :
    (await start limit line).isSome = true := by
  obtain ⟨outcome, ends⟩ := line.exists_ends start limit 0 settles
  rw [line.await_settled start limit outcome ends]
  rfl

theorem is_some_await (n : Nat)
    (settles : Uart.found line.uart n ≠ .ok none ∨ line.Late start limit n) :
    (await start limit line).isSome = true := by
  -- By induction on a round that would settle it, if no earlier one did.
  induction n generalizing line with
  | zero => exact line.is_some_at_once start limit settles
  | succ n ih =>
    by_cases waits : Uart.found line.uart 0 = .ok none ∧ ¬ line.Late start limit 0
    · rw [line.await_silent start limit waits.1 waits.2]
      exact ih (line.after 1 1) settles
    · refine line.is_some_at_once start limit ?_
      exact (Classical.not_and_iff_not_or_not.mp waits).imp_right Decidable.not_not.mp

end Await

section Read

variable (timeout : Duration) (line : UartLine υ κ)

-- The first reading is the start, and a clock that has gone back counts as one that stood still.
def Overdue (n : Nat) : Prop :=
  line.limitMicros timeout ≤
    (Clock.reading line.clock (n + 1)).toNat - (Clock.reading line.clock 0).toNat

instance (n : Nat) : Decidable (line.Overdue timeout n) := inferInstanceAs (Decidable (_ ≤ _))

def started : UartLine υ κ := { line with clock := (Clock.now line.clock).2 }

theorem late_started (n : Nat) :
    line.started.Late (Clock.reading line.clock 0) (line.limit timeout) n ↔
      line.Overdue timeout n := by
  unfold Late Overdue
  rw [to_nat_limit]
  rfl

theorem read_byte_eq_some_iff (outcome : Except (ReadError ε) UInt8 × UartLine υ κ) :
    line.readByte? timeout = some outcome ↔
      ∃ n, (∀ m < n, Uart.found line.uart m = .ok none ∧ ¬ line.Overdue timeout m) ∧
        line.started.Ends (Clock.reading line.clock 0) (line.limit timeout) n outcome := by
  change await (Clock.reading line.clock 0) (line.limit timeout) line.started = some outcome ↔ _
  rw [await_eq_some_iff]
  simp only [Silent, late_started]
  rfl

theorem is_some_read_byte :
    (line.readByte? timeout).isSome = true ↔
      ∃ n, Uart.found line.uart n ≠ .ok none ∨ line.Overdue timeout n := by
  constructor
  · intro settled
    obtain ⟨outcome, settled⟩ := Option.isSome_iff_exists.mp settled
    obtain ⟨n, _, ends⟩ := (line.read_byte_eq_some_iff timeout outcome).mp settled
    refine ⟨n, ?_⟩
    rcases ends with ⟨value, found⟩ | ⟨e, failed⟩ | ⟨none, late⟩
    · exact .inl fun silent => nomatch found.symm.trans silent
    · exact .inl fun silent => nomatch failed.symm.trans silent
    · exact .inr ((line.late_started timeout n).mp late)
  · rintro ⟨n, settles⟩
    refine line.started.is_some_await (Clock.reading line.clock 0) (line.limit timeout) n ?_
    exact settles.imp_right (line.late_started timeout n).mpr

theorem taken_read_byte (outcome : Except (ReadError ε) UInt8 × UartLine υ κ)
    (settled : line.readByte? timeout = some outcome) :
    ∃ polls, 0 < polls ∧ outcome.2.uart = Uart.polled polls line.uart ∧
      Uart.taken polls line.uart = outcome.1.toOption.toList := by
  obtain ⟨n, silent, ends⟩ := (line.read_byte_eq_some_iff timeout outcome).mp settled
  have took := Uart.taken_silent n line.uart fun m before => (silent m before).1
  refine ⟨n + 1, Nat.succ_pos n, ?_⟩
  rcases ends with ⟨value, found⟩ | ⟨e, failed⟩ | ⟨none, late⟩
  · change Uart.found line.uart n = _ at found
    rw [found] at took
    exact ⟨rfl, took⟩
  · change Uart.found line.uart n = _ at failed
    rw [failed] at took
    exact ⟨rfl, took⟩
  · change Uart.found line.uart n = _ at none
    rw [none] at took
    exact ⟨rfl, took⟩

def readAll? : List Duration → UartLine υ κ →
    Option (List (Except (ReadError ε) UInt8) × UartLine υ κ)
  | [], line => some ([], line)
  | timeout :: later, line =>
    match line.readByte? timeout with
    | none => none
    | some (result, line) =>
      (readAll? later line).map fun (results, line) => (result :: results, line)

theorem taken_read_all (timeouts : List Duration) (line line' : UartLine υ κ)
    (results : List (Except (ReadError ε) UInt8))
    (settled : readAll? timeouts line = some (results, line')) :
    ∃ polls, timeouts.length ≤ polls ∧ line'.uart = Uart.polled polls line.uart ∧
      Uart.taken polls line.uart = results.filterMap Except.toOption := by
  -- By induction on the reads, each of which goes on where the polls of those before it have ended.
  induction timeouts generalizing line results with
  | nil =>
    cases settled
    exact ⟨0, Nat.le_refl 0, rfl, rfl⟩
  | cons timeout later ih =>
    rw [readAll?] at settled
    rcases one : line.readByte? timeout with - | ⟨result, next⟩
    · rw [one] at settled
      cases settled
    · rw [one] at settled
      obtain ⟨⟨others, final⟩, rest, same⟩ := Option.map_eq_some_iff.mp settled
      cases same
      obtain ⟨first, some, reached, took⟩ := line.taken_read_byte timeout _ one
      obtain ⟨polls, many, final, more⟩ := ih next others rest
      refine ⟨first + polls, ?_, ?_, ?_⟩
      · rw [List.length_cons]
        omega
      · rw [final, reached, Uart.polled_add]
      · change next.uart = _ at reached
        rw [Uart.taken_add, took, ← reached, more]
        cases result with
        | ok | error => rfl

theorem read_byte_zero (none : line.limitMicros timeout = 0) :
    ∃ outcome, line.readByte? timeout = some outcome ∧
      outcome.2.uart = Uart.polled 1 line.uart := by
  have late : line.Overdue timeout 0 := by
    rw [Overdue, none]
    exact Nat.zero_le _
  obtain ⟨outcome, ends⟩ := line.started.exists_ends (Clock.reading line.clock 0)
    (line.limit timeout) 0 (.inr ((line.late_started timeout 0).mpr late))
  have first : ∀ m < 0, Uart.found line.uart m = .ok .none ∧ ¬ line.Overdue timeout m :=
    fun m before => absurd before (Nat.not_lt_zero m)
  refine ⟨outcome, (line.read_byte_eq_some_iff timeout outcome).mpr ⟨0, first, ends⟩, ?_⟩
  cases ends with
  | byte | fault | late => rfl

/-- The first poll that finds a byte or fails decides, unless a look at the clock before it found
the limit reached. So a read ends whenever the clock gets to the limit, and it polls once at least,
and once if there is no time to wait. It returns just what its polls took, and reads in a row return
what all their polls took, in order. -/
theorem read_byte_by_polls (timeout : Duration) (line : UartLine υ κ) :
    let found := Uart.found line.uart
    let overdue := line.Overdue timeout
    let silent (n : Nat) := ∀ m < n, found m = .ok none ∧ ¬ overdue m
    (∀ value line', line.readByte? timeout = some (.ok value, line') ↔
      ∃ n, silent n ∧ found n = .ok (some value) ∧ line' = line.after (n + 1) (n + 1)) ∧
    (∀ e line', line.readByte? timeout = some (.error (.io e), line') ↔
      ∃ n, silent n ∧ found n = .error e ∧ line' = line.after (n + 1) (n + 1)) ∧
    (∀ line', line.readByte? timeout = some (.error .timeout, line') ↔
      ∃ n, silent n ∧ found n = .ok none ∧ overdue n ∧ line' = line.after (n + 1) (n + 2)) ∧
    ((line.readByte? timeout).isSome = true ↔ ∃ n, found n ≠ .ok none ∨ overdue n) ∧
    (∀ n, (Clock.reading line.clock 0).toNat + line.limitMicros timeout ≤
      (Clock.reading line.clock (n + 1)).toNat → (line.readByte? timeout).isSome = true) ∧
    (line.limitMicros timeout = 0 → ∃ outcome, line.readByte? timeout = some outcome ∧
      outcome.2.uart = Uart.polled 1 line.uart) ∧
    (∀ outcome, line.readByte? timeout = some outcome → line.readByte timeout = outcome ∧
      ∃ polls, 0 < polls ∧ outcome.2.uart = Uart.polled polls line.uart ∧
        Uart.taken polls line.uart = outcome.1.toOption.toList) ∧
    ∀ timeouts results line', line.readAll? timeouts = some (results, line') →
      ∃ polls, timeouts.length ≤ polls ∧ line'.uart = Uart.polled polls line.uart ∧
        Uart.taken polls line.uart = results.filterMap Except.toOption := by
  intro found overdue silent
  refine ⟨?_, ?_, ?_, line.is_some_read_byte timeout, ?_, line.read_byte_zero timeout, ?_,
    fun timeouts results line' settled => taken_read_all timeouts line line' results settled⟩
  · intro value line'
    rw [read_byte_eq_some_iff]
    constructor
    · rintro ⟨n, quiet, ends⟩
      cases ends with
      | byte value here => exact ⟨n, quiet, here, rfl⟩
    · rintro ⟨n, quiet, here, rfl⟩
      exact ⟨n, quiet, .byte value here⟩
  · intro e line'
    rw [read_byte_eq_some_iff]
    constructor
    · rintro ⟨n, quiet, ends⟩
      cases ends with
      | fault e failed => exact ⟨n, quiet, failed, rfl⟩
    · rintro ⟨n, quiet, failed, rfl⟩
      exact ⟨n, quiet, .fault e failed⟩
  · intro line'
    rw [read_byte_eq_some_iff]
    constructor
    · rintro ⟨n, quiet, ends⟩
      cases ends with
      | late none late => exact ⟨n, quiet, none, (line.late_started timeout n).mp late, rfl⟩
    · rintro ⟨n, quiet, none, late, rfl⟩
      exact ⟨n, quiet, .late none ((line.late_started timeout n).mpr late)⟩
  · intro n reached
    exact (line.is_some_read_byte timeout).mpr ⟨n, .inr (Nat.le_sub_of_add_le' reached)⟩
  · intro outcome settled
    refine ⟨?_, line.taken_read_byte timeout outcome settled⟩
    rw [readByte, settled]
    rfl

theorem read_byte_by_polls_capped :
    let line : UartLine ScriptedPort ScriptedClock :=
      { uart := { items := [.notReady, .notReady, .byte 7] }
        clock := { readings := [], step := 10 }
        config := { maxWait := .ofMicros 20 } }
    ∃ line', line.readAll? [.ofMillis 3600000, ⟨999⟩] = some ([.error .timeout, .ok 7], line') ∧
      Uart.taken 3 line.uart = [7] := by
  intro line
  obtain ⟨_, _, timesOut, _⟩ := line.read_byte_by_polls (.ofMillis 3600000)
  have first : line.readByte? (.ofMillis 3600000) = some (.error .timeout, line.after 2 3) := by
    refine (timesOut _).mpr ⟨1, ?_, rfl, ?_, rfl⟩
    · intro m before
      obtain rfl := Nat.lt_one_iff.mp before
      exact ⟨rfl, by decide⟩
    · decide
  obtain ⟨finds, _⟩ := (line.after 2 3).read_byte_by_polls ⟨999⟩
  have second : (line.after 2 3).readByte? ⟨999⟩ = some (.ok 7, (line.after 2 3).after 1 1) :=
    (finds _ _).mpr ⟨0, fun m before => absurd before (Nat.not_lt_zero m), rfl, rfl⟩
  refine ⟨(line.after 2 3).after 1 1, ?_, rfl⟩
  rw [readAll?, first]
  dsimp only
  rw [readAll?, second]
  rfl

end Read
end UartLine
end LegLink
