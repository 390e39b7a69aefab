import LegLink.Proofs.Items
import LegLink.Proofs.QueuedDevice
import LegLink.Proofs.Recording
import LegLink.Proofs.Writing

set_option autoImplicit false

namespace LegLink

section Each

variable {α β σ : Type} (step : α → σ → β × σ)

def each : List α → σ → List β × σ
  | [], s => ([], s)
  | a :: later, s =>
    let (answers, final) := each later (step a s).2
    ((step a s).1 :: answers, final)

theorem each_append (before later : List α) (s : σ) :
    (each step (before ++ later) s).1 =
      (each step before s).1 ++ (each step later (each step before s).2).1 := by
  induction before generalizing s with
  | nil => rfl
  | cons a before ih => exact congrArg ((step a s).1 :: ·) (ih (step a s).2)

theorem length_each (steps : List α) (s : σ) : (each step steps s).1.length = steps.length := by
  induction steps generalizing s with
  | nil => rfl
  | cons a later ih => exact congrArg (· + 1) (ih (step a s).2)

end Each

namespace Scalar

theorem of_bytes_append (value : Scalar) (rest : Bytes) :
    value.kind.ofBytes (value.bytes ++ rest) = value := by
  cases value with
  | u8 v => rfl
  | u16 v => exact congrArg Scalar.u16 (Bytes.word_of_word v)
  | u32 v => exact congrArg Scalar.u32 (Bytes.long_of_long v)
  | i16 v =>
    have word := Bytes.word_of_word v.toUInt16
    exact congrArg Scalar.i16 ((congrArg UInt16.toInt16 word).trans (Int16.toInt16_toUInt16 v))
  | i32 v =>
    have long := Bytes.long_of_long v.toUInt32
    exact congrArg Scalar.i32 ((congrArg UInt32.toInt32 long).trans (Int32.toInt32_toUInt32 v))
  | f32 v => exact congrArg (fun bits => Scalar.f32 ⟨bits⟩) (Bytes.long_of_long v.bits)

theorem bytes_of_bytes (kind : Kind) (data : Bytes) (enough : kind.size ≤ data.length) :
    (kind.ofBytes data).bytes = data.take kind.size := by
  have word (inside : 2 ≤ data.length) : Bytes.ofWord (Bytes.wordAt data 0) = data.take 2 :=
    Bytes.of_word_word_at data 0 inside
  have long (inside : 4 ≤ data.length) : Bytes.ofLong (Bytes.longAt data 0) = data.take 4 :=
    Bytes.of_single_single_at data 0 inside
  cases kind with
  | u8 =>
    cases data with
    | nil => cases enough
    | cons byte rest => rfl
  | u16 => exact word enough
  | u32 | f32 => exact long enough
  | i16 => exact (congrArg Bytes.ofWord (UInt16.toUInt16_toInt16 _)).trans (word enough)
  | i32 => exact (congrArg Bytes.ofLong (UInt32.toUInt32_toInt32 _)).trans (long enough)

theorem read_append (value : Scalar) (rest : Bytes) :
    value.kind.read (value.bytes ++ rest) = some (value, rest) := by
  have enough : ¬ (value.bytes ++ rest).length < value.kind.size := by
    rw [List.length_append, length_bytes]
    omega
  rw [Kind.read, if_neg enough, of_bytes_append, ← length_bytes, List.drop_left]

end Scalar

namespace Payload

def put (value : Scalar) (p : Payload) : Except FrameError Unit × Payload :=
  match p.put? value with
  | some grown => (.ok (), grown)
  | none => (.error .payloadTooLarge, p)

def taken : List Scalar → List (Except FrameError Unit) → List Scalar
  | value :: later, .ok () :: answers => value :: taken later answers
  | _ :: later, .error _ :: answers => taken later answers
  | _, _ => []

theorem put_fits (p : Payload) (value : Scalar) (fits : p.length + value.kind.size ≤ maxPayload) :
    ∃ grown, p.put value = (.ok (), grown) ∧ grown.bytes = p.bytes ++ value.bytes := by
  have together : (p.bytes ++ value.bytes).length ≤ maxPayload := by
    rw [List.length_append, Scalar.length_bytes]
    exact fits
  have put : p.put? value = some ⟨p.bytes ++ value.bytes, together⟩ := dif_pos together
  exact ⟨⟨p.bytes ++ value.bytes, together⟩, by rw [Payload.put, put], rfl⟩

theorem put_large (p : Payload) (value : Scalar)
    (large : maxPayload < p.length + value.kind.size) :
    p.put value = (.error .payloadTooLarge, p) := by
  have refused : p.put? value = none := by
    rw [put?, of_bytes_eq_none_iff, List.length_append, Scalar.length_bytes]
    exact large
  rw [put, refused]

theorem put_eq_ok_iff (p : Payload) (value : Scalar) :
    (p.put value).1 = .ok () ↔ p.length + value.kind.size ≤ maxPayload := by
  constructor
  · intro done
    by_contra large
    rw [put_large p value (Nat.lt_of_not_le large)] at done
    cases done
  · intro fits
    obtain ⟨grown, put, -⟩ := put_fits p value fits
    rw [put]

theorem bytes_each_put (values : List Scalar) (p : Payload) :
    (each put values p).2.bytes = p.bytes ++ Scalar.row (taken values (each put values p).1) := by
  induction values generalizing p with
  | nil => exact (List.append_nil _).symm
  | cons value later ih =>
    by_cases fits : p.length + value.kind.size ≤ maxPayload
    · obtain ⟨grown, put, bytes⟩ := put_fits p value fits
      simp only [each, put, taken, Scalar.row_cons]
      rw [ih, bytes, List.append_assoc]
    · simp only [each, put_large p value (Nat.lt_of_not_le fits), taken]
      exact ih p

end Payload

namespace Reader

section Read

variable (r : Reader) (kind : Scalar.Kind)

theorem read_short (short : r.remaining < kind.size) : r.read kind = (none, r) := by
  have few : r.rest.length < kind.size := short
  rw [read, Scalar.Kind.read, if_pos few]

theorem read_enough (enough : kind.size ≤ r.remaining) :
    r.read kind = (some (kind.ofBytes r.rest), ⟨r.rest.drop kind.size⟩) := by
  have left : ¬ r.rest.length < kind.size := Nat.not_lt_of_le enough
  rw [read, Scalar.Kind.read, if_neg left]

theorem read_eq_none_iff : (r.read kind).1 = none ↔ r.remaining < kind.size := by
  constructor
  · intro missing
    by_contra enough
    rw [read_enough r kind (Nat.le_of_not_lt enough)] at missing
    cases missing
  · intro short
    rw [read_short r kind short]

end Read

theorem each_read_row (values : List Scalar) (rest : Bytes) :
    each (fun kind r => r.read kind) (values.map Scalar.kind) ⟨Scalar.row values ++ rest⟩ =
      (values.map some, (⟨rest⟩ : Reader)) := by
  induction values with
  | nil => rfl
  | cons value later ih =>
    have first : read ⟨Scalar.row (value :: later) ++ rest⟩ value.kind =
        (some value, ⟨Scalar.row later ++ rest⟩) := by
      rw [Scalar.row_cons, List.append_assoc, read, Scalar.read_append]
    simp only [List.map_cons, each, first, ih]

theorem row_each_read (kinds : List Scalar.Kind) (r : Reader) :
    Scalar.row ((each (fun kind r => r.read kind) kinds r).1.filterMap id) ++
      (each (fun kind r => r.read kind) kinds r).2.rest = r.rest := by
  induction kinds generalizing r with
  | nil => rfl
  | cons kind later ih =>
    by_cases short : r.remaining < kind.size
    · simp only [each, read_short r kind short]
      exact ih r
    · have enough := Nat.le_of_not_lt short
      have front := Scalar.bytes_of_bytes kind r.rest enough
      have behind := ih ⟨r.rest.drop kind.size⟩
      simp only [each, read_enough r kind enough, List.filterMap_cons_some (id_eq _),
        Scalar.row_cons, List.append_assoc, behind, front, List.take_append_drop]

end Reader

namespace Transport

variable {σ ε : Type} [Transport σ ε]

def Accepts (line : σ) : Prop :=
  ∀ (earlier : List Bytes) (data : Bytes),
    (write data (earlier.foldl (fun line data => (write data line).2) line)).1 = .ok ()

theorem each_send_accepts (values : List Scalar) (line : σ) (accepts : Accepts line) :
    (each send values line).1 = values.map fun _ => .ok () := by
  induction values generalizing line with
  | nil => rfl
  | cons value later ih =>
    have next : Accepts (send value line).2 := fun earlier => accepts (value.bytes :: earlier)
    have first : (send value line).1 = .ok () := accepts [] value.bytes
    simp only [each, first, ih _ next, List.map_cons]

theorem calls_each_send (values : List Scalar) (line : Line.Recorded σ) :
    (each send values line).2.calls =
      line.calls ++ values.map fun value => .write value.bytes := by
  induction values generalizing line with
  | nil => exact (List.append_nil _).symm
  | cons value later ih => exact (ih _).trans (List.append_assoc _ _ _)

theorem read_bytes_delivers (timeout : Duration) (data rest : Bytes) (line after : σ)
    (given : Delivers (data ++ rest) line after) :
    ∃ between, readBytes timeout data.length line = (.ok data, between) ∧
      Delivers rest between after := by
  induction data generalizing line with
  | nil => exact ⟨line, rfl, given⟩
  | cons byte data ih =>
    cases given with
    | byte _ _ _ next _ read later =>
      obtain ⟨between, got, left⟩ := ih next later
      exact ⟨between, by simp only [List.length_cons, readBytes, read timeout, got], left⟩

theorem each_receive_row (values : List Scalar) (line after : σ)
    (given : Delivers (Scalar.row values) line after) :
    each receive (values.map Scalar.kind) line = (values.map .ok, after) := by
  induction values generalizing line with
  | nil =>
    cases given
    rfl
  | cons value later ih =>
    obtain ⟨between, got, left⟩ :=
      read_bytes_delivers (byteTimeout line) value.bytes (Scalar.row later) line after given
    have same : value.kind.ofBytes value.bytes = value := by
      simpa using value.of_bytes_append []
    have first : receive value.kind line = (.ok value, between) := by
      rw [receive, ← value.length_bytes, got]
      simp only [same]
    simp only [List.map_cons, each, first, ih between left]

end Transport

open Payload Transport

/-- A put is done exactly if the payload has room for its bytes, else it is refused and nothing
changes. The values that got in are read from the payload by their kinds, with nothing left; sent on
a line they make up its bytes; and they are received from any line that gives these bytes. A read is
refused exactly if fewer bytes are left than it takes, and takes none then. -/
theorem scalars_round_trip {σ τ ε δ : Type} [Transport σ ε] [Transport τ δ]
    (values : List Scalar) (sender : Line.Recorded σ) (receiver after : τ) :
    let answers := (each put values .empty).1
    let payload := (each put values .empty).2
    let took := taken values answers
    (∀ before value later, values = before ++ value :: later →
      let p := (each put before .empty).2
      answers[before.length]? = some (put value p).1 ∧
      ((put value p).1 = .ok () ↔ p.length + value.kind.size ≤ maxPayload) ∧
      (maxPayload < p.length + value.kind.size → put value p = (.error .payloadTooLarge, p))) ∧
    each (fun kind r => r.read kind) (took.map Scalar.kind) (Reader.mk payload.bytes) =
      (took.map some, ⟨[]⟩) ∧
    (∀ (data : Bytes) (kinds : List Scalar.Kind) (kind : Scalar.Kind),
      let found := (each (fun kind r => r.read kind) kinds (Reader.mk data)).1
      let reader := (each (fun kind r => r.read kind) kinds (Reader.mk data)).2
      Scalar.row (found.filterMap id) ++ reader.rest = data ∧
      ((reader.read kind).1 = none ↔ reader.remaining < kind.size) ∧
      ((reader.read kind).1 = none → (reader.read kind).2 = reader)) ∧
    (Accepts sender →
      (each send took sender).1 = took.map (fun _ => .ok ()) ∧
      (each send took sender).2.calls =
        sender.calls ++ took.map (fun value => .write value.bytes) ∧
      took.flatMap Scalar.bytes = payload.bytes) ∧
    (Delivers payload.bytes receiver after →
      each receive (took.map Scalar.kind) receiver = (took.map .ok, after)) := by
  intro answers payload took
  have whole : payload.bytes = Scalar.row took := bytes_each_put values .empty
  refine ⟨?puts, ?reads, ?reader, ?sends, ?receives⟩
  case puts =>
    intro before value later cut p
    refine ⟨?_, put_eq_ok_iff p value, put_large p value⟩
    have answered : answers =
        (each put before .empty).1 ++ (each put (value :: later) p).1 := by
      rw [← each_append, ← cut]
    rw [answered, ← length_each put before .empty, List.getElem?_append_right (Nat.le_refl _),
      Nat.sub_self]
    rfl
  case reads =>
    have read := Reader.each_read_row took []
    rwa [List.append_nil, ← whole] at read
  case reader =>
    intro data kinds kind found reader
    refine ⟨Reader.row_each_read kinds ⟨data⟩, reader.read_eq_none_iff kind, fun refused => ?_⟩
    rw [reader.read_short kind ((reader.read_eq_none_iff kind).mp refused)]
  case sends =>
    intro accepts
    exact ⟨each_send_accepts took sender accepts, calls_each_send took sender, whole.symm⟩
  case receives =>
    intro given
    rw [whole] at given
    exact each_receive_row took receiver after given

theorem scalars_round_trip_full :
    let front : List Scalar :=
      .f32 ⟨0x7FC00001⟩ :: List.replicate 61 (.u32 0x7E7F7E7F) ++ [.i16 (-2)]
    let values : List Scalar := front ++ [.f32 ⟨0x3FC00000⟩, .u8 0x7E, .i16 5, .u8 9]
    let took : List Scalar := front ++ [.u8 0x7E, .u8 9]
    let payload := (each put values .empty).2
    let sender : Line.Recorded Line.Queue := { line := {} }
    payload.length = 252 ∧
      put (.f32 ⟨0x3FC00000⟩) (each put front .empty).2 =
        (.error .payloadTooLarge, (each put front .empty).2) ∧
      each (fun kind r => r.read kind) (took.map Scalar.kind) (Reader.mk payload.bytes) =
        (took.map some, ⟨[]⟩) ∧
      (each send took sender).1 = took.map (fun _ => .ok ()) ∧
      each receive (took.map Scalar.kind) ({ inbox := payload.bytes } : Line.Queue) =
        (took.map .ok, {}) := by
  intro front values took payload sender
  have same : taken values (each put values .empty).1 = took := by decide +kernel
  have full : maxPayload < (each put front .empty).2.length + 4 := by decide +kernel
  have given (data : Bytes) : Delivers data ({ inbox := data } : Line.Queue) {} :=
    Line.Queue.delivers data [] { inbox := data } (List.append_nil data).symm
  obtain ⟨puts, reads, -, sends, receives⟩ :=
    scalars_round_trip values sender ({ inbox := payload.bytes } : Line.Queue) {}
  rw [same] at reads sends receives
  obtain ⟨-, -, refused⟩ := puts front (.f32 ⟨0x3FC00000⟩) [.u8 0x7E, .i16 5, .u8 9] rfl
  exact ⟨by decide +kernel, refused full, reads, (sends fun _ _ => rfl).1, receives (given _)⟩

end LegLink
