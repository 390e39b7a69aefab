import Mathlib.Data.List.FinRange
import LegLink.Calibration
import LegLink.Proofs.Words

set_option autoImplicit false

namespace LegLink

namespace Bytes

variable (data : Bytes) (n i : Nat)

theorem slice_eq (inside : i + n ≤ data.length) :
    (data.drop i).take n = (List.range n).map fun k => data.getD (i + k) 0 := by
  apply List.ext_getElem
  · simp
    omega
  · intro k here there
    have bound : i + k < data.length := by
      simp at there
      omega
    simp [List.getElem?_eq_getElem bound]

theorem of_word_word_at (inside : i + 2 ≤ data.length) :
    ofWord (wordAt data i) = (data.drop i).take 2 := by
  rw [slice_eq data 2 i inside, wordAt, of_word_word]
  rfl

theorem of_single_single_at (inside : i + 4 ≤ data.length) :
    ofSingle (singleAt data i) = (data.drop i).take 4 := by
  rw [slice_eq data 4 i inside, singleAt, longAt, ofSingle, of_long_long]
  rfl

theorem slice_add :
    (data.drop i).take n ++ (data.drop (i + n)).take n = (data.drop i).take (n + n) := by
  rw [List.take_add, List.drop_drop]

theorem flat_map_slices (count : Nat) :
    ((List.range count).flatMap fun i => (data.drop (n * i)).take n) = data.take (n * count) := by
  induction count with
  | zero => simp
  | succ count ih => simp [List.range_succ, ih, Nat.mul_succ, List.take_add]

theorem slice_take (m : Nat) (inside : i + n ≤ m) :
    ((data.take m).drop i).take n = (data.drop i).take n := by
  rw [List.drop_take, List.take_take, Nat.min_eq_left (Nat.le_sub_of_add_le' inside)]

variable (j : Nat)

theorem get_slice (inside : j < n) :
    ((data.drop i).take n).getD j 0 = data.getD (i + j) 0 := by
  simp [List.getElem?_take_of_lt inside]

theorem word_at_slice (inside : j + 2 ≤ n) :
    wordAt ((data.drop i).take n) j = wordAt data (i + j) := by
  simp only [wordAt]
  rw [get_slice data n i j (by omega), get_slice data n i (j + 1) (by omega), Nat.add_assoc]

theorem single_at_slice (inside : j + 4 ≤ n) :
    singleAt ((data.drop i).take n) j = singleAt data (i + j) := by
  simp only [singleAt, longAt]
  rw [get_slice data n i j (by omega), get_slice data n i (j + 1) (by omega),
    get_slice data n i (j + 2) (by omega), get_slice data n i (j + 3) (by omega)]
  simp only [Nat.add_assoc]

end Bytes

-- An item of this size is read from its own bytes, is written as the bytes that it was read from,
-- and is read alike wherever they stand.
structure FixedSize {α : Type} (size : Nat) (bytes : α → Bytes) (item : Bytes → Nat → α) : Prop
    where
  length (a : α) : (bytes a).length = size
  read (a : α) : item (bytes a) 0 = a
  written (data : Bytes) (whole : data.length = size) : bytes (item data 0) = data
  slice (data : Bytes) (i : Nat) : item ((data.drop i).take size) 0 = item data i

theorem Calibration.fixed_size :
    FixedSize 4 bytes fun data i => ⟨Bytes.wordAt data i, Bytes.wordAt data (i + 2)⟩ := by
  refine ⟨length_bytes, ?read, ?written, ?slice⟩
  case read =>
    intro a
    simp [bytes, Bytes.wordAt, Bytes.ofWord, Bytes.word_of_word]
  case written =>
    intro data whole
    simp only [bytes, Nat.zero_add]
    rw [Bytes.of_word_word_at data 0 (by omega), Bytes.of_word_word_at data (0 + 2) (by omega),
      Bytes.slice_add, List.drop_zero, List.take_of_length_le (by omega)]
  case slice =>
    intro data i
    rw [Bytes.word_at_slice data 4 i 0 (by omega), Bytes.word_at_slice data 4 i (0 + 2) (by omega)]
    rfl

theorem PulseRange.fixed_size :
    FixedSize 8 bytes fun data i => ⟨Bytes.singleAt data i, Bytes.singleAt data (i + 4)⟩ := by
  refine ⟨length_bytes, ?read, ?written, ?slice⟩
  case read =>
    intro a
    simp [bytes, Bytes.singleAt, Bytes.longAt, Bytes.ofSingle, Bytes.ofLong, Bytes.long_of_long]
  case written =>
    intro data whole
    simp only [bytes, Nat.zero_add]
    rw [Bytes.of_single_single_at data 0 (by omega),
      Bytes.of_single_single_at data (0 + 4) (by omega),
      Bytes.slice_add, List.drop_zero, List.take_of_length_le (by omega)]
  case slice =>
    intro data i
    rw [Bytes.single_at_slice data 8 i 0 (by omega),
      Bytes.single_at_slice data 8 i (0 + 4) (by omega)]
    rfl

namespace PerChannel

variable {α : Type}

theorem get_of_fn (read : Channel → α) (c : Channel) : get (Vector.ofFn read) c = read c := by
  change (Vector.ofFn read)[c.val] = read c
  rw [Vector.getElem_ofFn]

theorem of_fn_eq (v : PerChannel α) (read : Channel → α) (same : ∀ c, read c = v.get c) :
    Vector.ofFn read = v := by
  apply Vector.ext
  intro i inside
  rw [Vector.getElem_ofFn]
  exact same ⟨i, inside⟩

def ofBytes? (size : Nat) (item : Bytes → Nat → α) (data : Bytes) : Option (PerChannel α) :=
  if data.length < servoCount * size then none
  else some (Vector.ofFn fun c : Channel => item data (size * c.val))

theorem fits (size : Nat) (c : Channel) : size * c.val + size ≤ servoCount * size := by
  rw [← Nat.mul_succ, Nat.mul_comm servoCount]
  exact Nat.mul_le_mul_left size c.isLt

theorem slice_flat_map (l : List α) (bytes : α → Bytes) (n : Nat)
    (each : ∀ a, (bytes a).length = n) (i : Nat) (inside : i < l.length) :
    ((l.flatMap bytes).drop (n * i)).take n = bytes l[i] := by
  induction l generalizing i with
  | nil => simp at inside
  | cons a l ih =>
    cases i with
    | zero => simp [List.take_left' (each a)]
    | succ i =>
      have past : n * (i + 1) = (bytes a).length + n * i := by
        rw [each, Nat.mul_succ, Nat.add_comm]
      rw [List.flatMap_cons, past, List.drop_length_add_append]
      exact ih i (Nat.lt_of_succ_lt_succ inside)

section Table

variable {size : Nat} {bytes : α → Bytes} {item : Bytes → Nat → α}
  (fixed : FixedSize size bytes item) (data : Bytes)

include fixed

theorem of_bytes_flatten (v : PerChannel α) : ofBytes? size item (v.flatten bytes) = some v := by
  have long := v.length_flatten bytes size fixed.length
  rw [ofBytes?, if_neg (by omega)]
  refine congrArg some (of_fn_eq v _ fun c => ?_)
  have inside : c.val < v.toList.length := by rw [Vector.length_toList]; exact c.isLt
  rw [← fixed.slice, flatten, slice_flat_map _ _ _ fixed.length _ inside, fixed.read]
  rfl

theorem flatten_of_of_bytes (v : PerChannel α) (read : ofBytes? size item data = some v) :
    v.flatten bytes = data.take (servoCount * size) := by
  by_cases short : data.length < servoCount * size
  · simp [ofBytes?, short] at read
  rw [ofBytes?, if_neg short, Option.some.injEq] at read
  have each (c : Channel) : bytes (item data (size * c.val)) =
      (data.drop (size * c.val)).take size := by
    have inside := fits size c
    rw [← fixed.slice, fixed.written]
    simp
    omega
  have items : (List.finRange servoCount).flatMap (fun c => bytes (item data (size * c.val))) =
      ((List.finRange servoCount).map (·.val)).flatMap
        fun i => (data.drop (size * i)).take size := by
    simp only [List.flatMap_map, each]
  rw [← read, flatten, Vector.toList_ofFn, List.ofFn_eq_map, List.flatMap_map, items,
    List.map_coe_finRange_eq_range, Bytes.flat_map_slices, Nat.mul_comm]

theorem item_take (c : Channel) :
    item (data.take (servoCount * size)) (size * c.val) = item data (size * c.val) := by
  rw [← fixed.slice, Bytes.slice_take data size _ _ (fits size c), fixed.slice]

end Table

end PerChannel
end LegLink
