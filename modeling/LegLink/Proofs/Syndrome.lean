import Mathlib.Data.List.Nodup
import LegLink.Frame

/- The register is linear in its start and in the bytes. Read as a polynomial over the field of two
elements, a difference is a sum of powers of x, one for each bit that is set, and the register holds
its remainder by the generator. -/

set_option autoImplicit false

namespace LegLink

namespace Bytes

def zeros (n : Nat) : Bytes := List.replicate n 0

def difference (a b : Bytes) : Bytes := List.zipWith (· ^^^ ·) a b

def weight : Bytes → Nat
  | [] => 0
  | byte :: rest => byte.toBitVec.cpop.toNat + weight rest

theorem weight_append (a b : Bytes) : weight (a ++ b) = weight a + weight b := by
  induction a with
  | nil => exact (Nat.zero_add _).symm
  | cons byte rest ih => rw [List.cons_append, weight, weight, ih, Nat.add_assoc]

def byteMarks (byte : BitVec 8) : List Nat := (List.range 8).filter byte.getLsbD

def marks : Bytes → List Nat
  | [] => []
  | byte :: rest => (byteMarks byte.toBitVec).map (· + 8 * rest.length) ++ marks rest

theorem length_byte_marks : ∀ byte : BitVec 8, (byteMarks byte).length = byte.cpop.toNat := by
  decide +kernel

theorem length_marks (data : Bytes) : (marks data).length = data.weight := by
  induction data with
  | nil => rfl
  | cons byte rest ih => simp [marks, weight, length_byte_marks, ih]

theorem marks_lt (data : Bytes) (k : Nat) (marked : k ∈ marks data) : k < 8 * data.length := by
  induction data with
  | nil => cases marked
  | cons byte rest ih =>
    rw [marks, List.mem_append] at marked
    rw [List.length_cons]
    cases marked with
    | inl here =>
      obtain ⟨i, member, rfl⟩ := List.mem_map.mp here
      have small := List.mem_range.mp (List.mem_of_mem_filter member)
      omega
    | inr later =>
      have bound := ih later
      omega

theorem nodup_marks (data : Bytes) : (marks data).Nodup := by
  induction data with
  | nil => exact List.nodup_nil
  | cons byte rest ih =>
    have here : ((byteMarks byte.toBitVec).map (· + 8 * rest.length)).Nodup := by
      apply List.Nodup.map
      · intro i j same
        exact Nat.add_right_cancel same
      · exact List.nodup_range.filter _
    apply List.Nodup.append here ih
    intro k first second
    obtain ⟨i, _, rfl⟩ := List.mem_map.mp first
    have bound := marks_lt rest _ second
    omega

end Bytes

namespace Checksum

open Bytes

section Linear

theorem bit_step_xor (a b : BitVec 16) : bitStep (a ^^^ b) = bitStep a ^^^ bitStep b := by
  simp only [bitStep, BitVec.msb_xor, BitVec.shiftLeft_xor_distrib]
  cases a.msb <;> cases b.msb
  · rfl
  · exact BitVec.xor_assoc _ _ _
  · simp only [Bool.xor_false, if_true, Bool.false_eq_true, if_false]
    ac_rfl
  · have twice : generator ^^^ generator = 0#16 := BitVec.xor_self
    simp only [Bool.xor_self, Bool.false_eq_true, if_false, if_true]
    calc a <<< 1 ^^^ b <<< 1 = a <<< 1 ^^^ b <<< 1 ^^^ (generator ^^^ generator) := by
          rw [twice, BitVec.xor_zero]
      _ = a <<< 1 ^^^ generator ^^^ (b <<< 1 ^^^ generator) := by ac_rfl

theorem bits_xor (n : Nat) (a b : BitVec 16) : bits n (a ^^^ b) = bits n a ^^^ bits n b := by
  induction n generalizing a b with
  | zero => rfl
  | succ n ih => rw [bits, bit_step_xor, ih, bits, bits]

theorem bits_zero (n : Nat) : bits n 0#16 = 0#16 := by
  induction n with
  | zero => rfl
  | succ n ih => exact ih

theorem bits_add (m n : Nat) (v : BitVec 16) : bits (m + n) v = bits n (bits m v) := by
  induction m generalizing v with
  | zero => rw [Nat.zero_add, bits]
  | succ m ih => rw [Nat.succ_add, bits, ih, bits]

theorem byte_step_xor (a b : BitVec 16) (x y : UInt8) :
    byteStep (a ^^^ b) (x ^^^ y) = byteStep a x ^^^ byteStep b y := by
  rw [byteStep, byteStep, byteStep, ← bits_xor]
  apply congrArg (bits 8)
  rw [UInt8.toBitVec_xor, BitVec.setWidth_xor, BitVec.shiftLeft_xor_distrib]
  ac_rfl

theorem byte_step_zero (c : BitVec 16) : byteStep c 0 = bits 8 c :=
  congrArg (bits 8) BitVec.xor_zero

theorem register_xor (c d : BitVec 16) (a b : Bytes) (same : a.length = b.length) :
    register (c ^^^ d) (difference a b) = register c a ^^^ register d b := by
  induction a generalizing c d b with
  | nil =>
    cases b with
    | nil => rfl
    | cons => cases same
  | cons x a ih =>
    cases b with
    | nil => cases same
    | cons y b =>
      have step := ih (byteStep c x) (byteStep d y) b (Nat.succ.inj same)
      rw [← byte_step_xor] at step
      exact step

theorem register_zeros (c : BitVec 16) (n : Nat) : register c (zeros n) = bits (8 * n) c := by
  induction n generalizing c with
  | zero => rfl
  | succ n ih =>
    change register (byteStep c 0) (zeros n) = _
    rw [ih, byte_step_zero, ← bits_add, Nat.mul_succ, Nat.add_comm]

theorem register_eq (c : BitVec 16) (data : Bytes) :
    register c data = bits (8 * data.length) c ^^^ register 0#16 data := by
  have plain : difference (zeros data.length) data = data := by
    induction data with
    | nil => rfl
    | cons byte rest ih => exact congrArg₂ List.cons (UInt8.zero_xor) ih
  have parts := register_xor c 0#16 (zeros data.length) data List.length_replicate
  rw [plain, BitVec.xor_zero, register_zeros] at parts
  exact parts

end Linear

section Powers

theorem bit_step_ne_zero (v : BitVec 16) (some : v ≠ 0#16) : bitStep v ≠ 0#16 := by
  intro vanishes
  by_cases top : v.msb
  · simp only [bitStep, if_pos top, BitVec.xor_eq_zero_iff] at vanishes
    have lowest := congrArg (BitVec.getLsbD · 0) vanishes
    simp [generator] at lowest
  · simp only [bitStep, if_neg top] at vanishes
    apply some
    apply BitVec.eq_of_getLsbD_eq
    intro i inside
    by_cases last : i = 15
    · subst last
      simpa [BitVec.msb_eq_getLsbD_last] using top
    · have moved := congrArg (BitVec.getLsbD · (i + 1)) vanishes
      have next : i + 1 < 16 := by omega
      simpa [next, BitVec.getLsbD_eq_getElem inside] using moved

theorem bits_ne_zero (n : Nat) (v : BitVec 16) (some : v ≠ 0#16) : bits n v ≠ 0#16 := by
  induction n generalizing v with
  | zero => exact some
  | succ n ih => exact ih (bitStep v) (bit_step_ne_zero v some)

theorem bits_inj (n : Nat) (a b : BitVec 16) (same : bits n a = bits n b) : a = b := by
  by_cases equal : a = b
  · exact equal
  · have apart := bits_ne_zero n (a ^^^ b) (mt BitVec.xor_eq_zero_iff.mp equal)
    rw [bits_xor, same, BitVec.xor_self] at apart
    exact absurd rfl apart

def power (k : Nat) : BitVec 16 := bits k 1#16

theorem bits_power (n k : Nat) : bits n (power k) = power (k + n) := (bits_add k n 1#16).symm

def avoids (target : BitVec 16) : Nat → BitVec 16 → Bool
  | 0, _ => true
  | n + 1, v => bitStep v != target && avoids target n (bitStep v)

theorem bits_ne_of_avoids (target v : BitVec 16) (n k : Nat) (never : avoids target n v = true)
    (within : k < n) : bits (k + 1) v ≠ target := by
  induction n generalizing v k with
  | zero => cases within
  | succ n ih =>
    rw [avoids, Bool.and_eq_true] at never
    cases k with
    | zero => simpa [bits] using never.1
    | succ k => exact ih (bitStep v) k never.2 (Nat.lt_of_succ_lt_succ within)

-- The order of x is larger than the number of bits in any frame.
theorem power_ne_one (k : Nat) (positive : 0 < k) (within : k ≤ 8 * 257) : power k ≠ 1#16 := by
  have never : avoids 1#16 (8 * 257) 1#16 = true := by decide +kernel
  have apart := bits_ne_of_avoids 1#16 1#16 (8 * 257) (k - 1) never (by omega)
  rwa [Nat.sub_add_cancel positive] at apart

theorem power_ne_of_lt (a b : Nat) (less : a < b) (within : b - a ≤ 8 * 257) :
    power a ≠ power b := by
  intro same
  have start : bits a 1#16 = bits a (power (b - a)) := by
    rw [bits_power, Nat.sub_add_cancel (Nat.le_of_lt less)]
    exact same
  exact power_ne_one (b - a) (by omega) within (bits_inj a _ _ start).symm

end Powers

section Parity

def parity : Nat → BitVec 16 → Bool
  | 0, _ => false
  | n + 1, v => parity n v ^^ v.getLsbD n

theorem parity_xor (n : Nat) (a b : BitVec 16) :
    parity n (a ^^^ b) = (parity n a ^^ parity n b) := by
  induction n with
  | zero => rfl
  | succ n ih =>
    rw [parity, ih, BitVec.getLsbD_xor, parity, parity]
    cases parity n a <;> cases parity n b <;> cases a.getLsbD n <;> cases b.getLsbD n <;> rfl

theorem parity_shift_left (n : Nat) (v : BitVec 16) (inside : n < 16) :
    parity (n + 1) (v <<< 1) = parity n v := by
  induction n with
  | zero => simp [parity]
  | succ n ih =>
    rw [parity, ih (by omega), parity, BitVec.getLsbD_shiftLeft]
    simp [inside]

-- The generator has an even number of terms, so x + 1 divides it.
theorem parity_bit_step (v : BitVec 16) : parity 16 (bitStep v) = parity 16 v := by
  have shifted : parity 16 (v <<< 1) = parity 15 v := parity_shift_left 15 v (by decide)
  have odd : parity 16 generator = true := by decide
  have all : parity 16 v = (parity 15 v ^^ v.msb) := by
    rw [BitVec.msb_eq_getLsbD_last]
    rfl
  by_cases top : v.msb
  · rw [bitStep, if_pos top, parity_xor, shifted, odd, all, top]
  · rw [bitStep, if_neg top, shifted, all, (Bool.not_eq_true _).mp top, Bool.xor_false]

theorem parity_bits (n : Nat) (v : BitVec 16) : parity 16 (bits n v) = parity 16 v := by
  induction n generalizing v with
  | zero => rfl
  | succ n ih => rw [bits, ih, parity_bit_step]

end Parity

def remainder (exponents : List Nat) : BitVec 16 :=
  exponents.foldr (fun k sum => power (k + 16) ^^^ sum) 0#16

section Remainder

theorem remainder_append (a b : List Nat) :
    remainder (a ++ b) = remainder a ^^^ remainder b := by
  induction a with
  | nil => exact BitVec.zero_xor.symm
  | cons k a ih =>
    change power (k + 16) ^^^ remainder (a ++ b) = power (k + 16) ^^^ remainder a ^^^ _
    rw [ih, BitVec.xor_assoc]

theorem bits_remainder (n : Nat) (exponents : List Nat) :
    bits n (remainder exponents) = remainder (exponents.map (· + n)) := by
  induction exponents with
  | nil => exact bits_zero n
  | cons k exponents ih =>
    change bits n (power (k + 16) ^^^ remainder exponents) =
      power (k + n + 16) ^^^ remainder (exponents.map (· + n))
    rw [bits_xor, ih, bits_power, Nat.add_right_comm]

theorem parity_remainder (exponents : List Nat) :
    parity 16 (remainder exponents) = decide (exponents.length % 2 = 1) := by
  induction exponents with
  | nil => rfl
  | cons k exponents ih =>
    have one : parity 16 1#16 = true := by decide
    change parity 16 (power (k + 16) ^^^ remainder exponents) = _
    rw [parity_xor, ih, power, parity_bits, one, List.length_cons]
    rcases Nat.mod_two_eq_zero_or_one exponents.length with even | odd
    · simp [even, Nat.add_mod]
    · simp [odd, Nat.add_mod]

theorem byte_step_marks : ∀ byte : BitVec 8,
    bits 8 (byte.setWidth 16 <<< 8) = remainder (byteMarks byte) := by
  decide +kernel

theorem register_marks (data : Bytes) : register 0#16 data = remainder (marks data) := by
  induction data with
  | nil => rfl
  | cons byte rest ih =>
    have first : byteStep 0#16 byte = remainder (byteMarks byte.toBitVec) := by
      rw [← byte_step_marks, byteStep, BitVec.zero_xor]
    change register (byteStep 0#16 byte) rest = _
    rw [register_eq, ih, first, bits_remainder, marks, remainder_append]

end Remainder

section Detected

theorem register_ne_zero_of_weight (data : Bytes) (short : data.length ≤ 257)
    (some : 1 ≤ data.weight) (few : data.weight ≤ 3) : register 0#16 data ≠ 0#16 := by
  intro vanishes
  rw [register_marks] at vanishes
  have size := length_marks data
  -- An odd number of bits shows in the parity; two bits are powers whose distance is in reach.
  have even := parity_remainder (marks data)
  rw [vanishes, size] at even
  have two : (marks data).length = 2 := by
    have none : parity 16 0#16 = false := by decide
    rw [none, eq_comm, decide_eq_false_iff_not] at even
    omega
  obtain ⟨a, b, found⟩ := List.length_eq_two.mp two
  have within (k : Nat) (member : k ∈ [a, b]) : k < 8 * 257 := by
    rw [← found] at member
    have bound := marks_lt data k member
    omega
  have first := within a (by simp)
  have second := within b (by simp)
  have apart : a ≠ b := by
    have distinct := nodup_marks data
    rw [found] at distinct
    simpa using distinct
  have same : power (a + 16) = power (b + 16) := by
    rw [found] at vanishes
    change power (a + 16) ^^^ (power (b + 16) ^^^ 0#16) = 0#16 at vanishes
    rwa [BitVec.xor_zero, BitVec.xor_eq_zero_iff] at vanishes
  rcases Nat.lt_or_gt_of_ne apart with less | more
  · exact power_ne_of_lt (a + 16) (b + 16) (by omega) (by omega) same
  · exact power_ne_of_lt (b + 16) (a + 16) (by omega) (by omega) same.symm

theorem bits_low : ∀ byte : BitVec 8, bits 8 (byte.setWidth 16) = byte.setWidth 16 <<< 8 := by
  decide +kernel

theorem register_pair (x y : UInt8) : register 0#16 [x, y] =
    bits 16 (x.toBitVec.setWidth 16 <<< 8 ^^^ y.toBitVec.setWidth 16) := by
  rw [bits_add 8 8, bits_xor 8, bits_low]
  change bits 8 (bits 8 (0#16 ^^^ _) ^^^ _) = _
  rw [BitVec.zero_xor]

theorem register_pair_ne_zero (x y : UInt8) (some : x ≠ 0 ∨ y ≠ 0) :
    register 0#16 [x, y] ≠ 0#16 := by
  rw [register_pair]
  apply bits_ne_zero
  intro none
  have number := congrArg BitVec.toNat (BitVec.xor_eq_zero_iff.mp none)
  have low := x.toNat_lt
  have high := y.toNat_lt
  simp only [BitVec.toNat_shiftLeft, BitVec.toNat_setWidth, UInt8.toNat_toBitVec,
    Nat.shiftLeft_eq] at number
  cases some with
  | inl first => exact first (UInt8.toNat_inj.mp (by change x.toNat = 0; omega))
  | inr second => exact second (UInt8.toNat_inj.mp (by change y.toNat = 0; omega))

theorem register_ne_zero_of_burst (a b : Nat) (x y : UInt8) (some : x ≠ 0 ∨ y ≠ 0) :
    register 0#16 (zeros a ++ [x, y] ++ zeros b) ≠ 0#16 := by
  rw [register_append, register_append, register_zeros, register_zeros, bits_zero]
  exact bits_ne_zero _ _ (register_pair_ne_zero x y some)

end Detected

end Checksum
end LegLink
