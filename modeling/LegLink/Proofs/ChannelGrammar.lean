import Mathlib.Data.Nat.Digits.Defs
import LegLink.CommandLine.Task
import LegLink.Proofs.Codec
import LegLink.Proofs.JointNames

set_option autoImplicit false

namespace LegLink

namespace Decimal

def value (digits : List Char) : Nat := Nat.ofDigits 10 (digits.map fun c => c.toNat - 0x30).reverse

def Numeral (n : Nat) (text : List Char) : Prop :=
  ∃ sign digits, text = sign ++ digits ∧ (sign = [] ∨ sign = ['+']) ∧
    digits ≠ [] ∧ (∀ c ∈ digits, c.isDigit) ∧ value digits = n

theorem value_cons (c : Char) (rest : List Char) :
    value (c :: rest) = (c.toNat - 0x30) * 10 ^ rest.length + value rest := by
  rw [value, List.map_cons, Nat.ofDigits_reverse_cons, List.length_map, Nat.add_comm, Nat.mul_comm,
    value]

-- The digits read so far are worth ten to the number of places that are left.
theorem digits_eq_some_iff (text : List Char) (n m : Nat) :
    digits? n text = some m ↔
      (∀ c ∈ text, c.isDigit) ∧ n * 10 ^ text.length + value text = m := by
  induction text generalizing n with
  | nil => simp [digits?, value]
  | cons c rest ih =>
    have places : (n * 10 + (c.toNat - 0x30)) * 10 ^ rest.length + value rest =
        n * 10 ^ (c :: rest).length + value (c :: rest) := by
      rw [value_cons, List.length_cons]
      ring
    rw [digits?, digit?, List.forall_mem_cons]
    by_cases digit : c.isDigit
    · rw [if_pos digit, Option.bind_some, ih, places]
      simp [digit]
    · simp [digit]

theorem nat_eq_some_iff (text : List Char) (n : Nat) :
    nat? text = some n ↔ text ≠ [] ∧ (∀ c ∈ text, c.isDigit) ∧ value text = n := by
  cases text with
  | nil => simp [nat?]
  | cons c rest =>
    rw [nat?, List.isEmpty_cons, if_neg Bool.false_ne_true, digits_eq_some_iff, Nat.zero_mul,
      Nat.zero_add]
    exact (and_iff_right (List.cons_ne_nil c rest)).symm

theorem unsigned_eq_some_iff (text : List Char) (n : Nat) :
    unsigned? text = some n ↔ Numeral n text := by
  constructor
  · fun_cases unsigned? text with
    | case1 digits =>
      intro read
      exact ⟨['+'], digits, rfl, .inr rfl, (nat_eq_some_iff digits n).mp read⟩
    | case2 =>
      intro read
      exact ⟨[], text, rfl, .inl rfl, (nat_eq_some_iff text n).mp read⟩
  · rintro ⟨sign, digits, rfl, plus, numeral⟩
    have read := (nat_eq_some_iff digits n).mpr numeral
    obtain rfl | rfl := plus
    · rw [List.nil_append]
      fun_cases unsigned? digits with
      | case1 rest => exact absurd (numeral.2.1 '+' List.mem_cons_self) (by decide)
      | case2 => exact read
    · exact read

end Decimal

namespace Joint

def byte? (n : Int) : Option UInt8 :=
  if 0 ≤ n ∧ n < UInt8.size then some (UInt8.ofInt n) else none

-- No step may leave the range of a byte, and a channel past the last would wrap.
def channelChecked (j : Joint) : Option Channel := do
  let pairs ← byte? (3 - (j.leg.val + 1))
  let paired ← byte? (pairs.toNat * 6)
  let first ← byte? (paired.toNat + sideOffset j.side)
  let within ← byte? (j.joint.val + 1 - 1)
  return Channel.wrapping (← byte? (first.toNat + within.toNat))

theorem channel_checked_eq (j : Joint) : j.channelChecked = some j.channel := by
  rcases j with ⟨side, leg, joint⟩
  revert leg joint
  cases side <;> decide

end Joint

namespace Channel

def Denotes (text : String) (c : Channel) : Prop :=
  Decimal.Numeral c.val text.toList ∨ text = (Joint.ofChannel c).name

theorem name_not_numeral (joint : Joint) : Decimal.unsigned? joint.name.toList = none := by
  rw [Joint.name, String.toList_ofList]
  rcases joint with ⟨side, leg, joint⟩
  cases side <;> rfl

theorem of_index_of_nat_eq_some_iff (n : Nat) (small : n < UInt8.size) (c : Channel) :
    ofIndex? (UInt8.ofNat n) = some c ↔ n = c.val := by
  constructor
  · intro read
    have index := UInt8.toNat_ofNat_of_lt' small
    unfold ofIndex? at read
    split at read
    · rw [← Option.some.inj read]
      exact index.symm
    · exact nomatch read
  · rintro rfl
    exact of_index_raw c

theorem parse_numeral (text : String) (c : Channel) (written : Decimal.Numeral c.val text.toList) :
    parse text = .ok c := by
  have read := (Decimal.unsigned_eq_some_iff _ _).mpr written
  have small : c.val < UInt8.size := c.isLt.trans (by decide)
  have known := (of_index_of_nat_eq_some_iff c.val small c).mpr rfl
  simp only [parse, read, Option.filter_some, decide_eq_true small, if_true, known]

theorem parse_name (joint : Joint) : parse joint.name = .ok joint.channel := by
  have read := (Joint.of_name_eq_ok_iff joint.name joint).mpr rfl
  simp only [parse, name_not_numeral, Option.filter_none, read]

theorem denotes_of_parse (text : String) (c : Channel) (read : parse text = .ok c) :
    Denotes text c := by
  unfold parse at read
  split at read
  case h_1 n held =>
    obtain ⟨numeral, small⟩ := Option.filter_eq_some_iff.mp held
    split at read
    case h_1 d known =>
      obtain rfl : d = c := Except.ok.inj read
      rw [of_index_of_nat_eq_some_iff n (of_decide_eq_true small)] at known
      exact .inl ((Decimal.unsigned_eq_some_iff _ _).mp (known ▸ numeral))
    case h_2 => exact nomatch read
  case h_2 =>
    split at read
    case h_1 joint named =>
      obtain rfl : joint.channel = c := Except.ok.inj read
      rw [Denotes, Joint.of_channel_channel]
      exact .inr ((Joint.of_name_eq_ok_iff text joint).mp named)
    case h_2 => exact nomatch read

theorem parse_eq_ok_iff (text : String) (c : Channel) : parse text = .ok c ↔ Denotes text c := by
  refine ⟨denotes_of_parse text c, ?_⟩
  rintro (numeral | rfl)
  · exact parse_numeral text c numeral
  · rw [parse_name, Joint.channel_of_channel]

theorem not_denotes_of_large (text : String) (n : Nat) (large : servoCount ≤ n)
    (written : Decimal.Numeral n text.toList) (c : Channel) : ¬ Denotes text c := by
  have read := (Decimal.unsigned_eq_some_iff _ _).mpr written
  rintro (numeral | rfl)
  · have same := read.symm.trans ((Decimal.unsigned_eq_some_iff _ _).mpr numeral)
    have bound := c.isLt
    rw [Option.some.injEq] at same
    omega
  · rw [name_not_numeral] at read
    exact nomatch read

/-- A channel is read from the numerals of its number and from the name of its joint, and from no
other text. No text stands for two channels. The name of each is read back, and bytes are enough to
get from its joint to the channel. -/
theorem parse_grammar (text : String) :
    (∀ c, parse text = .ok c ↔ Denotes text c) ∧
    ((∀ c, ¬ Denotes text c) → ∃ e, parse text = .error e) ∧
    (∀ n, servoCount ≤ n → Decimal.Numeral n text.toList → ∃ e, parse text = .error e) ∧
    (∀ c d, Denotes text c → Denotes text d → c = d) ∧
    ∀ c, parse (Joint.ofChannel c).name = .ok c ∧ (Joint.ofChannel c).channelChecked = some c := by
  have refused (foreign : ∀ c, ¬ Denotes text c) : ∃ e, parse text = .error e := by
    cases read : parse text with
    | error e => exact ⟨e, rfl⟩
    | ok c => exact absurd (denotes_of_parse text c read) (foreign c)
  refine ⟨parse_eq_ok_iff text, refused, ?large, ?unique, ?named⟩
  case large =>
    intro n large written
    exact refused (not_denotes_of_large text n large written)
  case unique =>
    intro c d first second
    rw [← parse_eq_ok_iff] at first second
    exact Except.ok.inj (first.symm.trans second)
  case named =>
    intro c
    refine ⟨(parse_eq_ok_iff _ c).mpr (.inr rfl), ?_⟩
    rw [Joint.channel_checked_eq, Joint.channel_of_channel]

theorem parse_grammar_padded :
    let last : Channel := ⟨17, by decide⟩
    parse "+0017" = .ok last ∧ (∃ e, parse "300" = .error e) ∧
      parse (Joint.ofChannel last).name = .ok last := by
  intro last
  obtain ⟨padded, -⟩ := parse_grammar "+0017"
  obtain ⟨-, -, large, -, named⟩ := parse_grammar "300"
  have seventeen : Decimal.Numeral 17 "+0017".toList :=
    ⟨['+'], ['0', '0', '1', '7'], rfl, .inr rfl, by decide, List.all_eq_true.mp rfl, rfl⟩
  have hundreds : Decimal.Numeral 300 "300".toList :=
    ⟨[], ['3', '0', '0'], rfl, .inl rfl, by decide, List.all_eq_true.mp rfl, rfl⟩
  exact ⟨(padded last).mpr (.inl seventeen), large 300 (by decide) hundreds, (named last).1⟩

end Channel
end LegLink
