import LegLink.Bytes
import LegLink.Joint

set_option autoImplicit false

namespace LegLink

theorem Bytes.to_list_loop (bytes : ByteArray) (i : Nat) (taken : Bytes) :
    ByteArray.toList.loop bytes i taken = taken.reverse ++ bytes.data.toList.drop i := by
  fun_induction ByteArray.toList.loop bytes i taken with
  | case1 i taken inside ih =>
    have bound : i < bytes.data.toList.length := by simpa using inside
    have byte : bytes.get! i = bytes.data.toList[i] := getElem!_pos bytes.data i inside
    rw [ih, List.drop_eq_getElem_cons bound, byte]
    simp
  | case2 i taken past =>
    have none : bytes.data.toList.drop i = [] := List.drop_eq_nil_of_le (by simpa using past)
    simp [none]

theorem Bytes.to_list_eq (bytes : ByteArray) : bytes.toList = bytes.data.toList := by
  simp [ByteArray.toList, to_list_loop]

namespace Joint

def sideByte (s : Side) : UInt8 := if s = .right then 0x52 else 0x4C
def digitByte (d : Fin 3) : UInt8 := 0x31 + UInt8.ofNat d.val

def nameBytes (j : Joint) : Bytes := [sideByte j.side, digitByte j.leg, digitByte j.joint]

theorem side_eq_some_iff (byte : UInt8) (s : Side) : side? byte = some s ↔ byte = sideByte s := by
  constructor
  · intro read
    simp only [side?] at read
    split at read <;> cases read <;> rfl
  · rintro rfl
    cases s <;> rfl

theorem digit_eq_some_iff (byte : UInt8) (d : Fin 3) :
    digit? byte = some d ↔ byte = digitByte d := by
  constructor
  · intro read
    simp only [digit?] at read
    split at read <;> cases read <;> rfl
  · rintro rfl
    revert d
    decide

theorem of_bytes_eq_ok_iff (bytes : Bytes) (j : Joint) :
    ofBytes bytes = .ok j ↔ bytes = j.nameBytes := by
  constructor
  · intro read
    rcases bytes with - | ⟨s, - | ⟨l, - | ⟨d, - | ⟨_, _⟩⟩⟩⟩
    case cons.cons.cons.nil =>
      simp only [ofBytes] at read
      split at read <;> cases read
      rename_i side leg joint
      rw [nameBytes, ← (side_eq_some_iff s _).mp side, ← (digit_eq_some_iff l _).mp leg,
        ← (digit_eq_some_iff d _).mp joint]
    all_goals simp [ofBytes] at read
  · rintro rfl
    have side := (side_eq_some_iff _ j.side).mpr rfl
    have leg := (digit_eq_some_iff _ j.leg).mpr rfl
    have joint := (digit_eq_some_iff _ j.joint).mpr rfl
    simp [ofBytes, nameBytes, side, leg, joint]

theorem bytes_name (j : Joint) : j.name.toUTF8.toList = j.nameBytes := by
  rw [Bytes.to_list_eq]
  rcases j with ⟨side, leg, joint⟩
  revert leg joint
  cases side <;> decide +kernel

theorem of_name_eq_ok_iff (text : String) (j : Joint) : ofName text = .ok j ↔ text = j.name := by
  rw [ofName, of_bytes_eq_ok_iff, ← bytes_name]
  constructor
  · intro same
    rw [Bytes.to_list_eq, Bytes.to_list_eq] at same
    exact String.toByteArray_inj.mp (ByteArray.ext (Array.toList_inj.mp same))
  · rintro rfl
    rfl

theorem of_name_inj (a b : String) (j : Joint) (first : ofName a = .ok j)
    (second : ofName b = .ok j) : a = b :=
  ((of_name_eq_ok_iff a j).mp first).trans ((of_name_eq_ok_iff b j).mp second).symm

theorem channel_inj (i j : Joint) : i.channel = j.channel ↔ i = j := by
  constructor
  · intro same
    rw [← of_channel_channel i, same, of_channel_channel]
  · rintro rfl
    rfl

end Joint
end LegLink
