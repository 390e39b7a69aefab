set_option autoImplicit false

namespace LegLink

def servoCount : Nat := 18

abbrev Channel := Fin servoCount

namespace Channel

instance : Inhabited Channel := ⟨⟨0, by decide⟩⟩

def ofIndex? (index : UInt8) : Option Channel :=
  if h : index.toNat < servoCount then some ⟨index.toNat, h⟩ else none

def wrapping (index : UInt8) : Channel :=
  ⟨index.toNat % servoCount, Nat.mod_lt _ (by decide)⟩

def raw (c : Channel) : UInt8 := UInt8.ofNat c.val

def all : List Channel := List.finRange servoCount

end Channel

inductive Side where
  | right
  | left
deriving DecidableEq

namespace Side

def letter : Side → Char
  | right => 'R'
  | left => 'L'

def name : Side → String
  | right => "Right"
  | left => "Left"

end Side

-- Legs and joints are numbered from one in names and from zero here.
structure Joint where
  side : Side
  leg : Fin 3
  joint : Fin 3
deriving DecidableEq

inductive JointError where
  | length
  | side
  | leg
  | joint
deriving DecidableEq

namespace JointError

def name : JointError → String
  | length => "Length"
  | side => "Side"
  | leg => "Leg"
  | joint => "Joint"

def message : JointError → String
  | length => "expected three characters"
  | side => "side must be R or L"
  | leg => "leg must be 1, 2 or 3"
  | joint => "joint must be 1, 2 or 3"

end JointError

namespace Joint

def digit? : UInt8 → Option (Fin 3)
  | 0x31 => some 0
  | 0x32 => some 1
  | 0x33 => some 2
  | _ => none

def side? : UInt8 → Option Side
  | 0x52 => some .right
  | 0x4C => some .left
  | _ => none

-- The name counts in bytes, so a letter outside ASCII takes more than one of the three places.
def ofBytes : List UInt8 → Except JointError Joint
  | [s, l, j] =>
    match side? s, digit? l, digit? j with
    | none, _, _ => .error .side
    | some _, none, _ => .error .leg
    | some _, some _, none => .error .joint
    | some side, some leg, some joint => .ok ⟨side, leg, joint⟩
  | _ => .error .length

def ofName (name : String) : Except JointError Joint := ofBytes name.toUTF8.toList

def name (j : Joint) : String :=
  String.ofList [j.side.letter, Char.ofNat (0x31 + j.leg.val), Char.ofNat (0x31 + j.joint.val)]

def sideOffset : Side → Nat
  | .right => 0
  | .left => 3

-- Channels run over the legs from the third to the first, right before left, joints ascending.
def channel (j : Joint) : Channel :=
  ⟨(2 - j.leg.val) * 6 + sideOffset j.side + j.joint.val, by
    have := j.leg.isLt
    have := j.joint.isLt
    cases j.side <;> simp only [sideOffset, servoCount] <;> omega⟩

def ofChannel (c : Channel) : Joint where
  side := if c.val % 6 < 3 then .right else .left
  leg := ⟨2 - c.val / 6, by omega⟩
  joint := ⟨c.val % 3, by omega⟩

theorem of_channel_channel (j : Joint) : ofChannel j.channel = j := by
  rcases j with ⟨side, leg, joint⟩
  revert leg joint
  cases side <;> decide

theorem channel_of_channel (c : Channel) : (ofChannel c).channel = c := by
  revert c
  decide

end Joint
end LegLink
