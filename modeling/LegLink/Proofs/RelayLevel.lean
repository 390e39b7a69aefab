import LegLink.Hardware.Relay

set_option autoImplicit false

namespace LegLink

-- Only a write that it takes changes its level.
class LevelPin (ρ : Type) [RawPin ρ] where
  level : ρ → Bool
  level_write (asked : Bool) (pin : ρ) :
    level (RawPin.write asked pin).2 = if (RawPin.write asked pin).1 then asked else level pin

namespace RawPin

variable {ρ : Type} [RawPin ρ]

def writeAll (asked : List Bool) (pin : ρ) : ρ :=
  asked.foldl (fun pin level => (write level pin).2) pin

def taken : List Bool → ρ → List Bool
  | [], _ => []
  | level :: later, pin =>
    if (write level pin).1 then level :: taken later (write level pin).2
    else taken later (write level pin).2

theorem last_taken (level : Bool) (later : List Bool) (pin : ρ) (before : Bool) :
    (taken (level :: later) pin).getLastD before =
      (taken later (write level pin).2).getLastD
        (if (write level pin).1 then level else before) := by
  rw [taken]
  cases (write level pin).1 with
  | true => exact List.getLastD_cons
  | false => rfl

theorem level_write_all [LevelPin ρ] (asked : List Bool) (pin : ρ) :
    LevelPin.level (writeAll asked pin) = (taken asked pin).getLastD (LevelPin.level pin) := by
  induction asked generalizing pin with
  | nil => rfl
  | cons level later ih =>
    rw [last_taken, ← LevelPin.level_write]
    exact ih (write level pin).2

end RawPin

namespace TrackedPin

variable {ρ : Type} [RawPin ρ]

def setAll (asked : List Bool) (p : TrackedPin ρ) : TrackedPin ρ :=
  asked.foldl (fun p level => p.set level) p

theorem set_eq (level : Bool) (p : TrackedPin ρ) :
    p.set level =
      ⟨(RawPin.write level p.pin).2, if (RawPin.write level p.pin).1 then level else p.high⟩ := by
  unfold set
  rcases RawPin.write level p.pin with ⟨takes, pin⟩
  cases takes with
  | true | false => rfl

theorem set_all_eq (asked : List Bool) (p : TrackedPin ρ) :
    p.setAll asked =
      ⟨RawPin.writeAll asked p.pin, (RawPin.taken asked p.pin).getLastD p.high⟩ := by
  induction asked generalizing p with
  | nil => rfl
  | cons level later ih =>
    change (p.set level).setAll later = _
    rw [ih, set_eq, RawPin.last_taken]
    rfl

end TrackedPin

namespace PinRelay

variable {ρ : Type} [RawPin ρ]

def setPowers (requests : List Bool) (r : PinRelay (TrackedPin ρ)) : PinRelay (TrackedPin ρ) :=
  requests.foldl (fun r on => PowerRelay.setPower on r) r

theorem set_powers_eq (requests : List Bool) (r : PinRelay (TrackedPin ρ)) :
    r.setPowers requests =
      { pin := r.pin.setAll (requests.map (· != r.inverted)), inverted := r.inverted
        on := requests.getLastD r.on } := by
  induction requests generalizing r with
  | nil => rfl
  | cons on later ih =>
    change (r.setPower on).setPowers later = _
    rw [ih, List.getLastD_cons]
    rfl

-- The pin is driven low, the relay is opened, and then come the requests.
def levels (inverted : Bool) (requests : List Bool) : List Bool :=
  false :: (false :: requests).map (· != inverted)

theorem of_pin_set_powers (pin : ρ) (inverted : Bool) (requests : List Bool) :
    (ofPin (TrackedPin.ofPin pin) inverted).setPowers requests =
      { pin := ⟨RawPin.writeAll (levels inverted requests) pin,
          (RawPin.taken (levels inverted requests) pin).getLastD false⟩
        inverted, on := requests.getLastD false } := by
  have opened : (ofPin (TrackedPin.ofPin pin) inverted).setPowers requests =
      setPowers (false :: requests) { pin := TrackedPin.ofPin pin, inverted } := rfl
  rw [opened, set_powers_eq, TrackedPin.set_all_eq, List.getLastD_cons, levels,
    RawPin.last_taken, ite_self]
  rfl

variable [LevelPin ρ]

def closed (r : PinRelay (TrackedPin ρ)) : Bool := LevelPin.level r.pin.pin != r.inverted

structure Agrees (r : PinRelay (TrackedPin ρ)) : Prop where
  reported : PowerRelay.isPowered r = r.closed
  tracked : r.pin.high = LevelPin.level r.pin.pin

theorem eq_bne_iff (on level inverted : Bool) :
    on = (level != inverted) ↔ level = (on != inverted) := by
  cases on <;> cases level <;> cases inverted <;> decide

theorem agrees_set_power (on : Bool) (r : PinRelay (TrackedPin ρ))
    (takes : (RawPin.write (on != r.inverted) r.pin.pin).1 = true) : (r.setPower on).Agrees := by
  have stands := LevelPin.level_write (on != r.inverted) r.pin.pin
  rw [takes, if_pos rfl] at stands
  have set : (r.setPower on).pin =
      ⟨(RawPin.write (on != r.inverted) r.pin.pin).2, on != r.inverted⟩ := by
    change r.pin.set (on != r.inverted) = _
    rw [TrackedPin.set_eq, takes, if_pos rfl]
  constructor
  · refine (eq_bne_iff on _ r.inverted).mpr ?_
    rw [set]
    exact stands
  · rw [set, stands]

theorem last_levels (inverted : Bool) (requests : List Bool) :
    (levels inverted requests).getLastD false = (requests.getLastD false != inverted) := by
  rw [levels, List.getLastD_cons, List.getLastD_eq_getLast?, List.getLast?_map,
    List.getLast?_cons, List.getLastD_eq_getLast?]
  rfl

/-- The pin stands at the level that it took last, and is tracked there unless it has never taken
one and started high. The relay is closed as it reports exactly as long as that level is the one
asked for last, and a request that is taken makes it so again. -/
theorem reported_closed_iff (pin : ρ) (inverted : Bool) (requests : List Bool) :
    let relay : PinRelay (TrackedPin ρ) :=
      (ofPin (TrackedPin.ofPin pin) inverted).setPowers requests
    let asked := levels inverted requests
    let took := RawPin.taken asked pin
    PowerRelay.isPowered relay = requests.getLastD false ∧
    LevelPin.level relay.pin.pin = took.getLastD (LevelPin.level pin) ∧
    relay.pin.high = took.getLastD false ∧
    (relay.pin.high = LevelPin.level relay.pin.pin ↔ took ≠ [] ∨ LevelPin.level pin = false) ∧
    (PowerRelay.isPowered relay = relay.closed ↔
      took.getLastD (LevelPin.level pin) = asked.getLastD false) ∧
    ∀ on, (RawPin.write (on != inverted) relay.pin.pin).1 = true →
      (PowerRelay.setPower on relay).Agrees := by
  intro relay asked took
  have state : relay = ⟨⟨RawPin.writeAll asked pin, took.getLastD false⟩, inverted,
    requests.getLastD false⟩ := of_pin_set_powers pin inverted requests
  have stands : LevelPin.level relay.pin.pin = took.getLastD (LevelPin.level pin) := by
    rw [state]
    exact RawPin.level_write_all asked pin
  have high : relay.pin.high = took.getLastD false := by rw [state]
  have on : PowerRelay.isPowered relay = requests.getLastD false := by
    rw [state]
    rfl
  have kind : relay.inverted = inverted := by rw [state]
  refine ⟨on, stands, high, ?_, ?_, ?_⟩
  · rw [high, stands]
    cases took with
    | nil => exact ⟨fun same => .inr same.symm, fun low => (low.resolve_left (absurd rfl)).symm⟩
    | cons level later =>
      refine iff_of_true ?_ (.inl (List.cons_ne_nil level later))
      rw [List.getLastD_cons, List.getLastD_cons]
  · rw [last_levels, ← stands, on, closed, kind]
    exact eq_bne_iff _ _ inverted
  · intro on takes
    exact agrees_set_power on relay (by rw [kind]; exact takes)

end PinRelay

structure ScriptedPin where
  level : Bool
  takes : List Bool := []

namespace ScriptedPin

def write (asked : Bool) (p : ScriptedPin) : Bool × ScriptedPin :=
  let level := if p.takes.headD true then asked else p.level
  (p.takes.headD true, { level, takes := p.takes.tail })

instance : RawPin ScriptedPin where
  write := write

instance : LevelPin ScriptedPin where
  level := ScriptedPin.level
  level_write _ _ := rfl

end ScriptedPin

namespace PinRelay

theorem reported_closed_iff_refused :
    let refusing : ScriptedPin := { level := false, takes := [true, true, true, false] }
    let relay := (ofPin (TrackedPin.ofPin refusing) false).setPowers [true, false]
    let stuck : ScriptedPin := { level := true, takes := [false, false] }
    let fresh := (ofPin (TrackedPin.ofPin stuck) false).setPowers []
    (PowerRelay.isPowered relay = false ∧ relay.closed = true ∧ relay.pin.high = true) ∧
      PowerRelay.isPowered fresh = false ∧ fresh.closed = true ∧ fresh.pin.high = false := by
  intro refusing relay stuck fresh
  obtain ⟨off, _, high, _, reported, _⟩ := reported_closed_iff refusing false [true, false]
  obtain ⟨idle, stands, low, _⟩ := reported_closed_iff stuck false []
  refine ⟨⟨off, ?_, high⟩, idle, ?_, low⟩
  · have differs : ¬ PowerRelay.isPowered relay = relay.closed := fun same =>
      absurd (reported.mp same) (by decide)
    rw [off] at differs
    exact eq_true_of_ne_false fun opened => differs opened.symm
  · exact congrArg (· != false) stands

end PinRelay
end LegLink
