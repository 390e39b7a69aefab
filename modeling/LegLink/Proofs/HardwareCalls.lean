import LegLink.Hardware.Log
import LegLink.Line.Script
import LegLink.Proofs.Parsing
import LegLink.Proofs.Reaction

set_option autoImplicit false

namespace LegLink

-- Reading calibrations back changes nothing and is no call.
inductive HardwareCall where
  | setCalibration (channel : Channel) (pair : Calibration)
  | setAngle (channel : Channel) (angle : Single)
  | setPower (on : Bool)
  | readCurrent
  | readVoltage
  | readSensor (channel : UInt8)
deriving DecidableEq

inductive HardwareUnit where
  | servos
  | sensors
  | relay
deriving DecidableEq

structure Hardware (β γ δ : Type) where
  servos : β
  sensors : γ
  relay : δ

namespace HardwareCall

def unit : HardwareCall → HardwareUnit
  | setCalibration _ _ | setAngle _ _ => .servos
  | readCurrent | readVoltage | readSensor _ => .sensors
  | setPower _ => .relay

variable {β γ δ : Type} [ServoBank β] [AnalogSensors γ] [PowerRelay δ]

def run (h : Hardware β γ δ) : HardwareCall → Hardware β γ δ
  | setCalibration channel pair =>
    { h with servos := ServoBank.setCalibration channel pair h.servos }
  | setAngle channel angle => { h with servos := ServoBank.setAngle channel angle h.servos }
  | setPower on => { h with relay := PowerRelay.setPower on h.relay }
  | readCurrent => { h with sensors := (AnalogSensors.readCurrent h.sensors).2 }
  | readVoltage => { h with sensors := (AnalogSensors.readVoltage h.sensors).2 }
  | readSensor channel => { h with sensors := (AnalogSensors.readSensor channel h.sensors).2 }

def runAll (calls : List HardwareCall) (h : Hardware β γ δ) : Hardware β γ δ := calls.foldl run h

theorem run_all_append (first later : List HardwareCall) (h : Hardware β γ δ) :
    runAll (first ++ later) h = runAll later (runAll first h) := List.foldl_append

end HardwareCall

open HardwareCall

structure Noted (α : Type) where
  unit : α
  calls : List HardwareCall := []

namespace Noted

variable {α : Type}

def note (call : HardwareCall) (unit : α) (n : Noted α) : Noted α := ⟨unit, n.calls ++ [call]⟩

instance [ServoBank α] : ServoBank (Noted α) where
  setCalibration channel pair n :=
    n.note (.setCalibration channel pair) (ServoBank.setCalibration channel pair n.unit)
  calibration channel n := ServoBank.calibration channel n.unit
  setAngle channel angle n :=
    n.note (.setAngle channel angle) (ServoBank.setAngle channel angle n.unit)

instance [AnalogSensors α] : AnalogSensors (Noted α) where
  readCurrent n :=
    let (value, unit) := AnalogSensors.readCurrent n.unit
    (value, n.note .readCurrent unit)
  readVoltage n :=
    let (value, unit) := AnalogSensors.readVoltage n.unit
    (value, n.note .readVoltage unit)
  readSensor channel n :=
    let (value, unit) := AnalogSensors.readSensor channel n.unit
    (value, n.note (.readSensor channel) unit)

instance [PowerRelay α] : PowerRelay (Noted α) where
  setPower on n := n.note (.setPower on) (PowerRelay.setPower on n.unit)
  isPowered n := PowerRelay.isPowered n.unit

end Noted

namespace Hardware

variable {β γ δ : Type}

def noted (h : Hardware β γ δ) : Hardware (Noted β) (Noted γ) (Noted δ) :=
  ⟨{ unit := h.servos }, { unit := h.sensors }, { unit := h.relay }⟩

def notes (h : Hardware (Noted β) (Noted γ) (Noted δ)) : HardwareUnit → List HardwareCall
  | .servos => h.servos.calls
  | .sensors => h.sensors.calls
  | .relay => h.relay.calls

def asked (h h' : Hardware (Noted β) (Noted γ) (Noted δ)) : List HardwareCall :=
  [HardwareUnit.servos, .sensors, .relay].flatMap fun u => (h'.notes u).drop (h.notes u).length

variable [ServoBank β] [AnalogSensors γ] [PowerRelay δ]

theorem notes_run (call : HardwareCall) (h : Hardware (Noted β) (Noted γ) (Noted δ))
    (u : HardwareUnit) :
    (call.run h).notes u = h.notes u ++ [call].filter fun call => call.unit = u := by
  cases call with
  | setCalibration | setAngle =>
    cases u with
    | servos => rfl
    | sensors | relay => exact (List.append_nil _).symm
  | readCurrent | readVoltage | readSensor =>
    cases u with
    | sensors => rfl
    | servos | relay => exact (List.append_nil _).symm
  | setPower =>
    cases u with
    | relay => rfl
    | servos | sensors => exact (List.append_nil _).symm

theorem notes_run_all (calls : List HardwareCall) (h : Hardware (Noted β) (Noted γ) (Noted δ))
    (u : HardwareUnit) :
    (runAll calls h).notes u = h.notes u ++ calls.filter fun call => call.unit = u := by
  induction calls generalizing h with
  | nil => exact (List.append_nil _).symm
  | cons call calls ih =>
    change (runAll calls (call.run h)).notes u = _
    rw [ih, notes_run, List.append_assoc, ← List.filter_append]
    rfl

theorem asked_run_all (calls : List HardwareCall) (h : Hardware (Noted β) (Noted γ) (Noted δ))
    (unit : HardwareUnit) (alone : ∀ call ∈ calls, call.unit = unit) :
    asked h (runAll calls h) = calls := by
  have noted (u : HardwareUnit) : ((runAll calls h).notes u).drop (h.notes u).length =
      if u = unit then calls else [] := by
    rw [notes_run_all, List.drop_left]
    by_cases same : u = unit
    · rw [if_pos same, List.filter_eq_self]
      intro call member
      rw [same]
      exact decide_eq_true (alone call member)
    · rw [if_neg same, List.filter_eq_nil_iff]
      intro call member
      rw [alone call member, decide_eq_true_eq]
      exact fun other => same other.symm
  simp only [asked, noted]
  cases unit with
  | servos => exact List.append_nil calls
  | sensors => exact List.append_nil calls
  | relay => exact List.append_nil calls

end Hardware

def Packet.requested (p : Packet) : List HardwareCall :=
  match Command.ofCode? p.cmd, p.payload.bytes with
  | some .setAngleCalibrations, data =>
    if 72 ≤ data.length then
      Channel.all.map fun c =>
        setCalibration c ⟨Bytes.wordAt data (4 * c.val), Bytes.wordAt data (4 * c.val + 2)⟩
    else []
  | some .setTargetAngle, channel :: lo :: hi :: _ =>
    (Channel.ofIndex? channel).toList.map fun c => setAngle c (Single.ofWord (Bytes.word lo hi))
  | some .setPowerRelay, value :: _ =>
    if value = 1 then [setPower true] else if value = 0 then [setPower false] else []
  | some .getCurrent, _ => [readCurrent]
  | some .getVoltage, _ => [readVoltage]
  | some .getSensor, channel :: _ => [readSensor channel]
  | _, _ => []

theorem Packet.requested_hello (p : Packet) (hello : p.cmd = Command.hello.code) :
    p.requested = [] := by
  unfold requested
  rw [hello, Command.of_code_code]

theorem Packet.requested_alone (p : Packet) :
    ∃ unit, ∀ call ∈ p.requested, call.unit = unit := by
  unfold requested
  split
  · split
    · refine ⟨.servos, fun call member => ?_⟩
      obtain ⟨c, _, rfl⟩ := List.mem_map.mp member
      rfl
    · exact ⟨.servos, fun call member => nomatch member⟩
  · refine ⟨.servos, fun call member => ?_⟩
    obtain ⟨c, _, rfl⟩ := List.mem_map.mp member
    rfl
  · split
    · exact ⟨.relay, by simp [unit]⟩
    split
    · exact ⟨.relay, by simp [unit]⟩
    · exact ⟨.relay, fun call member => nomatch member⟩
  · exact ⟨.sensors, by simp [unit]⟩
  · exact ⟨.sensors, by simp [unit]⟩
  · exact ⟨.sensors, by simp [unit]⟩
  · exact ⟨.servos, fun call member => nomatch member⟩

def Request.calls : Request → List HardwareCall
  | .setAngleCalibrations table => Channel.all.map fun c => setCalibration c (table.get c)
  | .setTargetAngle channel angle =>
    (Channel.ofIndex? channel).toList.map fun c => setAngle c (Single.ofWord angle)
  | .setPowerRelay value =>
    if value = 1 then [setPower true] else if value = 0 then [setPower false] else []
  | .getCurrent => [readCurrent]
  | .getVoltage => [readVoltage]
  | .getSensor channel => [readSensor channel]
  | .hello _ _ | .getAngleCalibrations | .heartbeat => []

theorem requested_of_packet (p : Packet) :
    p.requested = match Request.ofPacket p with
      | .ok r => r.calls
      | .error _ => [] := by
  unfold Packet.requested Request.ofPacket
  cases Command.ofCode? p.cmd with
  | none => rfl
  | some c =>
    cases c with
    | ack | nack | getAngleCalibrations | getCurrent | getVoltage | heartbeat => rfl
    | hello =>
      rcases p.payload.bytes with - | ⟨first, - | ⟨second, rest⟩⟩
      · rfl
      · rfl
      · rfl
    | setAngleCalibrations =>
      by_cases enough : 72 ≤ p.payload.bytes.length
      · simp only [if_pos enough, Request.table_whole _ enough, Request.calls, PerChannel.get_of_fn]
      · simp only [if_neg enough, Request.table_short _ (Nat.lt_of_not_le enough)]
    | setTargetAngle =>
      rcases p.payload.bytes with - | ⟨first, - | ⟨second, - | ⟨third, rest⟩⟩⟩
      · rfl
      · rfl
      · rfl
      · rfl
    | setPowerRelay =>
      cases p.payload.bytes with
      | nil => rfl
      | cons value rest => rfl
    | getSensor =>
      cases p.payload.bytes with
      | nil => rfl
      | cons channel rest => rfl

namespace Device

variable {σ ε β γ δ : Type}

def hardware (d : Device σ β γ δ) : Hardware β γ δ := ⟨d.servos, d.sensors, d.relay⟩

theorem hardware_react_hello (p : Packet) (d : Device σ β γ δ) :
    (d.reactHello p).2.hardware = d.hardware := by
  unfold reactHello
  dsimp only
  split
  · rfl
  · rfl

variable [ServoBank β] [AnalogSensors γ] [PowerRelay δ]

theorem run_all_calibrations (table : CalibrationTable) (channels : List Channel)
    (h : Hardware β γ δ) :
    runAll (channels.map fun c => setCalibration c (table.get c)) h =
      { h with
        servos := channels.foldl (fun bank c => ServoBank.setCalibration c (table.get c) bank)
          h.servos } := by
  induction channels generalizing h with
  | nil => rfl
  | cons c channels ih => exact ih _

theorem hardware_execute (p : Packet) (r : Request) (d : Device σ β γ δ) :
    (d.execute p r).2.hardware = runAll r.calls d.hardware := by
  cases r with
  | hello version capabilities => exact hardware_react_hello p d
  | setAngleCalibrations table => exact (run_all_calibrations table Channel.all d.hardware).symm
  | setTargetAngle channel angle =>
    cases found : Channel.ofIndex? channel with
    | none =>
      simp only [execute, Request.calls, found]
      rfl
    | some c =>
      simp only [execute, Request.calls, found]
      rfl
  | setPowerRelay value =>
    by_cases on : value = 1
    · simp only [execute, Request.calls, if_pos on]
      rfl
    · by_cases off : value = 0
      · simp only [execute, Request.calls, if_neg on, if_pos off]
        rfl
      · simp only [execute, Request.calls, if_neg on, if_neg off]
        rfl
  | getAngleCalibrations | getCurrent | getVoltage | getSensor | heartbeat => rfl

theorem hardware_react (p : Packet) (d : Device σ β γ δ) (opened : d.gate = .opened) :
    (d.react p).2.hardware = runAll p.requested d.hardware := by
  by_cases hello : p.cmd = Command.hello.code
  · rw [react, if_pos hello, p.requested_hello hello]
    exact hardware_react_hello p d
  · rw [react_opened p d opened hello, requested_of_packet]
    cases Request.ofPacket p with
    | ok r => exact hardware_execute p r d
    | error e =>
      cases e with
      | unknownCommand code | truncated => rfl

variable [Transport σ ε]

def handleAll (packets : List Packet) (d : Device σ β γ δ) : Device σ β γ δ :=
  packets.foldl (fun d p => (d.handle p).2) d

theorem hardware_handle (p : Packet) (d : Device σ β γ δ) (opened : d.gate = .opened) :
    (d.handle p).2.hardware = runAll p.requested d.hardware := by
  obtain ⟨link, stats, handled⟩ := handle_react p d
  rw [handled]
  exact hardware_react p d opened

theorem opened_handle (p : Packet) (d : Device σ β γ δ) (opened : d.gate = .opened) :
    (d.handle p).2.gate = .opened := (gate_handle p d).2.mpr (.inl opened)

theorem opened_handle_all (packets : List Packet) (d : Device σ β γ δ) (opened : d.gate = .opened) :
    (d.handleAll packets).gate = .opened := by
  induction packets generalizing d with
  | nil => exact opened
  | cons p later ih => exact ih _ (opened_handle p d opened)

theorem hardware_handle_all (packets : List Packet) (d : Device σ β γ δ)
    (opened : d.gate = .opened) :
    (d.handleAll packets).hardware = runAll (packets.flatMap Packet.requested) d.hardware := by
  induction packets generalizing d with
  | nil => rfl
  | cons p later ih =>
    rw [List.flatMap_cons, run_all_append, ← hardware_handle p d opened]
    exact ih _ (opened_handle p d opened)

def noted (d : Device σ β γ δ) : Device σ (Noted β) (Noted γ) (Noted δ) :=
  { link := d.link, servos := d.hardware.noted.servos, sensors := d.hardware.noted.sensors,
    relay := d.hardware.noted.relay, gate := d.gate, config := d.config, stats := d.stats }

def trace : List Packet → Device σ (Noted β) (Noted γ) (Noted δ) → List HardwareCall
  | [], _ => []
  | p :: later, d => d.hardware.asked (d.handle p).2.hardware ++ trace later (d.handle p).2

theorem trace_requested (packets : List Packet) (d : Device σ (Noted β) (Noted γ) (Noted δ))
    (opened : d.gate = .opened) : trace packets d = packets.flatMap Packet.requested := by
  induction packets generalizing d with
  | nil => rfl
  | cons p later ih =>
    obtain ⟨unit, alone⟩ := p.requested_alone
    rw [trace, List.flatMap_cons, hardware_handle p d opened,
      Hardware.asked_run_all p.requested d.hardware unit alone, ih _ (opened_handle p d opened)]

theorem react_get_angle_calibrations (p : Packet) (d : Device σ β γ δ) (opened : d.gate = .opened)
    (asks : p.cmd = Command.getAngleCalibrations.code) :
    d.react p = (.reply .getAngleCalibrations
      (Reply.calibrations p.seq (ServoBank.calibrations d.servos)), d) := by
  have other : p.cmd ≠ Command.hello.code := by
    rw [asks]
    decide
  have parsed : Request.ofPacket p = .ok .getAngleCalibrations := by
    unfold Request.ofPacket
    rw [asks, Command.of_code_code]
  rw [react_opened p d opened other, parsed]
  rfl

end Device
end LegLink
