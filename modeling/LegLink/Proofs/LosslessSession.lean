import LegLink.Proofs.Exchange
import LegLink.Proofs.HardwareLaws
import LegLink.Proofs.HostOperations

set_option autoImplicit false

namespace LegLink

open Handshake (Outcome State)
open Emulator (EmulatedDevice EmulatedSensors)

inductive Happening where
  | operation (op : Operation)
  | noiseToDevice (noise : Bytes)
  | noiseToHost (noise : Bytes)

namespace Happening

-- Noise on either queue changes nothing as long as it has no start marker.
def Quiet : Happening → Prop
  | operation _ => True
  | noiseToDevice noise => Frame.stx ∉ noise
  | noiseToHost noise => Frame.stx ∉ noise

instance : (h : Happening) → Decidable h.Quiet
  | operation _ => inferInstanceAs (Decidable True)
  | noiseToDevice noise => inferInstanceAs (Decidable (Frame.stx ∉ noise))
  | noiseToHost noise => inferInstanceAs (Decidable (Frame.stx ∉ noise))

def run : Happening → Controller Bench → Option (Returned Empty) × Controller Bench
  | operation op, c => (some (c.perform op).1, (c.perform op).2)
  | noiseToDevice noise, c => (none, { c with link.line := c.link.line.enterDevice noise })
  | noiseToHost noise, c =>
    (none, { c with link.line.toHost := c.link.line.toHost ++ noise })

end Happening

def runAll : List Happening → Controller Bench → List (Returned Empty) × Controller Bench
  | [], c => ([], c)
  | first :: later, c =>
    let (result, c) := first.run c
    let (results, c) := runAll later c
    (result.toList ++ results, c)

section Inputs

variable (s : EmulatedSensors)

theorem is_some_read_current : (AnalogSensors.readCurrent s).1.isSome = true := rfl
theorem is_some_read_voltage : (AnalogSensors.readVoltage s).1.isSome = true := rfl
theorem is_some_read_sensor (channel : UInt8) :
    (AnalogSensors.readSensor channel s).1.isSome = true := rfl

end Inputs

-- A session that knows nothing of lines, packets and numbers.
structure Ideal where
  connected : Bool := false
  table : CalibrationTable := .factory
  sensors : EmulatedSensors := { frontEnd := { levels := SimulatedInputs.defaultLevels } }
  dispatched : List Dispatch := []

namespace Ideal

section Steps

variable (host : ControllerConfig) (device : DeviceConfig)

def greeted (connected : Bool) (hellos : Nat) (s : Ideal) : Ideal :=
  { s with
    connected
    dispatched := s.dispatched ++ List.replicate hellos (.handled .hello) }

def ack : HelloAck := ⟨device.protocolVersion, statusOk, device.deviceId⟩

def refusal : Outcome := .rejected (.nack errorVersionMismatch)

def handshake (s : Ideal) : Except (ControllerError Empty) HelloAck × Ideal :=
  if host.protocolVersion = device.protocolVersion then (.ok (ack device), s.greeted true 1)
  else
    let attempts := max host.attempts.toNat 1
    (.error (.handshakeFailed attempts refusal), s.greeted false attempts)

def handshakeOnce (s : Ideal) : Except (ControllerError Empty) Outcome × Ideal :=
  if host.protocolVersion = device.protocolVersion then
    (.ok (.accepted (ack device)), s.greeted true 1)
  else (.ok refusal, s.greeted false 1)

def request {α : Type} (s : Ideal) (command : Command) (value : α) (changed : Ideal) :
    Except (ControllerError Empty) α × Ideal :=
  if s.connected then
    (.ok value, { changed with dispatched := s.dispatched ++ [.handled command] })
  else (.error .notConnected, s)

def perform (s : Ideal) : Operation → Returned Empty × Ideal
  | .openSession | .closeSession => (.done (.ok ()), { s with connected := false })
  | .handshake => (.device (s.handshake host device).1, (s.handshake host device).2)
  | .handshakeOnce => (.outcome (s.handshakeOnce host device).1, (s.handshakeOnce host device).2)
  | .setAngleCalibrations table =>
    let (result, s) := s.request .setAngleCalibrations () { s with table }
    (.done result, s)
  | .setTargetAngle _ _ =>
    let (result, s) := s.request .setTargetAngle () s
    (.done result, s)
  | .setPowerRelay _ =>
    let (result, s) := s.request .setPowerRelay () s
    (.done result, s)
  | .heartbeat =>
    let (result, s) := s.request .heartbeat () s
    (.done result, s)
  | .getAngleCalibrations =>
    let (result, s) := s.request .getAngleCalibrations s.table.ranges s
    (.ranges result, s)
  | .getCurrent =>
    let read := AnalogSensors.readCurrent s.sensors
    let (result, s) := s.request .getCurrent (read.1.get (is_some_read_current s.sensors))
      { s with sensors := read.2 }
    (.value result, s)
  | .getVoltage =>
    let read := AnalogSensors.readVoltage s.sensors
    let (result, s) := s.request .getVoltage (read.1.get (is_some_read_voltage s.sensors))
      { s with sensors := read.2 }
    (.value result, s)
  | .getSensor channel =>
    let read := AnalogSensors.readSensor channel s.sensors
    let (result, s) := s.request .getSensor (read.1.get (is_some_read_sensor s.sensors channel))
      { s with sensors := read.2 }
    (.value result, s)

def run : List Happening → Ideal → List (Returned Empty) × Ideal
  | [], s => ([], s)
  | .operation op :: later, s =>
    let (result, s) := s.perform host device op
    let (results, s) := run later s
    (result :: results, s)
  | _ :: later, s => run later s

end Steps

structure Holds (device : DeviceConfig) (d : EmulatedDevice Line.Queue) (s : Ideal) : Prop where
  config : d.config = device
  gate : s.connected = true → d.gate = .opened
  table : ServoBank.calibrations d.servos = s.table.ranges
  sensors : d.sensors = s.sensors

structure Matches (host : ControllerConfig) (device : DeviceConfig) (c : Controller Bench)
    (s : Ideal) : Prop where
  config : c.config = host
  received : c.link.rx = .empty
  accepted : c.state.isAccepted = s.connected
  ready : c.state ≠ .awaitingResponse
  calm : c.link.line.Calm
  holds : Holds device c.link.line.device s
  dispatched : c.link.line.dispatched = s.dispatched

theorem matches_initial (host : ControllerConfig) (device : DeviceConfig) :
    Matches host device (Controller.ofLine (Bench.ofConfig device) host) {} where
  config := rfl
  received := rfl
  accepted := rfl
  ready := State.noConfusion
  calm := ⟨rfl, rfl, rfl, rfl, List.not_mem_nil, List.not_mem_nil⟩
  holds := ⟨rfl, Bool.noConfusion, ServoBank.calibrations_apply_table .factory _, rfl⟩
  dispatched := rfl

section Request

variable (host : ControllerConfig) (device : DeviceConfig) (c : Controller Bench) (s : Ideal)

theorem exchange_matches (m : Matches host device c s) (connected : s.connected = true)
    (r : Request) (replyCode : UInt8) (command : Command) (reply : Packet)
    (d' : EmulatedDevice Line.Queue) (changed : Ideal)
    (reacted : c.link.line.device.react (r.packet c.link.nextSeq) = (.reply command reply, d'))
    (seq : reply.seq = c.link.nextSeq) (code : reply.cmd = replyCode)
    (holds : Holds device d' changed) (still : changed.connected = true) :
    ∃ c', c.exchange r replyCode = (.ok reply, c') ∧
      Matches host device c'
        { changed with dispatched := s.dispatched ++ [.handled command] } := by
  have sent := Link.send_packet_asked (r.packet c.link.nextSeq)
    { c.link with nextSeq := c.link.nextSeq + 1 } m.calm
  have awaited := Link.await_reply_answered (r.packet c.link.nextSeq) reply command d'
    (fun p => p.cmd == replyCode || p.cmd == Command.nack.code) c.replyBudget
    { c.link with nextSeq := c.link.nextSeq + 1 } m.calm m.received reacted
    (by rw [code, beq_self_eq_true, Bool.true_or])
  rw [seq] at awaited
  refine ⟨_, Controller.exchange_awaited r c replyCode (some reply) _ _
    (m.accepted.trans connected) sent awaited, ?_⟩
  exact {
    config := m.config
    received := m.received
    accepted := (m.accepted.trans connected).trans still.symm
    ready := m.ready
    calm := Bench.calm_answered command _ reply d' c.link.line m.calm
    holds := ⟨holds.config, holds.gate, holds.table, holds.sensors⟩
    dispatched := congrArg (fun log => log ++ [Dispatch.handled command]) m.dispatched }

theorem request_ack_matches (m : Matches host device c s) (r : Request) (other : r.command ≠ .hello)
    (d' : EmulatedDevice Line.Queue) (changed : Ideal)
    (executed : c.link.line.device.execute (r.packet c.link.nextSeq) r =
      (Device.acknowledged c.link.nextSeq r.command, d'))
    (holds : Holds device d' changed) (still : changed.connected = s.connected) :
    (c.requestAck r).1 = (s.request r.command () changed).1 ∧
      Matches host device (c.requestAck r).2 (s.request r.command () changed).2 := by
  by_cases connected : s.connected = true
  · have opened := m.holds.gate connected
    have reacted := Device.react_request r c.link.nextSeq c.link.line.device opened other
    obtain ⟨c', exchanged, matched⟩ := exchange_matches host device c s m connected r
      Command.ack.code r.command _ d' changed (reacted.trans executed) rfl rfl holds
      (still.trans connected)
    rw [Controller.request_ack_exchanged r c c.link.nextSeq r.command c' rfl exchanged, request,
      if_pos connected]
    exact ⟨rfl, matched⟩
  · have closed := m.accepted.trans (Bool.eq_false_iff.mpr connected)
    rw [Controller.request_ack_closed r c closed, request, if_neg connected]
    exact ⟨rfl, m⟩

theorem request_data_matches {α : Type} (m : Matches host device c s) (r : Request)
    (other : r.command ≠ .hello) (parse : Packet → Option α) (reply : Packet) (value : α)
    (d' : EmulatedDevice Line.Queue) (changed : Ideal)
    (executed : c.link.line.device.execute (r.packet c.link.nextSeq) r =
      (.reply r.command reply, d'))
    (seq : reply.seq = c.link.nextSeq) (code : reply.cmd = r.command.code)
    (data : r.command.code ≠ Command.nack.code) (parsed : parse reply = some value)
    (holds : Holds device d' changed) (still : changed.connected = s.connected) :
    (c.requestData r parse).1 = (s.request r.command value changed).1 ∧
      Matches host device (c.requestData r parse).2 (s.request r.command value changed).2 := by
  by_cases connected : s.connected = true
  · have opened := m.holds.gate connected
    have reacted := Device.react_request r c.link.nextSeq c.link.line.device opened other
    obtain ⟨c', exchanged, matched⟩ := exchange_matches host device c s m connected r
      r.command.code r.command reply d' changed (reacted.trans executed) seq code holds
      (still.trans connected)
    have nack : reply.cmd ≠ Command.nack.code := by rwa [code]
    rw [Controller.request_data_exchanged r c parse reply value c' exchanged nack parsed, request,
      if_pos connected]
    exact ⟨rfl, matched⟩
  · have closed := m.accepted.trans (Bool.eq_false_iff.mpr connected)
    rw [Controller.request_data_closed r c parse closed, request, if_neg connected]
    exact ⟨rfl, m⟩

theorem greeting_matches (m : Matches host device c s) (answer : Packet)
    (d' : EmulatedDevice Line.Queue) (connected : Bool)
    (reacted : c.link.line.device.react c.hello = (.reply .hello answer, d'))
    (seq : answer.seq = c.link.nextSeq) (holds : Holds device d' (s.greeted connected 1))
    (outcome : Outcome)
    (classified : Handshake.classify host.protocolVersion (some answer) = outcome)
    (accepted : (State.next .awaitingResponse outcome.event).isAccepted = connected)
    (answered : State.next .awaitingResponse outcome.event ≠ .awaitingResponse) :
    c.handshakeOnce.1 = .ok outcome ∧
      Matches host device c.handshakeOnce.2 (s.greeted connected 1) := by
  have sent := Link.send_packet_asked c.hello
    { c.link with rx := .empty, nextSeq := c.link.nextSeq + 1 } m.calm
  have awaited := Link.await_reply_answered c.hello answer .hello d' (fun _ => true) c.replyBudget
    { c.link with rx := .empty, nextSeq := c.link.nextSeq + 1 } m.calm rfl reacted rfl
  rw [seq] at awaited
  have state : c.prepared.state.next .helloSent = .awaitingResponse := by
    rw [Controller.prepared_idle c m.ready]
    rfl
  have greeted := Controller.handshake_once_answered c (some answer) _ _ sent awaited
  rw [state, m.config, classified] at greeted
  rw [greeted]
  refine ⟨rfl, ?_⟩
  exact {
    config := rfl
    received := rfl
    accepted := accepted
    ready := answered
    calm := Bench.calm_answered .hello _ answer d' c.link.line m.calm
    holds := ⟨holds.config, holds.gate, holds.table, holds.sensors⟩
    dispatched := congrArg (fun log => log ++ [Dispatch.handled .hello]) m.dispatched }

theorem handshake_once_matches (m : Matches host device c s) :
    c.handshakeOnce.1 = (s.handshakeOnce host device).1 ∧
      Matches host device c.handshakeOnce.2 (s.handshakeOnce host device).2 := by
  have config := m.holds.config
  have greets (d : EmulatedDevice Line.Queue) : d.react c.hello = d.reactHello c.hello := if_pos rfl
  unfold handshakeOnce
  by_cases same : host.protocolVersion = device.protocolVersion
  · have opens : Device.Opens c.link.line.device.config c.hello := by
      rw [config]
      exact ⟨rfl, Nat.le_refl 2, by rw [← same, ← m.config]; rfl⟩
    have reacted := (greets _).trans (Device.react_hello_opens c.hello c.link.line.device opens)
    rw [config] at reacted
    rw [if_pos same]
    exact greeting_matches host device c s m _ _ true reacted rfl
      ⟨rfl, fun _ => rfl, m.holds.table, m.holds.sensors⟩ (.accepted (ack device))
      (by rw [same]; exact Handshake.classify_ack _ _ _) rfl State.noConfusion
  · have refused : ¬ Device.Opens c.link.line.device.config c.hello := by
      rw [config]
      intro opens
      exact same (by rw [← m.config]; exact Option.some.inj opens.2.2)
    have reacted := (greets _).trans
      (Device.react_hello_refused c.hello c.link.line.device rfl refused)
    rw [if_neg same]
    exact greeting_matches host device c s m _ _ false reacted rfl
      ⟨config, Bool.noConfusion, m.holds.table, m.holds.sensors⟩ refusal
      (Handshake.classify_nack _ _ _) rfl State.noConfusion

theorem handshake_once_runs (m : Matches host device c s) (outcome : Outcome) (s' : Ideal)
    (ideal : s.handshakeOnce host device = (.ok outcome, s')) :
    ∃ c', c.handshakeOnce = (.ok outcome, c') ∧ Matches host device c' s' := by
  obtain ⟨result, matched⟩ := handshake_once_matches host device c s m
  rw [ideal] at result matched
  exact ⟨c.handshakeOnce.2, Prod.ext result rfl, matched⟩

theorem greeted_greeted (s : Ideal) (first second : Bool) (a b : Nat) :
    (s.greeted first a).greeted second b = s.greeted second (a + b) := by
  simp only [greeted, List.append_assoc, List.replicate_append_replicate]

theorem handshake_from_refused (other : host.protocolVersion ≠ device.protocolVersion)
    (left : Nat) (last : Outcome) (m : Matches host device c s) :
    (c.handshakeFrom last (left + 1)).1 =
        .error (.handshakeFailed (max host.attempts.toNat 1) refusal) ∧
      Matches host device (c.handshakeFrom last (left + 1)).2 (s.greeted false (left + 1)) := by
  -- Every try is refused, by induction on how many are left.
  induction left generalizing c s last with
  | zero =>
    obtain ⟨c', tried, matched⟩ := handshake_once_runs host device c s m refusal _ (if_neg other)
    rw [Controller.handshakeFrom, tried]
    refine ⟨?_, matched⟩
    simp only [refusal, Controller.handshakeFrom, Controller.attempts, matched.config]
  | succ left ih =>
    obtain ⟨c', tried, matched⟩ := handshake_once_runs host device c s m refusal _ (if_neg other)
    rw [Controller.handshakeFrom, tried]
    have rest := ih c' (s.greeted false 1) refusal matched
    rw [greeted_greeted, Nat.add_comm 1 (left + 1)] at rest
    exact rest

theorem handshake_matches (m : Matches host device c s) :
    c.handshake.1 = (s.handshake host device).1 ∧
      Matches host device c.handshake.2 (s.handshake host device).2 := by
  obtain ⟨left, attempts⟩ : ∃ left, max host.attempts.toNat 1 = left + 1 :=
    ⟨max host.attempts.toNat 1 - 1, by omega⟩
  have tries : c.attempts = left + 1 := by rw [← attempts, Controller.attempts, m.config]
  unfold Controller.handshake handshake
  rw [tries]
  by_cases same : host.protocolVersion = device.protocolVersion
  · obtain ⟨c', tried, matched⟩ :=
      handshake_once_runs host device c s m (.accepted (ack device)) _ (if_pos same)
    rw [if_pos same, Controller.handshakeFrom, tried]
    exact ⟨rfl, matched⟩
  · rw [if_neg same]
    have refused := handshake_from_refused host device c s same left .timedOut m
    rw [attempts] at refused
    rwa [attempts]

theorem reading_get (seq : UInt16) (command : Command) (value : Option Single)
    (there : value.isSome = true) :
    Device.reading seq command value =
      .reply command (Reply.single seq command (value.get there)) := by
  cases value with
  | none => cases there
  | some value => rfl

theorem reading_matches (m : Matches host device c s) (r : Request) (other : r.command ≠ .hello)
    (data : r.command.code ≠ Command.nack.code) (read : Option Single × EmulatedSensors)
    (there : read.1.isSome = true)
    (executed : c.link.line.device.execute (r.packet c.link.nextSeq) r =
      (Device.reading c.link.nextSeq r.command read.1,
        { c.link.line.device with sensors := read.2 })) :
    (c.requestData r Reply.single?).1 =
        (s.request r.command (read.1.get there) { s with sensors := read.2 }).1 ∧
      Matches host device (c.requestData r Reply.single?).2
        (s.request r.command (read.1.get there) { s with sensors := read.2 }).2 := by
  rw [reading_get _ _ _ there] at executed
  exact request_data_matches host device c s m r other Reply.single? _ _ _ _ executed rfl rfl data
    (Reply.single_single _ _ _) ⟨m.holds.config, m.holds.gate, m.holds.table, rfl⟩ rfl

theorem perform_matches (m : Matches host device c s) (op : Operation) :
    (c.perform op).1 = (s.perform host device op).1 ∧
      Matches host device (c.perform op).2 (s.perform host device op).2 := by
  have ⟨config, gate, table, sensors⟩ := m.holds
  cases op with
  | openSession =>
    exact ⟨rfl, m.config, rfl, rfl, State.noConfusion, m.calm,
      ⟨config, Bool.noConfusion, table, sensors⟩, m.dispatched⟩
  | closeSession =>
    exact ⟨rfl, m.config, m.received, rfl, State.noConfusion, m.calm,
      ⟨config, Bool.noConfusion, table, sensors⟩, m.dispatched⟩
  | handshake =>
    obtain ⟨result, matched⟩ := handshake_matches host device c s m
    exact ⟨congrArg Returned.device result, matched⟩
  | handshakeOnce =>
    obtain ⟨result, matched⟩ := handshake_once_matches host device c s m
    exact ⟨congrArg Returned.outcome result, matched⟩
  | setAngleCalibrations given =>
    obtain ⟨result, matched⟩ := request_ack_matches host device c s m (.setAngleCalibrations given)
      (show Command.setAngleCalibrations ≠ .hello by decide) _ { s with table := given } rfl
      ⟨config, gate, ServoBank.calibrations_apply_table given _, sensors⟩ rfl
    exact ⟨congrArg Returned.done result, matched⟩
  | setTargetAngle channel angle =>
    have executed (p : Packet) (d : EmulatedDevice Line.Queue) :
        d.execute p (.setTargetAngle channel.raw angle) =
          (Device.acknowledged p.seq .setTargetAngle,
            { d with servos := ServoBank.setAngle channel (Single.ofWord angle) d.servos }) := by
      simp only [Device.execute, Channel.of_index_raw, Request.command]
    obtain ⟨result, matched⟩ := request_ack_matches host device c s m
      (.setTargetAngle channel.raw angle) (show Command.setTargetAngle ≠ .hello by decide) _ s
      (executed _ _)
      ⟨config, gate, (ServoBank.calibrations_set_angle _ _ _).trans table, sensors⟩ rfl
    exact ⟨congrArg Returned.done result, matched⟩
  | setPowerRelay on =>
    have executed (p : Packet) (d : EmulatedDevice Line.Queue) :
        d.execute p (.setPowerRelay (if on then 1 else 0)) =
          (Device.acknowledged p.seq .setPowerRelay,
            { d with relay := PowerRelay.setPower on d.relay }) := by
      cases on <;> rfl
    obtain ⟨result, matched⟩ := request_ack_matches host device c s m
      (.setPowerRelay (if on then 1 else 0)) (show Command.setPowerRelay ≠ .hello by decide) _ s
      (executed _ _) ⟨config, gate, table, sensors⟩ rfl
    exact ⟨congrArg Returned.done result, matched⟩
  | heartbeat =>
    obtain ⟨result, matched⟩ := request_ack_matches host device c s m .heartbeat (by decide) _ s rfl
      ⟨config, gate, table, sensors⟩ rfl
    exact ⟨congrArg Returned.done result, matched⟩
  | getAngleCalibrations =>
    obtain ⟨result, matched⟩ := request_data_matches host device c s m .getAngleCalibrations
      (by decide) Reply.calibrations? _ s.table.ranges _ s rfl rfl rfl (by decide)
      (by rw [Reply.calibrations_calibrations, table]) ⟨config, gate, table, sensors⟩ rfl
    exact ⟨congrArg Returned.ranges result, matched⟩
  | getCurrent =>
    obtain ⟨result, matched⟩ := reading_matches host device c s m .getCurrent (by decide)
      (by decide) (AnalogSensors.readCurrent s.sensors) (is_some_read_current s.sensors)
      (by rw [← sensors]; rfl)
    exact ⟨congrArg Returned.value result, matched⟩
  | getVoltage =>
    obtain ⟨result, matched⟩ := reading_matches host device c s m .getVoltage (by decide)
      (by decide) (AnalogSensors.readVoltage s.sensors) (is_some_read_voltage s.sensors)
      (by rw [← sensors]; rfl)
    exact ⟨congrArg Returned.value result, matched⟩
  | getSensor channel =>
    obtain ⟨result, matched⟩ := reading_matches host device c s m (.getSensor channel)
      (show Command.getSensor ≠ .hello by decide)
      (show Command.getSensor.code ≠ Command.nack.code by decide)
      (AnalogSensors.readSensor channel s.sensors)
      (is_some_read_sensor s.sensors channel) (by rw [← sensors]; rfl)
    exact ⟨congrArg Returned.value result, matched⟩

end Request

section Run

variable (host : ControllerConfig) (device : DeviceConfig)

theorem noise_to_device_matches (c : Controller Bench) (s : Ideal) (m : Matches host device c s)
    (noise : Bytes) (quiet : Frame.stx ∉ noise) :
    Matches host device { c with link.line := c.link.line.enterDevice noise } s := by
  have calm := m.calm
  have together : Frame.stx ∉ c.link.line.atDevice ++ noise := by
    rw [List.mem_append]
    exact not_or.mpr ⟨calm.deviceQuiet, quiet⟩
  exact ⟨m.config, m.received, m.accepted, m.ready,
    ⟨calm.toDevice, calm.fromDevice, calm.brought, calm.received, together, calm.hostQuiet⟩,
    ⟨m.holds.config, m.holds.gate, m.holds.table, m.holds.sensors⟩, m.dispatched⟩

theorem noise_to_host_matches (c : Controller Bench) (s : Ideal) (m : Matches host device c s)
    (noise : Bytes) (quiet : Frame.stx ∉ noise) :
    Matches host device { c with link.line.toHost := c.link.line.toHost ++ noise } s := by
  have calm := m.calm
  have together : Frame.stx ∉ c.link.line.toHost ++ noise := by
    rw [List.mem_append]
    exact not_or.mpr ⟨calm.hostQuiet, quiet⟩
  exact ⟨m.config, m.received, m.accepted, m.ready,
    ⟨calm.toDevice, calm.fromDevice, calm.brought, calm.received, calm.deviceQuiet, together⟩,
    m.holds, m.dispatched⟩

theorem run_matches (happenings : List Happening) (quiet : ∀ h ∈ happenings, h.Quiet)
    (c : Controller Bench) (s : Ideal) (m : Matches host device c s) :
    (runAll happenings c).1 = (Ideal.run host device happenings s).1 ∧
      Matches host device (runAll happenings c).2 (Ideal.run host device happenings s).2 := by
  induction happenings generalizing c s with
  | nil => exact ⟨rfl, m⟩
  | cons first later ih =>
    have quietLater : ∀ h ∈ later, h.Quiet :=
      fun h member => quiet h (List.mem_cons_of_mem _ member)
    have quietFirst := quiet first List.mem_cons_self
    cases first with
    | operation op =>
      obtain ⟨result, matched⟩ := perform_matches host device c s m op
      obtain ⟨results, final⟩ := ih quietLater _ _ matched
      exact ⟨congr (congrArg List.cons result) results, final⟩
    | noiseToDevice noise =>
      exact ih quietLater _ _ (noise_to_device_matches host device c s m noise quietFirst)
    | noiseToHost noise =>
      exact ih quietLater _ _ (noise_to_host_matches host device c s m noise quietFirst)

end Run

end Ideal
end LegLink
