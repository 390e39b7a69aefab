import LegLink.Proofs.HostOperations
import LegLink.Proofs.Lossy.Prompt
import LegLink.Proofs.Lossy.Reading

/- Requests that timed out may still be carried out and their replies may come during any later
operation; the sequence numbers tell those replies from the one that is waited for. -/

set_option autoImplicit false

namespace LegLink

open Handshake (Outcome)

namespace Controller

variable {β γ δ : Type} [ServoBank β] [AnalogSensors γ] [PowerRelay δ]

section State

variable (c : Controller (WatchedLine β γ δ))

def peer : Device Line.Queue (WatchedServos β) (WatchedInputs γ) δ := c.link.line.traffic.device

def issued : List Packet := c.link.line.traffic.issued

def Settled (config : DeviceConfig) : Prop := c.link.Between config [] [] c.issued

end State

theorem settled_of_between (config : DeviceConfig) (earlier : List (Input × Option Single))
    (held sent : List Packet) (c : Controller (WatchedLine β γ δ))
    (between : c.link.Between config earlier held sent) : c.Settled config := by
  unfold Settled issued
  rw [between.issued]
  exact Link.between_forget config earlier sent c.link held [] List.nil_prefix between

section Exchange

variable (config : DeviceConfig) (c : Controller (WatchedLine β γ δ))

theorem answered_reply (p reply : Packet) (earlier : List (Input × Option Single))
    (sent : List Packet)
    (between : c.link.Between config earlier (some reply).toList (sent ++ [p]))
    (echo : reply.seq = p.seq) (few : c.issued.length < 65536) :
    Traffic.Answered earlier p reply c.peer := by
  unfold issued at few
  rw [between.issued] at few
  exact Link.answered_latest config sent p c.link earlier reply between echo few

theorem exchange_reflects (r : Request) (replyCode : UInt8) (settled : c.Settled config) :
    (c.exchange r replyCode).2.Settled config ∧
      ∀ reply, (c.exchange r replyCode).1 = .ok reply →
        (c.exchange r replyCode).2.issued.length < 65536 →
        Traffic.Answered c.peer.sensors.samples (r.packet c.link.nextSeq) reply
          (c.exchange r replyCode).2.peer := by
  by_cases accepted : c.state.isAccepted = true
  · obtain ⟨l, sent, between⟩ := Link.send_packet_between config c.issued
      (r.packet c.link.nextSeq) c.link settled rfl
    obtain ⟨reply, l', awaited, kept, echo⟩ := Link.await_reply_between config _ _ c.link.nextSeq
      (fun p => p.cmd == replyCode || p.cmd == Command.nack.code) c.replyBudget l between
    rw [exchange_awaited r c replyCode reply l l' accepted sent awaited]
    refine ⟨settled_of_between config _ _ _ { c with link := l' } kept, ?_⟩
    intro answer got few
    cases reply with
    | none => cases got
    | some reply =>
      cases got
      exact answered_reply config { c with link := l' } _ answer _ _ kept (echo answer rfl) few
  · rw [exchange_closed r c replyCode (Bool.eq_false_iff.mpr accepted)]
    exact ⟨settled, fun _ failed => nomatch failed⟩

theorem request_ack_reflects (r : Request) (settled : c.Settled config) :
    (c.requestAck r).2.Settled config ∧
      ((c.requestAck r).1 = .ok () → (c.requestAck r).2.issued.length < 65536 →
        ∃ reply, Traffic.Answered c.peer.sensors.samples (r.packet c.link.nextSeq) reply
          (c.requestAck r).2.peer) := by
  obtain ⟨after, answered⟩ := exchange_reflects config c r Command.ack.code settled
  unfold requestAck
  rcases exchanged : c.exchange r Command.ack.code with ⟨result, c'⟩
  rw [exchanged] at after answered
  cases result with
  | error e => exact ⟨after, fun failed => nomatch failed⟩
  | ok reply =>
    exact ⟨after, fun _ few => ⟨reply, answered reply rfl few⟩⟩

theorem request_data_reflects {α : Type} (r : Request) (parse : Packet → Option α)
    (settled : c.Settled config) :
    (c.requestData r parse).2.Settled config ∧
      ∀ value, (c.requestData r parse).1 = .ok value →
        (c.requestData r parse).2.issued.length < 65536 →
        ∃ reply, parse reply = some value ∧
          Traffic.Answered c.peer.sensors.samples (r.packet c.link.nextSeq) reply
            (c.requestData r parse).2.peer := by
  obtain ⟨after, answered⟩ := exchange_reflects config c r r.command.code settled
  unfold requestData
  rcases exchanged : c.exchange r r.command.code with ⟨result, c'⟩
  rw [exchanged] at after answered
  cases result with
  | error e => exact ⟨after, fun _ failed => nomatch failed⟩
  | ok reply =>
    refine ⟨after, fun value got few => ⟨reply, ?_, answered reply rfl few⟩⟩
    change readData r.command.code parse reply = .ok value at got
    unfold readData at got
    split at got
    · cases got
    · split at got
      · rename_i found parsed
        cases got
        exact parsed
      · cases got

theorem handshake_once_reflects (settled : c.Settled config) :
    c.handshakeOnce.2.Settled config ∧
      ∀ ack, c.handshakeOnce.1 = .ok (.accepted ack) →
        c.handshakeOnce.2.issued.length < 65536 →
        ∃ reply, Handshake.classify c.config.protocolVersion (some reply) = .accepted ack ∧
          Traffic.Answered c.peer.sensors.samples c.hello reply c.handshakeOnce.2.peer := by
  have start : { c.link with rx := .empty }.Between config [] [] c.issued := by
    rw [← settled.received]
    exact settled
  obtain ⟨l, sent, between⟩ := Link.send_packet_between config c.issued c.hello _ start rfl
  obtain ⟨reply, l', awaited, kept, echo⟩ := Link.await_reply_between config _ _ c.link.nextSeq
    (fun _ => true) c.replyBudget l between
  rw [handshake_once_answered c reply l l' sent awaited]
  refine ⟨settled_of_between config _ _ _ _ kept, ?_⟩
  intro ack accepted few
  cases reply with
  | none => cases accepted
  | some reply =>
    exact ⟨reply, Except.ok.inj accepted,
      answered_reply config _ _ reply _ _ kept (echo reply rfl) few⟩

end Exchange

end Controller

namespace Traffic

variable {β γ δ : Type} [ServoBank β] [AnalogSensors γ] [PowerRelay δ]
variable (earlier : List (Input × Option Single)) (reply : Packet) (seq : UInt16)
variable (d : Device Line.Queue (WatchedServos β) (WatchedInputs γ) δ)

theorem answered_executed (r : Request) (other : r.command ≠ .hello)
    (answered : Answered earlier (r.packet seq) reply d) :
    ∃ (before : Device Line.Queue (WatchedServos β) (WatchedInputs γ) δ) (command : Command)
      (after : Device Line.Queue (WatchedServos β) (WatchedInputs γ) δ),
      before.execute (r.packet seq) r = (.reply command reply, after) ∧ d.Alike after ∧
        earlier <+: before.sensors.samples := by
  obtain ⟨before, command, after, reacted, alike, since⟩ := answered
  have executed := Device.execute_of_react r seq command reply before after other reacted
  exact ⟨before, command, after, executed, alike, since⟩

theorem answered_relay [LawfulRelay δ] (on : Bool)
    (answered :
      Answered earlier ((Request.setPowerRelay (if on then 1 else 0)).packet seq) reply d) :
    PowerRelay.isPowered d.relay = on := by
  obtain ⟨before, command, after, executed, alike, _⟩ := answered_executed earlier reply seq d
    (.setPowerRelay (if on then 1 else 0)) (show Command.setPowerRelay ≠ .hello by decide) answered
  have relay : after.relay = PowerRelay.setPower on before.relay := by
    cases on <;> cases executed <;> rfl
  rw [alike.relay, relay]
  exact LawfulRelay.is_powered_set_power on before.relay

theorem answered_calibrated [LawfulServoBank β] (table : CalibrationTable)
    (answered : Answered earlier ((Request.setAngleCalibrations table).packet seq) reply d)
    (c : Channel) : ServoBank.calibration c d.servos.bank = (table.get c).range := by
  obtain ⟨before, command, after, executed, alike, _⟩ := answered_executed earlier reply seq d
    (.setAngleCalibrations table) (show Command.setAngleCalibrations ≠ .hello by decide) answered
  cases executed
  change ServoBank.calibration c d.servos = _
  rw [alike.servos]
  exact ServoBank.calibration_apply_table table before.servos c

theorem answered_moved (c : Channel) (angle : UInt16)
    (answered : Answered earlier ((Request.setTargetAngle c.raw angle).packet seq) reply d) :
    d.servos.lastMove? c = some (Single.ofWord angle) := by
  obtain ⟨before, command, after, executed, alike, _⟩ := answered_executed earlier reply seq d
    (.setTargetAngle c.raw angle) (show Command.setTargetAngle ≠ .hello by decide) answered
  simp only [Device.execute, Channel.of_index_raw] at executed
  cases executed
  rw [alike.servos]
  exact before.servos.last_move_set_angle c (Single.ofWord angle)

theorem answered_ranges (ranges : PerChannel PulseRange)
    (parsed : Reply.calibrations? reply = some ranges)
    (answered : Answered earlier (Request.getAngleCalibrations.packet seq) reply d) :
    ranges = ServoBank.calibrations d.servos.bank := by
  obtain ⟨before, command, after, executed, alike, _⟩ := answered_executed earlier reply seq d
    .getAngleCalibrations (show Command.getAngleCalibrations ≠ .hello by decide) answered
  cases executed
  rw [Reply.calibrations_calibrations] at parsed
  change ranges = ServoBank.calibrations d.servos
  rw [alike.servos]
  exact (Option.some.inj parsed).symm

def Sampled (input : Input) (value : Single) : Prop :=
  ∃ between, d.sensors.samples = earlier ++ between ++ [(input, some value)]

theorem answered_sampled (r : Request) (other : r.command ≠ .hello) (input : Input)
    (value : Single) (parsed : Reply.single? reply = some value)
    (read : γ → Option Single × γ)
    (reads : ∀ before : Device Line.Queue (WatchedServos β) (WatchedInputs γ) δ,
      before.execute (r.packet seq) r =
        (Device.reading seq r.command (read before.sensors.inputs).1,
          { before with sensors := (before.sensors.note input (read before.sensors.inputs)).2 }))
    (answered : Answered earlier (r.packet seq) reply d) : Sampled earlier d input value := by
  obtain ⟨before, command, after, executed, alike, since⟩ :=
    answered_executed earlier reply seq d r other answered
  rw [reads before] at executed
  cases given : (read before.sensors.inputs).1 with
  | none =>
    rw [given] at executed
    cases executed
  | some found =>
    rw [given] at executed
    cases executed
    rw [Reply.single_single] at parsed
    cases parsed
    obtain ⟨between, whole⟩ := since
    refine ⟨between, ?_⟩
    rw [alike.sensors, whole, ← given]
    rfl

def Greeted (config : DeviceConfig) (ack : HelloAck) : Prop :=
  d.gate = .opened ∧ ack = ⟨config.protocolVersion, statusOk, config.deviceId⟩

theorem answered_greeted (config : DeviceConfig) (kept : d.config = config) (p : Packet)
    (hello : p.cmd = Command.hello.code) (version : UInt8) (ack : HelloAck)
    (accepted : Handshake.classify version (some reply) = .accepted ack)
    (answered : Answered earlier p reply d) : Greeted d config ack := by
  obtain ⟨before, command, after, reacted, alike, _⟩ := answered
  have same : before.config = config := by
    rw [← kept, alike.config, ← (Device.gate_react p before).1, reacted]
  rw [Device.react, if_pos hello] at reacted
  by_cases opens : Device.Opens before.config p
  · rw [Device.react_hello_opens p before opens] at reacted
    cases reacted
    rw [same] at accepted
    exact ⟨alike.gate, Handshake.body_of_accepted version _ ack p.seq accepted⟩
  · rw [Device.react_hello_refused p before hello opens] at reacted
    cases reacted
    cases accepted

end Traffic

namespace Controller

variable {β γ δ : Type} [ServoBank β] [AnalogSensors γ] [PowerRelay δ]

section Handshake

variable (config : DeviceConfig) (c : Controller (WatchedLine β γ δ))

theorem handshake_once_greeted (settled : c.Settled config) (ack : HelloAck)
    (accepted : c.handshakeOnce.1 = .ok (.accepted ack))
    (few : c.handshakeOnce.2.issued.length < 65536) :
    Traffic.Greeted c.handshakeOnce.2.peer config ack := by
  obtain ⟨after, answered⟩ := handshake_once_reflects config c settled
  obtain ⟨reply, classified, answered⟩ := answered ack accepted few
  exact Traffic.answered_greeted _ reply c.handshakeOnce.2.peer config after.safe.config c.hello rfl
    c.config.protocolVersion ack classified answered

theorem handshake_from_greeted (left : Nat) (last : Outcome) (settled : c.Settled config) :
    (c.handshakeFrom last left).2.Settled config ∧
      ∀ ack, (c.handshakeFrom last left).1 = .ok ack →
        (c.handshakeFrom last left).2.issued.length < 65536 →
        Traffic.Greeted (c.handshakeFrom last left).2.peer config ack := by
  -- By induction on the tries that are left; the try that is accepted is the last.
  induction left generalizing c last with
  | zero => exact ⟨settled, fun _ failed => nomatch failed⟩
  | succ left ih =>
    obtain ⟨after, _⟩ := handshake_once_reflects config c settled
    have greeted := handshake_once_greeted config c settled
    unfold handshakeFrom
    rcases tried : c.handshakeOnce with ⟨result, c'⟩
    rw [tried] at after greeted
    cases result with
    | error e => exact ⟨after, fun _ failed => nomatch failed⟩
    | ok outcome =>
      cases outcome with
      | accepted ack =>
        refine ⟨after, fun found same few => ?_⟩
        rw [← Except.ok.inj same]
        exact greeted ack rfl few
      | rejected reason => exact ih c' (.rejected reason) after
      | timedOut => exact ih c' .timedOut after

end Handshake

def Reflects (config : DeviceConfig) (earlier : List (Input × Option Single))
    (d : Device Line.Queue (WatchedServos β) (WatchedInputs γ) δ) :
    Operation → Returned Empty → Prop
  | .setPowerRelay on, .done result => result = .ok () → PowerRelay.isPowered d.relay = on
  | .setAngleCalibrations table, .done result =>
    result = .ok () → ∀ c, ServoBank.calibration c d.servos.bank = (table.get c).range
  | .setTargetAngle c angle, .done result =>
    result = .ok () → d.servos.lastMove? c = some (Single.ofWord angle)
  | .getAngleCalibrations, .ranges result =>
    ∀ ranges, result = .ok ranges → ranges = ServoBank.calibrations d.servos.bank
  | .getCurrent, .value result =>
    ∀ value, result = .ok value → Traffic.Sampled earlier d .current value
  | .getVoltage, .value result =>
    ∀ value, result = .ok value → Traffic.Sampled earlier d .voltage value
  | .getSensor channel, .value result =>
    ∀ value, result = .ok value → Traffic.Sampled earlier d (.sensor channel) value
  | .handshake, .device result => ∀ ack, result = .ok ack → Traffic.Greeted d config ack
  | .handshakeOnce, .outcome result =>
    ∀ ack, result = .ok (.accepted ack) → Traffic.Greeted d config ack
  | _, _ => True

section Perform

variable (config : DeviceConfig) (c : Controller (WatchedLine β γ δ))

theorem get_sample_reflects (r : Request) (other : r.command ≠ .hello) (input : Input)
    (read : γ → Option Single × γ)
    (reads : ∀ (p : Packet) (d : Device Line.Queue (WatchedServos β) (WatchedInputs γ) δ),
      d.execute p r = (Device.reading p.seq r.command (read d.sensors.inputs).1,
        { d with sensors := (d.sensors.note input (read d.sensors.inputs)).2 }))
    (settled : c.Settled config) :
    (c.requestData r Reply.single?).2.Settled config ∧
      ((c.requestData r Reply.single?).2.issued.length < 65536 →
        ∀ value, (c.requestData r Reply.single?).1 = .ok value →
          Traffic.Sampled c.peer.sensors.samples (c.requestData r Reply.single?).2.peer input
            value) := by
  obtain ⟨after, answered⟩ := request_data_reflects config c r Reply.single? settled
  refine ⟨after, fun few value got => ?_⟩
  obtain ⟨reply, parsed, answered⟩ := answered value got few
  exact Traffic.answered_sampled _ reply _ _ r other input value parsed read (reads _) answered

variable [LawfulServoBank β] [LawfulRelay δ]

theorem perform_reflects (op : Operation) (settled : c.Settled config) :
    (c.perform op).2.Settled config ∧ ((c.perform op).2.issued.length < 65536 →
      Reflects config c.peer.sensors.samples (c.perform op).2.peer op (c.perform op).1) := by
  cases op with
  | openSession =>
    exact ⟨⟨rfl, settled.idle, settled.safe, rfl, settled.nextSeq, settled.numbered⟩,
      fun _ => trivial⟩
  | closeSession =>
    exact ⟨⟨settled.received, settled.idle, settled.safe, rfl, settled.nextSeq, settled.numbered⟩,
      fun _ => trivial⟩
  | handshake =>
    obtain ⟨after, greeted⟩ := handshake_from_greeted config c c.attempts .timedOut settled
    exact ⟨after, fun few ack accepted => greeted ack accepted few⟩
  | handshakeOnce =>
    obtain ⟨after, _⟩ := handshake_once_reflects config c settled
    exact ⟨after, fun few ack accepted => handshake_once_greeted config c settled ack accepted few⟩
  | heartbeat =>
    obtain ⟨after, _⟩ := request_ack_reflects config c .heartbeat settled
    exact ⟨after, fun _ => trivial⟩
  | setPowerRelay on =>
    obtain ⟨after, answered⟩ :=
      request_ack_reflects config c (.setPowerRelay (if on then 1 else 0)) settled
    refine ⟨after, fun few done => ?_⟩
    obtain ⟨reply, answered⟩ := answered done few
    exact Traffic.answered_relay _ reply _ _ on answered
  | setAngleCalibrations table =>
    obtain ⟨after, answered⟩ :=
      request_ack_reflects config c (.setAngleCalibrations table) settled
    refine ⟨after, fun few done => ?_⟩
    obtain ⟨reply, answered⟩ := answered done few
    exact Traffic.answered_calibrated _ reply _ _ table answered
  | setTargetAngle channel angle =>
    obtain ⟨after, answered⟩ :=
      request_ack_reflects config c (.setTargetAngle channel.raw angle) settled
    refine ⟨after, fun few done => ?_⟩
    obtain ⟨reply, answered⟩ := answered done few
    exact Traffic.answered_moved _ reply _ _ channel angle answered
  | getAngleCalibrations =>
    obtain ⟨after, answered⟩ :=
      request_data_reflects config c .getAngleCalibrations Reply.calibrations? settled
    refine ⟨after, fun few ranges got => ?_⟩
    obtain ⟨reply, parsed, answered⟩ := answered ranges got few
    exact Traffic.answered_ranges _ reply _ _ ranges parsed answered
  | getCurrent =>
    exact get_sample_reflects config c .getCurrent (by decide) .current AnalogSensors.readCurrent
      (fun _ _ => rfl) settled
  | getVoltage =>
    exact get_sample_reflects config c .getVoltage (by decide) .voltage AnalogSensors.readVoltage
      (fun _ _ => rfl) settled
  | getSensor channel =>
    exact get_sample_reflects config c (.getSensor channel)
      (show Command.getSensor ≠ .hello by decide) (.sensor channel)
      (AnalogSensors.readSensor channel) (fun _ _ => rfl) settled

end Perform

end Controller

inductive LossyStep where
  | operation (op : Operation) (plan : List LineEvent)
  | event (event : LineEvent)

namespace Controller

variable {β γ δ : Type} [ServoBank β] [AnalogSensors γ] [PowerRelay δ]

def planned (c : Controller (WatchedLine β γ δ)) (plan : List LineEvent) :
    Controller (WatchedLine β γ δ) :=
  { c with link.line.plan := plan }

def step (c : Controller (WatchedLine β γ δ)) : LossyStep → Controller (WatchedLine β γ δ)
  | .operation op plan => ((c.planned plan).perform op).2
  | .event event => { c with link.line.traffic := c.link.line.traffic.happen event }

section Run

variable (host : ControllerConfig) (config : DeviceConfig) (servos : β) (sensors : γ) (relay : δ)

def onLossyLine : Controller (WatchedLine β γ δ) :=
  Controller.ofLine { traffic := { device := {
    link := { line := {} }
    servos := { bank := servos }
    sensors := { inputs := sensors }
    relay
    config } } } host

theorem settled_initial : (onLossyLine host config servos sensors relay).Settled config where
  received := rfl
  idle := rfl
  safe := ⟨⟨rfl, rfl, rfl⟩, rfl, List.Sublist.refl _, fun _ none => (nomatch none),
    List.prefix_refl _⟩
  issued := rfl
  nextSeq := rfl
  numbered := by
    intro i p there
    cases there

theorem settled_planned (c : Controller (WatchedLine β γ δ)) (plan : List LineEvent)
    (settled : c.Settled config) : (c.planned plan).Settled config :=
  ⟨settled.received, settled.idle, settled.safe, rfl, settled.nextSeq, settled.numbered⟩

variable [LawfulServoBank β] [LawfulRelay δ]

theorem settled_step (c : Controller (WatchedLine β γ δ)) (step : LossyStep)
    (settled : c.Settled config) : (c.step step).Settled config := by
  cases step with
  | operation op plan =>
    exact (perform_reflects config (c.planned plan) op (settled_planned config c plan settled)).1
  | event event =>
    obtain ⟨received, idle, safe, _, nextSeq, numbered⟩ := settled
    obtain ⟨after, issued⟩ := c.link.line.traffic.safe_happen config [] [] safe event
    refine ⟨received, idle, after, rfl, ?_, ?_⟩
    · change c.link.nextSeq = UInt16.ofNat (c.link.line.traffic.happen event).issued.length
      rw [issued]
      exact nextSeq
    · intro i p there
      change (c.link.line.traffic.happen event).issued[i]? = some p at there
      rw [issued] at there
      exact numbered i p there

theorem settled_run (steps : List LossyStep) (c : Controller (WatchedLine β γ δ))
    (settled : c.Settled config) : (steps.foldl step c).Settled config := by
  induction steps generalizing c with
  | nil => exact settled
  | cons next later ih => exact ih (c.step next) (settled_step config c next settled)

/-- Over any run of a new host with a new device, up to any operation of it. -/
theorem reflects_device (steps : List LossyStep) (op : Operation) (plan : List LineEvent) :
    let before := (steps.foldl step (onLossyLine host config servos sensors relay)).planned plan
    let after := (before.perform op).2
    after.link.nextSeq = UInt16.ofNat after.issued.length ∧
      (after.issued.length < 65536 →
        Reflects config before.peer.sensors.samples after.peer op (before.perform op).1) := by
  intro before after
  have settled := settled_run config steps _ (settled_initial host config servos sensors relay)
  obtain ⟨done, reflects⟩ :=
    perform_reflects config before op (settled_planned config _ plan settled)
  exact ⟨done.nextSeq, reflects⟩

end Run

theorem reflects_device_prompt :
    let start := onLossyLine {} {} ({} : ServoLog) ({} : SensorLog) ({} : RelayLog)
    let greeted := start.step (.operation .handshakeOnce LineEvent.prompt)
    let after := (greeted.planned LineEvent.prompt).perform (.setPowerRelay true)
    after.1 = .done (.ok ()) ∧ PowerRelay.isPowered after.2.peer.relay = true := by
  intro start greeted after
  obtain ⟨l, l', sent, awaited, idle, alike, issued, nextSeq⟩ := Link.exchange_prompt
    { (start.planned LineEvent.prompt).link with rx := .empty, nextSeq := 1 }
    ⟨rfl, rfl, rfl, rfl, rfl, rfl, rfl⟩ rfl start.hello (HelloAck.packet ⟨1, statusOk, 1⟩ 0) .hello
    _ rfl (fun _ => true) rfl 10
  have accepted := handshake_once_answered (start.planned LineEvent.prompt) _ l l' sent awaited
  have ready : greeted = { link := l', config := {}, state := .accepted ⟨1, statusOk, 1⟩ } :=
    congrArg Prod.snd accepted
  have reacted := Device.react_request (.setPowerRelay 1) l'.nextSeq l'.line.traffic.device
    alike.gate (show Command.setPowerRelay ≠ .hello by decide)
  obtain ⟨m, m', sent, awaited, _, _, issued', _⟩ := Link.exchange_prompt
    { l' with nextSeq := l'.nextSeq + 1, line.plan := LineEvent.prompt }
    ⟨idle.received, idle.arriving, idle.toDevice, idle.toHost, idle.clean⟩ rfl _ _ _ _ reacted
    (fun p => p.cmd == Command.ack.code || p.cmd == Command.nack.code) rfl 10
  have exchanged := exchange_awaited (.setPowerRelay 1) (greeted.planned LineEvent.prompt)
    Command.ack.code (some (Reply.commandAck l'.nextSeq .setPowerRelay statusOk)) m m'
    (by rw [ready]; rfl) (by rw [ready]; exact sent) (by rw [ready]; exact awaited)
  have done := request_ack_exchanged _ _ _ _ _ rfl exchanged
  have few : after.2.issued.length < 65536 := by
    change (requestAck (.setPowerRelay 1) _).2.issued.length < 65536
    rw [done]
    change m'.line.traffic.issued.length < 65536
    rw [issued', List.length_append]
    change l'.line.traffic.issued.length + 1 < 65536
    rw [issued]
    decide
  have succeeded : after.1 = .done (.ok ()) := by
    change Returned.done (requestAck (.setPowerRelay 1) _).1 = _
    rw [done]
  obtain ⟨_, reflects⟩ := reflects_device {} {} ({} : ServoLog) ({} : SensorLog) ({} : RelayLog)
    [.operation .handshakeOnce LineEvent.prompt] (.setPowerRelay true) LineEvent.prompt
  exact ⟨succeeded, reflects few (congrArg Prod.fst done)⟩

end Controller
end LegLink
