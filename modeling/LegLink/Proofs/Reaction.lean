import LegLink.Device
import LegLink.Proofs.Codec

set_option autoImplicit false

namespace LegLink.Device

def Opens (config : DeviceConfig) (p : Packet) : Prop :=
  p.cmd = Command.hello.code ∧ 2 ≤ p.payload.length ∧
    p.payload.bytes.head? = some config.protocolVersion

instance (config : DeviceConfig) (p : Packet) : Decidable (Opens config p) :=
  inferInstanceAs (Decidable (_ ∧ _ ∧ _))

def refusal (p : Packet) : Packet :=
  Reply.nack p.seq (if 2 ≤ p.payload.length then errorVersionMismatch else errorTimeout)

variable {σ ε β γ δ : Type}

theorem respond_opens (config : DeviceConfig) (p : Packet) (opens : Opens config p) :
    Handshake.respond p.payload.bytes config.protocolVersion config.deviceId =
      .ack ⟨config.protocolVersion, statusOk, config.deviceId⟩ := by
  obtain ⟨_, full, version⟩ := opens
  unfold Payload.length at full
  rcases bytes : p.payload.bytes with - | ⟨first, - | ⟨second, rest⟩⟩
  · simp [bytes] at full
  · simp [bytes] at full
  · rw [bytes] at version
    simp only [List.head?_cons, Option.some.injEq] at version
    simp only [Handshake.respond, Hello.ofBytes?, version, if_true]

theorem respond_refuses (config : DeviceConfig) (p : Packet) (hello : p.cmd = Command.hello.code)
    (refused : ¬ Opens config p) :
    Handshake.respond p.payload.bytes config.protocolVersion config.deviceId =
      .nack (if 2 ≤ p.payload.length then errorVersionMismatch else errorTimeout) := by
  unfold Payload.length
  rcases bytes : p.payload.bytes with - | ⟨first, - | ⟨second, rest⟩⟩
  · rfl
  · rfl
  · have other : first ≠ config.protocolVersion := by
      rintro rfl
      exact refused ⟨hello, by simp [Payload.length, bytes], by simp [bytes]⟩
    simp [Handshake.respond, Hello.ofBytes?, other]

theorem react_hello_opens (p : Packet) (d : Device σ β γ δ) (opens : Opens d.config p) :
    d.reactHello p =
      (.reply .hello
          (HelloAck.packet ⟨d.config.protocolVersion, statusOk, d.config.deviceId⟩ p.seq),
        { d with gate := .opened, stats.handshakes := d.stats.handshakes + 1 }) := by
  simp only [reactHello, respond_opens d.config p opens, Handshake.Answer.isAck,
    Handshake.Answer.packet, if_true]

theorem react_hello_refused (p : Packet) (d : Device σ β γ δ) (hello : p.cmd = Command.hello.code)
    (refused : ¬ Opens d.config p) : d.reactHello p = (.reply .hello (refusal p), d) := by
  simp only [reactHello, respond_refuses d.config p hello refused, Handshake.Answer.isAck,
    Bool.false_eq_true, if_false]
  rfl

theorem gate_react_hello (p : Packet) (d : Device σ β γ δ) (hello : p.cmd = Command.hello.code) :
    (d.reactHello p).2.config = d.config ∧
      ((d.reactHello p).2.gate = .opened ↔ d.gate = .opened ∨ Opens d.config p) := by
  by_cases opens : Opens d.config p
  · rw [react_hello_opens p d opens]
    exact ⟨rfl, iff_of_true rfl (.inr opens)⟩
  · rw [react_hello_refused p d hello opens]
    exact ⟨rfl, (or_iff_left opens).symm⟩

section Relink

variable {τ : Type}

def relink (d : Device σ β γ δ) (link : Link τ) : Device τ β γ δ :=
  { link, servos := d.servos, sensors := d.sensors, relay := d.relay, gate := d.gate,
    config := d.config, stats := d.stats }

theorem react_hello_relink (p : Packet) (d : Device σ β γ δ) (link : Link τ) :
    (d.relink link).reactHello p = ((d.reactHello p).1, (d.reactHello p).2.relink link) := by
  by_cases opens : (Handshake.respond p.payload.bytes d.config.protocolVersion
      d.config.deviceId).isAck
  · simp only [reactHello, relink, opens, if_true]
  · simp only [reactHello, relink, opens, Bool.false_eq_true, if_false]

variable [ServoBank β] [AnalogSensors γ] [PowerRelay δ]

theorem execute_relink (p : Packet) (r : Request) (d : Device σ β γ δ) (link : Link τ) :
    (d.relink link).execute p r = ((d.execute p r).1, (d.execute p r).2.relink link) := by
  cases r with
  | hello version capabilities => exact react_hello_relink p d link
  | setTargetAngle channel angle =>
    cases found : Channel.ofIndex? channel with
    | none => simp only [execute, found]
    | some c => simp only [execute, found, relink]
  | setPowerRelay value =>
    by_cases on : value = 1
    · simp only [execute, on, if_true, relink]
    · by_cases off : value = 0
      · simp only [execute, off, if_true, relink]
        rfl
      · simp only [execute, off, on, if_false]
  | setAngleCalibrations | getAngleCalibrations | getCurrent | getVoltage | getSensor | heartbeat =>
    rfl

theorem react_relink (p : Packet) (d : Device σ β γ δ) (link : Link τ) :
    (d.relink link).react p = ((d.react p).1, (d.react p).2.relink link) := by
  unfold react
  split
  · exact react_hello_relink p d link
  · change (if d.gate.isOpen = true then _ else _) = _
    split
    · cases Request.ofPacket p with
      | ok r => exact execute_relink p r d link
      | error e =>
        cases e with
        | unknownCommand code => rfl
        | truncated => rfl
    · rfl

theorem link_react (p : Packet) (d : Device σ β γ δ) : (d.react p).2.link = d.link := by
  have same : d.react p = ((d.react p).1, (d.react p).2.relink d.link) := react_relink p d d.link
  rw [same]
  rfl

theorem react_gated (p : Packet) (d : Device σ β γ δ) (closed : d.gate = .closed)
    (other : p.cmd ≠ Command.hello.code) : d.react p = (.ignore .gated, d) := by
  simp only [react, if_neg other, closed, Handshake.Gate.isOpen, Bool.false_eq_true, if_false]

theorem react_opened (p : Packet) (d : Device σ β γ δ) (opened : d.gate = .opened)
    (other : p.cmd ≠ Command.hello.code) :
    d.react p = match Request.ofPacket p with
      | .ok r => d.execute p r
      | .error (.unknownCommand code) => (.ignore (.unknownCommand code), d)
      | .error .truncated => (.ignore .truncated, d) := by
  have isOpen : d.gate.isOpen = true := by
    rw [opened]
    rfl
  rw [react, if_neg other]
  exact if_pos isOpen

theorem execute_of_react (r : Request) (seq : UInt16) (command : Command) (reply : Packet)
    (d d' : Device σ β γ δ) (other : r.command ≠ .hello)
    (reacted : d.react (r.packet seq) = (.reply command reply, d')) :
    d.execute (r.packet seq) r = (.reply command reply, d') := by
  have parsed := Request.of_packet_packet r seq
  have code : (r.packet seq).cmd ≠ Command.hello.code :=
    fun same => other ((Request.hello_iff _ r parsed).mpr same)
  cases gate : d.gate with
  | closed =>
    rw [react_gated _ d gate code] at reacted
    cases reacted
  | opened => rwa [react_opened _ d gate code, parsed] at reacted

theorem react_request (r : Request) (seq : UInt16) (d : Device σ β γ δ) (opened : d.gate = .opened)
    (other : r.command ≠ .hello) : d.react (r.packet seq) = d.execute (r.packet seq) r := by
  have parsed := Request.of_packet_packet r seq
  have code : (r.packet seq).cmd ≠ Command.hello.code :=
    fun same => other ((Request.hello_iff _ r parsed).mpr same)
  rw [react_opened _ d opened code, parsed]

end Relink

section Echo

variable [ServoBank β] [AnalogSensors γ] [PowerRelay δ]

theorem seq_execute (p reply : Packet) (r : Request) (command : Command) (d d' : Device σ β γ δ)
    (reacted : d.execute p r = (.reply command reply, d')) : reply.seq = p.seq := by
  have read (value : Option Single) (seq : UInt16) (asked : Command)
      (given : reading seq asked value = .reply command reply) : reply.seq = seq := by
    cases value with
    | none => cases given
    | some value =>
      cases given
      rfl
  cases r with
  | hello =>
    unfold execute reactHello at reacted
    cases reacted
    cases Handshake.respond p.payload.bytes d.config.protocolVersion d.config.deviceId <;> rfl
  | getCurrent | getVoltage | getSensor => exact read _ _ _ (congrArg Prod.fst reacted)
  | setAngleCalibrations | setTargetAngle | setPowerRelay | getAngleCalibrations | heartbeat =>
    cases reacted
    rfl

theorem seq_react (p reply : Packet) (command : Command) (d d' : Device σ β γ δ)
    (reacted : d.react p = (.reply command reply, d')) : reply.seq = p.seq := by
  unfold react at reacted
  split at reacted
  · exact seq_execute p reply (.hello 0 0) command d d' reacted
  split at reacted
  · split at reacted
    · exact seq_execute p reply _ command d d' reacted
    · cases reacted
    · cases reacted
  · cases reacted

end Echo

section Handle

variable [Transport σ ε] [ServoBank β] [AnalogSensors γ] [PowerRelay δ]
variable (p reply : Packet) (command : Command) (reason : IgnoreReason) (d d' : Device σ β γ δ)
  (link : Link σ)

theorem handle_ignored (reacted : d.react p = (.ignore reason, d')) :
    d.handle p = (.ok (.ignored reason), { d' with stats.ignored := d'.stats.ignored + 1 }) := by
  simp only [handle, reacted]

theorem handle_failed (e : ε) (reacted : d.react p = (.reply command reply, d'))
    (sent : d.link.sendPacket reply = (.error e, link)) :
    d.handle p = (.error e, { d' with link }) := by
  have kept : d'.link = d.link := by rw [← link_react p d, reacted]
  simp only [handle, reacted, kept, sent]

theorem handle_sent (reacted : d.react p = (.reply command reply, d'))
    (sent : d.link.sendPacket reply = (.ok (), link)) :
    d.handle p =
      (.ok (.handled command), { d' with link, stats.handled := d'.stats.handled + 1 }) := by
  have kept : d'.link = d.link := by rw [← link_react p d, reacted]
  simp only [handle, reacted, kept, sent]

theorem handle_react (p : Packet) (d : Device σ β γ δ) :
    ∃ link stats, (d.handle p).2 = { (d.react p).2 with link, stats } := by
  rcases reacted : d.react p with ⟨reaction, d'⟩
  cases reaction with
  | ignore reason =>
    rw [handle_ignored p reason d d' reacted]
    exact ⟨d'.link, _, rfl⟩
  | reply command reply =>
    rcases sent : d.link.sendPacket reply with ⟨result, link⟩
    cases result with
    | error e =>
      rw [handle_failed p reply command d d' link e reacted sent]
      exact ⟨link, d'.stats, rfl⟩
    | ok =>
      rw [handle_sent p reply command d d' link reacted sent]
      exact ⟨link, _, rfl⟩

theorem execute_hardware (p : Packet) (r : Request) (d : Device σ β γ δ)
    (other : r.command ≠ .hello) :
    ∃ servos sensors relay, (d.execute p r).2 = { d with servos, sensors, relay } := by
  cases r with
  | hello => exact absurd rfl other
  | setAngleCalibrations table =>
    exact ⟨ServoBank.applyTable table d.servos, d.sensors, d.relay, rfl⟩
  | setTargetAngle channel angle =>
    unfold execute
    dsimp only
    cases Channel.ofIndex? channel with
    | none => exact ⟨d.servos, d.sensors, d.relay, rfl⟩
    | some c => exact ⟨_, d.sensors, d.relay, rfl⟩
  | setPowerRelay value =>
    unfold execute
    dsimp only
    split
    · exact ⟨d.servos, d.sensors, _, rfl⟩
    split
    · exact ⟨d.servos, d.sensors, _, rfl⟩
    · exact ⟨d.servos, d.sensors, d.relay, rfl⟩
  | getAngleCalibrations => exact ⟨d.servos, d.sensors, d.relay, rfl⟩
  | getCurrent => exact ⟨d.servos, _, d.relay, rfl⟩
  | getVoltage => exact ⟨d.servos, _, d.relay, rfl⟩
  | getSensor channel => exact ⟨d.servos, _, d.relay, rfl⟩
  | heartbeat => exact ⟨d.servos, d.sensors, d.relay, rfl⟩

theorem react_hardware (p : Packet) (d : Device σ β γ δ) (other : p.cmd ≠ Command.hello.code) :
    ∃ servos sensors relay, (d.react p).2 = { d with servos, sensors, relay } := by
  rw [react, if_neg other]
  split
  · split
    · rename_i r read
      exact execute_hardware p r d fun hello => other ((Request.hello_iff p r read).mp hello)
    · exact ⟨d.servos, d.sensors, d.relay, rfl⟩
    · exact ⟨d.servos, d.sensors, d.relay, rfl⟩
  · exact ⟨d.servos, d.sensors, d.relay, rfl⟩

theorem gate_react (p : Packet) (d : Device σ β γ δ) :
    (d.react p).2.config = d.config ∧
      ((d.react p).2.gate = .opened ↔ d.gate = .opened ∨ Opens d.config p) := by
  by_cases hello : p.cmd = Command.hello.code
  · rw [react, if_pos hello]
    exact gate_react_hello p d hello
  · have refused : ¬ Opens d.config p := fun opens => hello opens.1
    obtain ⟨servos, sensors, relay, changed⟩ := react_hardware p d hello
    rw [changed]
    exact ⟨rfl, (or_iff_left refused).symm⟩

theorem gate_handle (p : Packet) (d : Device σ β γ δ) :
    (d.handle p).2.config = d.config ∧
      ((d.handle p).2.gate = .opened ↔ d.gate = .opened ∨ Opens d.config p) := by
  obtain ⟨link, stats, handled⟩ := handle_react p d
  rw [handled]
  exact gate_react p d

end Handle

end LegLink.Device
