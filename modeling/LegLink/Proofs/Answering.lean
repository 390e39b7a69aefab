import LegLink.Proofs.GateSafety
import LegLink.Proofs.HardwareCalls

set_option autoImplicit false

namespace LegLink

def Packet.Truncated (p : Packet) : Prop :=
  ∃ c ∈ Request.commands, c.code = p.cmd ∧ p.payload.length < c.argumentSize

instance (p : Packet) : Decidable p.Truncated :=
  inferInstanceAs (Decidable (∃ c ∈ Request.commands, _ ∧ _))

def HardwareCall.fails {γ : Type} [AnalogSensors γ] (sensors : γ) : HardwareCall → Bool
  | readCurrent => (AnalogSensors.readCurrent sensors).1.isNone
  | readVoltage => (AnalogSensors.readVoltage sensors).1.isNone
  | readSensor channel => (AnalogSensors.readSensor channel sensors).1.isNone
  | setCalibration _ _ | setAngle _ _ | setPower _ => false

namespace Device

variable {σ ε β γ δ : Type}

def Answers (config : DeviceConfig) (p reply : Packet) : Command → Prop
  | .hello =>
    if Opens config p then
      reply.cmd = Command.ack.code ∧
        reply.payload.bytes = [config.protocolVersion, statusOk, config.deviceId]
    else reply.cmd = Command.nack.code ∧ reply.payload.length = 1
  | .setAngleCalibrations | .setTargetAngle | .setPowerRelay | .heartbeat =>
    reply.cmd = Command.ack.code ∧ reply.payload.bytes = [p.cmd, statusOk]
  | .getAngleCalibrations => reply.cmd = p.cmd ∧ reply.payload.length = 144
  | .getCurrent | .getVoltage | .getSensor => reply.cmd = p.cmd ∧ reply.payload.length = 4
  | .ack | .nack => False

theorem answers_react_hello (p : Packet) (d : Device σ β γ δ) (hello : p.cmd = Command.hello.code) :
    ∃ reply, (d.reactHello p).1 = .reply .hello reply ∧ reply.seq = p.seq ∧
      Answers d.config p reply .hello := by
  by_cases opens : Opens d.config p
  · rw [react_hello_opens p d opens]
    refine ⟨_, rfl, rfl, ?_⟩
    rw [Answers, if_pos opens]
    exact ⟨rfl, rfl⟩
  · rw [react_hello_refused p d hello opens]
    refine ⟨_, rfl, rfl, ?_⟩
    rw [Answers, if_neg opens]
    exact ⟨rfl, rfl⟩

theorem stats_react_hello (p : Packet) (d : Device σ β γ δ) (hello : p.cmd = Command.hello.code) :
    (d.reactHello p).2.stats =
      { d.stats with
        handshakes := d.stats.handshakes + if Opens d.config p then 1 else 0 } := by
  by_cases opens : Opens d.config p
  · rw [react_hello_opens p d opens, if_pos opens]
  · rw [react_hello_refused p d hello opens, if_neg opens, UInt32.add_zero]

variable [ServoBank β] [AnalogSensors γ] [PowerRelay δ]

-- The reasons are looked for in this order.
def ignoreReason? (p : Packet) (d : Device σ β γ δ) : Option IgnoreReason :=
  if p.cmd = Command.hello.code then none
  else if d.gate = .closed then some .gated
  else if p.cmd ∉ Request.codes then some (.unknownCommand p.cmd)
  else if p.Truncated then some .truncated
  else if p.requested.any (HardwareCall.fails d.sensors) then some .sensorFault
  else none

theorem fails_calls (sensors : γ) (r : Request) :
    r.calls.any (HardwareCall.fails sensors) = match r with
      | .getCurrent => (AnalogSensors.readCurrent sensors).1.isNone
      | .getVoltage => (AnalogSensors.readVoltage sensors).1.isNone
      | .getSensor channel => (AnalogSensors.readSensor channel sensors).1.isNone
      | _ => false := by
  cases r with
  | setAngleCalibrations table => simp [Request.calls, HardwareCall.fails]
  | setTargetAngle channel angle => simp [Request.calls, HardwareCall.fails]
  | setPowerRelay value =>
    by_cases on : value = 1
    · simp [Request.calls, HardwareCall.fails, on]
    · by_cases off : value = 0
      · simp [Request.calls, HardwareCall.fails, off]
      · simp [Request.calls, on, off]
  | getCurrent | getVoltage | getSensor => exact Bool.or_false _
  | hello | getAngleCalibrations | heartbeat => rfl

theorem reading_answers (p : Packet) (c : Command) (code : c.code = p.cmd)
    (value : Option Single) :
    if value.isNone then reading p.seq c value = .ignore .sensorFault
    else ∃ reply, reading p.seq c value = .reply c reply ∧ reply.seq = p.seq ∧
      reply.cmd = p.cmd ∧ reply.payload.length = 4 := by
  cases value with
  | none => exact rfl
  | some value => exact ⟨Reply.single p.seq c value, rfl, rfl, code, rfl⟩

theorem acknowledged_answers (p : Packet) (c : Command) (code : c.code = p.cmd) :
    ∃ reply, acknowledged p.seq c = .reply c reply ∧ reply.seq = p.seq ∧
      reply.cmd = Command.ack.code ∧ reply.payload.bytes = [p.cmd, statusOk] :=
  ⟨Reply.commandAck p.seq c statusOk, rfl, rfl, rfl, congrArg (fun byte => [byte, statusOk]) code⟩

theorem length_calibrations (seq : UInt16) (ranges : PerChannel PulseRange) :
    (Reply.calibrations seq ranges).payload.length = 144 :=
  PerChannel.length_flatten ranges PulseRange.bytes 8 PulseRange.length_bytes

theorem execute_answers (p : Packet) (r : Request) (d : Device σ β γ δ)
    (code : r.command.code = p.cmd) (other : r.command ≠ .hello) :
    if r.calls.any (HardwareCall.fails d.sensors) then
      (d.execute p r).1 = .ignore .sensorFault
    else ∃ reply, (d.execute p r).1 = .reply r.command reply ∧ reply.seq = p.seq ∧
      Answers d.config p reply r.command := by
  rw [fails_calls]
  cases r with
  | hello => exact absurd rfl other
  | setAngleCalibrations | setTargetAngle | setPowerRelay | heartbeat =>
    exact acknowledged_answers p _ code
  | getAngleCalibrations => exact ⟨_, rfl, rfl, code, length_calibrations _ _⟩
  | getCurrent | getVoltage | getSensor => exact reading_answers p _ code _

theorem react_answers (p : Packet) (d : Device σ β γ δ) :
    match d.ignoreReason? p with
    | some reason => (d.react p).1 = .ignore reason
    | none => ∃ c reply, (d.react p).1 = .reply c reply ∧ c.code = p.cmd ∧ reply.seq = p.seq ∧
        Answers d.config p reply c := by
  unfold ignoreReason?
  by_cases hello : p.cmd = Command.hello.code
  · rw [if_pos hello, react, if_pos hello]
    obtain ⟨reply, reacted, seq, answers⟩ := answers_react_hello p d hello
    exact ⟨.hello, reply, reacted, hello.symm, seq, answers⟩
  rw [if_neg hello]
  cases gate : d.gate with
  | closed =>
    rw [if_pos rfl, react_gated p d gate hello]
  | opened =>
    have notClosed : Handshake.Gate.opened ≠ .closed := by decide
    rw [if_neg notClosed, react_opened p d gate hello]
    by_cases known : p.cmd ∈ Request.codes
    · rw [if_neg (not_not_intro known)]
      obtain ⟨c, member, found⟩ := Request.exists_command p.cmd known
      have code := Command.code_of_of_code p.cmd c found
      by_cases short : p.payload.length < c.argumentSize
      · rw [if_pos ⟨c, member, code, short⟩, Request.of_packet_short p c member found short]
      · have whole : ¬ p.Truncated := by
          rintro ⟨c', _, same, shorter⟩
          rw [← code] at same
          rw [Command.code_inj _ _ same] at shorter
          exact short shorter
        obtain ⟨r, parsed, command⟩ :=
          Request.of_packet_whole p c member found (Nat.le_of_not_lt short)
        have other : r.command ≠ .hello :=
          fun same => hello ((Request.hello_iff p r parsed).mp same)
        have answers := execute_answers p r d (by rw [command, code]) other
        rw [if_neg whole, requested_of_packet, parsed]
        dsimp only
        by_cases fails : r.calls.any (HardwareCall.fails d.sensors) = true
        · rw [if_pos fails] at answers ⊢
          exact answers
        · rw [if_neg fails] at answers ⊢
          obtain ⟨reply, reacted, seq, right⟩ := answers
          exact ⟨r.command, reply, reacted, by rw [command, code], seq, right⟩
    · rw [if_pos known, Request.of_packet_strange p known]

theorem stats_react (p : Packet) (d : Device σ β γ δ) :
    (d.react p).2.stats =
      { d.stats with
        handshakes := d.stats.handshakes + if Opens d.config p then 1 else 0 } := by
  by_cases hello : p.cmd = Command.hello.code
  · rw [react, if_pos hello]
    exact stats_react_hello p d hello
  · have refused : ¬ Opens d.config p := fun opens => hello opens.1
    obtain ⟨servos, sensors, relay, changed⟩ := react_hardware p d hello
    rw [changed, if_neg refused, UInt32.add_zero]

variable [Transport σ ε]

def Answered (p : Packet) (d : Device (Line.Recorded σ) β γ δ)
    (outcome : Except ε Dispatch × Device (Line.Recorded σ) β γ δ) : Prop :=
  match d.ignoreReason? p with
  | some reason => outcome.1 = .ok (.ignored reason) ∧ outcome.2.link = d.link
  | none => ∃ c reply, outcome.1 = .ok (.handled c) ∧ c.code = p.cmd ∧
      outcome.2.link.line.calls = d.link.line.calls ++ [.write reply.frame] ∧
      Frame.decode reply.frame = (some reply, []) ∧ reply.seq = p.seq ∧
      Answers d.config p reply c

theorem handle_answered (p : Packet) (d : Device (Line.Recorded σ) β γ δ)
    (takes : ∀ data, (Transport.write data d.link.line.line).1 = .ok ()) :
    Answered p d (d.handle p) := by
  have answers := react_answers p d
  have kept := link_react p d
  rcases reacted : d.react p with ⟨reaction, d'⟩
  rw [reacted] at answers kept
  unfold Answered
  cases why : d.ignoreReason? p with
  | some reason =>
    rw [why] at answers
    subst answers
    rw [handle_ignored p reason d d' reacted]
    exact ⟨rfl, kept⟩
  | none =>
    rw [why] at answers
    obtain ⟨c, reply, rfl, code, seq, right⟩ := answers
    have sent : d.link.sendPacket reply = (.ok (), (d.link.sendPacket reply).2) :=
      Prod.ext (takes reply.frame) rfl
    have alone := Frame.decode_frame reply []
    rw [List.append_nil] at alone
    rw [handle_sent p reply c d d' _ reacted sent]
    exact ⟨c, reply, rfl, code, rfl, alone, seq, right⟩

def Entry.isHandled (e : Entry ε) : Bool :=
  match e.result with
  | .ok (.handled _) => true
  | _ => false

def Entry.isIgnored (e : Entry ε) : Bool :=
  match e.result with
  | .ok (.ignored _) => true
  | _ => false

def Entry.opens (config : DeviceConfig) (e : Entry ε) : Bool :=
  e.packet.any fun p => decide (Opens config p)

def counted (config : DeviceConfig) (s : DeviceStats) (e : Entry ε) : DeviceStats where
  handled := s.handled + if e.isHandled then 1 else 0
  ignored := s.ignored + if e.isIgnored then 1 else 0
  handshakes := s.handshakes + if e.opens config then 1 else 0

theorem stats_handle (p : Packet) (d : Device σ β γ δ) :
    (d.handle p).2.stats = counted d.config d.stats ⟨some p, (d.handle p).1⟩ := by
  have stats := stats_react p d
  rcases reacted : d.react p with ⟨reaction, d'⟩
  rw [reacted] at stats
  change d'.stats = _ at stats
  cases reaction with
  | ignore reason =>
    rw [handle_ignored p reason d d' reacted]
    simp [counted, Entry.isHandled, Entry.isIgnored, Entry.opens, stats]
  | reply command reply =>
    rcases sent : d.link.sendPacket reply with ⟨result, link⟩
    cases result with
    | error e =>
      rw [handle_failed p reply command d d' link e reacted sent]
      simp [counted, Entry.isHandled, Entry.isIgnored, Entry.opens, stats]
    | ok =>
      rw [handle_sent p reply command d d' link reacted sent]
      simp [counted, Entry.isHandled, Entry.isIgnored, Entry.opens, stats]

theorem stats_entry (step : Step) (d : Device σ β γ δ) :
    (d.entry step).2.stats = counted d.config d.stats (d.entry step).1 := by
  rw [entry_eq]
  cases step with
  | handle p => exact stats_handle p d
  | poll =>
    unfold entryBy
    rcases d.link.poll d.config.pollTimeout with ⟨result, link⟩
    cases result with
    | ok p => exact stats_handle p { d with link }
    | error failure =>
      cases failure with
      | timeout | io => simp [counted, Entry.isHandled, Entry.isIgnored, Entry.opens]

theorem stats_follow (steps : List Step) (d : Device (Line.Recorded σ) β γ δ) :
    (follow entry steps d).2.stats =
      (follow entry steps d).1.foldl (counted d.config) d.stats := by
  induction steps generalizing d with
  | nil => rfl
  | cons step later ih =>
    have config := (gate_entry step d).1
    rw [follow_cons, List.foldl_cons, ih, stats_entry, config]

theorem foldl_counted (config : DeviceConfig) (read : DeviceStats → UInt32)
    (counts : Entry ε → Bool)
    (step : ∀ s e, read (counted config s e) = read s + if counts e then 1 else 0)
    (entries : List (Entry ε)) (s : DeviceStats) :
    read (entries.foldl (counted config) s) = read s + UInt32.ofNat (entries.countP counts) := by
  induction entries generalizing s with
  | nil => simp
  | cons e entries ih =>
    rw [List.foldl_cons, ih, step, List.countP_cons, UInt32.add_assoc, UInt32.ofNat_add,
      UInt32.add_comm (UInt32.ofNat _)]
    cases counts e with
    | true | false => rfl

variable (line : σ) (servos : β) (sensors : γ) (relay : δ) (config : DeviceConfig)

theorem counter_follow (read : DeviceStats → UInt32) (counts : Entry ε → Bool)
    (step : ∀ s e, read (counted config s e) = read s + if counts e then 1 else 0)
    (none : read {} = 0) (steps : List Step) :
    let outcome := follow entry steps (recorded line servos sensors relay config)
    (read outcome.2.stats).toNat = outcome.1.countP counts % UInt32.size := by
  intro outcome
  have stats : outcome.2.stats = outcome.1.foldl (counted config) {} := stats_follow steps _
  rw [stats, foldl_counted config read counts step, none, UInt32.zero_add]
  exact UInt32.toNat_ofNat'

/-- Wherever a run has got to, the next packet is passed over for the reason it gives or answered
with one frame, and the counters have counted the steps so far. -/
theorem answers_and_counts (steps : List Step) :
    let start := recorded line servos sensors relay config
    let entries := (follow entry steps start).1
    let d := (follow entry steps start).2
    follow entry steps (fresh line servos sensors relay config) = (entries, d.unrecorded) ∧
    (∀ p, (∀ data, (Transport.write data d.link.line.line).1 = .ok ()) →
      d.unrecorded.handle p = ((d.handle p).1, (d.handle p).2.unrecorded) ∧
      Answered p d (d.handle p)) ∧
    d.stats.handled.toNat = entries.countP Entry.isHandled % UInt32.size ∧
    d.stats.ignored.toNat = entries.countP Entry.isIgnored % UInt32.size ∧
    d.stats.handshakes.toNat = entries.countP (Entry.opens config) % UInt32.size := by
  intro start entries d
  refine ⟨follow_unrecorded steps start, ?_, ?_, ?_, ?_⟩
  · intro p takes
    exact ⟨handle_unrecorded p d, handle_answered p d takes⟩
  · exact counter_follow line servos sensors relay config DeviceStats.handled Entry.isHandled
      (fun _ _ => rfl) rfl steps
  · exact counter_follow line servos sensors relay config DeviceStats.ignored Entry.isIgnored
      (fun _ _ => rfl) rfl steps
  · exact counter_follow line servos sensors relay config DeviceStats.handshakes
      (Entry.opens config) (fun _ _ => rfl) rfl steps

theorem answers_and_counts_hello :
    let hello := (Hello.mk 1 0).packet 1
    let short : Packet := ⟨2, Command.setPowerRelay.code, ⟨[], by decide⟩⟩
    let beat := Request.heartbeat.packet 3
    let outcome := follow entry ([hello, short].map Step.handle)
      (recorded ({ byteTimeout := ⟨0⟩ } : Line.Script) ({} : ServoLog) ({} : SensorLog)
        ({} : RelayLog) {})
    let d := outcome.2
    (∀ data, (Transport.write data d.link.line.line).1 = .ok ()) ∧
      (∃ (c : Command) (reply : Packet), (d.handle beat).1 = .ok (.handled c) ∧
        (d.handle beat).2.link.line.calls = d.link.line.calls ++ [.write reply.frame] ∧
        reply.payload.bytes = [beat.cmd, statusOk]) ∧
      d.stats.handled.toNat = 1 ∧ d.stats.ignored.toNat = 1 ∧ d.stats.handshakes.toNat = 1 := by
  intro hello short beat outcome d
  obtain ⟨_, answered, handled, ignored, handshakes⟩ :=
    answers_and_counts ({ byteTimeout := ⟨0⟩ } : Line.Script) ({} : ServoLog) ({} : SensorLog)
      ({} : RelayLog) {} ([hello, short].map Step.handle)
  have takes : ∀ data, (Transport.write data d.link.line.line).1 = .ok () := fun data => rfl
  have why : d.ignoreReason? beat = none := by decide +kernel
  have answer := (answered beat takes).2
  unfold Answered at answer
  rw [why] at answer
  obtain ⟨c, reply, result, code, calls, _, _, right⟩ := answer
  have command : c = .heartbeat := Command.code_inj c .heartbeat code
  subst command
  refine ⟨takes, ⟨_, reply, result, calls, right.2⟩, ?_, ?_, ?_⟩
  · rw [handled]
    decide +kernel
  · rw [ignored]
    decide +kernel
  · rw [handshakes]
    decide +kernel

end Device
end LegLink
