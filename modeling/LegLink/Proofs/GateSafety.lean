import LegLink.Hardware.Log
import LegLink.Line.Script
import LegLink.Proofs.Reaction
import LegLink.Proofs.Recording

set_option autoImplicit false

namespace LegLink.Device

inductive Step where
  | poll
  | handle (p : Packet)

structure Entry (ε : Type) where
  packet : Option Packet
  result : Except ε Dispatch

def packets {ε : Type} (entries : List (Entry ε)) : List Packet := entries.filterMap Entry.packet

def fresh {σ β γ δ : Type} (line : σ) (servos : β) (sensors : γ) (relay : δ)
    (config : DeviceConfig) : Device σ β γ δ :=
  { link := { line }, servos, sensors, relay, config }

def refusals (p : Packet) : List Bytes :=
  if p.cmd = Command.hello.code then [(refusal p).frame] else []

variable {σ ε β γ δ : Type}

def follow (enter : Device σ β γ δ → Step → Entry ε × Device σ β γ δ) :
    List Step → Device σ β γ δ → List (Entry ε) × Device σ β γ δ
  | [], d => ([], d)
  | step :: later, d =>
    let (first, d) := enter d step
    let (entries, d) := follow enter later d
    (first :: entries, d)

theorem follow_cons (enter : Device σ β γ δ → Step → Entry ε × Device σ β γ δ) (step : Step)
    (later : List Step) (d : Device σ β γ δ) :
    follow enter (step :: later) d =
      ((enter d step).1 :: (follow enter later (enter d step).2).1,
        (follow enter later (enter d step).2).2) := rfl

variable [Transport σ ε]

section Run

variable [ServoBank β] [AnalogSensors γ] [PowerRelay δ]

def entry (d : Device σ β γ δ) : Step → Entry ε × Device σ β γ δ
  | .handle p => (⟨some p, (d.handle p).1⟩, (d.handle p).2)
  | .poll =>
    (⟨(d.link.poll d.config.pollTimeout).1.toOption, d.poll.1⟩, d.poll.2)

end Run

theorem packets_cons {ε : Type} (first : Entry ε) (entries : List (Entry ε)) :
    packets (first :: entries) = first.packet.toList ++ packets entries := by
  unfold packets
  cases taken : first.packet with
  | none => simp [taken]
  | some p => simp [taken]

-- A device whose gate stays closed, told without a call to its servos, inputs or relay.
def answerClosed (p : Packet) (d : Device σ β γ δ) : Except ε Dispatch × Device σ β γ δ :=
  if p.cmd = Command.hello.code then
    match d.link.sendPacket (refusal p) with
    | (.error e, link) => (.error e, { d with link })
    | (.ok (), link) =>
      (.ok (.handled .hello), { d with link, stats.handled := d.stats.handled + 1 })
  else (.ok (.ignored .gated), { d with stats.ignored := d.stats.ignored + 1 })

def entryBy (answer : Packet → Device σ β γ δ → Except ε Dispatch × Device σ β γ δ)
    (d : Device σ β γ δ) : Step → Entry ε × Device σ β γ δ
  | .handle p => (⟨some p, (answer p d).1⟩, (answer p d).2)
  | .poll =>
    match d.link.poll d.config.pollTimeout with
    | (.ok p, link) => (⟨some p, (answer p { d with link }).1⟩, (answer p { d with link }).2)
    | (.error .timeout, link) => (⟨none, .ok .idle⟩, { d with link })
    | (.error (.io e), link) => (⟨none, .error e⟩, { d with link })

def entryClosed (d : Device σ β γ δ) (step : Step) : Entry ε × Device σ β γ δ :=
  d.entryBy answerClosed step

theorem entry_by_cases (answer : Packet → Device (Line.Recorded σ) β γ δ →
      Except ε Dispatch × Device (Line.Recorded σ) β γ δ)
    (step : Step) (d : Device (Line.Recorded σ) β γ δ) :
    ∃ link : Link (Line.Recorded σ), link.line.writes = d.link.line.writes ∧
      ((∃ p, d.entryBy answer step =
        (⟨some p, (answer p { d with link }).1⟩, (answer p { d with link }).2)) ∨
      (∃ result, d.entryBy answer step = (⟨none, result⟩, { d with link }))) := by
  cases step with
  | handle p => exact ⟨d.link, rfl, .inl ⟨p, rfl⟩⟩
  | poll =>
    have silent := (Link.poll_unrecorded d.config.pollTimeout d.link).2
    refine ⟨(d.link.poll d.config.pollTimeout).2, silent, ?_⟩
    unfold entryBy
    rcases d.link.poll d.config.pollTimeout with ⟨result, link⟩
    cases result with
    | ok p => exact .inl ⟨p, rfl⟩
    | error failure =>
      cases failure with
      | timeout | io => exact .inr ⟨_, rfl⟩

section Handle

variable [ServoBank β] [AnalogSensors γ] [PowerRelay δ]

theorem handle_closed (p : Packet) (d : Device σ β γ δ) (closed : d.gate = .closed)
    (refused : ¬ Opens d.config p) : d.handle p = d.answerClosed p := by
  by_cases hello : p.cmd = Command.hello.code
  · have reacted : d.react p = (.reply .hello (refusal p), d) := by
      rw [react, if_pos hello, react_hello_refused p d hello refused]
    rcases sent : d.link.sendPacket (refusal p) with ⟨result, link⟩
    cases result with
    | error e =>
      rw [handle_failed p (refusal p) .hello d d link e reacted sent]
      simp only [answerClosed, if_pos hello, sent]
    | ok =>
      rw [handle_sent p (refusal p) .hello d d link reacted sent]
      simp only [answerClosed, if_pos hello, sent]
  · rw [handle_ignored p .gated d d (react_gated p d closed hello)]
    simp only [answerClosed, if_neg hello]

theorem entry_eq (step : Step) (d : Device σ β γ δ) : d.entry step = d.entryBy handle step := by
  cases step with
  | handle p => rfl
  | poll =>
    unfold entry entryBy poll
    rcases d.link.poll d.config.pollTimeout with ⟨result, link⟩
    cases result with
    | ok p => rfl
    | error failure =>
      cases failure with
      | timeout | io => rfl

theorem gate_entry (step : Step) (d : Device (Line.Recorded σ) β γ δ) :
    (d.entry step).2.config = d.config ∧ ((d.entry step).2.gate = .opened ↔
      d.gate = .opened ∨ ∃ p, (d.entry step).1.packet = some p ∧ Opens d.config p) := by
  obtain ⟨link, _, ⟨p, taken⟩ | ⟨result, idle⟩⟩ := entry_by_cases handle step d
  · obtain ⟨config, gate⟩ := gate_handle p { d with link }
    rw [entry_eq, taken]
    refine ⟨config, gate.trans (or_congr Iff.rfl ?_)⟩
    exact ⟨fun opens => ⟨p, rfl, opens⟩, fun ⟨_, same, opens⟩ => Option.some.inj same ▸ opens⟩
  · rw [entry_eq, idle]
    refine ⟨rfl, (or_iff_left ?_).symm⟩
    rintro ⟨p, none, _⟩
    cases none

theorem gate_follow (steps : List Step) (d : Device (Line.Recorded σ) β γ δ) :
    (follow entry steps d).2.gate = .opened ↔
      d.gate = .opened ∨ ∃ p ∈ packets (follow entry steps d).1, Opens d.config p := by
  induction steps generalizing d with
  | nil => simp [follow, packets]
  | cons step later ih =>
    obtain ⟨config, gate⟩ := gate_entry step d
    have final := ih (d.entry step).2
    rw [config, gate, or_assoc] at final
    rw [follow_cons, packets_cons]
    refine final.trans (or_congr Iff.rfl ?_)
    simp only [List.mem_append, Option.mem_toList, or_and_right, exists_or]

end Handle

structure Untouched (d d' : Device σ β γ δ) : Prop where
  gate : d'.gate = .closed
  servos : d'.servos = d.servos
  sensors : d'.sensors = d.sensors
  relay : d'.relay = d.relay
  config : d'.config = d.config
  handshakes : d'.stats.handshakes = d.stats.handshakes

theorem Untouched.trans (a b c : Device σ β γ δ) (first : Untouched a b) (second : Untouched b c) :
    Untouched a c where
  gate := second.gate
  servos := second.servos.trans first.servos
  sensors := second.sensors.trans first.sensors
  relay := second.relay.trans first.relay
  config := second.config.trans first.config
  handshakes := second.handshakes.trans first.handshakes

def Gated (e : Entry ε) : Prop :=
  ∀ p, e.packet = some p → p.cmd ≠ Command.hello.code → e.result = .ok (.ignored .gated)

section Closed

theorem untouched_link (d : Device σ β γ δ) (link : Link σ) (closed : d.gate = .closed) :
    Untouched d { d with link } :=
  ⟨closed, rfl, rfl, rfl, rfl, rfl⟩

theorem untouched_answer_closed (p : Packet) (d : Device σ β γ δ) (closed : d.gate = .closed) :
    Untouched d (d.answerClosed p).2 := by
  unfold answerClosed
  split
  · rcases d.link.sendPacket (refusal p) with ⟨result, link⟩
    cases result with
    | error | ok => exact ⟨closed, rfl, rfl, rfl, rfl, rfl⟩
  · exact ⟨closed, rfl, rfl, rfl, rfl, rfl⟩

theorem writes_answer_closed (p : Packet) (d : Device (Line.Recorded σ) β γ δ) :
    (d.answerClosed p).2.link.line.writes = d.link.line.writes ++ refusals p := by
  unfold answerClosed refusals
  split
  · have sent := Link.writes_send_packet (refusal p) d.link
    rcases found : d.link.sendPacket (refusal p) with ⟨result, link⟩
    cases result with
    | error | ok => rwa [found] at sent
  · exact (List.append_nil _).symm

theorem entry_closed_spec (step : Step) (d : Device (Line.Recorded σ) β γ δ)
    (closed : d.gate = .closed) :
    Untouched d (d.entryClosed step).2 ∧ Gated (d.entryClosed step).1 ∧
      (d.entryClosed step).2.link.line.writes =
        d.link.line.writes ++ (d.entryClosed step).1.packet.toList.flatMap refusals := by
  obtain ⟨link, silent, ⟨p, taken⟩ | ⟨result, idle⟩⟩ := entry_by_cases answerClosed step d
  · have start := untouched_link d link closed
    have kept := untouched_answer_closed p { d with link } closed
    have sent := writes_answer_closed p { d with link }
    rw [entryClosed, taken]
    refine ⟨Untouched.trans _ _ _ start kept, ?_, ?_⟩
    · rintro q same other
      cases same
      simp only [answerClosed, if_neg other]
    · simp only [sent, silent, Option.toList_some, List.flatMap_singleton]
  · rw [entryClosed, idle]
    refine ⟨untouched_link d link closed, ?_, ?_⟩
    · rintro q none
      cases none
    · simp only [silent, Option.toList_none, List.flatMap_nil, List.append_nil]

theorem follow_closed_spec (steps : List Step) (d : Device (Line.Recorded σ) β γ δ)
    (closed : d.gate = .closed) :
    Untouched d (follow entryClosed steps d).2 ∧ (∀ e ∈ (follow entryClosed steps d).1, Gated e) ∧
      (follow entryClosed steps d).2.link.line.writes =
        d.link.line.writes ++ (packets (follow entryClosed steps d).1).flatMap refusals := by
  -- By induction on the steps, each of which leaves the gate closed for the next.
  induction steps generalizing d with
  | nil =>
    refine ⟨untouched_link d d.link closed, ?_, (List.append_nil _).symm⟩
    intro e member
    cases member
  | cons step later ih =>
    obtain ⟨kept, gated, writes⟩ := entry_closed_spec step d closed
    obtain ⟨laterKept, laterGated, laterWrites⟩ := ih (d.entryClosed step).2 kept.gate
    refine ⟨Untouched.trans _ _ _ kept laterKept, ?_, ?_⟩
    · intro e member
      rcases List.mem_cons.mp member with rfl | member
      · exact gated
      · exact laterGated e member
    · rw [follow_cons]
      simp only [packets_cons, laterWrites, writes, List.flatMap_append,
        List.append_assoc]

variable [ServoBank β] [AnalogSensors γ] [PowerRelay δ]

theorem entry_closed (step : Step) (d : Device σ β γ δ) (closed : d.gate = .closed)
    (refused : ∀ p, (d.entry step).1.packet = some p → ¬ Opens d.config p) :
    d.entry step = d.entryClosed step := by
  rw [entry_eq] at refused ⊢
  cases step with
  | handle p =>
    dsimp only [entryClosed, entryBy]
    rw [handle_closed p d closed (refused p rfl)]
  | poll =>
    unfold entryBy at refused
    unfold entryClosed entryBy
    rcases polled : d.link.poll d.config.pollTimeout with ⟨result, link⟩
    cases result with
    | error failure =>
      cases failure with
      | timeout | io => rfl
    | ok p =>
      rw [polled] at refused
      dsimp only
      rw [handle_closed p { d with link } closed (refused p rfl)]

theorem follow_closed (steps : List Step) (d : Device (Line.Recorded σ) β γ δ)
    (closed : d.gate = .closed)
    (refused : ∀ p ∈ packets (follow entry steps d).1, ¬ Opens d.config p) :
    follow entry steps d = follow entryClosed steps d := by
  induction steps generalizing d with
  | nil => rfl
  | cons step later ih =>
    rw [follow_cons, packets_cons] at refused
    have first := entry_closed step d closed fun p taken =>
      refused p (List.mem_append_left _ (Option.mem_toList.mpr taken))
    obtain ⟨kept, _⟩ := entry_closed_spec step d closed
    have rest := ih (d.entryClosed step).2 kept.gate fun p member => by
      rw [kept.config]
      rw [first] at refused
      exact refused p (List.mem_append_right _ member)
    rw [follow_cons, first, rest, follow_cons]

end Closed

def unrecorded (d : Device (Line.Recorded σ) β γ δ) : Device σ β γ δ :=
  d.relink d.link.unrecorded

section Plain

variable [ServoBank β] [AnalogSensors γ] [PowerRelay δ]

theorem handle_unrecorded (p : Packet) (d : Device (Line.Recorded σ) β γ δ) :
    d.unrecorded.handle p = ((d.handle p).1, (d.handle p).2.unrecorded) := by
  have plain := react_relink p d d.link.unrecorded
  rcases reacted : d.react p with ⟨reaction, d'⟩
  cases reaction with
  | ignore reason =>
    have kept : d'.link = d.link := by rw [← link_react p d, reacted]
    rw [reacted] at plain
    rw [handle_ignored p reason d d' reacted, handle_ignored p reason d.unrecorded _ plain, ← kept]
    rfl
  | reply command reply =>
    rw [reacted] at plain
    have plainSent := Link.send_packet_unrecorded reply d.link
    rcases sent : d.link.sendPacket reply with ⟨result, link⟩
    cases result with
    | error e =>
      rw [sent] at plainSent
      rw [handle_failed p reply command d d' link e reacted sent,
        handle_failed p reply command d.unrecorded _ _ e plain plainSent]
      rfl
    | ok =>
      rw [sent] at plainSent
      rw [handle_sent p reply command d d' link reacted sent,
        handle_sent p reply command d.unrecorded _ _ plain plainSent]
      rfl

theorem entry_unrecorded (step : Step) (d : Device (Line.Recorded σ) β γ δ) :
    d.unrecorded.entry step = ((d.entry step).1, (d.entry step).2.unrecorded) := by
  rw [entry_eq, entry_eq]
  cases step with
  | handle p => simp only [entryBy, handle_unrecorded]
  | poll =>
    have plain := (Link.poll_unrecorded d.config.pollTimeout d.link).1
    change d.unrecorded.link.poll d.unrecorded.config.pollTimeout = _ at plain
    rcases polled : d.link.poll d.config.pollTimeout with ⟨result, link⟩
    rw [polled] at plain
    cases result with
    | ok p =>
      have answered := handle_unrecorded p { d with link }
      simp only [entryBy, polled, plain]
      exact congrArg (fun outcome => (Entry.mk (some p) outcome.1, outcome.2)) answered
    | error failure =>
      cases failure with
      | timeout | io =>
        simp only [entryBy, polled, plain]
        rfl

theorem follow_unrecorded (steps : List Step) (d : Device (Line.Recorded σ) β γ δ) :
    follow entry steps d.unrecorded =
      ((follow entry steps d).1, (follow entry steps d).2.unrecorded) := by
  induction steps generalizing d with
  | nil => rfl
  | cons step later ih => rw [follow_cons, follow_cons, entry_unrecorded, ih]

variable (line : σ) (servos : β) (sensors : γ) (relay : δ) (config : DeviceConfig)

def recorded : Device (Line.Recorded σ) β γ δ := fresh { line } servos sensors relay config

/-- The gate over a whole run of a new device, told with the calls on the line kept. The line is
assumed to obey `Transport.pending_read_byte`: it delivers finitely many bytes between two failed
reads. -/
theorem gate_safety (steps : List Step) :
    let start := recorded line servos sensors relay config
    let entries := (follow entry steps start).1
    let final := (follow entry steps start).2
    follow entry steps (fresh line servos sensors relay config) = (entries, final.unrecorded) ∧
    ((∀ p ∈ packets entries, ¬ Opens config p) →
      final.gate = .closed ∧ final.stats.handshakes = 0 ∧
      (final.servos = servos ∧ final.sensors = sensors ∧ final.relay = relay) ∧
      follow entry steps start = follow entryClosed steps start ∧
      final.link.line.writes = (packets entries).flatMap refusals ∧
      ∀ e ∈ entries, Gated e) ∧
    ((∃ p ∈ packets entries, Opens config p) → final.gate = .opened) := by
  intro start entries final
  refine ⟨follow_unrecorded steps start, ?_, ?_⟩
  · intro refused
    have alone := follow_closed steps start rfl refused
    obtain ⟨kept, gated, writes⟩ := follow_closed_spec steps start rfl
    rw [← alone] at kept gated writes
    exact ⟨kept.gate, kept.handshakes, ⟨kept.servos, kept.sensors, kept.relay⟩, alone, writes,
      gated⟩
  · intro opens
    exact (gate_follow steps start).mpr (.inr opens)

end Plain

theorem gate_safety_hellos :
    let early := Request.heartbeat.packet 3
    let other := (Hello.mk 2 0).packet 4
    let good := (Hello.mk 1 0).packet 5
    let run (packets : List Packet) := follow entry (packets.map Step.handle)
      (recorded ({ byteTimeout := ⟨0⟩ } : Line.Script) ({} : ServoLog) ({} : SensorLog)
        ({} : RelayLog) {})
    (run [early, other]).2.link.line.writes = [(Reply.nack 4 errorVersionMismatch).frame] ∧
      (run [early, other]).2.gate = .closed ∧ (run [early, other, good]).2.gate = .opened := by
  intro early other good run
  have refused : ∀ p ∈ packets (run [early, other]).1, ¬ Opens {} p := by
    decide +kernel
  have opens : ∃ p ∈ packets (run [early, other, good]).1, Opens {} p := by
    decide +kernel
  obtain ⟨_, shut, _⟩ := gate_safety ({ byteTimeout := ⟨0⟩ } : Line.Script) ({} : ServoLog)
    ({} : SensorLog) ({} : RelayLog) {} ([early, other].map Step.handle)
  obtain ⟨_, _, opened⟩ := gate_safety ({ byteTimeout := ⟨0⟩ } : Line.Script) ({} : ServoLog)
    ({} : SensorLog) ({} : RelayLog) {} ([early, other, good].map Step.handle)
  obtain ⟨gate, _, _, _, writes, _⟩ := shut refused
  exact ⟨writes, gate, opened opens⟩

end LegLink.Device
