import LegLink.Proofs.HardwareLaws
import LegLink.Proofs.Lossy.Line

set_option autoImplicit false

namespace LegLink

namespace Device

variable {β γ δ : Type}

structure Alike {σ τ : Type} (a : Device σ β γ δ) (b : Device τ β γ δ) : Prop where
  servos : a.servos = b.servos
  sensors : a.sensors = b.sensors
  relay : a.relay = b.relay
  gate : a.gate = b.gate
  config : a.config = b.config

structure Clean (d : Device Line.Queue β γ δ) : Prop where
  received : d.link.rx = .empty
  inbox : d.link.line.inbox = []
  outbox : d.link.line.outbox = []

section Samples

variable {σ : Type}

theorem samples_react_hello (p : Packet) (d : Device σ (WatchedServos β) (WatchedInputs γ) δ) :
    (d.reactHello p).2.sensors = d.sensors := by
  by_cases opens : (Handshake.respond p.payload.bytes d.config.protocolVersion
      d.config.deviceId).isAck
  · simp only [reactHello, opens, if_true]
  · simp only [reactHello, opens, Bool.false_eq_true, if_false]

variable [ServoBank β] [AnalogSensors γ] [PowerRelay δ]

theorem samples_execute (p : Packet) (r : Request)
    (d : Device σ (WatchedServos β) (WatchedInputs γ) δ) :
    d.sensors.samples <+: (d.execute p r).2.sensors.samples := by
  cases r with
  | hello => exact ⟨[], by rw [List.append_nil, execute, samples_react_hello]⟩
  | setTargetAngle channel angle =>
    cases found : Channel.ofIndex? channel with
    | none =>
      simp only [execute, found]
      exact List.prefix_refl _
    | some c =>
      simp only [execute, found]
      exact List.prefix_refl _
  | setPowerRelay value =>
    by_cases on : value = 1
    · simp only [execute, on, if_true]
      exact List.prefix_refl _
    · by_cases off : value = 0
      · simp only [execute, off, if_true]
        exact List.prefix_refl _
      · simp only [execute, on, off, if_false]
        exact List.prefix_refl _
  | setAngleCalibrations | getAngleCalibrations | heartbeat => exact List.prefix_refl _
  | getCurrent | getVoltage | getSensor => exact List.prefix_append _ _

theorem samples_react (p : Packet) (d : Device σ (WatchedServos β) (WatchedInputs γ) δ) :
    d.sensors.samples <+: (d.react p).2.sensors.samples := by
  unfold react
  split
  · exact ⟨[], by rw [List.append_nil, samples_react_hello]⟩
  split
  · split
    · exact samples_execute p _ d
    · exact List.prefix_refl _
    · exact List.prefix_refl _
  · exact List.prefix_refl _

end Samples

end Device

abbrev WatchedTraffic (β γ δ : Type) := Traffic (WatchedServos β) (WatchedInputs γ) δ

namespace Traffic

theorem issued_next (issued : List Packet) (p : Packet) (rest : List Packet)
    (order : (p :: rest).Sublist issued) :
    ∃ i, issued[i]? = some p ∧ (i + 1 = issued.length → rest = []) := by
  obtain ⟨front, back, rfl, member, later⟩ := List.cons_sublist_iff.mp order
  obtain ⟨before, behind, rfl⟩ := List.append_of_mem member
  refine ⟨before.length, by simp, ?_⟩
  intro latest
  have none : back = [] := by
    apply List.eq_nil_of_length_eq_zero
    simp only [List.length_append, List.length_cons] at latest
    omega
  rw [none] at later
  exact List.sublist_nil.mp later

variable {β γ δ : Type}

theorem send_frame (p : Packet) (t : Traffic β γ δ) :
    t.send p.frame = { t with toDevice := t.toDevice ++ [p], issued := t.issued ++ [p] } := by
  unfold send
  rw [Packet.of_frame_frame]
  rfl

section Reach

variable (t : Traffic β γ δ)

theorem reach_nil (next : t.toDevice = []) : t.reach = t := by
  unfold reach
  rw [next]

variable (p : Packet) (rest : List Packet)

theorem reach_cons (next : t.toDevice = p :: rest) : t.reach = { t with
    device := t.device.relink
      { t.device.link with line.inbox := t.device.link.line.inbox ++ p.frame }
    toDevice := rest } := by
  unfold reach
  rw [next]
  rfl

theorem waiting_reach (clean : t.device.Clean) (next : t.toDevice = p :: rest) :
    t.reach.device.link.rx.bytes ++ t.reach.device.link.line.inbox = [] ++ p.frame := by
  rw [reach_cons t p rest next]
  change t.device.link.rx.bytes ++ (t.device.link.line.inbox ++ p.frame) = _
  rw [clean.received, clean.inbox]
  rfl

end Reach

variable [ServoBank β] [AnalogSensors γ] [PowerRelay δ]

section Polling

variable (t : Traffic β γ δ)

theorem polled_idle (clean : t.device.Clean) : t.polled = t := by
  have idle := Device.poll_idle t.device clean.received clean.inbox
  have outbox : { t.device with link.line.outbox := [] } = t.device := by rw [← clean.outbox]
  unfold polled
  rw [idle]
  dsimp only
  rw [outbox, clean.outbox]
  change { t with toHost := t.toHost ++ [] } = t
  rw [List.append_nil]

variable (p : Packet) (rest : List Packet)

theorem react_reach (reaction : Device.Reaction) (after : Device Line.Queue β γ δ)
    (next : t.toDevice = p :: rest) (reacted : t.device.react p = (reaction, after)) :
    t.reach.device.react p = (reaction, after.relink t.reach.device.link) := by
  rw [reach_cons t p rest next, Device.react_relink, reacted]
  rfl

variable (after : Device Line.Queue β γ δ)

theorem reached_replied (command : Command) (reply : Packet) (clean : t.device.Clean)
    (next : t.toDevice = p :: rest) (reacted : t.device.react p = (.reply command reply, after)) :
    ∃ device', device'.Clean ∧ device'.Alike after ∧ t.reach.polled =
      { t with device := device', toDevice := rest, toHost := t.toHost ++ [reply] } := by
  have answered := Device.poll_replied [] p reply command t.reach.device _ List.not_mem_nil
    (waiting_reach t p rest clean next) (react_reach t p rest _ after next reacted)
  have written : t.reach.device.poll.2.link.line.outbox = reply.frame := by
    rw [answered, reach_cons t p rest next]
    change t.device.link.line.outbox ++ reply.frame = _
    rw [clean.outbox, List.nil_append]
  refine ⟨{ t.reach.device.poll.2 with link.line.outbox := [] }, ?_, ?_, ?_⟩
  · rw [answered]
    exact ⟨rfl, rfl, rfl⟩
  · rw [answered]
    exact ⟨rfl, rfl, rfl, rfl, rfl⟩
  · unfold polled
    rw [written, Packet.of_frame_frame, reach_cons t p rest next]
    rfl

theorem reached_ignored (reason : IgnoreReason) (clean : t.device.Clean)
    (next : t.toDevice = p :: rest) (reacted : t.device.react p = (.ignore reason, after)) :
    ∃ device', device'.Clean ∧ device'.Alike after ∧ t.reach.polled =
      { t with device := device', toDevice := rest } := by
  have answered := Device.poll_ignored [] p reason t.reach.device _ List.not_mem_nil
    (waiting_reach t p rest clean next) (react_reach t p rest _ after next reacted)
  have written : t.reach.device.poll.2.link.line.outbox = [] := by
    rw [answered, reach_cons t p rest next]
    exact clean.outbox
  refine ⟨{ t.reach.device.poll.2 with link.line.outbox := [] }, ?_, ?_, ?_⟩
  · rw [answered]
    exact ⟨rfl, rfl, rfl⟩
  · rw [answered]
    exact ⟨rfl, rfl, rfl, rfl, rfl⟩
  · unfold polled
    rw [written, reach_cons t p rest next]
    change { t with
      device := _
      toDevice := rest
      toHost := t.toHost ++ [] } = _
    rw [List.append_nil]

end Polling

def Answered (earlier : List (Input × Option Single)) (p reply : Packet)
    (d : Device Line.Queue (WatchedServos β) (WatchedInputs γ) δ) : Prop :=
  ∃ (before : Device Line.Queue (WatchedServos β) (WatchedInputs γ) δ) (command : Command)
    (after : Device Line.Queue (WatchedServos β) (WatchedInputs γ) δ),
    before.react p = (.reply command reply, after) ∧ d.Alike after ∧
      earlier <+: before.sensors.samples

def Settles (earlier : List (Input × Option Single)) (t : WatchedTraffic β γ δ) (reply : Packet) :
    Prop :=
  ∃ i p, t.issued[i]? = some p ∧ reply.seq = p.seq ∧
    (i + 1 = t.issued.length → t.toDevice = [] ∧ Answered earlier p reply t.device)

-- The packets on their way to the device are some of those that were sent, in that order, and every
-- reply answers one of them. With the reply to the latest on its way nothing is left for the
-- device. The reply `held` is one that the host has or is reading.
structure Safe (config : DeviceConfig) (earlier : List (Input × Option Single))
    (held : List Packet) (t : WatchedTraffic β γ δ) : Prop where
  clean : t.device.Clean
  config : t.device.config = config
  order : t.toDevice.Sublist t.issued
  replies : ∀ reply ∈ held ++ t.toHost, Settles earlier t reply
  since : earlier <+: t.device.sensors.samples

section Safety

variable (config : DeviceConfig) (earlier : List (Input × Option Single)) (held : List Packet)
  (t : WatchedTraffic β γ δ)

theorem safe_reached (safe : Safe config earlier held t) (p : Packet) (rest : List Packet)
    (next : t.toDevice = p :: rest) : Safe config earlier held t.reach.polled := by
  have order := safe.order
  rw [next] at order
  have samples := Device.samples_react p t.device
  have config' := (Device.gate_react p t.device).1
  -- The latest packet is still on its way, so no reply so far is the answer to it.
  have busy (later : WatchedTraffic β γ δ) (issued : later.issued = t.issued) (reply : Packet)
      (member : reply ∈ held ++ t.toHost) : Settles earlier later reply := by
    obtain ⟨i, q, sent, seq, rested⟩ := safe.replies reply member
    rw [next] at rested
    rw [← issued] at sent rested
    exact ⟨i, q, sent, seq, fun latest => absurd (rested latest).1 (List.cons_ne_nil _ _)⟩
  rcases reacted : t.device.react p with ⟨reaction, after⟩
  rw [reacted] at samples config'
  cases reaction with
  | reply command reply =>
    obtain ⟨device', clean, alike, polled⟩ :=
      reached_replied t p rest after command reply safe.clean next reacted
    rw [polled]
    refine ⟨clean, (alike.config.trans config').trans safe.config,
      (List.sublist_cons_self p rest).trans order, ?_, ?_⟩
    · intro other member
      rw [← List.append_assoc, List.mem_append, List.mem_singleton] at member
      rcases member with member | rfl
      · refine busy _ ?_ other member
        rfl
      · obtain ⟨i, sent, last⟩ := issued_next t.issued p rest order
        exact ⟨i, p, sent, Device.seq_react p other command _ _ reacted, fun latest =>
          ⟨last latest, t.device, command, after, reacted, alike, safe.since⟩⟩
    · rw [alike.sensors]
      exact safe.since.trans samples
  | ignore reason =>
    obtain ⟨device', clean, alike, polled⟩ :=
      reached_ignored t p rest after reason safe.clean next reacted
    rw [polled]
    refine ⟨clean, (alike.config.trans config').trans safe.config,
      (List.sublist_cons_self p rest).trans order, ?_, ?_⟩
    · intro other member
      refine busy _ ?_ other member
      rfl
    · rw [alike.sensors]
      exact safe.since.trans samples

theorem safe_happen (safe : Safe config earlier held t) (event : LineEvent) :
    Safe config earlier held (t.happen event) ∧ (t.happen event).issued = t.issued := by
  cases event with
  | byte => exact ⟨safe, rfl⟩
  | silence => exact ⟨safe, rfl⟩
  | loseToDevice index =>
    refine ⟨⟨safe.clean, safe.config, (List.eraseIdx_sublist _ _).trans safe.order, ?_,
      safe.since⟩, rfl⟩
    intro reply member
    obtain ⟨i, p, sent, seq, rested⟩ := safe.replies reply member
    refine ⟨i, p, sent, seq, fun latest => ⟨?_, (rested latest).2⟩⟩
    change t.toDevice.eraseIdx index = []
    rw [(rested latest).1]
    rfl
  | loseToHost index =>
    refine ⟨⟨safe.clean, safe.config, safe.order, ?_, safe.since⟩, rfl⟩
    intro reply member
    refine safe.replies reply ?_
    rw [List.mem_append] at member ⊢
    exact member.imp id fun there => (List.eraseIdx_sublist _ _).subset there
  | poll reached =>
    have idle : t.polled = t := polled_idle t safe.clean
    cases reached with
    | false =>
      change Safe config earlier held t.polled ∧ t.polled.issued = t.issued
      rw [idle]
      exact ⟨safe, rfl⟩
    | true =>
      cases next : t.toDevice with
      | nil =>
        change Safe config earlier held t.reach.polled ∧ t.reach.polled.issued = t.issued
        rw [reach_nil t next, idle]
        exact ⟨safe, rfl⟩
      | cons p rest =>
        refine ⟨safe_reached config earlier held t safe p rest next, ?_⟩
        change t.reach.issued = t.issued
        rw [reach_cons t p rest next]

end Safety

end Traffic

end LegLink
