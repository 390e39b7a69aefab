import LegLink.Proofs.Answering

set_option autoImplicit false

namespace LegLink.Device

variable {σ ε β γ δ : Type} [ServoBank β] [AnalogSensors γ] [PowerRelay δ]

theorem react_rewired (p : Packet) (d : Device σ β γ δ) (other : σ) :
    react p { d with link.line := other } =
      ((d.react p).1, { (d.react p).2 with link.line := other }) := by
  simp only [link_react p d]
  exact react_relink p d { d.link with line := other }

theorem hardware_replied (p reply : Packet) (command : Command) (d d' : Device σ β γ δ)
    (reacted : d.react p = (.reply command reply, d')) :
    d'.hardware = HardwareCall.runAll p.requested d.hardware := by
  have outcome : (d.react p).2 = d' := congrArg Prod.snd reacted
  cases gate : d.gate with
  | opened =>
    rw [← outcome]
    exact hardware_react p d gate
  | closed =>
    by_cases hello : p.cmd = Command.hello.code
    · rw [← outcome, react, if_pos hello, p.requested_hello hello]
      exact hardware_react_hello p d
    · rw [react_gated p d gate hello] at reacted
      cases reacted

variable [Transport σ ε]

theorem calls_write (data : Bytes) (r r' : Line.Recorded σ) (result : Except ε Unit)
    (written : Transport.write data r = (result, r')) : r'.calls = r.calls ++ [.write data] := by
  obtain ⟨_, rfl⟩ := Prod.mk.inj written
  rfl

-- If the other line refuses the reply, the packet is carried out all the same and not counted.
def FaresAlike (p : Packet) (d : Device (Line.Recorded σ) β γ δ) (other : Line.Recorded σ) : Prop :=
  let kept := d.handle p
  let lost := handle p { d with link.line := other }
  match kept.1 with
  | .ok (.ignored reason) =>
    kept.2.link = d.link ∧ lost = (.ok (.ignored reason), { kept.2 with link.line := other })
  | .ok (.handled _) => ∃ reply : Packet,
    kept.2.link.line.calls = d.link.line.calls ++ [.write reply.frame] ∧
    kept.2.stats.handled = d.stats.handled + 1 ∧
    ∀ e line, Transport.write reply.frame other = (.error e, line) →
      lost = (.error e, { kept.2 with link.line := line, stats.handled := d.stats.handled }) ∧
      line.calls = other.calls ++ [.write reply.frame] ∧
      lost.2.hardware = HardwareCall.runAll p.requested d.hardware ∧
      (Opens d.config p → lost.2.gate = .opened)
  | .ok .idle => False
  | .error e => ∃ (reply : Packet) (line : Line.Recorded σ),
    Transport.write reply.frame d.link.line = (.error e, line)

theorem handle_fares_alike (p : Packet) (d : Device (Line.Recorded σ) β γ δ)
    (other : Line.Recorded σ) : FaresAlike p d other := by
  have moved := react_rewired p d other
  have stays := link_react p d
  have counted := stats_react p d
  have gate := (gate_react p d).2
  unfold FaresAlike
  rcases reacted : d.react p with ⟨reaction, d'⟩
  rw [reacted] at moved stays counted gate
  dsimp only at moved stays counted gate
  cases reaction with
  | ignore reason =>
    rw [handle_ignored p reason d d' reacted, handle_ignored p reason _ _ moved]
    exact ⟨stays, rfl⟩
  | reply command reply =>
    rcases written : Transport.write reply.frame d.link.line with ⟨result, line⟩
    have sent := Link.send_packet_written reply d.link result line written
    cases result with
    | error e =>
      rw [handle_failed p reply command d d' _ e reacted sent]
      exact ⟨reply, line, written⟩
    | ok =>
      rw [handle_sent p reply command d d' _ reacted sent]
      refine ⟨reply, calls_write reply.frame _ line _ written, ?_, ?_⟩
      · rw [counted]
      · intro e line' refused
        have unsent := Link.send_packet_written reply { d.link with line := other } _ line' refused
        rw [handle_failed p reply command _ _ _ e moved unsent]
        refine ⟨?_, calls_write reply.frame other line' _ refused, ?_, ?_⟩
        · rw [counted]
        · exact hardware_replied p reply command d d' reacted
        · exact fun opens => gate.mpr (.inr opens)

/-- A lost reply changes nothing but the count of packets handled, in every state of a device and on
any two lines, with the calls on the lines kept. -/
theorem lost_reply (p : Packet) (d : Device (Line.Recorded σ) β γ δ) (other : Line.Recorded σ) :
    d.unrecorded.handle p = ((d.handle p).1, (d.handle p).2.unrecorded) ∧ FaresAlike p d other :=
  ⟨handle_unrecorded p d, handle_fares_alike p d other⟩

theorem lost_reply_relay :
    let p := (Request.setPowerRelay 1).packet 5
    let script : Line.Script := { byteTimeout := ⟨0⟩ }
    let d : Device (Line.Recorded Line.Script) ServoLog SensorLog RelayLog :=
      { link := { line := { line := script } }, servos := {}, sensors := {}, relay := {},
        gate := .opened }
    let lost := handle p { d with link.line.line.writesLeft := some 0 }
    (d.handle p).1 = .ok (.handled .setPowerRelay) ∧ (d.handle p).2.stats.handled = 1 ∧
      lost.1 = .error .write ∧ lost.2.relay.writes = [true] ∧ lost.2.stats.handled = 0 := by
  intro p script d lost
  have handled : (d.handle p).1 = .ok (.handled .setPowerRelay) := rfl
  obtain ⟨_, fares⟩ := lost_reply p d { line := { script with writesLeft := some 0 } }
  simp only [FaresAlike, handled] at fares
  obtain ⟨reply, _, counted, refused⟩ := fares
  obtain ⟨failed, _, carried, _⟩ := refused .write _ rfl
  refine ⟨handled, counted, ?_, ?_, ?_⟩
  · exact congrArg Prod.fst failed
  · exact congrArg (fun h : Hardware ServoLog SensorLog RelayLog => h.relay.writes) carried
  · exact congrArg (fun outcome => outcome.2.stats.handled) failed

end LegLink.Device
