import LegLink.Proofs.Greeting

set_option autoImplicit false

namespace LegLink.Handshake

section Splits

variable {α : Type} (enters : List α → α → Prop) (keeps : α → Prop)

-- The state that a history ends in was entered by one of its events and left alone by all behind
-- that one, so that each state is told by a split of the history.
def Since (l : List α) : Prop :=
  ∃ before x behind, l = before ++ x :: behind ∧ enters before x ∧ ∀ y ∈ behind, keeps y

theorem since_nil : ¬ Since enters keeps [] := by simp [Since]

theorem since_cons (x : α) (l : List α) :
    Since enters keeps (x :: l) ↔
      (enters [] x ∧ ∀ y ∈ l, keeps y) ∨ Since (fun before => enters (x :: before)) keeps l := by
  constructor
  · rintro ⟨before, y, behind, split, entered, kept⟩
    cases before with
    | nil =>
      obtain ⟨rfl, rfl⟩ := List.cons_eq_cons.mp split
      exact .inl ⟨entered, kept⟩
    | cons first before =>
      obtain ⟨rfl, rfl⟩ := List.cons_eq_cons.mp split
      exact .inr ⟨before, y, behind, rfl, entered, kept⟩
  · rintro (⟨entered, kept⟩ | ⟨before, y, behind, rfl, entered, kept⟩)
    · exact ⟨[], x, l, rfl, entered, kept⟩
    · exact ⟨x :: before, y, behind, rfl, entered, kept⟩

end Splits

namespace State

def after (s : State) (events : List Event) : State := events.foldl next s

theorem after_nil (s : State) : s.after [] = s := rfl

theorem after_cons (s : State) (e : Event) (events : List Event) :
    s.after (e :: events) = (s.next e).after events := rfl

theorem after_append (s : State) (events later : List Event) :
    s.after (events ++ later) = (s.after events).after later := List.foldl_append

def EnteredBy (t : State) (enters : State → Event → Prop) (keeps : Event → Prop) : Prop :=
  ∀ s e, s.next e = t ↔ enters s e ∨ s = t ∧ keeps e

theorem idle_entered_by :
    idle.EnteredBy (fun s e => s.isTerminal ∧ e = .retry) (· ≠ .helloSent) := by
  intro s e
  cases s <;> cases e <;> simp [next, isTerminal]

theorem awaiting_response_entered_by : awaitingResponse.EnteredBy
    (fun s e => s = .idle ∧ e = .helloSent) (fun e => e = .helloSent ∨ e = .retry) := by
  intro s e
  cases s <;> cases e <;> simp [next]

theorem outcome_entered_by (o : Outcome) :
    o.state.EnteredBy (fun s e => s = .awaitingResponse ∧ e = o.event) (· ≠ .retry) := by
  intro s e
  cases o <;> cases s <;> cases e <;> simp [next, Outcome.state, Outcome.event]

theorem after_eq_iff (s t : State) (enters : State → Event → Prop) (keeps : Event → Prop)
    (entered : t.EnteredBy enters keeps) (events : List Event) :
    s.after events = t ↔ (s = t ∧ ∀ e ∈ events, keeps e) ∨
      Since (fun before e => enters (s.after before) e) keeps events := by
  -- By induction on the events: the first enters the state, keeps it, or leaves it to later ones.
  induction events generalizing s with
  | nil => simp [after, since_nil]
  | cons e events ih =>
    rw [after_cons, ih, entered, since_cons, List.forall_mem_cons]
    simp only [after_cons, after_nil]
    tauto

theorem exists_outcome (s : State) (ended : s.isTerminal) : ∃ o : Outcome, o.state = s := by
  cases s with
  | idle | awaitingResponse => simp [isTerminal] at ended
  | accepted ack => exact ⟨.accepted ack, rfl⟩
  | rejected reason => exact ⟨.rejected reason, rfl⟩
  | timedOut => exact ⟨.timedOut, rfl⟩

theorem after_terminal (s : State) (late : List Event) (ended : s.isTerminal)
    (kept : .retry ∉ late) : s.after late = s := by
  obtain ⟨o, rfl⟩ := exists_outcome s ended
  rw [after_eq_iff _ _ _ _ (outcome_entered_by o)]
  exact .inl ⟨rfl, List.forall_mem_ne'.mpr kept⟩

theorem next_event (s : State) (o : Outcome) (closed : s ≠ .awaitingResponse) :
    s.next o.event = s := by
  cases s with
  | awaitingResponse => exact absurd rfl closed
  | idle | accepted | rejected | timedOut => cases o <;> rfl

end State

def Outstanding (events : List Event) : Prop :=
  ∃ before behind, events = before ++ [.helloSent] ++ behind ∧ State.idle.after before = .idle ∧
    ∀ e ∈ behind, e = .helloSent ∨ e = .retry

def SettledBy (answer : Event) (events : List Event) : Prop :=
  ∃ before between behind,
    events = before ++ [.helloSent] ++ between ++ [answer] ++ behind ∧
    State.idle.after before = .idle ∧ (∀ e ∈ between, e = .helloSent ∨ e = .retry) ∧
    .retry ∉ behind

namespace State

section History

variable (events : List Event)

theorem after_awaiting_response_iff :
    idle.after events = .awaitingResponse ↔ Outstanding events := by
  rw [after_eq_iff _ _ _ _ awaiting_response_entered_by]
  constructor
  · rintro (⟨start, -⟩ | ⟨before, e, behind, rfl, ⟨closed, rfl⟩, kept⟩)
    · exact nomatch start
    · exact ⟨before, behind, by simp, closed, kept⟩
  · rintro ⟨before, behind, rfl, closed, kept⟩
    exact .inr ⟨before, .helloSent, behind, by simp, ⟨closed, rfl⟩, kept⟩

theorem after_outcome_iff (o : Outcome) :
    idle.after events = o.state ↔ SettledBy o.event events := by
  rw [after_eq_iff _ _ _ _ (outcome_entered_by o)]
  constructor
  · rintro (⟨start, -⟩ | ⟨front, e, behind, rfl, ⟨awaited, rfl⟩, kept⟩)
    · cases o <;> exact nomatch start
    · obtain ⟨before, between, rfl, closed, early⟩ := (after_awaiting_response_iff front).mp awaited
      exact ⟨before, between, behind, by simp, closed, early, List.forall_mem_ne'.mp kept⟩
  · rintro ⟨before, between, behind, rfl, closed, early, kept⟩
    have awaited := (after_awaiting_response_iff _).mpr ⟨before, between, rfl, closed, early⟩
    exact .inr ⟨_, o.event, behind, by simp, ⟨awaited, rfl⟩, List.forall_mem_ne'.mpr kept⟩

theorem after_idle_iff :
    idle.after events = .idle ↔ .helloSent ∉ events ∨
      ∃ before behind, events = before ++ [.retry] ++ behind ∧ (idle.after before).isTerminal ∧
        .helloSent ∉ behind := by
  rw [after_eq_iff _ _ _ _ idle_entered_by, List.forall_mem_ne']
  constructor
  · rintro (⟨-, none⟩ | ⟨before, e, behind, rfl, ⟨ended, rfl⟩, kept⟩)
    · exact .inl none
    · exact .inr ⟨before, behind, by simp, ended, List.forall_mem_ne'.mp kept⟩
  · rintro (none | ⟨before, behind, rfl, ended, kept⟩)
    · exact .inl ⟨rfl, none⟩
    · exact .inr ⟨before, .retry, behind, by simp, ⟨ended, rfl⟩, List.forall_mem_ne'.mpr kept⟩

/-- A history ends in a verdict exactly if it splits at a HELLO that an idle session sent and at the
first answer to it, with no retry behind that. Later answers and HELLOs do not change a verdict, and
an answer counts exactly while an exchange is open. -/
theorem ends_by_first_answer :
    (∀ ack, idle.after events = .accepted ack ↔ SettledBy (.ackReceived ack) events) ∧
    (∀ reason, idle.after events = .rejected reason ↔ SettledBy (.rejected reason) events) ∧
    (idle.after events = .timedOut ↔ SettledBy .replyTimeout events) ∧
    (idle.after events = .awaitingResponse ↔ Outstanding events) ∧
    (idle.after events = .idle ↔ .helloSent ∉ events ∨
      ∃ before behind, events = before ++ [.retry] ++ behind ∧ (idle.after before).isTerminal ∧
        .helloSent ∉ behind) ∧
    (∀ late, (idle.after events).isTerminal → .retry ∉ late →
      idle.after (events ++ late) = idle.after events) ∧
    ∀ o : Outcome,
      (Outstanding events → idle.after (events ++ [o.event]) = o.state) ∧
      (¬ Outstanding events → idle.after (events ++ [o.event]) = idle.after events) := by
  refine ⟨?accepted, ?rejected, ?timedOut, after_awaiting_response_iff events,
    after_idle_iff events, ?late, ?answer⟩
  case accepted => exact fun ack => after_outcome_iff events (.accepted ack)
  case rejected => exact fun reason => after_outcome_iff events (.rejected reason)
  case timedOut => exact after_outcome_iff events .timedOut
  case late =>
    intro late ended kept
    rw [after_append, after_terminal _ late ended kept]
  case answer =>
    intro o
    rw [after_append, after_cons, after_nil, ← after_awaiting_response_iff]
    constructor
    · intro awaited
      rw [awaited, next_outcome]
    · exact next_event _ o

end History

theorem ends_by_first_answer_late :
    let stray : HelloAck := ⟨1, 0, 9⟩
    let ack : HelloAck := ⟨1, 0, 7⟩
    let opened : List Event := [.ackReceived stray, .helloSent, .retry, .helloSent]
    let late : List Event :=
      [.rejected .malformedAck, .helloSent, .ackReceived stray, .replyTimeout]
    Outstanding opened ∧ idle.after (opened ++ [.ackReceived ack]) = .accepted ack ∧
      idle.after (opened ++ [.ackReceived ack] ++ late) = .accepted ack := by
  intro stray ack opened late
  obtain ⟨-, -, -, -, -, -, answers⟩ := ends_by_first_answer opened
  have outstanding : Outstanding opened :=
    ⟨[.ackReceived stray], [.retry, .helloSent], rfl, rfl, by simp⟩
  have accepted := (answers (.accepted ack)).1 outstanding
  obtain ⟨-, -, -, -, -, stands, -⟩ := ends_by_first_answer (opened ++ [.ackReceived ack])
  have ended : (idle.after (opened ++ [.ackReceived ack])).isTerminal :=
    congrArg isTerminal accepted
  refine ⟨outstanding, accepted, ?_⟩
  rw [stands late ended (by simp [late])]
  exact accepted

end State
end LegLink.Handshake
