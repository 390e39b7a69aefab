import LegLink.CommandLine
import LegLink.Proofs.ChannelGrammar

set_option autoImplicit false

namespace LegLink

namespace Decimal

theorem digits_of_digit_chars (text : List Char) (n : Nat) (digits : ∀ c ∈ text, c.isDigit) :
    digits? n text = some (Nat.ofDigitChars 10 text n) := by
  induction text generalizing n with
  | nil => rfl
  | cons c rest ih =>
    rw [List.forall_mem_cons] at digits
    rw [digits?, digit?, if_pos digits.1, Option.bind_some, ih _ digits.2, Nat.ofDigitChars_cons,
      Nat.mul_comm n]
    rfl

theorem is_digit_of_mem_repr (n : Nat) (c : Char) (member : c ∈ n.repr.toList) : c.isDigit := by
  rw [Nat.toList_repr] at member
  exact Nat.isDigit_of_mem_toDigits (by decide) (by decide) member

theorem numeral_repr (n : Nat) : Numeral n n.repr.toList := by
  have digits := is_digit_of_mem_repr n
  have read : nat? n.repr.toList = some n := by
    rw [nat?, digits_of_digit_chars _ _ digits, Nat.toList_repr, Nat.ofDigitChars_ten_toDigits]
    simp
  exact ⟨[], _, rfl, .inl rfl, (nat_eq_some_iff _ n).mp read⟩

theorem int_of_unsigned (text : List Char) (n : Nat) (digits : ∀ c ∈ text, c.isDigit)
    (read : unsigned? text = some n) : int? text = some (n : Int) := by
  fun_cases int? text with
  | case1 rest => exact absurd (digits '-' List.mem_cons_self) (by decide)
  | case2 => simp [read]

end Decimal

namespace CommandLine

theorem number_repr (limit n : Nat) (small : n < limit) :
    Overrides.number limit n.repr = .ok n := by
  have read := (Decimal.unsigned_eq_some_iff _ _).mpr (Decimal.numeral_repr n)
  have whole := Decimal.int_of_unsigned _ n (Decimal.is_digit_of_mem_repr n) read
  simp only [Overrides.number, whole, if_pos small]

def Plain (text : String) : Prop := text.toList.head? ≠ some '-'

theorem plain_repr (n : Nat) : Plain n.repr := by
  intro hyphen
  have member := List.mem_of_mem_head? hyphen
  exact absurd (Decimal.is_digit_of_mem_repr n '-' member) (by decide)

theorem plain_joint (j : Joint) : Plain j.name := by
  rw [Plain, Joint.name, String.toList_ofList]
  cases j.side <;> simp [Side.letter]

theorem plain_verb (v : Verb) : Plain v.name := by
  cases v <;> simp [Plain, Verb.name]

theorem Plain.ne_hyphens (text : String) (plain : Plain text) : text ≠ "--" := by
  rintro rfl
  simp [Plain] at plain

theorem take_option_plain (s : State) (text : String) (plain : Plain text) :
    s.takeOption? text = none := by
  unfold Plain at plain
  fun_cases State.takeOption? s text with
  | case1 rest split => simp [split] at plain
  | case2 letter rest _ split => simp [split] at plain
  | case3 => rfl

def Switch.long : Switch → String
  | config => "config"
  | logLevel => "log-level"
  | port => "port"
  | baud => "baud"
  | help => "help"
  | version => "version"

theorem Switch.of_long_long (switch : Switch) : ofLong? switch.long = some switch := by
  cases switch <;> rfl

def Switch.assigned (switch : Switch) (value : String) : String :=
  "--" ++ switch.long ++ "=" ++ value

theorem split_long_assigned (switch : Switch) (value : String) :
    State.splitLong (switch.long.toList ++ '=' :: value.toList) = (switch.long, some value) := by
  have name : ∀ c ∈ switch.long.toList, decide (c ≠ '=') = true := by
    cases switch <;> simp [Switch.long]
  rw [State.splitLong, List.dropWhile_append_of_pos name, List.takeWhile_append_of_pos name]
  simp

theorem to_list_assigned (switch : Switch) (value : String) :
    (switch.assigned value).toList = '-' :: '-' :: (switch.long.toList ++ '=' :: value.toList) := by
  simp [Switch.assigned]

theorem take_option_assigned (s : State) (switch : Switch) (value : String) :
    s.takeOption? (switch.assigned value) = some (s.takeSwitch switch (some value)) := by
  simp only [State.takeOption?, to_list_assigned, State.takeLong, split_long_assigned,
    Switch.of_long_long]

theorem assigned_ne_hyphens (switch : Switch) (value : String) : switch.assigned value ≠ "--" := by
  intro same
  have text := congrArg String.toList same
  simp [to_list_assigned] at text

theorem before_name_assigned (o : Overrides) (switch : Switch) (value : String) (rest : List String)
    (valued : switch.request? = none) :
    beforeName false (switch.assigned value :: rest) { overrides := o } =
      (o.set switch value).bind fun o => beforeName false rest { overrides := o } := by
  have taken : ({ overrides := o } : State).takeSwitch switch (some value) =
      (o.set switch value).map fun overrides => { overrides } := by
    simp only [State.takeSwitch, valued]
    rfl
  simp only [beforeName, take_option_assigned, assigned_ne_hyphens, taken]
  cases o.set switch value <;> rfl

namespace Overrides

def settings (o : Overrides) : List (Switch × String) :=
  (o.config.map (Switch.config, ·)).toList ++ (o.logLevel.map (Switch.logLevel, ·)).toList ++
    (o.port.map (Switch.port, ·)).toList ++ (o.baud.map (Switch.baud, ·.toNat.repr)).toList

def setAll (settings : List (Switch × String)) (o : Overrides) : Except Refusal Overrides :=
  settings.foldlM (fun o setting => o.set setting.1 setting.2) o

theorem request_settings (o : Overrides) (setting : Switch × String)
    (member : setting ∈ o.settings) : setting.1.request? = none := by
  simp only [settings, List.mem_append, Option.mem_toList, Option.map_eq_some_iff] at member
  rcases member with ((⟨_, -, rfl⟩ | ⟨_, -, rfl⟩) | ⟨_, -, rfl⟩) | ⟨_, -, rfl⟩ <;> rfl

theorem set_all_append (settings later : List (Switch × String)) (o : Overrides) :
    setAll (settings ++ later) o = (setAll settings o).bind (setAll later) := List.foldlM_append

theorem set_all_settings (o : Overrides) (named : o.config ≠ some "") :
    setAll o.settings {} = .ok o := by
  rcases o with ⟨config, logLevel, port, baud⟩
  have first : setAll (config.map (Switch.config, ·)).toList {} = .ok { config } := by
    cases config with
    | none => rfl
    | some path =>
      have named : path ≠ "" := fun empty => named (congrArg some empty)
      simp [setAll, set, named]
  have second : setAll (logLevel.map (Switch.logLevel, ·)).toList { config } =
      .ok { config, logLevel } := by
    cases logLevel <;> rfl
  have third : setAll (port.map (Switch.port, ·)).toList { config, logLevel } =
      .ok { config, logLevel, port } := by
    cases port <;> rfl
  have last : setAll (baud.map (Switch.baud, ·.toNat.repr)).toList { config, logLevel, port } =
      .ok { config, logLevel, port, baud } := by
    cases baud with
    | none => rfl
    | some rate =>
      simp [setAll, set, number_repr _ _ rate.toNat_lt, Except.map]
  simp only [settings, set_all_append, first, second, third, last, Except.bind]

end Overrides

theorem before_name_settings (settings : List (Switch × String)) (o : Overrides)
    (rest : List String) (valued : ∀ setting ∈ settings, setting.1.request? = none) :
    beforeName false (settings.map (fun setting => setting.1.assigned setting.2) ++ rest)
        { overrides := o } =
      (Overrides.setAll settings o).bind fun o => beforeName false rest { overrides := o } := by
  induction settings generalizing o with
  | nil => rfl
  | cons setting settings ih =>
    rw [List.forall_mem_cons] at valued
    rw [List.map_cons, List.cons_append, before_name_assigned _ _ _ _ valued.1, Overrides.setAll,
      List.foldlM_cons]
    cases o.set setting.1 setting.2 with
    | error why => rfl
    | ok o' => exact ih o' valued.2

section Operands

variable (verb : Verb) (s s' : State)

theorem after_name_operand (kind : Operand) (left : List Operand) (text : String)
    (rest : List String) (plain : Plain text) (placed : ∀ switch, s.pending ≠ .awaiting switch)
    (settled : s.settle = .ok s') :
    afterName verb false (kind :: left) (text :: rest) s =
      afterName verb false left rest { s' with pending := .operand kind text } := by
  simp only [afterName, take_option_plain s text plain, plain.ne_hyphens, if_false, settled]
  rfl

theorem after_name_nil (left : List Operand) (task : Task) (settled : s.settle = .ok s')
    (done : s'.task? verb = some task) :
    afterName verb false left [] s = .ok { task, overrides := s'.overrides } := by
  simp only [afterName, settled, bind, Except.bind, done]

theorem settle_channel (c : Channel) :
    State.settle { s with pending := .operand .channel (Joint.ofChannel c).name } =
      .ok { s with pending := .nothing, channel := some c } := by
  have read := Channel.parse_name (Joint.ofChannel c)
  rw [Joint.channel_of_channel] at read
  simp only [State.settle, State.setOperand, read]

theorem settle_angle (degrees : UInt16) :
    State.settle { s with pending := .operand .angle degrees.toNat.repr } =
      .ok { s with pending := .nothing, angle := some degrees } := by
  simp [State.settle, State.setOperand, number_repr _ _ degrees.toNat_lt, Except.map]

theorem settle_sensor (channel : UInt8) :
    State.settle { s with pending := .operand .sensor channel.toNat.repr } =
      .ok { s with pending := .nothing, sensor := some channel } := by
  simp [State.settle, State.setOperand, number_repr _ _ channel.toNat_lt, Except.map]

theorem settle_power (on : Bool) :
    State.settle { s with pending := .operand .power (if on then "on" else "off") } =
      .ok { s with pending := .nothing, power := some on } := by
  cases on <;> rfl

end Operands

end CommandLine

namespace Task

open CommandLine

def operands : Task → List String
  | .angle channel degrees => [(Joint.ofChannel channel).name, degrees.toNat.repr]
  | .relay on => [if on then "on" else "off"]
  | .sensor channel => [channel.toNat.repr]
  | ports | handshake | calibrate | calibrations | current | voltage | heartbeat | emulate
  | selftest => []

theorem after_name_operands (t : Task) :
    afterName t.verb false (CommandLine.operands t.verb) t.operands {} =
      .ok { task := t, overrides := {} } := by
  cases t with
  | angle channel degrees =>
    have name := after_name_operand .angle {} {} .channel [.angle] (Joint.ofChannel channel).name
      [degrees.toNat.repr] (plain_joint _) (by simp) rfl
    have number := after_name_operand .angle _ _ .angle [] degrees.toNat.repr [] (plain_repr _)
      (by simp) (settle_channel {} channel)
    exact (name.trans number).trans (after_name_nil .angle _ _ [] _ (settle_angle _ degrees) rfl)
  | relay on =>
    have plain : Plain (if on then "on" else "off") := by
      cases on <;> simp [Plain]
    have word := after_name_operand .relay {} {} .power [] _ [] plain (by simp) rfl
    exact word.trans (after_name_nil .relay _ _ [] _ (settle_power _ on) rfl)
  | sensor channel =>
    have number := after_name_operand .sensor {} {} .sensor [] channel.toNat.repr [] (plain_repr _)
      (by simp) rfl
    exact number.trans (after_name_nil .sensor _ _ [] _ (settle_sensor _ channel) rfl)
  | ports | handshake | calibrate | calibrations | current | voltage | heartbeat | emulate
  | selftest => rfl

end Task

namespace CommandLine

theorem of_name_name (v : Verb) : Verb.ofName? v.name = some v := by
  cases v <;> rfl

theorem before_name_verb (v : Verb) (o later : Overrides) (task : Task) (rest : List String)
    (read : afterName v false (operands v) rest {} = .ok { task, overrides := later }) :
    beforeName false (v.name :: rest) { overrides := o } =
      .ok { task, overrides := o.followedBy later } := by
  have plain := plain_verb v
  simp only [beforeName, take_option_plain _ _ plain, plain.ne_hyphens, of_name_name, read]
  rfl

-- Options are written with their values attached, before the name of the task, so that each is
-- taken where it stands.
def Invocation.arguments (i : Invocation) : List String :=
  i.overrides.settings.map (fun setting => setting.1.assigned setting.2) ++
    i.task.verb.name :: i.task.operands

theorem Overrides.followed_by_nothing (o : Overrides) : o.followedBy {} = o := by
  cases o
  simp [followedBy]

/-- What can be asked for can be written: the arguments are read as what they are written for. -/
theorem parse_arguments (i : Invocation) (named : i.overrides.config ≠ some "") :
    parse i.arguments = .ok i := by
  have valued := i.overrides.request_settings
  have task := before_name_verb _ i.overrides _ _ _ i.task.after_name_operands
  change beforeName false i.arguments { overrides := {} } = _
  rw [Invocation.arguments, before_name_settings _ _ _ valued, Overrides.set_all_settings _ named]
  exact task.trans (by rw [Overrides.followed_by_nothing])

end CommandLine
end LegLink
