import Mathlib.Data.Fintype.Option
import LegLink.Proofs.JointNames
import LegLink.Settings

set_option autoImplicit false

namespace LegLink

def CalibrationEntry.channel? (e : CalibrationEntry) : Option Channel :=
  (Joint.ofName e.name).toOption.map Joint.channel

theorem CalibrationEntry.channel_named (e : CalibrationEntry) (j : Joint)
    (named : Joint.ofName e.name = .ok j) : e.channel? = some j.channel := by
  simp [channel?, named, Except.toOption]

theorem CalibrationEntry.named_channel (e : CalibrationEntry) (c : Channel)
    (sets : e.channel? = some c) : Joint.ofName e.name = .ok (Joint.ofChannel c) := by
  cases named : Joint.ofName e.name with
  | error => simp [channel?, named, Except.toOption] at sets
  | ok j =>
    rw [channel_named e j named, Option.some.injEq] at sets
    rw [← sets, Joint.of_channel_channel]

namespace Settings

def Distinct (l : List CalibrationEntry) : Prop :=
  (∀ e ∈ l, ∃ j, Joint.ofName e.name = .ok j) ∧ (l.map (·.name)).Nodup

inductive Fault (before : List CalibrationEntry) (entry : CalibrationEntry) :
    CalibrationListError → Prop
  | name (error : JointError) (unknown : Joint.ofName entry.name = .error error) :
    Fault before entry (.name entry.name error)
  | repeated (j : Joint) (named : Joint.ofName entry.name = .ok j)
    (earlier : ∃ e ∈ before, Joint.ofName e.name = .ok j) : Fault before entry (.repeated j)

-- The state of the loop after these entries: distinct joints, with their values in the table.
structure Placed (done : List CalibrationEntry) (seen : List Channel) (table : CalibrationTable) :
    Prop where
  distinct : Distinct done
  seen_iff (j : Joint) : j.channel ∈ seen ↔ ∃ e ∈ done, Joint.ofName e.name = .ok j
  holds (e : CalibrationEntry) (j : Joint) (member : e ∈ done)
    (named : Joint.ofName e.name = .ok j) : table.get j.channel = e.calibration

inductive Verdict (l : List CalibrationEntry) : Except CalibrationListError CalibrationTable → Prop
  | table (t : CalibrationTable) (seen : List Channel) (placed : Placed l seen t) :
    Verdict l (.ok t)
  | fault (before after : List CalibrationEntry) (entry : CalibrationEntry)
    (error : CalibrationListError) (split : l = before ++ entry :: after)
    (distinct : Distinct before) (fault : Fault before entry error) : Verdict l (.error error)

theorem placed_nothing (table : CalibrationTable) : Placed [] [] table where
  distinct := ⟨by simp, by simp⟩
  seen_iff j := by simp
  holds e j member := absurd member List.not_mem_nil

section Run

variable (done l : List CalibrationEntry) (seen : List Channel) (table : CalibrationTable)

theorem placed_add (entry : CalibrationEntry) (j : Joint) (placed : Placed done seen table)
    (named : Joint.ofName entry.name = .ok j) (fresh : j.channel ∉ seen) :
    Placed (done ++ [entry]) (j.channel :: seen) (table.set j.channel entry.calibration) := by
  have others : ∀ e ∈ done, Joint.ofName e.name ≠ .ok j := by
    intro e member same
    exact fresh ((placed.seen_iff j).mpr ⟨e, member, same⟩)
  constructor
  case distinct =>
    constructor
    · intro e member
      rcases List.mem_append.mp member with earlier | last
      · exact placed.distinct.1 e earlier
      · rw [List.mem_singleton.mp last]
        exact ⟨j, named⟩
    · have new : entry.name ∉ done.map (·.name) := by
        intro member
        obtain ⟨e, earlier, same⟩ := List.mem_map.mp member
        exact others e earlier (by rw [same, named])
      simpa [List.nodup_append, placed.distinct.2] using new
  case seen_iff =>
    intro k
    by_cases same : k = j
    · simp [same, named]
    · have apart : k.channel ≠ j.channel := fun equal => same ((Joint.channel_inj k j).mp equal)
      have other : j ≠ k := fun equal => same equal.symm
      simp [apart, placed.seen_iff k, named, other, or_and_right, exists_or]
  case holds =>
    intro e k member read
    rw [PerChannel.get_set]
    by_cases same : j = k
    · subst same
      rcases List.mem_append.mp member with earlier | last
      · exact absurd read (others e earlier)
      · simp [List.mem_singleton.mp last]
    · have apart : j.channel ≠ k.channel := fun equal => same ((Joint.channel_inj j k).mp equal)
      rcases List.mem_append.mp member with earlier | last
      · simp [apart, placed.holds e k earlier read]
      · rw [List.mem_singleton.mp last, named] at read
        exact absurd (Except.ok.inj read) same

theorem place_all_verdict (placed : Placed done seen table) :
    Verdict (done ++ l) (placeAll l seen table) := by
  induction l generalizing done seen table with
  | nil =>
    rw [List.append_nil]
    exact .table table seen placed
  | cons entry rest ih =>
    cases named : Joint.ofName entry.name with
    | error e =>
      simp only [placeAll, named]
      exact .fault done rest entry _ rfl placed.distinct (.name e named)
    | ok j =>
      by_cases repeated : j.channel ∈ seen
      · have earlier := (placed.seen_iff j).mp repeated
        simp only [placeAll, named, if_pos repeated]
        exact .fault done rest entry _ rfl placed.distinct (.repeated j named earlier)
      · have next := ih _ _ _ (placed_add done seen table entry j placed named repeated)
        rw [List.append_assoc, List.singleton_append] at next
        simpa only [placeAll, named, if_neg repeated] using next

theorem distinct_not_fault (before after : List CalibrationEntry) (entry : CalibrationEntry)
    (error : CalibrationListError) (distinct : Distinct (before ++ entry :: after)) :
    ¬ Fault before entry error := by
  intro fault
  cases fault with
  | name error unknown =>
    obtain ⟨j, named⟩ := distinct.1 entry (by simp)
    rw [unknown] at named
    cases named
  | repeated j named earlier =>
    obtain ⟨e, member, same⟩ := earlier
    have equal := Joint.of_name_inj e.name entry.name j same named
    have apart := distinct.2
    rw [List.map_append, List.map_cons, List.nodup_append] at apart
    exact apart.2.2 e.name (List.mem_map_of_mem member) entry.name List.mem_cons_self equal

theorem place_all_ok_iff :
    (∃ t, placeAll l [] table = .ok t) ↔ Distinct l := by
  have verdict := place_all_verdict [] l [] table (placed_nothing table)
  rw [List.nil_append] at verdict
  constructor
  · rintro ⟨t, taken⟩
    rw [taken] at verdict
    cases verdict with
    | table _ _ placed => exact placed.distinct
  · intro distinct
    cases result : placeAll l [] table with
    | ok t => exact ⟨t, rfl⟩
    | error error =>
      rw [result] at verdict
      cases verdict with
      | fault before after entry _ split _ fault =>
        rw [split] at distinct
        exact absurd fault (distinct_not_fault before after entry error distinct)

end Run

section Whole

variable (l : List CalibrationEntry) (distinct : Distinct l)

include distinct

theorem nodup_channels : (l.map CalibrationEntry.channel?).Nodup := by
  have names := distinct.2
  rw [List.Nodup, List.pairwise_map] at names ⊢
  apply names.imp_of_mem
  intro a b first second apart same
  obtain ⟨j, named⟩ := distinct.1 a first
  have sets := a.channel_named j named
  have other := b.named_channel j.channel (same.symm.trans sets)
  rw [Joint.of_channel_channel] at other
  exact apart (Joint.of_name_inj a.name b.name j named other)

-- There are no more joints than eighteen, so these are all of them.
theorem count_channel (full : l.length = servoCount) (c : Channel) :
    (l.map CalibrationEntry.channel?).count (some c) = 1 := by
  have nodup := nodup_channels l distinct
  have some_of_mem : (l.map CalibrationEntry.channel?).toFinset ⊆ Finset.univ.erase none := by
    intro channel member
    obtain ⟨e, there, rfl⟩ := List.mem_map.mp (List.mem_toFinset.mp member)
    obtain ⟨j, named⟩ := distinct.1 e there
    simp [e.channel_named j named]
  have card : (Finset.univ.erase (none : Option Channel)).card ≤
      (l.map CalibrationEntry.channel?).toFinset.card := by
    rw [List.toFinset_card_of_nodup nodup, List.length_map, full]
    simp
  have all := Finset.eq_of_subset_of_card_le some_of_mem card
  apply List.count_eq_one_of_mem nodup
  rw [← List.mem_toFinset, all]
  simp

theorem exists_entry (full : l.length = servoCount) (c : Channel) :
    ∃ e ∈ l, Joint.ofName e.name = .ok (Joint.ofChannel c) := by
  have once := count_channel l distinct full c
  have member : some c ∈ l.map CalibrationEntry.channel? := by
    rw [← List.count_pos_iff, once]
    exact Nat.zero_lt_one
  obtain ⟨e, there, sets⟩ := List.mem_map.mp member
  exact ⟨e, there, e.named_channel c sets⟩

end Whole

section Table

variable (s : Settings)

theorem calibration_table_listed (listed : s.calibrations ≠ [])
    (full : s.calibrations.length = servoCount) :
    s.calibrationTable = placeAll s.calibrations [] .factory := by
  simp [calibrationTable, listed, full]

theorem calibration_table_count (listed : s.calibrations ≠ [])
    (other : s.calibrations.length ≠ servoCount) :
    s.calibrationTable = .error (.count s.calibrations.length) := by
  simp [calibrationTable, listed, other]

theorem calibration_table_ok_iff :
    (∃ t, s.calibrationTable = .ok t) ↔
      s.calibrations = [] ∨ s.calibrations.length = servoCount ∧ Distinct s.calibrations := by
  by_cases empty : s.calibrations = []
  · simp [calibrationTable, empty]
  by_cases full : s.calibrations.length = servoCount
  · rw [calibration_table_listed s empty full]
    simpa [empty, full] using place_all_ok_iff s.calibrations .factory
  · simp [calibration_table_count s empty full, empty, full]

theorem placed_of_ok (t : CalibrationTable) (listed : s.calibrations ≠ [])
    (taken : s.calibrationTable = .ok t) :
    s.calibrations.length = servoCount ∧ ∃ seen, Placed s.calibrations seen t := by
  by_cases full : s.calibrations.length = servoCount
  · have verdict := place_all_verdict [] s.calibrations [] .factory (placed_nothing .factory)
    rw [List.nil_append, ← calibration_table_listed s listed full, taken] at verdict
    cases verdict with
    | table _ seen placed => exact ⟨full, seen, placed⟩
  · rw [calibration_table_count s listed full] at taken
    cases taken

theorem table_unique (l other : List CalibrationEntry) (seen seen' : List Channel)
    (t t' : CalibrationTable) (full : l.length = servoCount) (placed : Placed l seen t)
    (placed' : Placed other seen' t') (included : l ⊆ other) : t = t' := by
  apply Vector.ext
  intro i inside
  obtain ⟨e, member, named⟩ := exists_entry l placed.distinct full ⟨i, inside⟩
  have first := placed.holds e _ member named
  have second := placed'.holds e _ (included member) named
  rw [Joint.channel_of_channel] at first second
  exact first.trans second.symm

theorem calibration_table_perm (l : List CalibrationEntry) (t : CalibrationTable)
    (listed : s.calibrations ≠ []) (taken : s.calibrationTable = .ok t)
    (perm : l.Perm s.calibrations) : calibrationTable { s with calibrations := l } = .ok t := by
  obtain ⟨full, seen, placed⟩ := placed_of_ok s t listed taken
  have distinct : Distinct l := by
    refine ⟨fun e member => placed.distinct.1 e (perm.mem_iff.mp member), ?_⟩
    exact (perm.map (·.name)).nodup_iff.mpr placed.distinct.2
  have listed' : l ≠ [] := fun empty => listed (by simpa [empty] using perm.symm)
  obtain ⟨t', taken'⟩ := (calibration_table_ok_iff { s with calibrations := l }).mpr
    (.inr ⟨perm.length_eq.trans full, distinct⟩)
  obtain ⟨full', seen', placed'⟩ := placed_of_ok { s with calibrations := l } t' listed' taken'
  rw [taken', table_unique l s.calibrations seen' seen t' t full' placed' placed perm.subset]

theorem fault_of_error (error : CalibrationListError)
    (refused : s.calibrationTable = .error error) (full : s.calibrations.length = servoCount) :
    ∃ before entry after, s.calibrations = before ++ entry :: after ∧ Distinct before ∧
      Fault before entry error := by
  have listed : s.calibrations ≠ [] := by
    rw [← List.length_pos_iff, full]
    decide
  have verdict := place_all_verdict [] s.calibrations [] .factory (placed_nothing .factory)
  rw [List.nil_append, ← calibration_table_listed s listed full, refused] at verdict
  cases verdict with
  | fault before after entry _ split distinct fault =>
    exact ⟨before, entry, after, split, distinct, fault⟩

/-- A list is taken exactly if it is empty, and then means the factory's table, or names all
eighteen joints, each once. The table then has the values of every entry, and the order is of no
account. A list that is refused has a wrong length or else an entry at fault, of which the first is
told. -/
theorem calibration_table_whole :
    ((∃ t, s.calibrationTable = .ok t) ↔
      s.calibrations = [] ∨ s.calibrations.length = 18 ∧ Distinct s.calibrations) ∧
    (s.calibrations = [] → s.calibrationTable = .ok .factory) ∧
    (∀ t, s.calibrations ≠ [] → s.calibrationTable = .ok t →
      (∀ e ∈ s.calibrations, ∃ j, Joint.ofName e.name = .ok j ∧
        t.get j.channel = e.calibration) ∧
      (∀ c, (s.calibrations.map CalibrationEntry.channel?).count (some c) = 1) ∧
      ∀ l, l.Perm s.calibrations → calibrationTable { s with calibrations := l } = .ok t) ∧
    ∀ error, s.calibrationTable = .error error →
      error.failure = .calibration error.message ∧
      if s.calibrations.length = 18 then
        ∃ before entry after, s.calibrations = before ++ entry :: after ∧ Distinct before ∧
          Fault before entry error
      else error = .count s.calibrations.length := by
  refine ⟨calibration_table_ok_iff s, ?empty, ?taken, ?refused⟩
  case empty =>
    intro empty
    simp [calibrationTable, empty]
  case taken =>
    intro t listed taken
    obtain ⟨full, seen, placed⟩ := placed_of_ok s t listed taken
    refine ⟨?_, count_channel s.calibrations placed.distinct full, ?_⟩
    · intro e member
      obtain ⟨j, named⟩ := placed.distinct.1 e member
      exact ⟨j, named, placed.holds e j member named⟩
    · exact fun l perm => calibration_table_perm s l t listed taken perm
  case refused =>
    intro error refused
    refine ⟨rfl, ?_⟩
    by_cases full : s.calibrations.length = 18
    · rw [if_pos full]
      exact fault_of_error s error refused full
    · have listed : s.calibrations ≠ [] := by
        intro empty
        simp [calibrationTable, empty] at refused
      rw [calibration_table_count s listed full] at refused
      rw [if_neg full]
      exact (Except.error.inj refused).symm

end Table

theorem calibration_table_whole_reversed :
    let entry (c : Channel) : CalibrationEntry := ⟨(Joint.ofChannel c).name, ⟨1000, 2000⟩⟩
    let s : Settings := { calibrations := (Channel.all.map entry).reverse }
    ∃ t, s.calibrationTable = .ok t ∧ (∀ c, t.get c = ⟨1000, 2000⟩) ∧
      calibrationTable { s with calibrations := Channel.all.map entry } = .ok t := by
  intro entry s
  have named (c : Channel) : Joint.ofName (entry c).name = .ok (Joint.ofChannel c) :=
    (Joint.of_name_eq_ok_iff _ _).mpr rfl
  have distinct : Distinct s.calibrations := by
    constructor
    · intro e member
      obtain ⟨c, _, rfl⟩ := List.mem_map.mp (List.mem_reverse.mp member)
      exact ⟨_, named c⟩
    · decide +kernel
  have member (c : Channel) : entry c ∈ s.calibrations := by simp [s, Channel.all]
  have listed : s.calibrations ≠ [] := List.ne_nil_of_mem (member ⟨0, by decide⟩)
  obtain ⟨accepted, _, whole, _⟩ := calibration_table_whole s
  obtain ⟨t, taken⟩ := accepted.mpr (.inr ⟨rfl, distinct⟩)
  obtain ⟨values, _, orders⟩ := whole t listed taken
  refine ⟨t, taken, ?_, orders _ (List.reverse_perm _).symm⟩
  intro c
  obtain ⟨j, read, value⟩ := values (entry c) (member c)
  rw [named c] at read
  rw [← Except.ok.inj read, Joint.channel_of_channel] at value
  exact value

end Settings
end LegLink
