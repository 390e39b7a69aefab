import LegLink.Proofs.Buffer

set_option autoImplicit false

namespace LegLink

namespace Frame

inductive Taken : Bytes → List Packet → Bytes → Prop
  | done (s : Bytes) : Taken s [] s
  | take (p : Packet) (s rest final : Bytes) (packets : List Packet)
      (found : decode s = (some p, rest)) (later : Taken rest packets final) :
      Taken s (p :: packets) final

namespace Taken

theorem append (s final more : Bytes) (packets : List Packet) (taken : Taken s packets final) :
    Taken (s ++ more) packets (final ++ more) := by
  induction taken with
  | done s => exact .done _
  | take p s rest final packets found _ ih =>
    exact .take p _ _ _ packets (decode_append_some p s more rest found) ih

theorem next (p : Packet) (s final rest : Bytes) (packets : List Packet)
    (taken : Taken s packets final) (found : decode final = (some p, rest)) :
    Taken s (packets ++ [p]) rest := by
  induction taken with
  | done s => exact .take p s rest rest [] found (.done rest)
  | take q s between final packets first _ ih => exact .take q s between rest _ first (ih found)

theorem unique (s final final' : Bytes) (packets : List Packet) (taken : Taken s packets final)
    (taken' : Taken s packets final') : final = final' := by
  induction taken with
  | done s =>
    cases taken'
    rfl
  | take p s rest final packets found _ ih =>
    cases taken' with
    | take _ _ rest' _ _ found' later' =>
      rw [found] at found'
      cases found'
      exact ih later'

theorem decode_all (s final : Bytes) (packets : List Packet) (taken : Taken s packets final) :
    decodeAll s = (packets ++ (decodeAll final).1, (decodeAll final).2) := by
  induction taken with
  | done s => rfl
  | take p s rest final packets found _ ih =>
    rw [decode_all_some p s rest found, ih]
    rfl

end Taken

end Frame

namespace RxBuffer

-- The next byte is appended only to what the decoder left when it found no packet.
inductive Feeding : Bytes → List Packet → RxBuffer → Prop
  | start : Feeding [] [] .empty
  | look (fed : Bytes) (packets : List Packet) (b : RxBuffer) (state : Feeding fed packets b) :
      Feeding fed (packets ++ b.decode.1.toList) b.decode.2
  | push (fed : Bytes) (packets : List Packet) (b b' : RxBuffer) (byte : UInt8)
      (state : Feeding fed packets b) (waiting : b.decode = (none, b))
      (room : b.append? [byte] = some b') : Feeding (fed ++ [byte]) packets b'

namespace Feeding

theorem looked (fed : Bytes) (packets : List Packet) (b b' : RxBuffer)
    (state : Feeding fed packets b) (decoded : b.decode = (none, b')) :
    Feeding fed packets b' ∧ b'.decode = (none, b') := by
  have looked := state.look fed packets b
  rw [decoded, Option.toList_none, List.append_nil] at looked
  exact ⟨looked, decode_kept b b' decoded⟩

theorem pushed (fed : Bytes) (packets : List Packet) (b b' : RxBuffer) (byte : UInt8)
    (state : Feeding fed packets b) (decoded : b.decode = (none, b')) :
    Feeding (fed ++ [byte]) packets (b'.push byte) := by
  obtain ⟨looked, waiting⟩ := state.looked fed packets b b' decoded
  exact looked.push fed packets b' _ byte waiting (append_waiting b' byte waiting)

-- The packets stand at the front of the stream, and the buffer decodes as what is behind them.
theorem taken (fed : Bytes) (packets : List Packet) (b : RxBuffer)
    (state : Feeding fed packets b) :
    ∃ rest, Frame.Taken fed packets rest ∧
      ∀ more, Frame.decode (rest ++ more) = Frame.decode (b.bytes ++ more) := by
  induction state with
  | start => exact ⟨[], .done [], fun more => rfl⟩
  | look fed packets b _ ih =>
    obtain ⟨rest, taken, same⟩ := ih
    rcases decoded : b.decode with ⟨found, b'⟩
    have bytes := bytes_of_decode b b' found decoded
    cases found with
    | none =>
      refine ⟨rest, ?_, ?_⟩
      · rwa [Option.toList_none, List.append_nil]
      · intro more
        rw [same, Frame.decode_append_none _ more _ bytes]
    | some p =>
      have here := same []
      rw [List.append_nil, List.append_nil, bytes] at here
      exact ⟨b'.bytes, taken.next p fed rest b'.bytes packets here, fun more => rfl⟩
  | push fed packets b b' byte _ _ room ih =>
    obtain ⟨rest, taken, same⟩ := ih
    refine ⟨rest ++ [byte], taken.append fed rest [byte] packets, ?_⟩
    intro more
    rw [List.append_assoc, same, bytes_append b b' [byte] room, List.append_assoc]

theorem found (fed : Bytes) (packets : List Packet) (b b' : RxBuffer) (p : Packet)
    (state : Feeding fed packets b) (decoded : b.decode = (some p, b')) :
    Frame.Taken fed (packets ++ [p]) b'.bytes := by
  obtain ⟨rest, taken, same⟩ := state.taken fed packets b
  have here := same []
  rw [List.append_nil, List.append_nil, bytes_of_decode b b' (some p) decoded] at here
  exact taken.next p fed rest b'.bytes packets here

theorem waiting (fed : Bytes) (packets : List Packet) (b : RxBuffer)
    (state : Feeding fed packets b) (none : b.decode = (none, b)) :
    Frame.decodeAll fed = (packets, b.bytes) := by
  obtain ⟨rest, taken, same⟩ := state.taken fed packets b
  have here := same []
  rw [List.append_nil, List.append_nil, bytes_of_decode b b _ none] at here
  rw [taken.decode_all fed rest packets, Frame.decode_all_none rest b.bytes here, List.append_nil]

end Feeding

-- Each packet with the number of bytes fed before its last one, checked against the run: after that
-- byte, and with the packets before it taken, it is what the decoder finds next.
def Reports (s : Bytes) : List Packet → List (Nat × Packet) → Prop
  | _, [] => True
  | packets, (i, p) :: later =>
    (i < s.length ∧ ∃ b b', Feeding (s.take (i + 1)) packets b ∧ b.decode = (some p, b')) ∧
      Reports s (packets ++ [p]) later

theorem reports_append (s : Bytes) (packets : List Packet) (a c : List (Nat × Packet)) :
    Reports s packets (a ++ c) ↔ Reports s packets a ∧ Reports s (packets ++ a.map Prod.snd) c := by
  induction a generalizing packets with
  | nil => simp [Reports]
  | cons first a ih =>
    obtain ⟨i, p⟩ := first
    simp only [List.cons_append, Reports, ih, List.map_cons, and_assoc, List.append_assoc,
      List.nil_append]

theorem reports_at (s : Bytes) (timed : List (Nat × Packet)) (first rest : List Packet) (p : Packet)
    (reports : Reports s [] timed) (packets : timed.map Prod.snd = first ++ p :: rest) :
    ∃ before i later, timed = before ++ (i, p) :: later ∧ before.map Prod.snd = first ∧
      i < s.length ∧ ∃ b b', Feeding (s.take (i + 1)) first b ∧ b.decode = (some p, b') := by
  obtain ⟨before, others, rfl, here, second⟩ := List.map_eq_append_iff.mp packets
  obtain ⟨⟨i, q⟩, later, rfl, same, _⟩ := List.map_eq_cons_iff.mp second
  obtain rfl : q = p := same
  rw [reports_append, here] at reports
  obtain ⟨⟨inside, found⟩, _⟩ := reports.2
  exact ⟨before, i, later, rfl, here, inside, found⟩

theorem drain_reports (fed : Bytes) (i : Nat) (s : Bytes) (packets : List Packet) (b : RxBuffer)
    (inside : i < s.length) (here : s.take (i + 1) = fed) (state : Feeding fed packets b) :
    Reports s packets (b.drain.1.map fun p => (i, p)) ∧
      Feeding fed (packets ++ b.drain.1) b.drain.2 := by
  fun_induction drain b generalizing packets with
  | case1 b rest found =>
    have settled := state.look fed packets b
    rw [found] at settled
    exact ⟨trivial, settled⟩
  | case2 b p rest found shorter later final recursion ih =>
    have next := state.look fed packets b
    rw [found] at next
    obtain ⟨reports, last⟩ := ih (packets ++ [p]) next
    rw [recursion] at reports last
    rw [List.append_assoc] at last
    refine ⟨⟨⟨inside, b, rest, ?_, found⟩, reports⟩, last⟩
    rwa [here]

theorem feed_reports (fed bytes : Bytes) (packets : List Packet) (b : RxBuffer)
    (state : Feeding fed packets b) (waiting : b.decode = (none, b)) :
    ∃ timed rest, feed (bytes.zipIdx fed.length) b = (.ok timed, rest) ∧
      Reports (fed ++ bytes) packets timed ∧
      Feeding (fed ++ bytes) (packets ++ timed.map Prod.snd) rest ∧ rest.decode = (none, rest) := by
  -- By induction on the bytes still to be fed; none of them finds the buffer full.
  induction bytes generalizing fed packets b with
  | nil =>
    refine ⟨[], b, rfl, trivial, ?_, waiting⟩
    simpa using state
  | cons byte bytes ih =>
    have room := append_waiting b byte waiting
    have pushed := state.push fed packets b _ byte waiting room
    have inside : fed.length < (fed ++ byte :: bytes).length := by simp
    have here : (fed ++ byte :: bytes).take (fed.length + 1) = fed ++ [byte] := by
      rw [List.append_cons, show fed.length + 1 = (fed ++ [byte]).length by simp, List.take_left]
    obtain ⟨reports, drained⟩ := drain_reports _ _ _ packets (b.push byte) inside here pushed
    obtain ⟨later, rest, fedLater, reportsLater, last, still⟩ :=
      ih (fed ++ [byte]) _ _ drained (drain_waiting (b.push byte))
    rw [List.length_append, List.length_singleton] at fedLater
    rw [← List.append_cons] at reportsLater last
    refine ⟨(b.push byte).drain.1.map (fun p => (fed.length, p)) ++ later, rest, ?_, ?_, ?_, still⟩
    · rw [List.zipIdx_cons, feed, room]
      simp only [fedLater]
      rfl
    · rw [reports_append]
      refine ⟨reports, ?_⟩
      simpa [Function.comp_def] using reportsLater
    · simpa [Function.comp_def] using last

theorem feed_append (a c : List (UInt8 × Nat)) (b between rest : RxBuffer)
    (first later : List (Nat × Packet)) (fed : feed a b = (.ok first, between))
    (fedLater : feed c between = (.ok later, rest)) :
    feed (a ++ c) b = (.ok (first ++ later), rest) := by
  induction a generalizing b first with
  | nil =>
    cases fed
    exact fedLater
  | cons entry a ih =>
    obtain ⟨byte, i⟩ := entry
    rw [feed] at fed
    rw [List.cons_append, feed]
    cases room : b.append? [byte] with
    | none =>
      rw [room] at fed
      cases fed
    | some b' =>
      rw [room] at fed
      rcases tail : feed a b'.drain.2 with ⟨result, final⟩
      cases result with
      | error at_byte =>
        simp only [tail] at fed
        cases fed
      | ok packets =>
        simp only [tail] at fed
        cases fed
        simp only [ih b'.drain.2 packets tail]
        exact congrArg (fun all => (Except.ok all, rest)) (List.append_assoc _ _ _).symm

theorem feed_decode_all (bytes : Bytes) :
    ∃ timed rest, feed bytes.zipIdx .empty = (.ok timed, rest) ∧ Reports bytes [] timed ∧
      timed.map Prod.snd = (Frame.decodeAll bytes).1 ∧ rest.bytes = (Frame.decodeAll bytes).2 := by
  obtain ⟨timed, rest, fed, reports, state, waiting⟩ := feed_reports [] bytes [] .empty .start rfl
  have all := state.waiting _ _ _ waiting
  rw [List.nil_append] at reports all
  rw [all]
  exact ⟨timed, rest, fed, reports, rfl, rfl⟩

end RxBuffer
end LegLink
