import LegLink.Line.Script
import LegLink.Proofs.Offsets
import LegLink.Proofs.Recording
import LegLink.Proofs.Writing

set_option autoImplicit false

namespace LegLink

namespace Bytes

def setChecked (buffer : Bytes) (i : Nat) (byte : UInt8) : Option Bytes :=
  if i < buffer.length then some (buffer.set i byte) else none

def copyChecked (buffer : Bytes) (start stop : Nat) (data : Bytes) : Option Bytes :=
  if start + data.length = stop ∧ stop ≤ buffer.length then
    some (buffer.take start ++ data ++ buffer.drop stop)
  else none

def overlaid (buffer front : Bytes) : Bytes := front ++ buffer.drop front.length

@[simp] theorem length_overlaid (buffer front : Bytes) (room : front.length ≤ buffer.length) :
    (overlaid buffer front).length = buffer.length := by
  rw [overlaid, List.length_append, List.length_drop]
  omega

theorem copy_checked_overlaid (buffer front data : Bytes) (start stop : Nat)
    (next : front.length = start) (size : start + data.length = stop)
    (room : stop ≤ buffer.length) :
    copyChecked (overlaid buffer front) start stop data =
      some (overlaid buffer (front ++ data)) := by
  have within : stop ≤ (overlaid buffer front).length := by
    rw [length_overlaid buffer front (by omega)]
    exact room
  have behind : (overlaid buffer front).drop stop = buffer.drop (front ++ data).length := by
    rw [overlaid, ← size, ← next, List.drop_length_add_append, List.drop_drop, List.length_append]
  have ahead : (overlaid buffer front).take start = front := by
    rw [overlaid, ← next, List.take_left]
  rw [copyChecked, if_pos ⟨size, within⟩, ahead, behind]
  rfl

theorem set_checked_eq (buffer : Bytes) (i : Nat) (byte : UInt8) :
    setChecked buffer i byte = copyChecked buffer i (i + 1) [byte] := by
  by_cases inside : i < buffer.length
  · have stored : buffer.set i byte = buffer.take i ++ [byte] ++ buffer.drop (i + 1) := by
      rw [List.set_eq_take_append_cons_drop, if_pos inside, List.append_assoc]
      rfl
    rw [setChecked, if_pos inside, copyChecked, if_pos ⟨rfl, inside⟩, stored]
  · rw [setChecked, if_neg inside, copyChecked, if_neg fun both => inside both.2]

theorem set_checked_overlaid (buffer front : Bytes) (i : Nat) (byte : UInt8)
    (next : front.length = i) (room : i < buffer.length) :
    setChecked (overlaid buffer front) i byte = some (overlaid buffer (front ++ [byte])) := by
  rw [set_checked_eq]
  exact copy_checked_overlaid buffer front [byte] i (i + 1) next rfl room

end Bytes

open Bytes LegLink.Frame

namespace Packet

section Stores

variable (p : Packet) (buffer : Bytes)

-- Every index and every range is checked, and the checksum is taken from what the buffer holds by
-- then. None of the checks ever fails.
def storesChecked : Option Bytes := do
  let stop := 5 + p.payload.length
  let buffer ← setChecked buffer 0 stx
  let buffer ← setChecked buffer 1 p.count
  let buffer ← setChecked buffer 2 p.seq.toUInt8
  let buffer ← setChecked buffer 3 (p.seq >>> 8).toUInt8
  let buffer ← setChecked buffer 4 p.cmd
  let buffer ← copyChecked buffer 5 stop p.payload.bytes
  let crc := Checksum.crc16 (← rangeChecked buffer 1 stop)
  let buffer ← copyChecked buffer stop (stop + 2) (ofWord crc)
  setChecked buffer (stop + 2) etx

-- The outer `none` is a check that failed.
def encodeChecked : Option (Except FrameError Nat × Bytes) := do
  if buffer.length < p.frameLength then return (.error .bufferTooSmall, buffer)
  return (.ok p.frameLength, ← p.storesChecked buffer)

def frameChecked : Option (Except FrameError Bytes) := do
  match ← p.encodeChecked (List.replicate maxSize 0) with
  | (.error e, _) => return .error e
  | (.ok size, buffer) =>
    let frame ← rangeChecked buffer 0 size
    return if frame.length ≤ maxSize then .ok frame else .error .bufferTooSmall

-- With each store the front of the buffer is a longer part of the frame.
theorem stores_checked_eq (room : p.frameLength ≤ buffer.length) :
    p.storesChecked buffer = some (overlaid buffer p.frame) := by
  have places : 5 + p.payload.length + 3 ≤ buffer.length := by
    rw [frameLength, minSize, headerSize, overhead] at room
    omega
  let header : Bytes := [stx, p.count, p.seq.toUInt8, (p.seq >>> 8).toUInt8, p.cmd]
  let stop := 5 + p.payload.length
  have body : (header ++ p.payload.bytes).length = stop := List.length_append
  have covered : rangeChecked (overlaid buffer (header ++ p.payload.bytes)) 1 stop = some p.body :=
    range_checked_eq [stx] p.body (buffer.drop (header ++ p.payload.bytes).length) 1 stop rfl body
  have sum : (header ++ p.payload.bytes ++ ofWord (Checksum.crc16 p.body)).length = stop + 2 := by
    rw [List.length_append, body]
    rfl
  refine Option.bind_eq_some_iff.mpr ⟨_, set_checked_overlaid buffer [] 0 _ rfl (by omega), ?_⟩
  refine Option.bind_eq_some_iff.mpr ⟨_, set_checked_overlaid buffer [_] 1 _ rfl (by omega), ?_⟩
  refine Option.bind_eq_some_iff.mpr ⟨_, set_checked_overlaid buffer [_, _] 2 _ rfl (by omega), ?_⟩
  refine Option.bind_eq_some_iff.mpr
    ⟨_, set_checked_overlaid buffer [_, _, _] 3 _ rfl (by omega), ?_⟩
  refine Option.bind_eq_some_iff.mpr
    ⟨_, set_checked_overlaid buffer [_, _, _, _] 4 _ rfl (by omega), ?_⟩
  refine Option.bind_eq_some_iff.mpr
    ⟨_, copy_checked_overlaid buffer header _ 5 stop rfl rfl (by omega), ?_⟩
  refine Option.bind_eq_some_iff.mpr ⟨_, covered, ?_⟩
  refine Option.bind_eq_some_iff.mpr
    ⟨_, copy_checked_overlaid buffer _ _ stop (stop + 2) body rfl (by omega), ?_⟩
  exact set_checked_overlaid buffer _ (stop + 2) etx sum (by omega)

theorem encode_checked_eq : p.encodeChecked buffer = some (p.writeInto buffer) := by
  by_cases short : buffer.length < p.frameLength
  · rw [encodeChecked, if_pos short, writeInto, if_pos short]
    rfl
  · have stored := p.stores_checked_eq buffer (Nat.le_of_not_lt short)
    rw [overlaid, length_frame] at stored
    rw [encodeChecked, if_neg short, writeInto, if_neg short, stored]
    rfl

theorem frame_checked_eq : p.frameChecked = some (.ok p.frame) := by
  have zeros : p.frameLength ≤ (List.replicate maxSize (0 : UInt8)).length := by
    rw [List.length_replicate, ← length_frame]
    exact p.length_frame_le
  have written : p.writeInto (List.replicate maxSize 0) =
      (.ok p.frameLength, p.frame ++ (List.replicate maxSize 0).drop p.frameLength) :=
    if_neg (Nat.not_lt_of_le zeros)
  have front := range_checked_eq [] p.frame ((List.replicate maxSize 0).drop p.frameLength) 0
    p.frameLength rfl p.length_frame
  rw [List.nil_append] at front
  simp only [frameChecked, encode_checked_eq, written, front, Option.bind_eq_bind, Option.bind_some,
    if_pos p.length_frame_le]
  rfl

end Stores

theorem of_bytes_fits (seq : UInt16) (cmd : UInt8) (data : Bytes)
    (fits : data.length ≤ maxPayload) : ofBytes seq cmd data = .ok ⟨seq, cmd, ⟨data, fits⟩⟩ :=
  of_bytes_bytes ⟨seq, cmd, ⟨data, fits⟩⟩

theorem of_bytes_large (seq : UInt16) (cmd : UInt8) (data : Bytes)
    (large : maxPayload < data.length) : ofBytes seq cmd data = .error .payloadTooLarge := by
  rw [ofBytes, (Payload.of_bytes_eq_none_iff data).mpr large]

theorem of_bytes_eq_error_iff (seq : UInt16) (cmd : UInt8) (data : Bytes) :
    ofBytes seq cmd data = .error .payloadTooLarge ↔ maxPayload < data.length := by
  refine ⟨fun refused => Nat.lt_of_not_le fun fits => ?_, of_bytes_large seq cmd data⟩
  rw [of_bytes_fits seq cmd data fits] at refused
  cases refused

end Packet

def Frame.buildChecked (seq : UInt16) (cmd : UInt8) (data : Bytes) :
    Option (Except FrameError Bytes) :=
  match Packet.ofBytes seq cmd data with
  | .ok p => p.frameChecked
  | .error e => some (.error e)

theorem Frame.build_checked_eq_error_iff (seq : UInt16) (cmd : UInt8) (data : Bytes) :
    buildChecked seq cmd data = some (.error .payloadTooLarge) ↔ maxPayload < data.length := by
  rw [← Packet.of_bytes_eq_error_iff seq cmd data, buildChecked]
  cases Packet.ofBytes seq cmd data with
  | ok p => simp [p.frame_checked_eq]
  | error e => simp

namespace Link

variable {σ ε : Type} [Transport σ ε]

theorem send_framed (seq : UInt16) (cmd : UInt8) (data : Bytes) (l : Link σ) (p : Packet)
    (built : Packet.ofBytes seq cmd data = .ok p) :
    l.send seq cmd data =
      ((Transport.write p.frame l.line).1.mapError .io,
        { l with line := (Transport.write p.frame l.line).2 }) := by
  simp only [send, built, sendPacket]
  cases (Transport.write p.frame l.line).1 with
  | ok done | error e => rfl

/-- Data that is too long for a payload is refused with one error by every way, and the line is not
touched. Any other data is the payload of a packet. Its frame goes over the front of any buffer with
room and leaves the rest alone; a buffer without room is left alone altogether. The count in the
frame does not wrap, and a link writes the frame in one write. -/
theorem encodings_agree (seq : UInt16) (cmd : UInt8) (data buffer : Bytes)
    (l : Link (Line.Recorded σ)) :
    (Packet.ofBytes seq cmd data = .error .payloadTooLarge ↔ maxPayload < data.length) ∧
    (Frame.buildChecked seq cmd data = some (.error .payloadTooLarge) ↔
      maxPayload < data.length) ∧
    (maxPayload < data.length → l.send seq cmd data = (.error (.frame .payloadTooLarge), l)) ∧
    ∀ fits : data.length ≤ maxPayload,
      let p : Packet := ⟨seq, cmd, ⟨data, fits⟩⟩
      Packet.ofBytes seq cmd data = .ok p ∧
      p.frameChecked = some (.ok p.frame) ∧
      Frame.buildChecked seq cmd data = some (.ok p.frame) ∧
      p.frame.length = p.frameLength ∧
      p.frame[1]? = some p.count ∧ p.count.toNat = Frame.headerSize + data.length ∧
      p.encodeChecked buffer = some (p.writeInto buffer) ∧
      (p.frameLength ≤ buffer.length → ∃ after,
        p.writeInto buffer = (.ok p.frameLength, after) ∧
        after.take p.frameLength = p.frame ∧
        after.drop p.frameLength = buffer.drop p.frameLength) ∧
      (buffer.length < p.frameLength → p.writeInto buffer = (.error .bufferTooSmall, buffer)) ∧
      (l.send seq cmd data).1 = (Transport.write p.frame l.line.line).1.mapError .io ∧
      (l.send seq cmd data).2.line.calls = l.line.calls ++ [.write p.frame] := by
  refine ⟨Packet.of_bytes_eq_error_iff seq cmd data, Frame.build_checked_eq_error_iff seq cmd data,
    ?refused, ?made⟩
  case refused =>
    intro large
    rw [send, Packet.of_bytes_large seq cmd data large]
  case made =>
    intro fits p
    have built : Packet.ofBytes seq cmd data = .ok p := Packet.of_bytes_fits seq cmd data fits
    have framed : Frame.buildChecked seq cmd data = some (.ok p.frame) := by
      rw [Frame.buildChecked, built]
      exact p.frame_checked_eq
    have sent := l.send_framed seq cmd data p built
    refine ⟨built, p.frame_checked_eq, framed, p.length_frame, rfl, p.to_nat_count,
      p.encode_checked_eq buffer, ?room, ?short, ?result, ?written⟩
    case room =>
      intro room
      refine ⟨p.frame ++ buffer.drop p.frameLength, if_neg (Nat.not_lt_of_le room), ?_, ?_⟩
      · rw [← p.length_frame, List.take_left]
      · rw [← p.length_frame, List.drop_left]
    case short => exact fun short => if_pos short
    case result =>
      rw [sent]
      rfl
    case written =>
      rw [sent]
      rfl

theorem encodings_agree_largest :
    let data : Bytes := List.replicate 252 Frame.stx
    let l : Link (Line.Recorded Line.Script) := { line := { line := { byteTimeout := ⟨0⟩ } } }
    ∃ (p : Packet) (after : Bytes), Packet.ofBytes 1 0x04 data = .ok p ∧ p.count.toNat = 255 ∧
      p.frameChecked = some (.ok p.frame) ∧
      p.writeInto (List.replicate 261 0xEE) = (.ok 260, after) ∧
      after.take 260 = p.frame ∧ after.drop 260 = [0xEE] ∧
      p.writeInto (List.replicate 259 0xEE) =
        (.error .bufferTooSmall, List.replicate 259 0xEE) ∧
      (l.send 1 0x04 data).2.line.calls = [.write p.frame] ∧
      l.send 1 0x04 (0x00 :: data) = (.error (.frame .payloadTooLarge), l) := by
  intro data l
  have fits : data.length ≤ maxPayload := Nat.le_of_eq List.length_replicate
  have large : maxPayload < ((0x00 : UInt8) :: data).length :=
    Nat.lt_succ_of_le (Nat.le_of_eq List.length_replicate.symm)
  obtain ⟨-, -, -, made⟩ := encodings_agree 1 0x04 data (List.replicate 261 0xEE) l
  obtain ⟨-, -, -, other⟩ := encodings_agree 1 0x04 data (List.replicate 259 0xEE) l
  obtain ⟨-, -, refused, -⟩ := encodings_agree 1 0x04 (0x00 :: data) [] l
  obtain ⟨built, vec, -, -, -, count, -, room, -, -, sent⟩ := made fits
  obtain ⟨-, -, -, -, -, -, -, -, short, -, -⟩ := other fits
  have size : Packet.frameLength ⟨1, 0x04, ⟨data, fits⟩⟩ = 260 :=
    congrArg (· + Frame.minSize) List.length_replicate
  have roomy : 260 ≤ (List.replicate 261 (0xEE : UInt8)).length := by
    rw [List.length_replicate]
    decide
  have narrow : (List.replicate 259 (0xEE : UInt8)).length < 260 := by
    rw [List.length_replicate]
    decide
  rw [size] at room short
  obtain ⟨after, written, front, rest⟩ := room roomy
  refine ⟨_, after, built, ?_, vec, written, front, ?_, short narrow, sent, refused large⟩
  · rw [count, List.length_replicate]
    rfl
  · rw [rest, List.drop_replicate]
    rfl

end Link
end LegLink
