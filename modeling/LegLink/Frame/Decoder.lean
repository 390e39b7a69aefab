import LegLink.Frame

set_option autoImplicit false

namespace LegLink.Frame

inductive Verdict where
  | incomplete
  | invalid
  | complete (packet : Packet) (rest : Bytes)

def inspect (bytes : Bytes) : Verdict :=
  match bytes with
  | count :: seqLo :: seqHi :: cmd :: tail =>
    let size := count.toNat - headerSize
    if 1 + bytes.length < minSize then .incomplete
    else if count.toNat < headerSize then .invalid
    else if 1 + bytes.length < count.toNat + overhead then .incomplete
    else
      match tail.drop size with
      | crcLo :: crcHi :: last :: rest =>
        if last ≠ etx then .invalid
        else
          let payload := tail.take size
          if Checksum.crc16 (count :: seqLo :: seqHi :: cmd :: payload) ≠
              Bytes.word crcLo crcHi then
            .invalid
          else
            .complete ⟨Bytes.word seqLo seqHi, cmd, ⟨payload, by
              have := count.toNat_lt
              simp only [payload, size, headerSize, maxPayload, List.length_take]
              omega⟩⟩ rest
      | _ => .incomplete
  | _ => .incomplete

-- A candidate is given up by dropping its start marker alone, so that a frame inside it is still
-- found.
def decode : Bytes → Option Packet × Bytes
  | [] => (none, [])
  | byte :: rest =>
    if byte ≠ stx then decode rest
    else
      match inspect rest with
      | .incomplete => (none, byte :: rest)
      | .invalid => decode rest
      | .complete packet after => (some packet, after)

theorem rest_of_complete {bytes rest : Bytes} {packet : Packet}
    (h : inspect bytes = .complete packet rest) : rest.length + 7 ≤ bytes.length := by
  unfold inspect at h
  split at h <;> try contradiction
  rename_i count seqLo seqHi cmd tail
  dsimp only at h
  split at h <;> try contradiction
  split at h <;> try contradiction
  split at h <;> try contradiction
  split at h <;> try contradiction
  rename_i crcLo crcHi last after hdrop
  split at h <;> try contradiction
  split at h <;> try contradiction
  cases h
  have := congrArg List.length hdrop
  simp at this
  simp
  omega

theorem length_decode_le (bytes : Bytes) : (decode bytes).2.length ≤ bytes.length := by
  induction bytes with
  | nil => simp [decode]
  | cons byte rest ih =>
    unfold decode
    split
    · simp; omega
    · split
      · simp
      · simp; omega
      · rename_i h
        have := rest_of_complete h
        simp; omega

theorem length_decode_lt {bytes : Bytes} {packet : Packet} {rest : Bytes}
    (h : decode bytes = (some packet, rest)) : rest.length < bytes.length := by
  induction bytes with
  | nil => simp [decode] at h
  | cons byte tail ih =>
    unfold decode at h
    split at h
    · have := ih h; simp; omega
    · split at h
      · simp at h
      · have := ih h; simp; omega
      · rename_i hc
        have := rest_of_complete hc
        simp at h
        simp [← h.2]; omega

end LegLink.Frame
