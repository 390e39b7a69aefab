import LegLink.Transport

set_option autoImplicit false

namespace LegLink.Line

inductive Call where
  | openLine
  | closeLine
  | write (data : Bytes)
  | readByte (timeout : Duration)
deriving DecidableEq

inductive Answer where
  | done
  | byte (value : UInt8)
  | silence
  | fault (reason : String)
deriving DecidableEq

-- What is asked of the line is answered from a list. A run depends on the answers alone: made again
-- with one answer more it asks for the same things in the same order.
structure Replay where
  byteTimeout : Duration
  answers : List Answer := []
  wanted : Option Call := none

namespace Replay

def unanswered : String := "no answer yet"

def ask (call : Call) (r : Replay) : Option Answer × Replay :=
  match r.answers with
  | [] => (none, { r with wanted := r.wanted <|> some call })
  | answer :: answers => (some answer, { r with answers })

def act (call : Call) (r : Replay) : Except String Unit × Replay :=
  match r.ask call with
  | (none, r) => (.error unanswered, r)
  | (some (.fault reason), r) => (.error reason, r)
  | (some _, r) => (.ok (), r)

def readByte (timeout : Duration) (r : Replay) : Except (ReadError String) UInt8 × Replay :=
  match r.ask (.readByte timeout) with
  | (none, r) => (.error (.io unanswered), r)
  | (some (.fault reason), r) => (.error (.io reason), r)
  | (some (.byte b), r) => (.ok b, r)
  | (some _, r) => (.error .timeout, r)

theorem answers_read_byte (timeout : Duration) (r r' : Replay) (byte : UInt8)
    (taken : readByte timeout r = (.ok byte, r')) : r'.answers.length < r.answers.length := by
  rcases r with ⟨byteTimeout, answers⟩
  cases answers with
  | nil => simp [readByte, ask] at taken
  | cons answer answers =>
    cases answer <;> simp [readByte, ask] at taken
    rw [← taken.2]
    simp

instance : Transport Replay String where
  openLine := act .openLine
  closeLine := act .closeLine
  write data := act (.write data)
  readByte := readByte
  byteTimeout := Replay.byteTimeout
  pending r := r.answers.length
  pending_read_byte := answers_read_byte

end Replay
end LegLink.Line
