import LegLink.Frame.Buffer
import LegLink.Transport

set_option autoImplicit false

namespace LegLink.Line

structure Replies where
  answers : List Bytes := []
  inbox : Bytes := []
  partly : RxBuffer := .empty
  received : List Packet := []

namespace Replies

def arrive (packets : List Packet) (r : Replies) : Replies :=
  { r with
    received := r.received ++ packets
    inbox := r.inbox ++ (r.answers.take packets.length).flatten
    answers := r.answers.drop packets.length }

def takeIn (r : Replies) (byte : UInt8) : Replies :=
  let (packets, partly) := (r.partly.push byte).drain
  { r with partly }.arrive packets

def write (data : Bytes) (r : Replies) : Except Empty Unit × Replies :=
  (.ok (), data.foldl takeIn r)

def readByte (_timeout : Duration) (r : Replies) : Except (ReadError Empty) UInt8 × Replies :=
  match r.inbox with
  | [] => (.error .timeout, r)
  | byte :: inbox => (.ok byte, { r with inbox })

theorem inbox_read_byte (timeout : Duration) (r r' : Replies) (byte : UInt8)
    (taken : readByte timeout r = (.ok byte, r')) : r'.inbox.length < r.inbox.length := by
  rcases r with ⟨answers, inbox⟩
  cases inbox with
  | nil => simp [readByte] at taken
  | cons first inbox =>
    simp [readByte] at taken
    rw [← taken.2]
    simp

instance : Transport Replies Empty where
  openLine r := (.ok (), r)
  closeLine r := (.ok (), r)
  write := write
  readByte := readByte
  byteTimeout _ := ⟨0⟩
  pending r := r.inbox.length
  pending_read_byte := inbox_read_byte

end Replies
end LegLink.Line
