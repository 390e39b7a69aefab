import LegLink.Digits
import LegLink.Transport

set_option autoImplicit false

namespace LegLink

structure IoError where
  kind : String
deriving DecidableEq

namespace IoError

def timedOut : IoError := ⟨"TimedOut"⟩
def invalidInput : IoError := ⟨"InvalidInput"⟩
def notFound : IoError := ⟨"NotFound"⟩
def brokenPipe : IoError := ⟨"BrokenPipe"⟩
def writeZero : IoError := ⟨"WriteZero"⟩
def interrupted : IoError := ⟨"Interrupted"⟩

end IoError

class SerialPort (π : Type) where
  setTimeout : Duration → π → Except IoError Unit × π
  readByte : π → Except IoError (Option UInt8) × π
  writeSome : Bytes → π → Except IoError Nat × π
  flush : π → Except IoError Unit × π
  clearInput : π → Except IoError Unit × π

class FiniteSerialPort (π : Type) extends SerialPort π where
  waiting : π → Nat
  waiting_read_byte (port port' : π) (byte : UInt8) :
    readByte port = (.ok (some byte), port') → waiting port' < waiting port
  waiting_set_timeout (timeout : Duration) (port : π) :
    waiting (setTimeout timeout port).2 = waiting port

-- The port keeps one read timeout, which is set only when a read asks for another one than it is
-- known to have.
structure SerialLine (π : Type) where
  port : π
  byteTimeout : Duration
  readTimeout : Duration

namespace SerialLine

variable {π : Type} [SerialPort π]

def ofPort (port : π) (timeout : Duration) : SerialLine π :=
  { port, byteTimeout := timeout, readTimeout := timeout }

def openLine (line : SerialLine π) : Except IoError Unit × SerialLine π :=
  let (result, port) := SerialPort.clearInput line.port
  (result, { line with port })

def closeLine (line : SerialLine π) : Except IoError Unit × SerialLine π :=
  let (result, port) := SerialPort.flush line.port
  (result, { line with port })

-- It has no result if the port is interrupted for ever.
def writeAll (data : Bytes) (line : SerialLine π) :
    Option (Except IoError Unit × SerialLine π) :=
  match data with
  | [] => some (.ok (), line)
  | byte :: rest =>
    match SerialPort.writeSome (byte :: rest) line.port with
    | (.error e, port) =>
      if e = .interrupted then { line with port } |>.writeAll (byte :: rest)
      else some (.error e, { line with port })
    | (.ok 0, port) => some (.error .writeZero, { line with port })
    | (.ok (taken + 1), port) => { line with port } |>.writeAll (rest.drop taken)
partial_fixpoint

def write? (data : Bytes) (line : SerialLine π) :
    Option (Except IoError Unit × SerialLine π) :=
  match line.writeAll data with
  | none => none
  | some (.error e, line) => some (.error e, line)
  | some (.ok (), line) =>
    let (result, port) := SerialPort.flush line.port
    some (result, { line with port })

-- A write that never ends has no result either; it stands here as an interrupted one.
def write (data : Bytes) (line : SerialLine π) : Except IoError Unit × SerialLine π :=
  (line.write? data).getD (.error .interrupted, line)

def adjustTimeout (timeout : Duration) (line : SerialLine π) :
    Except IoError Unit × SerialLine π :=
  if timeout = line.readTimeout then (.ok (), line)
  else
    match SerialPort.setTimeout timeout line.port with
    | (.error e, port) => (.error e, { line with port })
    | (.ok (), port) => (.ok (), { line with port, readTimeout := timeout })

def readByte (timeout : Duration) (line : SerialLine π) :
    Except (ReadError IoError) UInt8 × SerialLine π :=
  match line.adjustTimeout timeout with
  | (.error e, line) => (.error (.io e), line)
  | (.ok (), line) =>
    match SerialPort.readByte line.port with
    | (.ok (some byte), port) => (.ok byte, { line with port })
    | (.ok none, port) => (.error .timeout, { line with port })
    | (.error e, port) =>
      (.error (if e = .timedOut then .timeout else .io e), { line with port })

section Finite

variable {π : Type} [FiniteSerialPort π]

theorem waiting_adjust_timeout (timeout : Duration) (line : SerialLine π) :
    FiniteSerialPort.waiting (line.adjustTimeout timeout).2.port =
      FiniteSerialPort.waiting line.port := by
  have kept := FiniteSerialPort.waiting_set_timeout timeout line.port
  unfold adjustTimeout
  split
  · rfl
  · split <;> rename_i set <;> rw [set] at kept <;> exact kept

theorem waiting_read_byte (timeout : Duration) (line line' : SerialLine π) (byte : UInt8)
    (taken : readByte timeout line = (.ok byte, line')) :
    FiniteSerialPort.waiting line'.port < FiniteSerialPort.waiting line.port := by
  have kept := waiting_adjust_timeout timeout line
  unfold readByte at taken
  split at taken
  · cases taken
  · rename_i adjusted set
    rw [set] at kept
    split at taken
    · rename_i found port read
      cases taken
      rw [← kept]
      exact FiniteSerialPort.waiting_read_byte _ _ _ read
    · cases taken
    · cases taken

instance : Transport (SerialLine π) IoError where
  openLine := openLine
  closeLine := closeLine
  write := write
  readByte := readByte
  byteTimeout := SerialLine.byteTimeout
  pending line := FiniteSerialPort.waiting line.port
  pending_read_byte := waiting_read_byte

end Finite
end SerialLine

inductive PortCall where
  | write (offered : Nat)
  | flush
  | clearInput
  | setTimeout (timeout : Duration)
deriving DecidableEq

namespace PortCall

def describe : PortCall → String
  | write offered => s!"write {offered}"
  | flush => "flush"
  | clearInput => "clear input"
  | setTimeout timeout => s!"timeout {timeout.wholeMicros}us"

end PortCall

inductive PortRead where
  | byte (value : UInt8)
  | nothing
  | fails (error : IoError)
deriving DecidableEq

inductive PortFailure where
  | setTimeout
  | clearInput
  | write
  | flush
deriving DecidableEq

def PortRead.ofWord? (word : String) : Option PortRead :=
  if word = "zero" then some .nothing
  else if (Hex.bytes? word.toList).isSome then none
  else some (.fails ⟨word⟩)

def PortFailure.ofWord? : String → Option PortFailure
  | "set_timeout" => some .setTimeout
  | "clear" => some .clearInput
  | "write" => some .write
  | "flush" => some .flush
  | _ => none

structure PortLog where
  name : Option String := none
  reads : List PortRead := []
  failure : Option PortFailure := none
  calls : List PortCall := []
  written : Bytes := []

namespace PortLog

def chunk : Nat := 4

def call (c : PortCall) (p : PortLog) : PortLog := { p with calls := p.calls ++ [c] }

def setTimeout (timeout : Duration) (p : PortLog) : Except IoError Unit × PortLog :=
  (if p.failure = some .setTimeout then .error .invalidInput else .ok (),
    p.call (.setTimeout timeout))

def readByte (p : PortLog) : Except IoError (Option UInt8) × PortLog :=
  match p.reads with
  | [] => (.error .timedOut, p)
  | .byte b :: reads => (.ok (some b), { p with reads })
  | .nothing :: reads => (.ok none, { p with reads })
  | .fails e :: reads => (.error e, { p with reads })

def writeSome (data : Bytes) (p : PortLog) : Except IoError Nat × PortLog :=
  let p := p.call (.write data.length)
  if p.failure = some .write then (.error .brokenPipe, p)
  else (.ok (min chunk data.length), { p with written := p.written ++ data.take chunk })

theorem reads_read_byte (p p' : PortLog) (byte : UInt8)
    (taken : readByte p = (.ok (some byte), p')) : p'.reads.length < p.reads.length := by
  rcases p with ⟨name, reads⟩
  cases reads with
  | nil => simp [readByte] at taken
  | cons read reads =>
    cases read <;> simp [readByte] at taken
    rw [← taken.2]
    simp

instance : FiniteSerialPort PortLog where
  setTimeout := setTimeout
  readByte := readByte
  writeSome := writeSome
  flush p := (if p.failure = some .flush then .error .brokenPipe else .ok (), p.call .flush)
  clearInput p :=
    (if p.failure = some .clearInput then .error .notFound else .ok (), p.call .clearInput)
  waiting p := p.reads.length
  waiting_read_byte := reads_read_byte
  waiting_set_timeout _ _ := rfl

end PortLog

inductive PortKind where
  | usb (vendor product : UInt16) (productName : Option String)
  | bluetooth
  | pci
  | other
deriving DecidableEq

structure PortInfo where
  name : String
  kind : PortKind
deriving DecidableEq

namespace PortInfo

def describe (p : PortInfo) : String :=
  match p.kind with
  | .usb vendor product productName =>
    s!"{p.name} (USB {Hex.word vendor}:{Hex.word product} " ++
      productName.getD "unknown product" ++ ")"
  | .bluetooth => p.name ++ " (Bluetooth)"
  | .pci => p.name ++ " (PCI)"
  | .other => p.name

def isUsb (p : PortInfo) : Bool :=
  match p.kind with
  | .usb _ _ _ => true
  | _ => false

def sorted (ports : List PortInfo) : List PortInfo :=
  ports.mergeSort fun a b => decide (a.name ≤ b.name)

def choose (requested : Option String) (ports : List PortInfo) : Option String :=
  match requested with
  | some name => some name
  | none => ((sorted ports).reverse.find? isUsb).map PortInfo.name

end PortInfo
end LegLink
