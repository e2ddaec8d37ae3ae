import BroadcastGuide.Numeral.Binary64
import BroadcastGuide.Octets

/-!
An open stream that sections are captured from. A live stream that brings no bytes for a while
counts as ended; a stream that cannot keep a reader waiting has no such limit.
-/

namespace BroadcastGuide

structure DecimalSeconds where
  digits : Int
  places : Nat
  deriving DecidableEq, Repr

inductive Medium
  /-- Bytes that are all there. -/
  | memory
  /-- A pipe; as long as its writer holds it, its end makes a reader wait. -/
  | pipe (hasWriter : Bool)
  deriving DecidableEq, Repr

structure Capture where
  medium : Medium
  data : Octets
  /-- How long a reader waits. -/
  timeout : Option DecimalSeconds
  /-- Closing the capture closes the stream. -/
  ownsStream : Bool
  isClosed : Bool
  /-- The limit is over, and stays so until the wait begins anew. -/
  isLapsed : Bool
  /-- The limit has ended a read. -/
  hasTimedOut : Bool
  deriving DecidableEq, Repr

inductive ReadFault
  /-- Bytes that are all there were closed. -/
  | closed
  /-- The system refuses to read. -/
  | system
  /-- A size or a limit is too large for the system. -/
  | tooLarge
  /-- There is no memory for so many bytes. -/
  | noMemory
  deriving DecidableEq, Repr

def ReadFault.message : ReadFault → String
  | .closed => "I/O operation on closed file."
  | .system => "the system cannot read"
  | .tooLarge => "number too large"
  | .noMemory => "out of memory"

namespace Capture

def isCountable (limit : DecimalSeconds) : Bool :=
  Numeral.fitsBinary64 ((limit.digits : Rat) / ((Nat.pow 10 limit.places : Nat) : Rat))

/-- The sizes that can be asked for, of either sign. -/
def maxSize : Int := 1 <<< 63

/-- How many bytes of a row of bytes are not for its content. -/
def rowOverhead : Int := 33

/-- The size from which on memory does not suffice. -/
def memorySize : Int := 1 <<< 38

def maxNanoseconds : Int := 1 <<< 63

def isWaitable (limit : DecimalSeconds) : Bool :=
  limit.digits * 1000000000 < maxNanoseconds * (Nat.pow 10 limit.places : Nat)

/-- Whether a limit is over before a reader can ask: it is in the past, or shorter than a millionth
of a second. -/
def isOver (limit : DecimalSeconds) : Bool :=
  limit.digits * 1000000 < (Nat.pow 10 limit.places : Nat)

/-- Opens a stream. Only a pipe keeps its limit, and a limit of zero is none. -/
def ofStream (medium : Medium) (data : Octets) (timeout : Option DecimalSeconds)
    (ownsStream : Bool) : Except ReadFault Capture :=
  let limit := match medium with
    | .memory => none
    | .pipe _ => timeout.filter (·.digits ≠ 0)
  if limit.all isCountable then
    .ok ⟨medium, data, limit, ownsStream, false, limit.any isOver, false⟩
  else .error .tooLarge

/-- Begins the wait anew, as every section that is found does. -/
def restart (c : Capture) : Capture := { c with isLapsed := c.timeout.any isOver }

def takeBytes (c : Capture) (count : Nat) : Octets × Capture :=
  (c.data.take count, { c with data := c.data.drop count })

/-- Reads from bytes that are all there; a negative size takes all. -/
def readMemory (c : Capture) (size : Int) : Except ReadFault (Octets × Capture) :=
  if size < -maxSize ∨ maxSize ≤ size then .error .tooLarge
  else if c.isClosed then .error .closed
  else .ok (c.takeBytes (if 0 ≤ size then size.toNat else c.data.length))

/-- Reads from a pipe that does not keep the reader waiting. There must be memory for as many bytes
as are asked for. -/
def readPipe (c : Capture) (size : Int) : Except ReadFault (Octets × Capture) :=
  if size < -maxSize ∨ maxSize - rowOverhead ≤ size then .error .tooLarge
  else if memorySize ≤ size then .error .noMemory
  else if c.isClosed ∨ size < 0 then .error .system
  else .ok (c.takeBytes size.toNat)

def timeOut (c : Capture) : Octets × Capture :=
  ([], { c with isLapsed := true, hasTimedOut := true })

/-- Reads up to so many bytes. Where there is a limit, a pipe is waited for before it is read: one
whose writer is there and brings nothing uses the limit up. Once the limit is over, no read waits
for the stream or even looks at it. -/
def read (c : Capture) (size : Int) : Except ReadFault (Octets × Capture) :=
  match c.medium, c.timeout with
  | .memory, _ => c.readMemory size
  | .pipe _, none => c.readPipe size
  | .pipe hasWriter, some limit =>
    if c.isLapsed then .ok c.timeOut
    else if !isWaitable limit then .error .tooLarge
    else if c.isClosed then .error .system
    else if hasWriter && c.data.isEmpty then .ok c.timeOut
    else c.readPipe size

def close (c : Capture) : Capture := { c with isClosed := c.isClosed || c.ownsStream }

end Capture

end BroadcastGuide
