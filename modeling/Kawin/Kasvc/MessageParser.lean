import Kawin.Base.TracedReader

/-!
# The message parser

`MessageParser::Parse` reads a `KernelMessage` from the receive buffer: a filter header of
16 bytes, the fixed part of an event, and the strings that the offset and length fields of the
event point to.  Addresses count from the start of the buffer.

The only bound it checks is that a string starts before the end of the message.  Nothing
checks that the fixed part is there, or that a string ends where the message does, so
`parseMessage` is a reader over an unbounded memory, and which bytes it reads is part of what
it computes.

Conversions to UTF-8 and the printing of addresses are the platform's.
-/

namespace Kawin.Kasvc

open ByteMemory

/-! ## `event_types.h` -/

/-- `data::EventType`, which a `uint32_t` may hold any value of. -/
inductive EventType
  | hostLog | matchHostPolicy
  | other (code : BitVec 32)
  deriving DecidableEq, Repr

/-- `data::EventOperationType`. -/
inductive EventOperationType
  | fileEvent | processEvent | networkEvent
  deriving DecidableEq, Repr

/-- `data::FileOperation`; a number from the wire is cast to it unchecked. -/
inductive FileOperation
  | create | read | write | delete | rename | setInfo | cleanup | close
  | other (code : ℕ)
  deriving DecidableEq, Repr

def FileOperation.ofCode : ℕ → FileOperation
  | 0 => .create
  | 1 => .read
  | 2 => .write
  | 3 => .delete
  | 4 => .rename
  | 5 => .setInfo
  | 6 => .cleanup
  | 7 => .close
  | code => .other code

/-- `data::ProcessOperation`. -/
inductive ProcessOperation
  | create | terminate | openHandle | duplicateHandle
  | other (code : ℕ)
  deriving DecidableEq, Repr

def ProcessOperation.ofCode : ℕ → ProcessOperation
  | 0 => .create
  | 1 => .terminate
  | 2 => .openHandle
  | 3 => .duplicateHandle
  | code => .other code

/-- `data::NetworkOperation`. -/
inductive NetworkOperation
  | tcpConnect | tcpAccept | tcpSend | tcpReceive | udpSend | udpReceive
  | other (code : ℕ)
  deriving DecidableEq, Repr

def NetworkOperation.ofCode : ℕ → NetworkOperation
  | 0 => .tcpConnect
  | 1 => .tcpAccept
  | 2 => .tcpSend
  | 3 => .tcpReceive
  | 4 => .udpSend
  | 5 => .udpReceive
  | code => .other code

structure FileEventData where
  operation : FileOperation
  processId : ℕ
  processPath : List Byte
  filePath : List Byte
  deriving DecidableEq

structure ProcessEventData where
  operation : ProcessOperation
  processId : ℕ
  parentProcessId : ℕ
  processPath : List Byte
  commandLine : List Byte
  parentProcessPath : List Byte
  deriving DecidableEq

structure NetworkEventData where
  operation : NetworkOperation
  protocol : ℕ
  localPort : ℕ
  remotePort : ℕ
  localAddress : List Byte
  remoteAddress : List Byte
  dataLength : ℕ
  deriving DecidableEq

/-- The variant `data` of an event. -/
inductive EventData
  | file (data : FileEventData)
  | process (data : ProcessEventData)
  | network (data : NetworkEventData)
  deriving DecidableEq

/-- `system_clock::time_point`: ticks of 100 nanoseconds, in an `int64`. -/
abbrev TimePoint := BitVec 64

/-- The time point of a count of microseconds, of ten ticks each. -/
def TimePoint.ofMicroseconds (count : ℕ) : TimePoint := BitVec.ofNat 64 count * 10#64

/-- `data::Event`. -/
structure Event where
  type : EventType
  operationType : EventOperationType
  eventId : ℕ
  timestamp : TimePoint
  blocked : Bool
  data : EventData
  deriving DecidableEq

/-! ## `kernel_message.h` -/

/-- The addresses of the fields of a `KernelMessage` in its buffer. -/
def payloadAt : ℕ := 16
def timestampAt : ℕ := payloadAt
def eventTypeAt : ℕ := payloadAt + 8
def eventOperationAt : ℕ := payloadAt + 12
def blockedAt : ℕ := payloadAt + 16
/-- the union `data`, whose members all begin with `operation` -/
def dataAt : ℕ := payloadAt + 17

/-- `KernelEventOperation`. -/
def processEventCode : ℕ := 1
def fileEventCode : ℕ := 2
def networkEventCode : ℕ := 3

/-- `get_string_at_offset`: the address of the string, unless it starts past the end. -/
def getStringAtOffset (offset bufferSize : ℕ) : Option ℕ :=
  if bufferSize ≤ payloadAt + offset then none else some (payloadAt + offset)

/-! ## `message_parser.cpp` -/

/-- What the parser calls on the platform: `WideCharToMultiByte` to UTF-8, and `inet_ntop` on
the 4 and on the 16 bytes of an address. -/
structure Platform where
  wideCharToMultiByte : List (BitVec 16) → List Byte
  inetNtop4 : List Byte → List Byte
  inetNtop6 : List Byte → List Byte

section

variable (platform : Platform)

/-- `WStringToString`. -/
def wStringToString (a length : ℕ) : TracedReader (List Byte) :=
  if length = 0 then pure [] else do
    let units ← TracedReader.units a length
    return platform.wideCharToMultiByte units

/-- The string whose offset and length stand in the two fields at `field`: empty if the
length is zero, or if it starts past the end of the message. -/
def parseString (field bufferSize : ℕ) : TracedReader (List Byte) := do
  let length ← TracedReader.nat (field + 4) 4
  if length = 0 then pure [] else do
    let offset ← TracedReader.nat field 4
    match getStringAtOffset offset bufferSize with
    | none => pure []
    -- two bytes to a character
    | some a => wStringToString platform a (length / 2)

/-- `ParseFileEvent`. -/
def parseFileEvent (bufferSize : ℕ) : TracedReader FileEventData := do
  let operation ← TracedReader.nat dataAt 4
  let processId ← TracedReader.nat (dataAt + 4) 4
  let processPath ← parseString platform (dataAt + 8) bufferSize
  let filePath ← parseString platform (dataAt + 16) bufferSize
  return ⟨.ofCode operation, processId, processPath, filePath⟩

/-- `ParseProcessEvent`. -/
def parseProcessEvent (bufferSize : ℕ) : TracedReader ProcessEventData := do
  let operation ← TracedReader.nat dataAt 4
  let processId ← TracedReader.nat (dataAt + 4) 4
  let parentProcessId ← TracedReader.nat (dataAt + 8) 4
  let processPath ← parseString platform (dataAt + 12) bufferSize
  let commandLine ← parseString platform (dataAt + 20) bufferSize
  let parentProcessPath ← parseString platform (dataAt + 28) bufferSize
  return ⟨.ofCode operation, processId, parentProcessId, processPath, commandLine,
    parentProcessPath⟩

/-- `AF_INET` and `AF_INET6`. -/
def afInet : ℕ := 2
def afInet6 : ℕ := 23

/-- `FormatIPAddress`. -/
def formatIPAddress (addr family : ℕ) : TracedReader (List Byte) :=
  if family = afInet then do return platform.inetNtop4 (← TracedReader.bytes addr 4)
  else if family = afInet6 then do return platform.inetNtop6 (← TracedReader.bytes addr 16)
  else pure []

/-- `ntohs` on a little-endian machine. -/
def ntohs (port : ℕ) : ℕ := port % 256 * 256 + port / 256

/-- `ParseNetworkEvent`. -/
def parseNetworkEvent : TracedReader NetworkEventData := do
  let operation ← TracedReader.nat dataAt 4
  let protocol ← TracedReader.nat (dataAt + 4) 4
  let localPort ← TracedReader.nat (dataAt + 8) 2
  let remotePort ← TracedReader.nat (dataAt + 10) 2
  let family ← TracedReader.nat (dataAt + 48) 1
  let localAddress ← formatIPAddress platform (dataAt + 12) family
  let remoteAddress ← formatIPAddress platform (dataAt + 28) family
  let dataLength ← TracedReader.nat (dataAt + 44) 4
  return ⟨.ofCode operation, protocol, ntohs localPort, ntohs remotePort, localAddress,
    remoteAddress, dataLength⟩

/-- `Parse` on a message that is there.  The constructor of `data::Event` leaves `type`
alone and so does everything after it: `unassigned` is what the field happens to hold. -/
def parseMessage (unassigned : EventType) (bufferSize : ℕ) :
    TracedReader (Except String Event) := do
  let timestamp ← TracedReader.nat timestampAt 8
  let blocked ← TracedReader.nat blockedAt 1
  let eventOperation ← TracedReader.nat eventOperationAt 4
  let event (operationType : EventOperationType) (data : EventData) : Event :=
    { type := unassigned
      operationType := operationType
      eventId := 1
      timestamp := .ofMicroseconds (timestamp / 10)
      blocked := blocked ≠ 0
      data := data }
  if eventOperation = fileEventCode then do
    let data ← parseFileEvent platform bufferSize
    return .ok (event .fileEvent (.file data))
  else if eventOperation = processEventCode then do
    let data ← parseProcessEvent platform bufferSize
    return .ok (event .processEvent (.process data))
  else if eventOperation = networkEventCode then do
    let data ← parseNetworkEvent platform
    return .ok (event .networkEvent (.network data))
  else return .error "Unknown event type"

/-- `MessageParser::Parse`. -/
def parse (unassigned : EventType) (kernelMsg : Option Memory) (bufferSize : ℕ) :
    Except String Event :=
  match kernelMsg with
  | none => .error "Null kernel message"
  | some m => (parseMessage platform unassigned bufferSize).value m

end

end Kawin.Kasvc
