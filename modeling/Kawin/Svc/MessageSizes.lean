import Kawin.Driver.Occurrences
import Kawin.Kasvc.FilterPort
import Kawin.Svc.FilterMessage

/-!
# The sizes of a message

Five limits stand in the way of an event: the `Buffer` it is serialized into, the largest payload of
a ring slot, the send buffer, and the receive buffers of the two services, which must hold the
filter header too.  The driver's own are in order: what fits the first fits the
others.  Both services receive into 4096 bytes, an eighth of what the driver serializes, so it
is the strings of an event that decide whether it can be received (`fits_iff`).
-/

namespace Kawin.Svc

open Kawin.Kasvc Transition
open Kawin.Driver (Occurrence UnicodeString UINT64 statusSuccess maxPayload sizeofEvent
  defaultMaxSize)

/-! ## The limits -/

/-- `ASYNC_SEND_BUFFER_BYTES`. -/
def asyncSendBufferBytes : ℕ := 64 * 1024

/-- `iocp_config` in `main`, without the name of the port. -/
def iocpConfig (workerThreads : ℕ) : IOCPConfig where
  workerThreadCount := workerThreads
  concurrentOperations := 2 * workerThreads
  bufferSize := 4096
  bufferPoolSize := 4 * workerThreads

/-- `ProduceSlot` and the send buffer have room for the event. -/
structure FitsDispatcher (event : Driver.Buffer) : Prop where
  slot : event.currentSize ≤ maxPayload
  sendBuf : event.currentSize.toNat ≤ asyncSendBufferBytes

/-- The event has room wherever it goes, received into `context` or into the buffer of a reader. -/
structure Fits (event : Driver.Buffer) (context : IOContext) : Prop where
  dispatcher : FitsDispatcher event
  kasvc : payloadAt + event.currentSize.toNat ≤ context.bufferSize
  svc : payloadAt + event.currentSize.toNat ≤ messageBufferSize

/-! ## Every event against every limit -/

variable {occurrence : Occurrence} {timestamp : UINT64}

/-- No limit of the driver is smaller than its `Buffer`. -/
theorem fitsDispatcher (hsuccess : (occurrence.serialize timestamp).1 = statusSuccess) :
    FitsDispatcher (occurrence.serialize timestamp).2 := by
  have hbuffer : sizeofEvent + occurrence.stringBytes ≤ 32768 :=
    Occurrence.serialize_success_iff.mp hsuccess
  constructor
  · rw [BitVec.le_def, Occurrence.currentSize_serialize hsuccess]
    exact hbuffer.trans (by decide)
  · rw [Occurrence.currentSize_serialize hsuccess]
    exact hbuffer.trans (by decide)

/-- **Sizes, exactly.**  An event that the driver serializes fits its ring and its send buffer, and
it fits the receive buffers if and only if its strings have at most 4014 bytes. -/
theorem fits_iff (workerThreads : ℕ) (communicator : Communicator) (context : IOContext)
    (occurrence : Occurrence) (timestamp : UINT64)
    (hreached : Reaches connectStep (.construct (iocpConfig workerThreads)) communicator)
    (hcontext : context ∈ communicator.contextPool)
    (hsuccess : (occurrence.serialize timestamp).1 = statusSuccess) :
    FitsDispatcher (occurrence.serialize timestamp).2 ∧
      (Fits (occurrence.serialize timestamp).2 context ↔ occurrence.stringBytes ≤ 4014) := by
  have hdispatcher := fitsDispatcher hsuccess
  have hreceive : context.bufferSize = 4096 :=
    (buffersSized_of_reaches hreached).contexts context hcontext
  have hsize := Occurrence.currentSize_serialize hsuccess
  have hlayout := layout
  refine ⟨hdispatcher, ?_, ?_⟩
  · intro hfits
    have hkasvc := hfits.kasvc
    omega
  · intro hstrings
    exact ⟨hdispatcher, by omega, by omega⟩

/-! ## A long command line -/

/-- A process is created with a command line of the given length. -/
private def created (length : ℕ) (hshort : 2 * length < 2 ^ 16) : Occurrence :=
  .process 8#64
    (some ⟨4#64, 4#64, true, .empty, ⟨List.replicate length 97#16, by simpa using hshort⟩⟩)
    .empty none

private theorem created_stringBytes (length : ℕ) (hshort : 2 * length < 2 ^ 16) :
    (created length hshort).stringBytes = 2 * length := by
  have hcommand : (⟨List.replicate length 97#16, by simpa using hshort⟩ : UnicodeString).length =
      2 * length := congrArg (2 * ·) List.length_replicate
  rw [created, Occurrence.stringBytes, Driver.processStrings, Driver.ProcessStrings.length,
    hcommand]
  show 0 + 2 * length + 0 = 2 * length
  omega

private theorem created_serialized {length : ℕ} (hlength : length ≤ 4096) :
    ((created length (by omega)).serialize 0#64).1 = statusSuccess := by
  refine Occurrence.serialize_success_iff.mpr ?_
  have hevent : sizeofEvent = 66 := rfl
  have hmax : defaultMaxSize = 32768 := rfl
  rw [created_stringBytes]
  omega

/-- One worker, and everything it asks the system for. -/
private def connected : Communicator :=
  ((Communicator.construct (iocpConfig 1)).connect ⟨0, none, fun _ => true, fun _ => true⟩).2

private theorem connected_reached :
    Reaches connectStep (.construct (iocpConfig 1)) connected :=
  .single (.connect ⟨0, none, fun _ => true, fun _ => true⟩) trivial rfl

private def firstContext : IOContext := ⟨2, 4096, true⟩

private theorem firstContext_mem : firstContext ∈ connected.contextPool := by decide +kernel

/-- The theorem at a command line of 2007 characters, the longest that can be received. -/
theorem longest_received :
    FitsDispatcher ((created 2007 (by decide)).serialize 0#64).2 ∧
      (Fits ((created 2007 (by decide)).serialize 0#64).2 firstContext ↔
        (created 2007 (by decide)).stringBytes ≤ 4014) :=
  fits_iff 1 connected firstContext (created 2007 (by decide)) 0#64 connected_reached
    firstContext_mem (created_serialized (by decide))

/-- A command line of 2008 characters is serialized, and cannot be received. -/
theorem long_commandLine_not_received : ¬∀ workerThreads communicator context occurrence
    timestamp, Reaches connectStep (.construct (iocpConfig workerThreads)) communicator →
      context ∈ communicator.contextPool →
      (Occurrence.serialize timestamp occurrence).1 = statusSuccess →
      Fits (Occurrence.serialize timestamp occurrence).2 context := by
  intro hfits
  have hsuccess := @created_serialized 2008 (by decide)
  have hsize := Occurrence.currentSize_serialize hsuccess
  have hbytes := created_stringBytes 2008 (by decide)
  have hlong := (hfits 1 connected firstContext _ 0#64 connected_reached firstContext_mem
    hsuccess).svc
  have hlayout := layout
  omega

end Kawin.Svc
