import Kawin.Driver.Dispatcher
import Kawin.Driver.UnicodeString

/-!
# The file callbacks

`Filter.cpp` sees a file handle through pairs of callbacks, one before and one after each
request, that communicate through the flags of the handle's `StreamHandleContext`.  A
pre-callback decides whether its post-callback runs at all.

What the callbacks ask of the system is data of the request: `Surroundings` for
`SkipEvent`, and the status that each context lookup returns.  The contents of the paths
play no part in any decision.  `HandleRequest.run` is one request with the Filter Manager's rule
that the post-callback runs exactly when the pre-callback returned `WITH_CALLBACK` or
`SYNCHRONIZE`.
-/

namespace Kawin.Driver

/-! ## Events and contexts -/

/-- `protocol::EVENT_TYPE`. -/
inductive EventType
  | processCreate | processTerminate | threadCreate | threadTerminate | imageLoad
  | fileCreate | fileClose | fileRead | fileWrite | fileDelete | fileRename | fileSetInfo
  deriving DecidableEq, Repr

/-- `StreamHandleContext::fileIoStatus`. -/
inductive FileIoStatus
  | opened | created | overwritten
  deriving DecidableEq, Repr

/-- `FILE_SUPERSEDED`, `FILE_OPENED`, `FILE_CREATED`, `FILE_OVERWRITTEN`: the results of a
create in `IoStatus.Information`. -/
def fileSuperseded : UINT64 := 0#64
def fileOpened : UINT64 := 1#64
def fileCreated : UINT64 := 2#64
def fileOverwritten : UINT64 := 3#64

/-- The fields of `StreamHandleContext` that some callback or the serializer reads. -/
structure StreamHandleContext where
  processId : UINT64
  processPath : UnicodeString
  filePath : UnicodeString
  fileIoStatus : FileIoStatus
  isDirectory : Bool
  isOpenedForExecution : Bool
  deleteOnClose : Bool
  dispositionDelete : Bool
  dispositionRename : Bool
  wasChanged : Bool
  wasRead : Bool
  readOnly : Bool

/-! ## What a callback is given -/

/-- `FLT_CALLBACK_DATA`, as far as the callbacks read it before completion. -/
structure CallbackData where
  flags : ULONG
  irpFlags : ULONG
  deriving DecidableEq, Repr

/-- `IO_STATUS_BLOCK`. -/
structure IoStatusBlock where
  status : NTSTATUS
  information : UINT64
  deriving DecidableEq, Repr

/-- What `SkipEvent` asks of the system at the moment it is called. -/
structure Surroundings where
  irql : ℕ
  topLevelIrp : Bool
  systemProcess : Bool
  fileObjectFlags : ULONG
  deriving DecidableEq, Repr

def passiveLevel : ℕ := 0
def fltflCallbackDataIrpOperation : ULONG := 0x1#32
def fltflCallbackDataFastIoOperation : ULONG := 0x2#32
def fltflPostOperationDraining : ULONG := 0x1#32
def irpPagingIo : ULONG := 0x2#32
def irpSynchronousPagingIo : ULONG := 0x40#32
def foNamedPipe : ULONG := 0x80#32
def foMailslot : ULONG := 0x200#32
def foVolumeOpen : ULONG := 0x400000#32
def statusReparse : NTSTATUS := 0x104#32
def fileDirectoryFile : ULONG := 0x1#32
def fileDeleteOnClose : ULONG := 0x1000#32
def fileExecute : ULONG := 0x20#32

/-- `flags & mask` as a condition. -/
def hasFlag (flags mask : ULONG) : Bool := flags &&& mask != 0#32

/-- `FLT_IS_FASTIO_OPERATION`. -/
def CallbackData.isFastIo (data : CallbackData) : Bool :=
  hasFlag data.flags fltflCallbackDataFastIoOperation

/-- `FLT_IS_IRP_OPERATION`. -/
def CallbackData.isIrp (data : CallbackData) : Bool :=
  hasFlag data.flags fltflCallbackDataIrpOperation

/-- `SkipReadWriteIo`. -/
def skipReadWriteIo (data : CallbackData) : Bool :=
  if hasFlag data.irpFlags irpPagingIo then true
  else if hasFlag data.irpFlags irpSynchronousPagingIo then true
  else if data.isFastIo then true
  else false

/-- `SkipEvent`. -/
def skipEvent (data : CallbackData) (now : Surroundings) : Bool :=
  if decide (passiveLevel < now.irql) || now.topLevelIrp || data.isFastIo || !data.isIrp then true
  else if now.systemProcess then true
  else if hasFlag now.fileObjectFlags (foNamedPipe ||| foMailslot ||| foVolumeOpen) then true
  else false

/-- `FILE_INFORMATION_CLASS`; the classes the callbacks do not name are `other`. -/
inductive FileInformationClass
  | rename | renameEx | disposition | dispositionEx
  | other (code : ℕ)
  deriving DecidableEq, Repr

/-- `isDelete` of the set-information callbacks. -/
def FileInformationClass.isDelete (infoClass : FileInformationClass) : Bool :=
  infoClass == .disposition || infoClass == .dispositionEx

/-- `isRename` of the set-information callbacks. -/
def FileInformationClass.isRename (infoClass : FileInformationClass) : Bool :=
  infoClass == .rename || infoClass == .renameEx

/-- One request as its two callbacks see it.  The lookups are the statuses that
`FltGetStreamHandleContext` (before and after) and `FltGetInstanceContext` return. -/
structure FileRequest where
  data : CallbackData
  pre : Surroundings
  preLookup : NTSTATUS
  ioStatus : IoStatusBlock
  postFlags : ULONG
  post : Surroundings
  postLookup : NTSTATUS
  instanceLookup : NTSTATUS
  deriving DecidableEq, Repr

/-- The post-callback is told that the instance is going away. -/
def FileRequest.draining (r : FileRequest) : Bool := hasFlag r.postFlags fltflPostOperationDraining

/-- A create, with the statuses of `FltAllocateContext` and `FltSetStreamHandleContext`, the
paths that `PopulateFileInformation` and `PopulateProcessPath` found, and the parameters. -/
structure CreateRequest extends FileRequest where
  allocateContext : NTSTATUS
  setContext : NTSTATUS
  currentProcessId : UINT64
  processPath : UnicodeString
  filePath : UnicodeString
  desiredAccess : ULONG
  createOptions : ULONG

/-- A read, a write of a length, or a set-information request.  `deleteFile` is the flag in
the buffer of a disposition request; no callback reads it. -/
inductive Operation
  | read
  | write (length : ULONG)
  | setInformation (infoClass : FileInformationClass) (deleteFile : Bool)
  deriving DecidableEq, Repr

/-- A request on an open handle. -/
structure HandleRequest extends FileRequest where
  operation : Operation
  deriving DecidableEq, Repr

/-! ## The callbacks -/

/-- `FLT_PREOP_CALLBACK_STATUS`. -/
inductive PreopStatus
  | successNoCallback | successWithCallback | synchronize
  deriving DecidableEq, Repr

/-- The Filter Manager calls the post-callback. -/
def PreopStatus.callsPost : PreopStatus → Bool
  | .successNoCallback => false
  | .successWithCallback | .synchronize => true

/-- `Context::InitializeStreamHandleContext`. -/
def initializeStreamHandleContext (c : CreateRequest) : StreamHandleContext where
  processId := c.currentProcessId
  processPath := c.processPath
  filePath := c.filePath
  fileIoStatus :=
    if c.ioStatus.information = fileSuperseded ∨ c.ioStatus.information = fileOverwritten then
      .overwritten
    else if c.ioStatus.information = fileCreated then .created
    else .opened
  isDirectory := hasFlag (c.createOptions &&& 0x00FFFFFF#32) fileDirectoryFile
  isOpenedForExecution := hasFlag c.desiredAccess fileExecute
  deleteOnClose := hasFlag (c.createOptions &&& 0x00FFFFFF#32) fileDeleteOnClose
  dispositionDelete := false
  wasChanged := false
  -- left as `RtlZeroMemory` set them
  dispositionRename := false
  wasRead := false
  readOnly := false

/-- `PreCreateCallback`; the source writes the tests of `SkipEvent` out once more. -/
def preCreateCallback (r : FileRequest) : PreopStatus :=
  if skipEvent r.data r.pre then .successNoCallback else .successWithCallback

/-- `PostCreateCallback`: the context it attaches, and the events it enqueues. -/
def postCreateCallback (c : CreateRequest) : Option StreamHandleContext × List EventType :=
  if c.draining then (none, [])
  else if !ntSuccess c.ioStatus.status || c.ioStatus.status == statusReparse then (none, [])
  else if skipEvent c.data c.post then (none, [])
  else if !ntSuccess c.allocateContext then (none, [])
  else
    let context := initializeStreamHandleContext c
    -- a context that could not be attached is released again
    if !ntSuccess c.setContext then (none, [])
    -- without the instance the context stays, but nothing is enqueued
    else if !ntSuccess c.instanceLookup then (some context, [])
    else (some context, if context.fileIoStatus = .created then [.fileCreate] else [])

/-- `PreReadCallback`. -/
def preReadCallback (r : FileRequest) : PreopStatus :=
  if skipReadWriteIo r.data then .successNoCallback
  else if skipEvent r.data r.pre then .successNoCallback
  else if !ntSuccess r.preLookup then .successNoCallback
  else .successWithCallback

/-- `PostReadCallback`. -/
def postReadCallback (r : FileRequest) (context : StreamHandleContext) : StreamHandleContext :=
  if skipEvent r.data r.post || r.draining then context
  else if !ntSuccess r.ioStatus.status || r.ioStatus.information == 0#64 then context
  else if ntSuccess r.postLookup then { context with wasRead := true }
  else context

/-- `PreWriteCallback`. -/
def preWriteCallback (r : FileRequest) (length : ULONG) (context : StreamHandleContext) :
    PreopStatus :=
  if skipReadWriteIo r.data then .successNoCallback
  else if skipEvent r.data r.pre then .successNoCallback
  else if !ntSuccess r.preLookup then .successNoCallback
  -- the test of `readOnly` is the source's, negation included
  else if !context.readOnly || length == 0#32 then .successNoCallback
  else .successWithCallback

/-- `PostWriteCallback`. -/
def postWriteCallback (r : FileRequest) (context : StreamHandleContext) : StreamHandleContext :=
  if skipEvent r.data r.post || r.draining then context
  else if !ntSuccess r.ioStatus.status || r.ioStatus.information == 0#64 then context
  else if ntSuccess r.postLookup then { context with wasChanged := true }
  else context

/-- `PreSetInformationCallback`. -/
def preSetInformationCallback (r : FileRequest) (infoClass : FileInformationClass) :
    PreopStatus :=
  if skipEvent r.data r.pre then .successNoCallback
  else if !infoClass.isDelete && !infoClass.isRename then .successNoCallback
  else if !ntSuccess r.preLookup then .successNoCallback
  else .successWithCallback

/-- `PostSetInformationCallback`: the context, and the events it enqueues. -/
def postSetInformationCallback (r : FileRequest) (infoClass : FileInformationClass)
    (context : StreamHandleContext) : StreamHandleContext × List EventType :=
  if skipEvent r.data r.post || r.draining then (context, [])
  else if !ntSuccess r.ioStatus.status then (context, [])
  else if !ntSuccess r.postLookup then (context, [])
  else if !infoClass.isDelete && !infoClass.isRename then (context, [])
  else
    -- any disposition request marks the handle, whatever its `DeleteFile` flag says
    let context :=
      if infoClass.isDelete then { context with dispositionDelete := true } else context
    if infoClass.isRename then
      ({ context with dispositionRename := true },
        if ntSuccess r.instanceLookup then [.fileRename] else [])
    else (context, [])

/-- `PreCleanupCallback`. -/
def preCleanupCallback (r : FileRequest) : PreopStatus :=
  if skipEvent r.data r.pre then .successNoCallback
  else if !ntSuccess r.preLookup then .successNoCallback
  else .synchronize

/-- `deleted` of `PostCleanupCallback`. -/
def StreamHandleContext.deleted (context : StreamHandleContext) : Bool :=
  context.deleteOnClose || context.dispositionDelete

/-- The events of `PostCleanupCallback` once it has found both contexts. -/
def cleanupEvents (context : StreamHandleContext) : List EventType :=
  -- in the order of the source: reads, changes, then how the handle ends
  (if context.wasRead then [.fileRead] else []) ++
  (if context.wasChanged && !context.deleted then [.fileWrite] else []) ++
  (if context.deleted && context.fileIoStatus != .created then [.fileDelete]
    else if !context.deleted && !context.dispositionRename then [.fileClose]
    else [])

/-- `PostCleanupCallback`: the events it enqueues. -/
def postCleanupCallback (r : FileRequest) (context : StreamHandleContext) : List EventType :=
  if skipEvent r.data r.post || r.draining then []
  else if !ntSuccess r.ioStatus.status then []
  else if !ntSuccess r.postLookup then []
  else if !ntSuccess r.instanceLookup then []
  else cleanupEvents context

/-! ## Requests and runs -/

/-- The create of a handle. -/
def runCreate (c : CreateRequest) : Option StreamHandleContext × List EventType :=
  if (preCreateCallback c.toFileRequest).callsPost then postCreateCallback c else (none, [])

/-- One request: the pre-callback, and the post-callback where the pre-callback asked for it. -/
def HandleRequest.run (r : HandleRequest) (context : StreamHandleContext) :
    StreamHandleContext × List EventType :=
  match r.operation with
  | .read =>
      if (preReadCallback r.toFileRequest).callsPost then
        (postReadCallback r.toFileRequest context, [])
      else (context, [])
  | .write length =>
      if (preWriteCallback r.toFileRequest length context).callsPost then
        (postWriteCallback r.toFileRequest context, [])
      else (context, [])
  | .setInformation infoClass _ =>
      if (preSetInformationCallback r.toFileRequest infoClass).callsPost then
        postSetInformationCallback r.toFileRequest infoClass context
      else (context, [])

/-- A list of requests: the context they leave, and the events they enqueue. -/
def runRequests (context : StreamHandleContext) :
    List HandleRequest → StreamHandleContext × List EventType
  | [] => (context, [])
  | r :: rest =>
      let after := r.run context
      let final := runRequests after.1 rest
      (final.1, after.2 ++ final.2)

/-- The cleanup of a handle. -/
def runCleanup (r : FileRequest) (context : StreamHandleContext) : List EventType :=
  if (preCleanupCallback r).callsPost then postCleanupCallback r context else []

/-- The life of one handle: a create that attached a context, requests, and the cleanup. -/
structure HandleRun where
  create : CreateRequest
  attached : (runCreate create).1.isSome
  requests : List HandleRequest
  cleanup : FileRequest

namespace HandleRun

variable (run : HandleRun)

/-- The context that `PostCreateCallback` attached (`runCreate_attached`). -/
def opened : StreamHandleContext := initializeStreamHandleContext run.create

/-- The context at cleanup. -/
def final : StreamHandleContext := (runRequests run.opened run.requests).1

/-- What `PostCleanupCallback` enqueues. -/
def atCleanup : List EventType := runCleanup run.cleanup run.final

/-- All events of the handle, in the order in which they are enqueued. -/
def events : List EventType :=
  (runCreate run.create).2 ++ (runRequests run.opened run.requests).2 ++ run.atCleanup

end HandleRun

/-- What the create of a handle leaves: the initialized context, and a `FILE_CREATE` where the
create made the file and the instance context was found. -/
theorem runCreate_attached {c : CreateRequest} (h : (runCreate c).1.isSome) :
    runCreate c = (some (initializeStreamHandleContext c),
      if ntSuccess c.instanceLookup ∧ (initializeStreamHandleContext c).fileIoStatus = .created then
        [.fileCreate] else []) := by
  revert h
  unfold runCreate postCreateCallback
  repeat' split
  all_goals simp_all

end Kawin.Driver
