import Kawin.Driver.FileCallbacks

/-!
# The events of one handle

Everything a request does to a handle is a disjunction of flags: `HandleRequest.run_eq` says which
flags it raises and which event it enqueues, `runRequests_eq` says the same of a list of
requests, and the events of a whole run follow (`HandleRun.events_eq`).

* `trace_of_unhindered`: the order and number of the events of a handle.  A cleanup that fails
  enqueues nothing (`not_trace_of_failedCleanup`);
* `deletion_reported_iff`: a handle is treated as deleted once any disposition request
  succeeded, so that a revoked deletion is reported;
* `writes_reported_iff`: no write is ever reported.  `PreWriteCallback` asks for its
  post-callback only where `readOnly` is set, and no function sets it.
-/

namespace Kawin.Driver

/-! ## One request -/

/-- The request completed successfully.  While the instance drains, it has not completed. -/
def FileRequest.succeeded (r : FileRequest) : Bool := !r.draining && ntSuccess r.ioStatus.status

/-- The post-callback gets past its own tests to the context of the handle. -/
def FileRequest.observed (r : FileRequest) : Bool :=
  !skipEvent r.data r.post && r.succeeded && ntSuccess r.postLookup

theorem postReadCallback_eq (r : FileRequest) (context : StreamHandleContext) :
    postReadCallback r context =
      if r.observed && r.ioStatus.information != 0#64 then { context with wasRead := true }
      else context := by
  unfold postReadCallback FileRequest.observed FileRequest.succeeded
  cases skipEvent r.data r.post <;> cases r.draining <;> cases ntSuccess r.ioStatus.status <;>
    cases ntSuccess r.postLookup <;> cases hinfo : r.ioStatus.information == 0#64 <;>
      simp_all [bne]

theorem postSetInformationCallback_eq (r : FileRequest) (infoClass : FileInformationClass)
    (context : StreamHandleContext) :
    postSetInformationCallback r infoClass context =
      if r.observed then
        ({ context with
            dispositionDelete := context.dispositionDelete || infoClass.isDelete
            dispositionRename := context.dispositionRename || infoClass.isRename },
          if infoClass.isRename && ntSuccess r.instanceLookup then [.fileRename] else [])
      else (context, []) := by
  unfold postSetInformationCallback FileRequest.observed FileRequest.succeeded
  cases skipEvent r.data r.post <;> cases r.draining <;> cases ntSuccess r.ioStatus.status <;>
    cases ntSuccess r.postLookup <;> cases infoClass.isDelete <;> cases infoClass.isRename <;>
      simp

namespace HandleRequest

variable (r : HandleRequest)

/-- The request makes `PostReadCallback` set `wasRead`. -/
def marksRead : Bool :=
  match r.operation with
  | .read => (preReadCallback r.toFileRequest).callsPost && r.observed &&
      r.ioStatus.information != 0#64
  | _ => false

/-- The request makes `PostSetInformationCallback` set `dispositionDelete`. -/
def marksDeleted : Bool :=
  match r.operation with
  | .setInformation infoClass _ => infoClass.isDelete &&
      (preSetInformationCallback r.toFileRequest infoClass).callsPost && r.observed
  | _ => false

/-- The request makes `PostSetInformationCallback` set `dispositionRename`. -/
def marksRenamed : Bool :=
  match r.operation with
  | .setInformation infoClass _ => infoClass.isRename &&
      (preSetInformationCallback r.toFileRequest infoClass).callsPost && r.observed
  | _ => false

variable {r}

theorem run_read (hop : r.operation = .read) (context : StreamHandleContext) :
    r.run context = ({ context with wasRead := context.wasRead || r.marksRead }, []) := by
  simp only [run, marksRead, hop, postReadCallback_eq, Bool.and_assoc]
  cases (preReadCallback r.toFileRequest).callsPost with
  | false => simp
  | true =>
      cases r.observed && r.ioStatus.information != 0#64 with
      | false => simp
      | true => simp

/-- `PostWriteCallback` is not called on a context that is not `readOnly`. -/
theorem run_write {length : ULONG} (hop : r.operation = .write length)
    {context : StreamHandleContext} (hreadOnly : context.readOnly = false) :
    r.run context = (context, []) := by
  -- whichever test it gets to, the last one included, it asks for no post-callback
  have hpre : (preWriteCallback r.toFileRequest length context).callsPost = false := by
    unfold preWriteCallback
    rw [hreadOnly]
    repeat' split
    all_goals simp_all [PreopStatus.callsPost]
  simp [run, hop, hpre]

theorem run_setInformation {infoClass : FileInformationClass} {deleteFile : Bool}
    (hop : r.operation = .setInformation infoClass deleteFile) (context : StreamHandleContext) :
    r.run context =
      ({ context with
          dispositionDelete := context.dispositionDelete || r.marksDeleted
          dispositionRename := context.dispositionRename || r.marksRenamed },
        if r.marksRenamed && ntSuccess r.instanceLookup then [.fileRename] else []) := by
  simp only [run, marksDeleted, marksRenamed, hop, postSetInformationCallback_eq]
  cases (preSetInformationCallback r.toFileRequest infoClass).callsPost with
  | false => simp
  | true =>
      cases r.observed with
      | false => simp
      | true => simp

/-- **Step lemma.**  A request raises flags and reports renames; a context that is not
`readOnly` is left without a change mark. -/
theorem run_eq {context : StreamHandleContext} (hreadOnly : context.readOnly = false) :
    r.run context =
      ({ context with
          wasRead := context.wasRead || r.marksRead
          dispositionDelete := context.dispositionDelete || r.marksDeleted
          dispositionRename := context.dispositionRename || r.marksRenamed },
        if r.marksRenamed && ntSuccess r.instanceLookup then [.fileRename] else []) := by
  cases hop : r.operation with
  | read =>
      rw [run_read hop]
      simp [marksDeleted, marksRenamed, hop]
  | write length =>
      rw [run_write hop hreadOnly]
      simp [marksRead, marksDeleted, marksRenamed, hop]
  | setInformation infoClass deleteFile =>
      rw [run_setInformation hop]
      simp [marksRead, hop]

end HandleRequest

/-! ## A list of requests -/

/-- **Run lemma.**  The flags a list of requests raises are those its members raise. -/
theorem runRequests_eq {context : StreamHandleContext} (hreadOnly : context.readOnly = false)
    (requests : List HandleRequest) :
    runRequests context requests =
      ({ context with
          wasRead := context.wasRead || requests.any HandleRequest.marksRead
          dispositionDelete := context.dispositionDelete || requests.any HandleRequest.marksDeleted
          dispositionRename :=
            context.dispositionRename || requests.any HandleRequest.marksRenamed },
        List.replicate
          (requests.countP fun r => r.marksRenamed && ntSuccess r.instanceLookup) .fileRename) := by
  induction requests generalizing context with
  | nil => simp [runRequests]
  | cons r rest ih =>
      -- no request sets `readOnly`, so the hypothesis passes on to the rest
      have hafter : (r.run context).1.readOnly = false := by
        rw [HandleRequest.run_eq hreadOnly]
        exact hreadOnly
      rw [runRequests, ih hafter, HandleRequest.run_eq hreadOnly, List.countP_cons]
      simp only [List.any_cons, Bool.or_assoc, Prod.mk.injEq, true_and]
      split
      · rw [List.replicate_succ, List.singleton_append]
      · rw [List.nil_append, Nat.add_zero]

/-! ## A whole run -/

/-- `PostCleanupCallback` gets to its decisions. -/
def FileRequest.cleansUp (r : FileRequest) : Bool :=
  (preCleanupCallback r).callsPost && r.observed && ntSuccess r.instanceLookup

theorem runCleanup_eq (r : FileRequest) (context : StreamHandleContext) :
    runCleanup r context = if r.cleansUp then cleanupEvents context else [] := by
  unfold runCleanup FileRequest.cleansUp postCleanupCallback FileRequest.observed
    FileRequest.succeeded
  cases (preCleanupCallback r).callsPost <;> cases skipEvent r.data r.post <;>
    cases r.draining <;> cases ntSuccess r.ioStatus.status <;> cases ntSuccess r.postLookup <;>
      cases ntSuccess r.instanceLookup <;> simp

namespace HandleRun

variable (run : HandleRun)

/-- The handle was opened with `FILE_DELETE_ON_CLOSE`. -/
def deleteOnClose : Bool := run.opened.deleteOnClose

/-- The create made the file. -/
def created : Bool := run.create.ioStatus.information == fileCreated

theorem final_eq : run.final =
    { run.opened with
      wasRead := run.requests.any HandleRequest.marksRead
      dispositionDelete := run.requests.any HandleRequest.marksDeleted
      dispositionRename := run.requests.any HandleRequest.marksRenamed } := by
  rw [final, runRequests_eq rfl]
  simp [opened, initializeStreamHandleContext]

theorem final_deleted :
    run.final.deleted = (run.deleteOnClose || run.requests.any HandleRequest.marksDeleted) := by
  rw [final_eq, StreamHandleContext.deleted, deleteOnClose]

/-- Nothing marks a handle as changed. -/
theorem final_wasChanged : run.final.wasChanged = false := by
  rw [final_eq]
  rfl

theorem final_created : run.final.fileIoStatus = .created ↔ run.created = true := by
  rw [final_eq, created]
  simp only [opened, initializeStreamHandleContext, beq_iff_eq]
  split
  · rename_i h
    rcases h with h | h <;> simp [h, fileSuperseded, fileOverwritten, fileCreated]
  · split <;> simp_all

/-- What `PostCleanupCallback` enqueues, in terms of the requests. -/
theorem atCleanup_eq : run.atCleanup =
    if run.cleanup.cleansUp then
      (if run.requests.any HandleRequest.marksRead then [.fileRead] else []) ++
      (if run.final.deleted then (if run.created then [] else [.fileDelete])
        else if run.requests.any HandleRequest.marksRenamed then [] else [.fileClose])
    else [] := by
  have hread : run.final.wasRead = run.requests.any HandleRequest.marksRead := by rw [final_eq]
  have hrenamed : run.final.dispositionRename = run.requests.any HandleRequest.marksRenamed := by
    rw [final_eq]
  have hcreated : (run.final.fileIoStatus != .created) = !run.created := by
    rw [bne, Bool.not_inj_iff, Bool.eq_iff_iff, beq_iff_eq]
    exact run.final_created
  rw [atCleanup, runCleanup_eq, cleanupEvents, final_wasChanged, hread, hrenamed, hcreated]
  cases run.final.deleted <;> cases run.created <;>
    cases run.requests.any HandleRequest.marksRenamed <;> simp

end HandleRun

/-! ## The trace of a handle -/

/-- `SkipEvent` is false before and after, and the contexts are found. -/
def FileRequest.unhindered (r : FileRequest) : Bool :=
  !skipEvent r.data r.pre && ntSuccess r.preLookup && !skipEvent r.data r.post &&
    ntSuccess r.postLookup && ntSuccess r.instanceLookup

/-- Nothing keeps the callbacks of the handle from their decisions. -/
def HandleRun.unhindered (run : HandleRun) : Bool :=
  ntSuccess run.create.instanceLookup && run.requests.all (·.unhindered) && run.cleanup.unhindered

/-- A read that passed `PreReadCallback` and completed successfully with data. -/
def HandleRequest.readsData (r : HandleRequest) : Bool :=
  match r.operation with
  | .read => (preReadCallback r.toFileRequest).callsPost && r.succeeded &&
      r.ioStatus.information != 0#64
  | _ => false

/-- A successful rename request. -/
def HandleRequest.renames (r : HandleRequest) : Bool :=
  match r.operation with
  | .setInformation .rename _ | .setInformation .renameEx _ => r.succeeded
  | _ => false

theorem HandleRequest.marksRead_of_unhindered {r : HandleRequest} (h : r.unhindered) :
    r.marksRead = r.readsData := by
  simp only [FileRequest.unhindered, Bool.and_eq_true] at h
  unfold HandleRequest.marksRead HandleRequest.readsData
  split
  · simp [FileRequest.observed, h]
  · rfl

theorem HandleRequest.marksRenamed_of_unhindered {r : HandleRequest} (h : r.unhindered) :
    r.marksRenamed = r.renames := by
  simp only [FileRequest.unhindered, Bool.and_eq_true, Bool.not_eq_true'] at h
  unfold HandleRequest.marksRenamed HandleRequest.renames
  cases r.operation with
  | read | write _ => rfl
  | setInformation infoClass _ =>
      cases infoClass <;>
        simp [FileRequest.observed, preSetInformationCallback, PreopStatus.callsPost,
          FileInformationClass.isRename, FileInformationClass.isDelete, h]

/-- The cleanup of an unhindered handle gets to its decisions where it completes. -/
theorem FileRequest.cleansUp_of_unhindered {r : FileRequest} (h : r.unhindered) :
    r.cleansUp = r.succeeded := by
  simp only [FileRequest.unhindered, Bool.and_eq_true, Bool.not_eq_true'] at h
  simp [FileRequest.cleansUp, FileRequest.observed, preCleanupCallback, PreopStatus.callsPost, h]

/-- The events of a handle before its cleanup, as the requests determine them. -/
def HandleRun.lawfulEvents (run : HandleRun) : List EventType :=
  (if run.created then [.fileCreate] else []) ++
  List.replicate (run.requests.countP HandleRequest.renames) .fileRename

/-- The events of its cleanup, as the requests and the delete mark of the context determine them. -/
def HandleRun.lawfulAtCleanup (run : HandleRun) : List EventType :=
  (if run.requests.any HandleRequest.readsData then [.fileRead] else []) ++
  (if run.final.deleteOnClose || run.final.dispositionDelete then
      (if run.created then [] else [.fileDelete])
    else if run.requests.any HandleRequest.renames then [] else [.fileClose])

/-- The order and number of the events of a handle, other than `FILE_WRITE`, if the cleanup is to
enqueue `atCleanup`. -/
structure TraceLaw (run : HandleRun) (atCleanup : List EventType) : Prop where
  trace : run.events.filter (· != .fileWrite) = run.lawfulEvents ++ atCleanup
  read_once : run.events.count .fileRead ≤ 1
  delete_or_close : ¬ (.fileDelete ∈ run.events ∧ .fileClose ∈ run.events)

/-- What the cleanup of an unhindered handle enqueues. -/
def HandleRun.expectedAtCleanup (run : HandleRun) : List EventType :=
  if run.cleanup.succeeded then run.lawfulAtCleanup else []

/-- All events of an unhindered handle; no `FILE_WRITE` is among them. -/
theorem HandleRun.events_eq {run : HandleRun} (h : run.unhindered) :
    run.events = run.lawfulEvents ++ run.expectedAtCleanup := by
  simp only [HandleRun.unhindered, Bool.and_eq_true, List.all_eq_true] at h
  obtain ⟨⟨hcreate, hrequests⟩, hcleanup⟩ := h
  have hread : run.requests.any HandleRequest.marksRead =
      run.requests.any HandleRequest.readsData := by
    rw [Bool.eq_iff_iff, List.any_eq_true, List.any_eq_true]
    refine exists_congr fun r => and_congr_right fun hr => ?_
    rw [HandleRequest.marksRead_of_unhindered (hrequests r hr)]
  have hrename : run.requests.any HandleRequest.marksRenamed =
      run.requests.any HandleRequest.renames := by
    rw [Bool.eq_iff_iff, List.any_eq_true, List.any_eq_true]
    refine exists_congr fun r => and_congr_right fun hr => ?_
    rw [HandleRequest.marksRenamed_of_unhindered (hrequests r hr)]
  have hreport : (run.requests.countP fun r => r.marksRenamed && ntSuccess r.instanceLookup) =
      run.requests.countP HandleRequest.renames := by
    refine List.countP_congr fun r hr => ?_
    have hlookup := hrequests r hr
    rw [HandleRequest.marksRenamed_of_unhindered hlookup]
    simp only [FileRequest.unhindered, Bool.and_eq_true] at hlookup
    simp [hlookup.2]
  have hmade : (initializeStreamHandleContext run.create).fileIoStatus = .created ↔
      run.created = true := by
    rw [← run.final_created, run.final_eq, HandleRun.opened]
  rw [HandleRun.events, runCreate_attached run.attached, runRequests_eq rfl, run.atCleanup_eq,
    FileRequest.cleansUp_of_unhindered hcleanup, hread, hrename, hreport]
  simp only [hcreate, hmade, true_and, HandleRun.lawfulEvents, HandleRun.expectedAtCleanup,
    HandleRun.lawfulAtCleanup, StreamHandleContext.deleted]
  rfl

/-- When an event is among those of an unhindered handle. -/
theorem HandleRun.mem_lawful {run : HandleRun} {event : EventType} :
    event ∈ run.lawfulEvents ++ run.expectedAtCleanup ↔ (run.created ∧ event = .fileCreate) ∨
      (run.requests.countP HandleRequest.renames ≠ 0 ∧ event = .fileRename) ∨
      run.cleanup.succeeded ∧
        ((run.requests.any HandleRequest.readsData ∧ event = .fileRead) ∨
        (run.final.deleted ∧ ¬run.created ∧ event = .fileDelete) ∨
        (¬run.final.deleted ∧ ¬run.requests.any HandleRequest.renames ∧ event = .fileClose)) := by
  have hite : ∀ (p : Prop) [Decidable p] (xs ys : List EventType),
      event ∈ (if p then xs else ys) ↔ (p ∧ event ∈ xs) ∨ (¬p ∧ event ∈ ys) := by
    intro p _ xs ys
    by_cases hp : p <;> simp [hp]
  simp only [lawfulEvents, expectedAtCleanup, lawfulAtCleanup, StreamHandleContext.deleted,
    List.mem_append, List.mem_replicate, hite, List.mem_singleton, List.not_mem_nil, and_false,
    or_false, false_or, or_assoc]

theorem HandleRun.count_fileRead_le (run : HandleRun) :
    (run.lawfulEvents ++ run.expectedAtCleanup).count .fileRead ≤ 1 := by
  have hcreate : (if run.created then [EventType.fileCreate] else []).count .fileRead = 0 := by
    split <;> rfl
  have hrename : (List.replicate (run.requests.countP HandleRequest.renames)
      EventType.fileRename).count .fileRead = 0 := List.count_replicate
  have hread : (if run.requests.any HandleRequest.readsData then [EventType.fileRead]
      else []).count .fileRead ≤ 1 := by
    split <;> decide
  have hlast : (if run.final.deleteOnClose || run.final.dispositionDelete then
        (if run.created then [] else [EventType.fileDelete])
      else if run.requests.any HandleRequest.renames then []
      else [EventType.fileClose]).count .fileRead = 0 := by
    split <;> split <;> rfl
  rw [lawfulEvents, List.count_append, List.count_append, hcreate, hrename, Nat.zero_add,
    expectedAtCleanup]
  split
  · rw [lawfulAtCleanup, List.count_append, hlast]
    exact hread
  · exact Nat.zero_le 1

/-- **Handle traces.**  On a handle whose callbacks are not skipped and find their contexts,
the events other than `FILE_WRITE` are those of the law, in its order, those of the cleanup if it
completes successfully. -/
theorem trace_of_unhindered (run : HandleRun) (h : run.unhindered) :
    TraceLaw run (if run.cleanup.succeeded then run.lawfulAtCleanup else []) := by
  have hevents := HandleRun.events_eq h
  refine ⟨?_, ?_, ?_⟩
  · rw [hevents]
    refine List.filter_eq_self.mpr fun event hmem => ?_
    rcases HandleRun.mem_lawful.mp hmem with
      ⟨_, rfl⟩ | ⟨_, rfl⟩ | ⟨_, ⟨_, rfl⟩ | ⟨_, _, rfl⟩ | ⟨_, _, rfl⟩⟩ <;> rfl
  · rw [hevents]
    exact run.count_fileRead_le
  · rw [hevents]
    rintro ⟨hdelete, hclose⟩
    -- a handle sends one of the two by whether its file is gone
    have hgone : run.cleanup.succeeded = true ∧ run.final.deleted = true ∧ run.created = false := by
      simpa using HandleRun.mem_lawful.mp hdelete
    have hthere : run.cleanup.succeeded = true ∧ run.final.deleted = false ∧
        ∀ r ∈ run.requests, r.renames = false := by
      simpa using HandleRun.mem_lawful.mp hclose
    exact absurd hgone.2.1 (Bool.eq_false_iff.mp hthere.2.1)

/-! ## A plain handle -/

/-- A request of a user process at passive level that completes with one byte. -/
def plainRequest : FileRequest where
  data := ⟨fltflCallbackDataIrpOperation, 0#32⟩
  pre := ⟨passiveLevel, false, false, 0#32⟩
  preLookup := statusSuccess
  ioStatus := ⟨statusSuccess, 1#64⟩
  postFlags := 0#32
  post := ⟨passiveLevel, false, false, 0#32⟩
  postLookup := statusSuccess
  instanceLookup := statusSuccess

/-- A create that opens an existing file. -/
def plainCreate : CreateRequest where
  toFileRequest := plainRequest
  allocateContext := statusSuccess
  setContext := statusSuccess
  currentProcessId := 4096#64
  processPath := .empty
  filePath := .empty
  desiredAccess := 0#32
  createOptions := 0#32

/-- A plain handle with some requests. -/
def plainHandle (operations : List Operation) : HandleRun where
  create := plainCreate
  attached := by decide +kernel
  requests := operations.map fun operation => ⟨plainRequest, operation⟩
  cleanup := plainRequest

/-- The file is read, renamed and read again. -/
private def renamedHandle : HandleRun :=
  plainHandle [.read, .setInformation .rename false, .read]

theorem trace_of_renamed_handle :
    renamedHandle.events.filter (· != .fileWrite) = [.fileRename, .fileRead] ∧
      TraceLaw renamedHandle [.fileRead] := by
  have hlaw := trace_of_unhindered renamedHandle (by decide +kernel)
  have hcleanup : (if renamedHandle.cleanup.succeeded then renamedHandle.lawfulAtCleanup
      else []) = [.fileRead] := by decide +kernel
  rw [hcleanup] at hlaw
  have hbefore : renamedHandle.lawfulEvents = [.fileRename] := by decide +kernel
  have htrace := hlaw.trace
  rw [hbefore] at htrace
  exact ⟨htrace, hlaw⟩

/-- A plain handle whose cleanup fails. -/
private def failedCleanup : HandleRun :=
  { plainHandle [] with
    cleanup := { plainRequest with ioStatus := ⟨statusInvalidParameter, 0#64⟩ } }

/-- A cleanup that fails enqueues not even the `FILE_CLOSE` of an untouched file. -/
theorem not_trace_of_failedCleanup :
    ¬∀ run : HandleRun, run.unhindered → TraceLaw run run.lawfulAtCleanup := by
  intro hlaw
  have htrace := (hlaw failedCleanup (by decide +kernel)).trace
  exact absurd htrace (by decide +kernel)

/-! ## Deletions -/

/-- The delete flag of a successful disposition request. -/
def HandleRequest.disposition? (r : HandleRequest) : Option Bool :=
  match r.operation with
  | .setInformation .disposition deleteFile | .setInformation .dispositionEx deleteFile =>
      if r.succeeded then some deleteFile else none
  | _ => none

namespace HandleRun

variable (run : HandleRun)

/-- The delete flag of the last successful disposition request. -/
def lastDisposition : Option Bool := (run.requests.filterMap HandleRequest.disposition?).getLast?

/-- The file goes away with the handle. -/
def deletesFile : Prop := run.deleteOnClose = true ∨ run.lastDisposition = some true

instance : Decidable run.deletesFile := by unfold deletesFile; infer_instance

end HandleRun

/-- `PostCleanupCallback` treats the handle as deleted exactly when the file goes away with it,
and what it enqueues follows from that. -/
structure DeletionReported (run : HandleRun) : Prop where
  treated : run.final.deleted = true ↔ run.deletesFile
  delete : run.cleanup.cleansUp → (.fileDelete ∈ run.atCleanup ↔ run.deletesFile ∧ ¬ run.created)
  suppressed : run.deletesFile → .fileWrite ∉ run.atCleanup ∧ .fileClose ∉ run.atCleanup

theorem HandleRun.delete_mem_atCleanup {run : HandleRun} (h : run.cleanup.cleansUp) :
    .fileDelete ∈ run.atCleanup ↔ run.final.deleted = true ∧ ¬ run.created := by
  rw [run.atCleanup_eq, if_pos h]
  cases run.final.deleted <;> cases run.created <;>
    simp [apply_ite (EventType.fileDelete ∈ ·)]

theorem HandleRun.suppressed_of_deleted {run : HandleRun} (h : run.final.deleted = true) :
    .fileWrite ∉ run.atCleanup ∧ .fileClose ∉ run.atCleanup := by
  rw [run.atCleanup_eq, h, if_pos rfl]
  constructor <;> (repeat' split) <;> simp

/-- **Deletions.**  A handle that is not `FILE_DELETE_ON_CLOSE` is reported right exactly when
the driver has seen some disposition request succeed if, and only if, the last one that
succeeded set its flag. -/
theorem deletion_reported_iff (run : HandleRun) : DeletionReported run ↔
    run.deleteOnClose = true ∨
      (run.requests.any HandleRequest.marksDeleted = true ↔ run.lastDisposition = some true) := by
  have hdeleted : run.final.deleted = true ↔
      run.deleteOnClose = true ∨ run.requests.any HandleRequest.marksDeleted = true := by
    rw [run.final_deleted, Bool.or_eq_true]
  constructor
  · intro h
    have htreated := h.treated
    rw [hdeleted, HandleRun.deletesFile] at htreated
    by_cases hclose : run.deleteOnClose = true
    · exact Or.inl hclose
    · simpa [hclose] using htreated
  · intro h
    have htreated : run.final.deleted = true ↔ run.deletesFile := by
      rw [hdeleted, HandleRun.deletesFile]
      rcases h with hclose | hlast
      · simp [hclose]
      · rw [hlast]
    refine ⟨htreated, fun hcleans => ?_, fun hdeletes => ?_⟩
    · rw [HandleRun.delete_mem_atCleanup hcleans, htreated]
    · exact HandleRun.suppressed_of_deleted (htreated.mpr hdeletes)

/-- A deletion that is requested and then revoked is reported all the same. -/
theorem deletion_reported_fails_when_revoked : ¬ DeletionReported
    (plainHandle [.setInformation .disposition true, .setInformation .disposition false]) := by
  intro h
  exact absurd (h.treated.mp (by decide +kernel)) (by decide +kernel)

/-! ## Writes -/

/-- A non-paging, non-fast-I/O write of non-zero length that `SkipEvent` does not skip, completed
successfully with some bytes written. -/
def HandleRequest.writesData (r : HandleRequest) : Bool :=
  match r.operation with
  | .write length => length != 0#32 && !skipReadWriteIo r.data && !skipEvent r.data r.pre &&
      !skipEvent r.data r.post && r.succeeded && r.ioStatus.information != 0#64
  | _ => false

/-- A handle that wrote data, and whose file stays, reports one `FILE_WRITE` at cleanup; a handle
that wrote nothing reports none. -/
structure WritesReported (run : HandleRun) : Prop where
  reported : run.cleanup.cleansUp → run.requests.any HandleRequest.writesData → ¬ run.deletesFile →
    run.atCleanup.count .fileWrite = 1
  quiet : run.requests.any HandleRequest.writesData = false → run.atCleanup.count .fileWrite = 0

/-- No handle ever reports a write. -/
theorem HandleRun.count_fileWrite (run : HandleRun) : run.atCleanup.count .fileWrite = 0 := by
  rw [run.atCleanup_eq, List.count_eq_zero]
  repeat' split
  all_goals simp

/-- **Writes.**  The law holds exactly where it asks for no report. -/
theorem writes_reported_iff (run : HandleRun) : WritesReported run ↔
    ¬ (run.cleanup.cleansUp ∧ run.requests.any HandleRequest.writesData ∧ ¬ run.deletesFile) := by
  constructor
  · rintro h ⟨hcleans, hwrites, hstays⟩
    have hone := h.reported hcleans hwrites hstays
    rw [run.count_fileWrite] at hone
    exact absurd hone (by decide)
  · intro h
    exact ⟨fun hcleans hwrites hstays => absurd ⟨hcleans, hwrites, hstays⟩ h,
      fun _ => run.count_fileWrite⟩

/-- One write of ten bytes on a plain handle goes unreported. -/
theorem writes_reported_fails_on_write :
    ¬ WritesReported (plainHandle [.write 10#32]) := by
  intro h
  have hone := h.reported (by decide +kernel) (by decide +kernel) (by decide +kernel)
  exact absurd hone (by decide +kernel)

end Kawin.Driver
