import Kawin.Base.References
import Kawin.Base.Transition
import Kawin.Driver.FileCallbacks

/-!
# Context references

The Filter Manager counts the references to a context.  A callback that allocates a context or
looks one up has a reference of its own, which it gives back with `FltReleaseContext`; what a
context is attached to has another.

Each callback of `Filter.cpp` is the list of what it does to these counts, for the contexts that
are attached when it is called and for the outcome of each of its calls.  Every callback but one
releases what it holds on every path (`settle_callback`).  `InstanceSetupCallback` releases a
context that it could not set up both in the branch that fails and in `__finally`.
-/

namespace Kawin.Driver

open References Transition

/-! ## Contexts -/

/-- What a context is attached to: an instance, or a file object of an instance. -/
inductive ContextSlot
  | volumeInstance (volumeInstance : ℕ)
  | streamHandle (volumeInstance fileObject : ℕ)
  deriving DecidableEq

abbrev ContextOp := Op ContextSlot ℕ

structure ContextTable where
  references : Table ContextSlot ℕ
  /-- the context that `FltAllocateContext` makes next -/
  next : ℕ

def ContextTable.init : ContextTable := ⟨⟨fun _ => 0, []⟩, 0⟩

/-- `FLT_RELATED_OBJECTS`. -/
structure RelatedObjects where
  volumeInstance : ℕ
  fileObject : ℕ

namespace RelatedObjects

variable (fltObjects : RelatedObjects)

def instanceSlot : ContextSlot := .volumeInstance fltObjects.volumeInstance

def streamHandleSlot : ContextSlot :=
  .streamHandle fltObjects.volumeInstance fltObjects.fileObject

end RelatedObjects

/-- `FltGetInstanceContext` and `FltGetStreamHandleContext`; the pointer stays null where the
call fails, as it does where nothing is attached. -/
def fltGetContext (contexts : Table ContextSlot ℕ) (slot : ContextSlot) (status : NTSTATUS) :
    Option ℕ :=
  if ntSuccess status then contexts.lookup slot else none

/-- The reference that a lookup gives. -/
def acquireFound (context : Option ℕ) : List ContextOp := context.toList.map .acquire

/-- `if (context) FltReleaseContext(context);` -/
def releaseUnlessNull (context : Option ℕ) : List ContextOp := context.toList.map .release

/-! ## The callbacks -/

/-- The outcomes of the calls that `InstanceSetupCallback` makes. -/
structure InstanceSetup where
  allocateContext : NTSTATUS
  initializeContext : NTSTATUS
  setContext : NTSTATUS

/-- `InstanceSetupCallback`. -/
def instanceSetupReferences (t : ContextTable) (fltObjects : RelatedObjects) (s : InstanceSetup) :
    List ContextOp :=
  if !ntSuccess s.allocateContext then []
  else
    -- where the call fails the branch releases the context, and `__finally` does once more
    if !ntSuccess s.initializeContext then
      .acquire t.next :: .release t.next :: releaseUnlessNull (some t.next)
    else if !ntSuccess s.setContext then
      .acquire t.next :: .release t.next :: releaseUnlessNull (some t.next)
    else
      .acquire t.next :: .attach fltObjects.instanceSlot t.next :: releaseUnlessNull (some t.next)

/-- `InstanceCompleteTeardownCallback`. -/
def instanceCompleteTeardownReferences (t : ContextTable) (fltObjects : RelatedObjects)
    (instanceLookup : NTSTATUS) : List ContextOp :=
  let context := fltGetContext t.references fltObjects.instanceSlot instanceLookup
  acquireFound context ++ releaseUnlessNull context

/-- `PostCreateCallback`. -/
def postCreateReferences (t : ContextTable) (fltObjects : RelatedObjects) (c : CreateRequest)
    (initializeContext : NTSTATUS) : List ContextOp :=
  if c.draining then []
  else if !ntSuccess c.ioStatus.status || c.ioStatus.status == statusReparse then []
  else if skipEvent c.data c.post then []
  else if !ntSuccess c.allocateContext then []
  else if !ntSuccess initializeContext then
    .acquire t.next :: releaseUnlessNull (some t.next)
  else if !ntSuccess c.setContext then
    .acquire t.next :: releaseUnlessNull (some t.next)
  else
    let attach : List ContextOp := [.acquire t.next, .attach fltObjects.streamHandleSlot t.next]
    let instanceContext :=
      fltGetContext (t.references.run attach) fltObjects.instanceSlot c.instanceLookup
    attach ++ acquireFound instanceContext ++
      releaseUnlessNull (some t.next) ++ releaseUnlessNull instanceContext

/-- A callback that is `skipped` or looks the handle up once. -/
def handleReferences (t : ContextTable) (fltObjects : RelatedObjects) (skipped : Bool)
    (lookup : NTSTATUS) : List ContextOp :=
  if skipped then []
  else
    match fltGetContext t.references fltObjects.streamHandleSlot lookup with
    | none => []
    | some context => [.acquire context, .release context]

/-- `PreReadCallback`. -/
def preReadReferences (t : ContextTable) (fltObjects : RelatedObjects) (r : FileRequest) :
    List ContextOp :=
  handleReferences t fltObjects (skipReadWriteIo r.data || skipEvent r.data r.pre) r.preLookup

/-- `PostReadCallback`. -/
def postReadReferences (t : ContextTable) (fltObjects : RelatedObjects) (r : FileRequest) :
    List ContextOp :=
  handleReferences t fltObjects
    ((skipEvent r.data r.post || r.draining) ||
      (!ntSuccess r.ioStatus.status || r.ioStatus.information == 0#64)) r.postLookup

/-- `PreWriteCallback`, which releases the context before either of its returns. -/
def preWriteReferences (t : ContextTable) (fltObjects : RelatedObjects) (r : FileRequest)
    (length : ULONG) (readOnly : Bool) : List ContextOp :=
  if skipReadWriteIo r.data then []
  else if skipEvent r.data r.pre then []
  else
    match fltGetContext t.references fltObjects.streamHandleSlot r.preLookup with
    | none => []
    | some context =>
        if !readOnly || length == 0#32 then [.acquire context, .release context]
        else [.acquire context, .release context]

/-- `PostWriteCallback`. -/
def postWriteReferences (t : ContextTable) (fltObjects : RelatedObjects) (r : FileRequest) :
    List ContextOp :=
  handleReferences t fltObjects
    ((skipEvent r.data r.post || r.draining) ||
      (!ntSuccess r.ioStatus.status || r.ioStatus.information == 0#64)) r.postLookup

/-- `PreSetInformationCallback`. -/
def preSetInformationReferences (t : ContextTable) (fltObjects : RelatedObjects) (r : FileRequest)
    (infoClass : FileInformationClass) : List ContextOp :=
  handleReferences t fltObjects
    (skipEvent r.data r.pre || (!infoClass.isDelete && !infoClass.isRename)) r.preLookup

/-- `PostSetInformationCallback`; only a rename looks the instance up. -/
def postSetInformationReferences (t : ContextTable) (fltObjects : RelatedObjects)
    (r : FileRequest) (infoClass : FileInformationClass) : List ContextOp :=
  if skipEvent r.data r.post || r.draining then []
  else if !ntSuccess r.ioStatus.status then []
  else
    match fltGetContext t.references fltObjects.streamHandleSlot r.postLookup with
    | none => []
    | some context =>
        if !infoClass.isDelete && !infoClass.isRename then
          .acquire context :: releaseUnlessNull (some context)
        else if infoClass.isRename then
          let instanceContext :=
            fltGetContext t.references fltObjects.instanceSlot r.instanceLookup
          .acquire context :: acquireFound instanceContext ++
            releaseUnlessNull (some context) ++ releaseUnlessNull instanceContext
        else .acquire context :: releaseUnlessNull (some context)

/-- `PreCleanupCallback`. -/
def preCleanupReferences (t : ContextTable) (fltObjects : RelatedObjects) (r : FileRequest) :
    List ContextOp :=
  handleReferences t fltObjects (skipEvent r.data r.pre) r.preLookup

/-- `PostCleanupCallback`. -/
def postCleanupReferences (t : ContextTable) (fltObjects : RelatedObjects) (r : FileRequest) :
    List ContextOp :=
  if skipEvent r.data r.post || r.draining then []
  else if !ntSuccess r.ioStatus.status then []
  else
    match fltGetContext t.references fltObjects.streamHandleSlot r.postLookup with
    | none => []
    | some context =>
        let instanceContext :=
          fltGetContext t.references fltObjects.instanceSlot r.instanceLookup
        .acquire context :: acquireFound instanceContext ++
          releaseUnlessNull (some context) ++ releaseUnlessNull instanceContext

/-! ## Sequences of callbacks -/

/-- A callback, with what it is given and the outcome of each of its calls. -/
inductive Callback
  | instanceSetup (s : InstanceSetup)
  | instanceQueryTeardown
  | instanceStartTeardown
  | instanceCompleteTeardown (instanceLookup : NTSTATUS)
  | preCreate (r : FileRequest)
  | postCreate (c : CreateRequest) (initializeContext : NTSTATUS)
  | preRead (r : FileRequest)
  | postRead (r : FileRequest)
  | preWrite (r : FileRequest) (length : ULONG) (readOnly : Bool)
  | postWrite (r : FileRequest)
  | preSetInformation (r : FileRequest) (infoClass : FileInformationClass)
  | postSetInformation (r : FileRequest) (infoClass : FileInformationClass)
  | preCleanup (r : FileRequest)
  | postCleanup (r : FileRequest)

/-- What the callback does to the references. -/
def Callback.references (t : ContextTable) (fltObjects : RelatedObjects) :
    Callback → List ContextOp
  | .instanceSetup s => instanceSetupReferences t fltObjects s
  | .instanceCompleteTeardown instanceLookup =>
      instanceCompleteTeardownReferences t fltObjects instanceLookup
  | .postCreate c initializeContext => postCreateReferences t fltObjects c initializeContext
  | .preRead r => preReadReferences t fltObjects r
  | .postRead r => postReadReferences t fltObjects r
  | .preWrite r length readOnly => preWriteReferences t fltObjects r length readOnly
  | .postWrite r => postWriteReferences t fltObjects r
  | .preSetInformation r infoClass => preSetInformationReferences t fltObjects r infoClass
  | .postSetInformation r infoClass => postSetInformationReferences t fltObjects r infoClass
  | .preCleanup r => preCleanupReferences t fltObjects r
  | .postCleanup r => postCleanupReferences t fltObjects r
  | .instanceQueryTeardown | .instanceStartTeardown | .preCreate _ => []

inductive ContextAction
  | invoke (fltObjects : RelatedObjects) (callback : Callback)
  /-- the Filter Manager tears down an instance or a file object -/
  | tornDown (slot : ContextSlot)

def ContextAction.references (t : ContextTable) : ContextAction → List ContextOp
  | .invoke fltObjects callback => callback.references t fltObjects
  | .tornDown slot => [.detach slot]

/-- No context is allocated twice. -/
def contextStep (t : ContextTable) (action : ContextAction) : Option ContextTable :=
  some ⟨t.references.run (action.references t), t.next + 1⟩

/-- The law: every reference acquired is released exactly once, and no count falls below the
references held. -/
def ReleasesOnce (t : ContextTable) (action : ContextAction) (_ : ContextTable) : Prop :=
  References.Balanced t.references (action.references t)

/-- A context that is allocated is also set up. -/
def InstanceSetup.Completes (s : InstanceSetup) : Prop :=
  ntSuccess s.allocateContext →
    ntSuccess s.initializeContext ∧ ntSuccess s.setContext

def Callback.Completes : Callback → Prop
  | .instanceSetup s => s.Completes
  | _ => True

def ContextAction.Completes : ContextAction → Prop
  | .invoke _ callback => callback.Completes
  | .tornDown _ => True

/-! ## Every callback but one -/

/-- `__finally` of the callbacks that look up a handle and an instance. -/
theorem settle_finally (context : ℕ) (instanceContext : Option ℕ) :
    settle [] (.acquire context :: acquireFound instanceContext ++
      releaseUnlessNull (some context) ++ releaseUnlessNull instanceContext) = some [] := by
  cases instanceContext <;> simp [acquireFound, releaseUnlessNull, settle]

theorem settle_handleReferences (t : ContextTable) (fltObjects : RelatedObjects) (skipped : Bool)
    (lookup : NTSTATUS) : settle [] (handleReferences t fltObjects skipped lookup) = some [] := by
  unfold handleReferences
  split
  · rfl
  split <;> simp [settle]

theorem settle_instanceCompleteTeardown (t : ContextTable) (fltObjects : RelatedObjects)
    (instanceLookup : NTSTATUS) :
    settle [] (instanceCompleteTeardownReferences t fltObjects instanceLookup) = some [] := by
  unfold instanceCompleteTeardownReferences
  cases fltGetContext t.references fltObjects.instanceSlot instanceLookup <;>
    simp [acquireFound, releaseUnlessNull, settle]

theorem settle_postCreate (t : ContextTable) (fltObjects : RelatedObjects) (c : CreateRequest)
    (initializeContext : NTSTATUS) :
    settle [] (postCreateReferences t fltObjects c initializeContext) = some [] := by
  have hfresh : settle [] (.acquire t.next :: releaseUnlessNull (some t.next)) =
      some ([] : List ℕ) := settle_finally t.next none
  unfold postCreateReferences
  repeat' split
  · rfl
  · rfl
  · rfl
  · rfl
  · exact hfresh
  · exact hfresh
  · exact settle_finally t.next _

theorem settle_preWrite (t : ContextTable) (fltObjects : RelatedObjects) (r : FileRequest)
    (length : ULONG) (readOnly : Bool) :
    settle [] (preWriteReferences t fltObjects r length readOnly) = some [] := by
  unfold preWriteReferences
  repeat' split
  all_goals simp [settle]

theorem settle_postSetInformation (t : ContextTable) (fltObjects : RelatedObjects)
    (r : FileRequest) (infoClass : FileInformationClass) :
    settle [] (postSetInformationReferences t fltObjects r infoClass) = some [] := by
  unfold postSetInformationReferences
  repeat' split
  · rfl
  · rfl
  · rfl
  · exact settle_finally _ none
  · exact settle_finally _ _
  · exact settle_finally _ none

theorem settle_postCleanup (t : ContextTable) (fltObjects : RelatedObjects) (r : FileRequest) :
    settle [] (postCleanupReferences t fltObjects r) = some [] := by
  unfold postCleanupReferences
  repeat' split
  · rfl
  · rfl
  · rfl
  · exact settle_finally _ _

/-! ## `InstanceSetupCallback` -/

theorem settle_instanceSetup (t : ContextTable) (fltObjects : RelatedObjects) {s : InstanceSetup}
    (h : s.Completes) : settle [] (instanceSetupReferences t fltObjects s) = some [] := by
  unfold instanceSetupReferences
  split
  · rfl
  · next halloc =>
      obtain ⟨hinit, hset⟩ := h (by simpa using halloc)
      simp [hinit, hset, releaseUnlessNull, settle]

/-- A setup that fails releases the context it allocated twice. -/
theorem completes_of_balanced (t : ContextTable) (fltObjects : RelatedObjects) {s : InstanceSetup}
    (h : References.Balanced t.references (instanceSetupReferences t fltObjects s)) :
    s.Completes := by
  intro halloc
  by_contra hfails
  have hops : instanceSetupReferences t fltObjects s =
      [.acquire t.next, .release t.next, .release t.next] := by
    unfold instanceSetupReferences
    simp only [halloc]
    by_cases hinit : ntSuccess s.initializeContext <;> by_cases hset : ntSuccess s.setContext
    all_goals simp_all [releaseUnlessNull]
  have honce := h.once t.next
  simp [hops, acquired, released] at honce

/-! ## The law -/

/-- What every action does, if a setup completes. -/
theorem settle_action (t : ContextTable) {action : ContextAction} (h : action.Completes) :
    settle [] (action.references t) = some [] := by
  cases action with
  | tornDown slot => rfl
  | invoke fltObjects callback =>
      cases callback with
      | instanceSetup s => exact settle_instanceSetup t fltObjects h
      | instanceQueryTeardown | instanceStartTeardown | preCreate r => rfl
      | instanceCompleteTeardown instanceLookup =>
          exact settle_instanceCompleteTeardown t fltObjects instanceLookup
      | postCreate c initializeContext => exact settle_postCreate t fltObjects c initializeContext
      | preWrite r length readOnly => exact settle_preWrite t fltObjects r length readOnly
      | postSetInformation r infoClass => exact settle_postSetInformation t fltObjects r infoClass
      | postCleanup r => exact settle_postCleanup t fltObjects r
      | preRead r | postRead r | postWrite r | preCleanup r =>
          exact settle_handleReferences t fltObjects _ _
      | preSetInformation r infoClass => exact settle_handleReferences t fltObjects _ _

theorem releasesOnce_of_completes {t u : ContextTable} {action : ContextAction}
    (ht : t.references.Exact) (h : action.Completes) (hstep : contextStep t action = some u) :
    ReleasesOnce t action u ∧ u.references.Exact := by
  cases hstep
  have hbalanced := References.Balanced.of_settle ht (settle_action t h)
  exact ⟨hbalanced, ht.run hbalanced.once⟩

theorem completes_of_releasesOnce {t u : ContextTable} {action : ContextAction}
    (h : ReleasesOnce t action u) : action.Completes := by
  cases action with
  | tornDown slot => trivial
  | invoke fltObjects callback =>
      cases callback with
      | instanceSetup s => exact completes_of_balanced t fltObjects h
      | _ => trivial

theorem init_exact : ContextTable.init.references.Exact := fun _ => rfl

theorem contextStep_total (t : ContextTable) (action : ContextAction) :
    ∃ u, contextStep t action = some u :=
  ⟨_, rfl⟩

/-- Where every setup completes, nothing leaks: at the end each count is the number of slots that
the context is attached to. -/
theorem exact_of_completes {actions : List ContextAction} {t : ContextTable}
    (h : ∀ action ∈ actions, action.Completes) (hsteps : steps contextStep .init actions = some t) :
    t.references.Exact := by
  have hallowed := (allowed_iff_forall contextStep_total (s := .init)).mpr h
  have hstep : ∀ u action, u.references.Exact → action.Completes →
      ∃ v, contextStep u action = some v ∧ v.references.Exact := by
    intro u action hexact hcompletes
    obtain ⟨v, hv⟩ := contextStep_total u action
    exact ⟨v, hv, (releasesOnce_of_completes hexact hcompletes hv).2⟩
  obtain ⟨v, hv, hexact⟩ := steps_of_total hstep init_exact hallowed
  cases hsteps.symm.trans hv
  exact hexact

/-- **Context reference balance, exactly.**  Every callback of a sequence releases each reference
that it acquired exactly once, and no count falls below the references held, if and only if no
`InstanceSetupCallback` of the sequence fails after its allocation. -/
theorem contextsBalanced_iff (actions : List ContextAction) :
    Along contextStep ReleasesOnce .init actions ↔ ∀ action ∈ actions, action.Completes := by
  rw [← allowed_iff_forall contextStep_total (s := .init)]
  constructor
  · exact allowed_of_along (fun _ => True) contextStep_total (fun _ _ _ _ _ => trivial)
      (fun _ _ _ _ _ hlaw => completes_of_releasesOnce hlaw) trivial
  · exact along_of_invariant (fun t => t.references.Exact)
      (fun _ _ _ hexact hcompletes hstep => releasesOnce_of_completes hexact hcompletes hstep)
      init_exact

/-- The context of an instance cannot be set, and is released twice. -/
theorem not_contextsBalanced : ¬ Along contextStep ReleasesOnce .init
    [.invoke ⟨0, 0⟩ (.instanceSetup ⟨statusSuccess, statusSuccess, 0xC01C000B#32⟩)] := by
  intro h
  have hcompletes := completes_of_releasesOnce (h _ rfl).1
  exact absurd (hcompletes rfl).2 (by decide)

end Kawin.Driver
