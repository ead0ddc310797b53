import Mathlib.Data.Finset.Basic
import Kawin.Driver.Dispatcher

/-!
# Loading the driver

`DriverEntry` acquires the resources of the driver one after the other, and what it does when a
call fails is spread over three functions.  `RegisterFilter` and `Initialize` return at the call
that fails, after releasing by name what they acquired before it: each of them acquires all or
nothing (`initialize_allOrNothing`, `registerFilter_allOrNothing`).

`DriverEntry` does not.  It releases the device and what depends on it in one place, after the
loop that acquires them, but never the filter, the port, the dispatcher and the ETW handle; and
it then calls `Globals::Init`, whose status replaces the one that says what failed.  So a load
is all or nothing only if `RegisterFilter` fails or nothing does (`driverEntry_allOrNothing_iff`).
-/

namespace Kawin.Driver

inductive DriverResource
  | filter | securityDescriptor | serverPort
  | ring | sendBuf | thread
  | etwHandle
  | device | symbolicLink | processNotify
  | ruleTable
  deriving DecidableEq, Repr

/-- What is acquired and not released. -/
abbrev Held := Finset DriverResource

/-- What the calls of a load return. -/
structure LoadCalls where
  fltRegisterFilter : NTSTATUS
  fltBuildDefaultSecurityDescriptor : NTSTATUS
  fltCreateCommunicationPort : NTSTATUS
  fltStartFiltering : NTSTATUS
  /-- the allocations of `m_ring` and `m_sendBuf` succeed -/
  ringAllocated : Bool
  sendBufAllocated : Bool
  psCreateSystemThread : NTSTATUS
  etwRegister : NTSTATUS
  ioCreateDevice : NTSTATUS
  ioCreateSymbolicLink : NTSTATUS
  psSetCreateProcessNotifyRoutineEx : NTSTATUS
  /-- the allocation of `m_Table` succeeds -/
  tableAllocated : Bool

/-- `DriverEntry` between its calls. -/
structure DriverState where
  held : Held
  deviceObject : Bool
  symLinkCreated : Bool
  processNotifyRegistered : Bool

/-! ## The functions -/

/-- `AsyncEventDispatcher::Initialize`. -/
def initializeDispatcher (calls : LoadCalls) (held : Held) : NTSTATUS × Held :=
  if !calls.ringAllocated then (statusInsufficientResources, held)
  else
    let held := insert .ring held
    if !calls.sendBufAllocated then (statusInsufficientResources, held.erase .ring)
    else
      let held := insert .sendBuf held
      if !ntSuccess calls.psCreateSystemThread then
        (calls.psCreateSystemThread, (held.erase .sendBuf).erase .ring)
      else (statusSuccess, insert .thread held)

/-- `RegisterFilter`. -/
def registerFilter (calls : LoadCalls) (held : Held) : NTSTATUS × Held :=
  if !ntSuccess calls.fltRegisterFilter then (calls.fltRegisterFilter, held)
  else
    let held := insert .filter held
    if !ntSuccess calls.fltBuildDefaultSecurityDescriptor then
      (calls.fltBuildDefaultSecurityDescriptor, held.erase .filter)
    else
      let held := insert .securityDescriptor held
      let created := ntSuccess calls.fltCreateCommunicationPort
      let held := if created then insert .serverPort held else held
      let held := held.erase .securityDescriptor
      if !created then (calls.fltCreateCommunicationPort, held.erase .filter)
      else if !ntSuccess calls.fltStartFiltering then
        (calls.fltStartFiltering, (held.erase .serverPort).erase .filter)
      else
        let initialized := initializeDispatcher calls held
        if !ntSuccess initialized.1 then
          (initialized.1, (initialized.2.erase .serverPort).erase .filter)
        else (statusSuccess, initialized.2)

/-- `InitializeETW`. -/
def initializeETW (calls : LoadCalls) (held : Held) : NTSTATUS × Held :=
  if !ntSuccess calls.etwRegister then (calls.etwRegister, held)
  else (statusSuccess, insert .etwHandle held)

/-- `CleanupETW`; the handle is 0 until it is registered. -/
def cleanupETW (held : Held) : Held := held.erase .etwHandle

/-- The loop body of `DriverEntry` after the ETW registration; a failure breaks out of it. -/
def createDevice (calls : LoadCalls) (s : DriverState) : NTSTATUS × DriverState :=
  if !ntSuccess calls.ioCreateDevice then (calls.ioCreateDevice, s)
  else
    let s := { s with held := insert .device s.held, deviceObject := true }
    if !ntSuccess calls.ioCreateSymbolicLink then (calls.ioCreateSymbolicLink, s)
    else
      let s := { s with held := insert .symbolicLink s.held, symLinkCreated := true }
      if !ntSuccess calls.psSetCreateProcessNotifyRoutineEx then
        (calls.psSetCreateProcessNotifyRoutineEx, s)
      else
        (calls.psSetCreateProcessNotifyRoutineEx,
          { s with held := insert .processNotify s.held, processNotifyRegistered := true })

/-- What `DriverEntry` releases after a failure in the loop. -/
def releaseDevice (s : DriverState) : DriverState :=
  let s := if s.processNotifyRegistered then
      { s with held := s.held.erase .processNotify, processNotifyRegistered := false } else s
  let s := if s.symLinkCreated then
      { s with held := s.held.erase .symbolicLink, symLinkCreated := false } else s
  if s.deviceObject then { s with held := s.held.erase .device } else s

/-- `Globals::Init`. -/
def globalsInit (calls : LoadCalls) (held : Held) : NTSTATUS × Held :=
  if !calls.tableAllocated then (statusInsufficientResources, held)
  else (statusSuccess, insert .ruleTable held)

/-- `DriverEntry`. -/
def driverEntry (calls : LoadCalls) : NTSTATUS × Held :=
  let registered := registerFilter calls ∅
  if !ntSuccess registered.1 then registered
  else
    let etw := initializeETW calls registered.2
    if !ntSuccess etw.1 then (etw.1, cleanupETW etw.2)
    else
      let created := createDevice calls ⟨etw.2, false, false, false⟩
      let s := if !ntSuccess created.1 then releaseDevice created.2 else created.2
      -- the status of the loop is lost here
      let init := globalsInit calls s.held
      if !ntSuccess init.1 then init else (statusSuccess, init.2)

/-! ## All or nothing -/

/-- The result is a success exactly if every call succeeded, and after a failure nothing is held
but what was held before. -/
structure AllOrNothing (everyCall : Prop) (before : Held) (result : NTSTATUS × Held) : Prop where
  succeeds_iff : ntSuccess result.1 ↔ everyCall
  released : ¬ ntSuccess result.1 → result.2 = before

namespace LoadCalls

variable (calls : LoadCalls)

/-- Every call of `Initialize` succeeds. -/
def InitializeSucceeds : Prop :=
  calls.ringAllocated ∧ calls.sendBufAllocated ∧ ntSuccess calls.psCreateSystemThread

/-- Every call of `RegisterFilter` succeeds. -/
def RegisterFilterSucceeds : Prop :=
  ntSuccess calls.fltRegisterFilter ∧ ntSuccess calls.fltBuildDefaultSecurityDescriptor ∧
    ntSuccess calls.fltCreateCommunicationPort ∧ ntSuccess calls.fltStartFiltering ∧
    calls.InitializeSucceeds

/-- Every call after `RegisterFilter` succeeds. -/
def RestSucceeds : Prop :=
  ntSuccess calls.etwRegister ∧ ntSuccess calls.ioCreateDevice ∧
    ntSuccess calls.ioCreateSymbolicLink ∧ ntSuccess calls.psSetCreateProcessNotifyRoutineEx ∧
    calls.tableAllocated

def EveryCallSucceeds : Prop := calls.RegisterFilterSucceeds ∧ calls.RestSucceeds

end LoadCalls

section

variable {calls : LoadCalls} {held : Held}

/-- A test of the source, with its negation gone. -/
theorem ite_not_bool {α : Type*} (b : Bool) (x y : α) :
    (if !b then x else y) = if b then y else x := by
  cases b <;> rfl

theorem ntSuccess_statusSuccess : ntSuccess statusSuccess := rfl

theorem not_ntSuccess_insufficientResources : ¬ ntSuccess statusInsufficientResources := by decide

theorem allOrNothing_of_success {everyCall : Prop} {before : Held} (hall : everyCall) :
    AllOrNothing everyCall before (statusSuccess, held) where
  succeeds_iff := iff_of_true ntSuccess_statusSuccess hall
  released hfails := absurd ntSuccess_statusSuccess hfails

theorem allOrNothing_of_failure {everyCall : Prop} {before : Held} {status : NTSTATUS}
    (hstatus : ¬ ntSuccess status) (hnot : ¬ everyCall) (hheld : held = before) :
    AllOrNothing everyCall before (status, held) where
  succeeds_iff := iff_of_false hstatus hnot
  released _ := hheld

theorem initialize_allOrNothing (hring : .ring ∉ held) (hsendBuf : .sendBuf ∉ held) :
    AllOrNothing calls.InitializeSucceeds held (initializeDispatcher calls held) := by
  unfold initializeDispatcher LoadCalls.InitializeSucceeds
  simp only [ite_not_bool]
  split_ifs with hringCall hsendBufCall hthreadCall
  · exact allOrNothing_of_success ⟨hringCall, hsendBufCall, hthreadCall⟩
  · refine allOrNothing_of_failure hthreadCall (fun h => hthreadCall h.2.2) ?_
    have hnot : DriverResource.sendBuf ∉ insert .ring held := by simp [hsendBuf]
    rw [Finset.erase_insert hnot, Finset.erase_insert hring]
  · exact allOrNothing_of_failure not_ntSuccess_insufficientResources
      (fun h => hsendBufCall h.2.1) (Finset.erase_insert hring)
  · exact allOrNothing_of_failure not_ntSuccess_insufficientResources
      (fun h => hringCall h.1) rfl

/-- What `Initialize` acquires. -/
theorem initialize_held (h : calls.InitializeSucceeds) :
    initializeDispatcher calls held =
      (statusSuccess, insert .thread (insert .sendBuf (insert .ring held))) := by
  obtain ⟨hring, hsendBuf, hthread⟩ := h
  unfold initializeDispatcher
  simp only [ite_not_bool, if_pos hring, if_pos hsendBuf, if_pos hthread]

/-- What is held when `Initialize` is called. -/
theorem held_portCreated : Finset.erase
    (insert .serverPort (insert .securityDescriptor (insert .filter ∅))) .securityDescriptor =
    ({.filter, .serverPort} : Held) := by decide

theorem registerFilter_allOrNothing :
    AllOrNothing calls.RegisterFilterSucceeds ∅ (registerFilter calls ∅) := by
  have hdispatcher : AllOrNothing calls.InitializeSucceeds {.filter, .serverPort}
      (initializeDispatcher calls {.filter, .serverPort}) :=
    initialize_allOrNothing (by decide) (by decide)
  unfold registerFilter LoadCalls.RegisterFilterSucceeds
  simp only [ite_not_bool]
  split_ifs with hfilter hdescriptor hport hstart hinitialize
  · rw [held_portCreated, hdispatcher.succeeds_iff] at hinitialize
    exact allOrNothing_of_success ⟨hfilter, hdescriptor, hport, hstart, hinitialize⟩
  · rw [held_portCreated] at hinitialize ⊢
    refine allOrNothing_of_failure hinitialize
      (fun h => hinitialize (hdispatcher.succeeds_iff.mpr h.2.2.2.2)) ?_
    rw [hdispatcher.released hinitialize]
    rfl
  · exact allOrNothing_of_failure hstart (fun h => hstart h.2.2.2.1) rfl
  · exact allOrNothing_of_failure hport (fun h => hport h.2.2.1) rfl
  · exact allOrNothing_of_failure hdescriptor (fun h => hdescriptor h.2.1) rfl
  · exact allOrNothing_of_failure hfilter (fun h => hfilter h.1) rfl

theorem filter_mem_registerFilter (h : calls.RegisterFilterSucceeds) :
    .filter ∈ (registerFilter calls ∅).2 := by
  obtain ⟨hfilter, hdescriptor, hport, hstart, hdispatcher⟩ := h
  unfold registerFilter
  simp only [ite_not_bool, if_pos hfilter, if_pos hdescriptor, if_pos hport, if_pos hstart,
    held_portCreated, initialize_held hdispatcher, if_pos ntSuccess_statusSuccess]
  decide

/-! ## What follows `RegisterFilter` -/

theorem filter_mem_initializeETW (h : .filter ∈ held) :
    .filter ∈ (initializeETW calls held).2 := by
  unfold initializeETW
  split_ifs
  · exact h
  · exact Finset.mem_insert_of_mem h

theorem filter_mem_createDevice {s : DriverState} (h : .filter ∈ s.held) :
    .filter ∈ (createDevice calls s).2.held := by
  unfold createDevice
  split_ifs <;> simp [h]

theorem filter_mem_releaseDevice {s : DriverState} (h : .filter ∈ s.held) :
    .filter ∈ (releaseDevice s).held := by
  obtain ⟨held, deviceObject, symLinkCreated, processNotifyRegistered⟩ := s
  cases deviceObject <;> cases symLinkCreated <;> cases processNotifyRegistered <;>
    simpa [releaseDevice] using h

theorem filter_mem_globalsInit (h : .filter ∈ held) : .filter ∈ (globalsInit calls held).2 := by
  unfold globalsInit
  split_ifs
  · exact h
  · exact Finset.mem_insert_of_mem h

/-- Once `RegisterFilter` has succeeded, the filter stays registered whatever fails. -/
theorem filter_mem_driverEntry (h : calls.RegisterFilterSucceeds) :
    .filter ∈ (driverEntry calls).2 := by
  have hregistered := registerFilter_allOrNothing.succeeds_iff.mpr h
  have hetw : .filter ∈ (initializeETW calls (registerFilter calls ∅).2).2 :=
    filter_mem_initializeETW (filter_mem_registerFilter h)
  unfold driverEntry
  simp only [ite_not_bool, if_pos hregistered]
  split_ifs
  · exact filter_mem_globalsInit (filter_mem_createDevice hetw)
  · exact filter_mem_globalsInit (filter_mem_createDevice hetw)
  · exact filter_mem_globalsInit (filter_mem_releaseDevice (filter_mem_createDevice hetw))
  · exact filter_mem_globalsInit (filter_mem_releaseDevice (filter_mem_createDevice hetw))
  · exact Finset.mem_erase.mpr ⟨by decide, hetw⟩

theorem initializeETW_succeeds_iff :
    ntSuccess (initializeETW calls held).1 ↔ ntSuccess calls.etwRegister := by
  unfold initializeETW
  simp only [ite_not_bool]
  split_ifs with hetw
  · exact iff_of_true ntSuccess_statusSuccess hetw
  · exact Iff.rfl

theorem globalsInit_succeeds_iff :
    ntSuccess (globalsInit calls held).1 ↔ calls.tableAllocated := by
  unfold globalsInit
  simp only [ite_not_bool]
  split_ifs with htable
  · exact iff_of_true ntSuccess_statusSuccess htable
  · exact iff_of_false not_ntSuccess_insufficientResources htable

/-- The status of `DriverEntry` says nothing of the device, the link and the notification. -/
theorem driverEntry_succeeds_iff : ntSuccess (driverEntry calls).1 ↔
    calls.RegisterFilterSucceeds ∧ ntSuccess calls.etwRegister ∧ calls.tableAllocated := by
  rw [← registerFilter_allOrNothing.succeeds_iff]
  unfold driverEntry
  simp only [ite_not_bool, globalsInit_succeeds_iff, initializeETW_succeeds_iff]
  by_cases hregistered : ntSuccess (registerFilter calls ∅).1
  · by_cases hetw : ntSuccess calls.etwRegister
    · by_cases htable : calls.tableAllocated
      · simp only [if_pos hregistered, if_pos hetw, if_pos htable]
        exact iff_of_true ntSuccess_statusSuccess ⟨hregistered, hetw, htable⟩
      · simp only [if_pos hregistered, if_pos hetw, if_neg htable, globalsInit_succeeds_iff]
        tauto
    · simp only [if_pos hregistered, if_neg hetw, initializeETW_succeeds_iff]
      tauto
  · simp only [if_neg hregistered]
    tauto

theorem driverEntry_of_register_fails (h : ¬ calls.RegisterFilterSucceeds) :
    driverEntry calls = registerFilter calls ∅ := by
  have hregistered := mt registerFilter_allOrNothing.succeeds_iff.mp h
  unfold driverEntry
  simp only [ite_not_bool, if_neg hregistered]

/-- **Loading the driver.**  A load is all or nothing exactly if `RegisterFilter` fails or nothing
after it does. -/
theorem driverEntry_allOrNothing_iff (calls : LoadCalls) :
    AllOrNothing calls.EveryCallSucceeds ∅ (driverEntry calls) ↔
      (calls.RegisterFilterSucceeds → calls.RestSucceeds) := by
  constructor
  · intro hload hregister
    have hsuccess : ntSuccess (driverEntry calls).1 := by
      by_contra hfails
      have hmem := filter_mem_driverEntry hregister
      rw [hload.released hfails] at hmem
      exact Finset.notMem_empty _ hmem
    exact (hload.succeeds_iff.mp hsuccess).2
  · intro hrest
    constructor
    · rw [driverEntry_succeeds_iff]
      constructor
      · exact fun h => ⟨h.1, hrest h.1⟩
      · exact fun h => ⟨h.1, h.2.1, h.2.2.2.2.2⟩
    · intro hfails
      have hregister : ¬ calls.RegisterFilterSucceeds := fun h =>
        hfails (driverEntry_succeeds_iff.mpr ⟨h, (hrest h).1, (hrest h).2.2.2.2⟩)
      rw [driverEntry_of_register_fails hregister] at hfails ⊢
      exact registerFilter_allOrNothing.released hfails

end

/-- Every call succeeds. -/
def LoadCalls.succeeding : LoadCalls where
  fltRegisterFilter := statusSuccess
  fltBuildDefaultSecurityDescriptor := statusSuccess
  fltCreateCommunicationPort := statusSuccess
  fltStartFiltering := statusSuccess
  ringAllocated := true
  sendBufAllocated := true
  psCreateSystemThread := statusSuccess
  etwRegister := statusSuccess
  ioCreateDevice := statusSuccess
  ioCreateSymbolicLink := statusSuccess
  psSetCreateProcessNotifyRoutineEx := statusSuccess
  tableAllocated := true

/-- A load without a device succeeds, and one without ETW fails with the filter registered, its
port open and the worker thread running. -/
theorem load_keeps_filter :
    ¬ (∀ calls, AllOrNothing calls.EveryCallSucceeds ∅ (driverEntry calls)) ∧
    driverEntry { LoadCalls.succeeding with ioCreateDevice := statusInsufficientResources } =
      (statusSuccess,
        {.filter, .serverPort, .ring, .sendBuf, .thread, .etwHandle, .ruleTable}) ∧
    driverEntry { LoadCalls.succeeding with etwRegister := statusInsufficientResources } =
      (statusInsufficientResources, {.filter, .serverPort, .ring, .sendBuf, .thread}) := by
  refine ⟨fun hall => ?_, by decide, by decide⟩
  have hload := hall { LoadCalls.succeeding with ioCreateDevice := statusInsufficientResources }
  have hdevice := (hload.succeeds_iff.mp (by decide)).2.2.1
  exact absurd hdevice (by decide)

end Kawin.Driver
