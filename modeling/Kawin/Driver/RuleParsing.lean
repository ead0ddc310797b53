import Kawin.Base.TerminatedText
import Kawin.Base.TracedReader
import Kawin.Driver.ProcessCache
import Kawin.Driver.RuleLifetime

/-!
# Rule requests

A rule request comes from user mode as a `USER_RULE_REQUEST`: a path of 260 characters and an
action.  `KarmorDeviceControl` checks that there are that many bytes, and then makes a string of
the path with `RtlInitUnicodeString`, which looks for a terminator without a bound: through the
path, the action, and whatever stands behind the input.

The memory from the `SystemBuffer` on is a list of bytes, of which the first are the input.
`requestSound_iff` says what has to be true of it for a request to be handled properly.
-/

namespace Kawin.Driver

open ByteMemory TerminatedText

def statusInvalidDeviceRequest : NTSTATUS := 0xC0000010#32

/-- `CTL_CODE`. -/
def ctlCode (deviceType function method access : ULONG) : ULONG :=
  (deviceType <<< 16) ||| (access <<< 14) ||| (function <<< 2) ||| method

/-- `IOCTL_ADD_RULE`. -/
def ioctlAddRule : ULONG := ctlCode 0x8022#32 0x800#32 0#32 2#32

/-- `IOCTL_REMOVE_RULE`. -/
def ioctlRemoveRule : ULONG := ctlCode 0x8022#32 0x801#32 0#32 2#32

/-- `MAX_PATH_LENGTH`. -/
def maxPathLength : ℕ := 260

/-- What a `SHORT` stands for as a `RuleAction`. -/
def RuleAction.ofShort (code : SHORT) : RuleAction :=
  if code = 0#16 then .audit
  else if code = 1#16 then .block
  else if code = 2#16 then .allow
  else .other code

/-- The input of a request: the memory from the `SystemBuffer` on, as far as it can be read, of
which `InputBufferLength` bytes are the input. -/
structure UserRuleRequest where
  readable : List Byte
  inputBufferLength : ULONG
  mapped : inputBufferLength.toNat ≤ readable.length

namespace UserRuleRequest

variable (request : UserRuleRequest)

/-- The memory as characters. -/
def units : List UINT16 := readUnits (memoryOf request.readable) 0 (request.readable.length / 2)

/-- `request->Path`. -/
def path : List UINT16 := request.units.take maxPathLength

/-- `request->Action`. -/
def action : RuleAction := .ofShort (BitVec.ofNat 16 (readNat (memoryOf request.readable) 520 2))

end UserRuleRequest

/-- What the call of `InsertRule` or `RemoveRule` depends on: whether the allocations succeed, and
what `RemoveRule` finds in a freed entry. -/
structure RuleSurroundings where
  entryBlock : Bool
  pathBlock : Bool
  freed : RuleAction

/-- How a request ends: the status, the rules, the path that was inserted or removed, and what was
read of the memory behind the `SystemBuffer`. -/
structure RequestResult where
  status : NTSTATUS
  globals : Globals
  changed : Option UnicodeString
  reads : List Span

/-- `KarmorDeviceControl`.  There is no result where the scan for a terminator leaves the memory.
The lookup after an insertion is for a log message. -/
def karmorDeviceControl (rtl : RtlStrings) (g : Globals) (ioControlCode : ULONG)
    (request : UserRuleRequest) (now : RuleSurroundings) : Option RequestResult :=
  if ioControlCode = ioctlAddRule then
    if request.inputBufferLength.toNat < sizeofUserRuleRequest then
      some ⟨statusBufferTooSmall, g, none, []⟩
    else
      match scanLength 0#16 request.units with
      | none => none
      | some n =>
          let path := rtlInitUnicodeString (request.units.take n)
          let inserted := g.insertRule rtl path request.action now.entryBlock now.pathBlock
          some
            { status := if inserted.1 then statusSuccess else statusUnsuccessful
              globals := inserted.2
              changed := if inserted.1 then some path else none
              reads := [⟨0, 2 * (n + 1)⟩, ⟨520, 2⟩] }
  else if ioControlCode = ioctlRemoveRule then
    if request.inputBufferLength.toNat < sizeofUserRuleRequest then
      some ⟨statusBufferTooSmall, g, none, []⟩
    else
      match scanLength 0#16 request.units with
      | none => none
      | some n =>
          let path := rtlInitUnicodeString (request.units.take n)
          let removed := g.removeRule rtl path now.freed
          some
            { status := if removed.1 then statusSuccess else statusNotFound
              globals := removed.2
              changed := if removed.1 then some path else none
              reads := [⟨0, 2 * (n + 1)⟩] }
  else some ⟨statusInvalidDeviceRequest, g, none, []⟩

/-! ## What a request should do -/

inductive RuleIoctl
  | add | remove
  deriving DecidableEq, Repr

def RuleIoctl.code : RuleIoctl → ULONG
  | .add => ioctlAddRule
  | .remove => ioctlRemoveRule

/-- The call that a request makes with a path returns `TRUE`. -/
def RuleIoctl.succeeds (rtl : RtlStrings) (g : Globals) (now : RuleSurroundings)
    (path : UnicodeString) : RuleIoctl → Bool
  | .add => now.entryBlock && now.pathBlock
  | .remove => (g.lookupRule rtl path).isSome

/-- A request is handled properly: it comes to an end, reads only its input, inserts or removes the
characters of `Path` in front of the first terminator there, and is refused where there is none. -/
def RequestSound (rtl : RtlStrings) (g : Globals) (ioctl : RuleIoctl) (request : UserRuleRequest)
    (now : RuleSurroundings) : Prop :=
  ∃ result, karmorDeviceControl rtl g ioctl.code request now = some result ∧
    (∀ span ∈ result.reads, span.Within 0 request.inputBufferLength.toNat) ∧
    (∀ path, result.changed = some path → ∃ n, scanLength 0#16 request.path = some n ∧
      path.units = request.path.take n) ∧
    (scanLength 0#16 request.path = none → ntSuccess result.status = false ∧ result.globals = g)

/-! ## What it does -/

theorem RuleIoctl.code_add : RuleIoctl.add.code = ioctlAddRule := rfl

theorem RuleIoctl.code_remove : RuleIoctl.remove.code = ioctlRemoveRule := rfl

theorem RuleIoctl.code_remove_ne : RuleIoctl.remove.code ≠ ioctlAddRule := by decide

variable {rtl : RtlStrings} {g : Globals} {ioctl : RuleIoctl} {request : UserRuleRequest}
  {now : RuleSurroundings} {n : ℕ}

theorem karmorDeviceControl_short (h : request.inputBufferLength.toNat < sizeofUserRuleRequest) :
    karmorDeviceControl rtl g ioctl.code request now =
      some ⟨statusBufferTooSmall, g, none, []⟩ := by
  unfold karmorDeviceControl
  cases ioctl with
  | add =>
      rw [if_pos RuleIoctl.code_add, if_pos h]
  | remove =>
      rw [if_neg RuleIoctl.code_remove_ne, if_pos RuleIoctl.code_remove, if_pos h]

theorem karmorDeviceControl_unterminated
    (h : sizeofUserRuleRequest ≤ request.inputBufferLength.toNat)
    (hscan : scanLength 0#16 request.units = none) :
    karmorDeviceControl rtl g ioctl.code request now = none := by
  unfold karmorDeviceControl
  cases ioctl with
  | add =>
      rw [if_pos RuleIoctl.code_add, if_neg (Nat.not_lt.mpr h), hscan]
  | remove =>
      rw [if_neg RuleIoctl.code_remove_ne, if_pos RuleIoctl.code_remove, if_neg (Nat.not_lt.mpr h),
        hscan]

theorem removeRule_fst (g : Globals) (path : UnicodeString) (freed : RuleAction) :
    (g.removeRule rtl path freed).1 = (g.lookupRule rtl path).isSome := by
  unfold Globals.removeRule
  cases g.lookupRule rtl path with
  | none => rfl
  | some rule => rfl

theorem removeRule_fails {path : UnicodeString} {freed : RuleAction}
    (h : (g.lookupRule rtl path).isSome = false) : g.removeRule rtl path freed = (false, g) := by
  unfold Globals.removeRule
  rw [Option.isSome_eq_false_iff, Option.isNone_iff_eq_none] at h
  rw [h]

/-- A request whose scan comes to an end. -/
theorem karmorDeviceControl_scanned (h : sizeofUserRuleRequest ≤ request.inputBufferLength.toNat)
    (hscan : scanLength 0#16 request.units = some n) :
    ∃ result, karmorDeviceControl rtl g ioctl.code request now = some result ∧
      ((∀ span ∈ result.reads, span.Within 0 request.inputBufferLength.toNat) ↔
        2 * (n + 1) ≤ request.inputBufferLength.toNat) ∧
      result.changed =
        (if ioctl.succeeds rtl g now (rtlInitUnicodeString (request.units.take n)) then
          some (rtlInitUnicodeString (request.units.take n)) else none) ∧
      ntSuccess result.status =
        ioctl.succeeds rtl g now (rtlInitUnicodeString (request.units.take n)) ∧
      (ioctl.succeeds rtl g now (rtlInitUnicodeString (request.units.take n)) = false →
        result.globals = g) := by
  have hpath : (Span.mk 0 (2 * (n + 1))).Within 0 request.inputBufferLength.toNat ↔
      2 * (n + 1) ≤ request.inputBufferLength.toNat := by
    unfold Span.Within
    dsimp only
    omega
  unfold karmorDeviceControl
  cases ioctl with
  | add =>
      have hsucceeds := @insertRule_succeeds rtl g (rtlInitUnicodeString (request.units.take n))
        request.action now.entryBlock now.pathBlock
      rw [if_pos RuleIoctl.code_add, if_neg (Nat.not_lt.mpr h), hscan]
      refine ⟨_, rfl, ?_, ?_, ?_, ?_⟩
      · -- the action stands at the end of the request
        have haction : (Span.mk 520 2).Within 0 request.inputBufferLength.toNat :=
          Or.inr ⟨Nat.zero_le _, h⟩
        rw [List.forall_mem_cons, List.forall_mem_singleton, hpath]
        exact and_iff_left haction
      · dsimp only
        rw [hsucceeds]
        rfl
      · dsimp only
        rw [hsucceeds]
        change _ = (now.entryBlock && now.pathBlock)
        cases now.entryBlock && now.pathBlock
        · rfl
        · rfl
      · intro hfails
        dsimp only
        rw [insertRule_fails hfails]
  | remove =>
      rw [if_neg RuleIoctl.code_remove_ne, if_pos RuleIoctl.code_remove, if_neg (Nat.not_lt.mpr h),
        hscan]
      refine ⟨_, rfl, ?_, ?_, ?_, ?_⟩
      · rw [List.forall_mem_singleton, hpath]
      · dsimp only
        rw [removeRule_fst]
        rfl
      · dsimp only
        rw [removeRule_fst]
        change _ = (g.lookupRule rtl (rtlInitUnicodeString (request.units.take n))).isSome
        cases (g.lookupRule rtl (rtlInitUnicodeString (request.units.take n))).isSome
        · rfl
        · rfl
      · intro hfails
        dsimp only
        rw [removeRule_fails hfails]

/-! ## Requests that are handled properly -/

/-! Where the scan ends: among the characters of the path, or behind them. -/

theorem scanLength_path_eq_none (hscan : scanLength 0#16 request.units = some n)
    (hn : maxPathLength ≤ n) : scanLength 0#16 request.path = none := by
  obtain ⟨-, -, hbefore, -⟩ := scanLength_eq_some hscan
  apply scanLength_eq_none_iff.mpr
  intro hmem
  exact hbefore ((List.take_prefix_take_left hn).subset hmem)

theorem mem_path_iff (hscan : scanLength 0#16 request.units = some n) :
    0#16 ∈ request.path ↔ n < maxPathLength := by
  constructor
  · intro hmem
    by_contra hn
    exact scanLength_eq_none_iff.mp (scanLength_path_eq_none hscan (Nat.le_of_not_lt hn)) hmem
  · intro hn
    have hpath : scanLength 0#16 request.path = some n := scanLength_take hscan hn
    by_contra habsent
    cases (scanLength_eq_none_iff.mpr habsent).symm.trans hpath

/-- A string that ends in the path is not too long for a `UNICODE_STRING`. -/
theorem units_rtlInitUnicodeString (hn : n < maxPathLength) :
    (rtlInitUnicodeString (request.units.take n)).units = request.path.take n := by
  have htake : request.path.take n = request.units.take n := by
    rw [UserRuleRequest.path, List.take_take, min_eq_left hn.le]
  have hle : (request.units.take n).length ≤ 32766 :=
    (List.length_take_le _ _).trans (hn.le.trans (by decide))
  rw [htake]
  exact List.take_of_length_le hle

theorem requestSound_of_short (h : request.inputBufferLength.toNat < sizeofUserRuleRequest) :
    RequestSound rtl g ioctl request now := by
  refine ⟨_, karmorDeviceControl_short h, ?_, ?_, ?_⟩
  · intro span hspan
    exact absurd hspan List.not_mem_nil
  · exact nofun
  · intro _
    exact ⟨show ntSuccess statusBufferTooSmall = false by decide, rfl⟩

theorem requestSound_of_terminated (h : sizeofUserRuleRequest ≤ request.inputBufferLength.toNat)
    (hscan : scanLength 0#16 request.units = some n) (hn : n < maxPathLength) :
    RequestSound rtl g ioctl request now := by
  obtain ⟨result, hrun, hreads, hchanged, -, -⟩ :=
    @karmorDeviceControl_scanned rtl g ioctl request now n h hscan
  have hpath : scanLength 0#16 request.path = some n := scanLength_take hscan hn
  refine ⟨result, hrun, hreads.mpr ?_, ?_, ?_⟩
  · -- the terminator is one of the characters of the path
    unfold maxPathLength at hn
    unfold sizeofUserRuleRequest at h
    omega
  · intro path hsome
    rw [hchanged] at hsome
    obtain ⟨-, heq⟩ := Option.ite_none_right_eq_some.mp hsome
    exact ⟨n, hpath, by rw [← Option.some_inj.mp heq, units_rtlInitUnicodeString hn]⟩
  · rw [hpath]
    exact nofun

/-- The scan runs out of the path: the request is handled properly if the scan stays in the input
and nothing comes of it. -/
theorem requestSound_iff_of_overrun (h : sizeofUserRuleRequest ≤ request.inputBufferLength.toNat)
    (hscan : scanLength 0#16 request.units = some n) (hn : maxPathLength ≤ n) :
    RequestSound rtl g ioctl request now ↔ 2 * (n + 1) ≤ request.inputBufferLength.toNat ∧
      ioctl.succeeds rtl g now (rtlInitUnicodeString (request.units.take n)) = false := by
  obtain ⟨result, hrun, hreads, hchanged, hstatus, hglobals⟩ :=
    @karmorDeviceControl_scanned rtl g ioctl request now n h hscan
  constructor
  · rintro ⟨result', hrun', hwithin, -, hrefused⟩
    obtain rfl : result = result' := Option.some_inj.mp (hrun.symm.trans hrun')
    have hfails := (hrefused (scanLength_path_eq_none hscan hn)).1
    exact ⟨hreads.mp hwithin, hstatus.symm.trans hfails⟩
  · rintro ⟨hle, hfails⟩
    refine ⟨result, hrun, hreads.mpr hle, ?_, ?_⟩
    · intro path hpath
      rw [hchanged, hfails] at hpath
      cases hpath
    · intro _
      exact ⟨hstatus.trans hfails, hglobals hfails⟩

/-- **Rule requests.**  A request is handled properly exactly when it is too short, or has a
terminator among the characters of its path, or else has one further on in its input and inserts or
removes nothing. -/
theorem requestSound_iff (rtl : RtlStrings) (g : Globals) (ioctl : RuleIoctl)
    (request : UserRuleRequest) (now : RuleSurroundings) : RequestSound rtl g ioctl request now ↔
      request.inputBufferLength.toNat < sizeofUserRuleRequest ∨ 0#16 ∈ request.path ∨
        ∃ n, scanLength 0#16 request.units = some n ∧
          2 * (n + 1) ≤ request.inputBufferLength.toNat ∧
          ioctl.succeeds rtl g now (rtlInitUnicodeString (request.units.take n)) = false := by
  by_cases hshort : request.inputBufferLength.toNat < sizeofUserRuleRequest
  · exact iff_of_true (requestSound_of_short hshort) (Or.inl hshort)
  rw [or_iff_right hshort]
  have hlong := Nat.not_lt.mp hshort
  cases hscan : scanLength 0#16 request.units with
  | none =>
      have habsent : 0#16 ∉ request.path := fun hmem =>
        scanLength_eq_none_iff.mp hscan (List.mem_of_mem_take hmem)
      unfold RequestSound
      rw [karmorDeviceControl_unterminated hlong hscan, or_iff_right habsent]
      exact iff_of_false nofun nofun
  | some n =>
      rw [mem_path_iff hscan]
      by_cases hn : n < maxPathLength
      · exact iff_of_true (requestSound_of_terminated hlong hscan hn) (Or.inl hn)
      · rw [or_iff_right hn, requestSound_iff_of_overrun hlong hscan (Nat.le_of_not_lt hn)]
        constructor
        · intro h
          exact ⟨n, rfl, h⟩
        · rintro ⟨_, ⟨⟩, h⟩
          exact h

/-- A path of 260 characters without a terminator, and the action `Audit`, which is 0. -/
private def auditRequest : UserRuleRequest where
  readable := unitsBytes (List.replicate 260 97#16 ++ [0#16])
  inputBufferLength := 522#32
  mapped := by
    rw [length_unitsBytes, List.length_append, List.length_replicate]
    decide

private theorem units_auditRequest : auditRequest.units = List.replicate 260 97#16 ++ [0#16] := by
  have hlength : auditRequest.readable.length / 2 =
      (List.replicate 260 97#16 ++ [0#16]).length := by
    rw [auditRequest, length_unitsBytes, Nat.mul_div_cancel_left _ Nat.zero_lt_two]
  unfold UserRuleRequest.units
  rw [hlength]
  exact readUnits_of_carries (carries_memoryOf _)

/-- The action ends the path, which is inserted. -/
theorem not_requestSound : ¬∀ rtl g ioctl request now, RequestSound rtl g ioctl request now := by
  intro hsound
  obtain ⟨result', hrun', -, -, hrefused⟩ :=
    hsound asciiStrings .init .add auditRequest ⟨true, true, .audit⟩
  have habsent : 0#16 ∉ List.replicate 260 97#16 := by
    rw [List.mem_replicate]
    decide
  have hscan : scanLength 0#16 auditRequest.units = some 260 := by
    rw [units_auditRequest, scanLength_terminated habsent, List.length_replicate]
  have hlength : (List.replicate 260 97#16).length = maxPathLength := List.length_replicate
  have hpath : scanLength 0#16 auditRequest.path = none := by
    rw [scanLength_eq_none_iff, UserRuleRequest.path, units_auditRequest, List.take_left' hlength]
    exact habsent
  obtain ⟨result, hrun, -, -, hstatus, -⟩ := @karmorDeviceControl_scanned asciiStrings .init .add
    auditRequest ⟨true, true, .audit⟩ 260 (by decide) hscan
  obtain rfl : result = result' := Option.some_inj.mp (hrun.symm.trans hrun')
  cases hstatus.symm.trans (hrefused hpath).1

/-! ## The machine of the requests -/

/-- The step of the machine that serves a request whose path is `n` characters long. -/
def UserRuleRequest.deviceAction (request : UserRuleRequest) (now : RuleSurroundings) (i n : ℕ) :
    RuleIoctl → DeviceAction
  | .add => .addRule i request.inputBufferLength.toNat
      (rtlInitUnicodeString (request.units.take n)) request.action now.entryBlock now.pathBlock
  | .remove => .removeRule i request.inputBufferLength.toNat
      (rtlInitUnicodeString (request.units.take n)) now.freed

/-- **Refinement.**  The machine serves a request with the path that the scan finds, and does to the
rules what `KarmorDeviceControl` does. -/
theorem globals_deviceAction {s t : RuleHeap} {i : ℕ} {result : RequestResult} (h : HeapOk rtl s)
    (hscan : scanLength 0#16 request.units = some n)
    (hstep : ruleHeapStep rtl s (request.deviceAction now i n ioctl) = some t)
    (hrun : karmorDeviceControl rtl s.globals ioctl.code request now = some result) :
    t.globals = result.globals := by
  by_cases hshort : request.inputBufferLength.toNat < sizeofUserRuleRequest
  · -- neither does anything
    rw [karmorDeviceControl_short hshort] at hrun
    cases hrun
    cases ioctl with
    | add =>
        obtain ⟨-, hstep⟩ := Option.ite_none_left_eq_some.mp hstep
        rw [if_pos hshort] at hstep
        cases hstep
        rfl
    | remove =>
        obtain ⟨-, hstep⟩ := Option.ite_none_left_eq_some.mp hstep
        rw [if_pos hshort] at hstep
        cases hstep
        rfl
  · cases ioctl with
    | add =>
        obtain ⟨-, hstep⟩ := Option.ite_none_left_eq_some.mp hstep
        rw [if_neg hshort] at hstep
        cases hstep
        rw [globals_insertRule h]
        unfold karmorDeviceControl at hrun
        rw [if_pos RuleIoctl.code_add, if_neg hshort, hscan] at hrun
        cases hrun
        rfl
    | remove =>
        obtain ⟨-, hstep⟩ := Option.ite_none_left_eq_some.mp hstep
        rw [if_neg hshort] at hstep
        cases hstep
        rw [globals_removeRule h]
        unfold karmorDeviceControl at hrun
        rw [if_neg RuleIoctl.code_remove_ne, if_pos RuleIoctl.code_remove, if_neg hshort,
          hscan] at hrun
        cases hrun
        rfl

end Kawin.Driver
