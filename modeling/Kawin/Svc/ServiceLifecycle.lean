import Mathlib.Data.Int.Notation
import Mathlib.Order.Basic
import Kawin.Base.Transition

/-!
# Starting and stopping the service

`Start` and `Stop` of the Go service swap a flag, so that of two calls in a row the second returns
an error.  The channels do not go with the flag: `NewFilterService` makes them, the first `Stop`
that succeeds closes them, and nothing makes new ones.  After that, a `Start` whose port opens
returns nil with workers that see a closed channel at once, and the `Stop` that follows closes the
channel again and panics.

`Start` takes the error of the last attempt for the outcome of all.  With no attempt at all there
is no error: if `MaxRetries` is not positive, it returns nil without a port.

`calls_ok_iff` says that nothing else goes wrong.
-/

namespace Kawin.Svc

open Transition

/-- `Config`; the delay between attempts only takes time. -/
structure Config where
  maxRetries : ℤ

/-- `defaultConig`. -/
def defaultConfig : Config := ⟨3⟩

/-- The part of `FilterService` that `Start` and `Stop` use. -/
structure FilterService where
  maxRetries : ℤ
  stopClosed : Bool
  eventClosed : Bool
  running : Bool
  /-- a call has panicked, and with it the program -/
  panicked : Bool
  deriving DecidableEq

inductive ServiceCall
  /-- with which attempts to open the port succeed -/
  | start (opens : ℕ → Bool)
  | stop

/-- `NewFilterService`. -/
def newFilterService (cfg : Option Config) : FilterService :=
  ⟨(cfg.getD defaultConfig).maxRetries, false, false, false, false⟩

/-- The loop of `Start`, with `n` attempts left and `i` made: whether `err` is set at its end. -/
def attemptsFail (opens : ℕ → Bool) : ℕ → ℕ → Bool → Bool
  | 0, _, err => err
  | n + 1, i, _ => if opens i then false else attemptsFail opens n (i + 1) true

namespace FilterService

/-- `Start`, and whether it returns nil. -/
def start (s : FilterService) (opens : ℕ → Bool) : Bool × FilterService :=
  if s.running then (false, s)
  else if attemptsFail opens s.maxRetries.toNat 0 false then (false, { s with running := false })
  else (true, { s with running := true })

/-- `Stop`, and whether it returns nil.  Closing a closed channel panics. -/
def stop (s : FilterService) : Bool × FilterService :=
  if !s.running then (false, s)
  else
    let s := { s with running := false }
    if s.stopClosed then (false, { s with panicked := true })
    else
      let s := { s with stopClosed := true }
      if s.eventClosed then (false, { s with panicked := true })
      else (true, { s with eventClosed := true })

/-- A call; a program that has panicked makes none. -/
def call (s : FilterService) (call : ServiceCall) : Bool × FilterService :=
  if s.panicked then (false, s)
  else
    match call with
    | .start opens => s.start opens
    | .stop => s.stop

end FilterService

def serviceStep (s : FilterService) (call : ServiceCall) : Option FilterService :=
  some (s.call call).2

/-- What the caller may expect of a call.  While the service runs, its readers and processors
test both channels again and again. -/
structure CallOk (s : FilterService) (call : ServiceCall) (t : FilterService) : Prop where
  noPanic : t.panicked = false
  opened : ∀ opens, call = .start opens → (s.call call).1 = true →
    ∃ i < s.maxRetries.toNat, opens i
  channelsOpen : t.running → t.stopClosed = false ∧ t.eventClosed = false

/-- A `Start` that has something to do makes at least one attempt, and after a `Stop` it makes
only attempts that fail. -/
def SafeCall (s : FilterService) : ServiceCall → Prop
  | .start opens => s.running = false →
      0 < s.maxRetries ∧ (s.stopClosed → ∀ i < s.maxRetries.toNat, opens i = false)
  | .stop => True

section

variable {s t : FilterService} {opens : ℕ → Bool}

theorem attemptsFail_eq_false_iff {n i : ℕ} {err : Bool} :
    attemptsFail opens n i err = false ↔ (n = 0 ∧ err = false) ∨ ∃ k < n, opens (i + k) := by
  induction n generalizing i err with
  | zero => simp [attemptsFail]
  | succ n ih =>
      rw [attemptsFail]
      by_cases hopens : opens i
      · rw [if_pos hopens]
        exact iff_of_true rfl (Or.inr ⟨0, Nat.succ_pos n, hopens⟩)
      · rw [if_neg hopens, ih]
        constructor
        · rintro (⟨_, herr⟩ | ⟨k, hk, hopen⟩)
          · cases herr
          · rw [Nat.add_right_comm] at hopen
            exact Or.inr ⟨k + 1, Nat.succ_lt_succ hk, hopen⟩
        · rintro (⟨hzero, _⟩ | ⟨k, hk, hopen⟩)
          · cases hzero
          · cases k with
            | zero => exact absurd hopen hopens
            | succ k => exact Or.inr ⟨k, Nat.lt_of_succ_lt_succ hk, by rwa [Nat.add_right_comm]⟩

/-- `Start` makes up its mind by its attempts, if there are any. -/
theorem attemptsFail_start (hpos : 0 < s.maxRetries) :
    attemptsFail opens s.maxRetries.toNat 0 false = false ↔
      ∃ i < s.maxRetries.toNat, opens i := by
  rw [attemptsFail_eq_false_iff, or_iff_right]
  · simp
  · rintro ⟨hzero, _⟩
    omega

/-- While the service runs its channels are open, and they are closed together. -/
structure LifecycleOk (s : FilterService) : Prop where
  noPanic : s.panicked = false
  channelsOpen : s.running → s.stopClosed = false ∧ s.eventClosed = false
  together : s.eventClosed = s.stopClosed

theorem newFilterService_lifecycleOk (cfg : Option Config) : LifecycleOk (newFilterService cfg) :=
  ⟨rfl, (fun hrunning => by cases hrunning), rfl⟩

theorem LifecycleOk.callOk {call : ServiceCall} (hafter : LifecycleOk t)
    (hopened : ∀ opens, call = .start opens → (s.call call).1 = true →
      ∃ i < s.maxRetries.toNat, opens i) : CallOk s call t ∧ LifecycleOk t :=
  ⟨⟨hafter.noPanic, hopened, hafter.channelsOpen⟩, hafter⟩

theorem call_start (hpanic : s.panicked = false) :
    s.call (.start opens) = s.start opens := by
  rw [FilterService.call, hpanic]
  rfl

theorem call_stop (hpanic : s.panicked = false) : s.call .stop = s.stop := by
  rw [FilterService.call, hpanic]
  rfl

/-- A safe `Start` keeps the invariant, and returns nil only with a port. -/
theorem LifecycleOk.start (h : LifecycleOk s) (hsafe : SafeCall s (.start opens)) :
    LifecycleOk (s.start opens).2 ∧
      ((s.start opens).1 = true → ∃ i < s.maxRetries.toNat, opens i) := by
  rw [FilterService.start]
  cases hrunning : s.running with
  | true => exact ⟨h, fun hnil => by cases hnil⟩
  | false =>
      obtain ⟨hpos, hstopped⟩ := hsafe hrunning
      cases hfail : attemptsFail opens s.maxRetries.toNat 0 false with
      | true =>
          exact ⟨⟨h.noPanic, (fun hrun => by cases hrun), h.together⟩, fun hnil => by cases hnil⟩
      | false =>
          obtain ⟨i, hi, hopen⟩ := (attemptsFail_start hpos).mp hfail
          have hchannel : s.stopClosed = false := by
            by_contra hclosed
            rw [hstopped (eq_true_of_ne_false hclosed) i hi] at hopen
            cases hopen
          refine ⟨⟨h.noPanic, fun _ => ⟨hchannel, ?_⟩, h.together⟩, fun _ => ⟨i, hi, hopen⟩⟩
          exact h.together.trans hchannel

theorem LifecycleOk.stop (h : LifecycleOk s) : LifecycleOk s.stop.2 := by
  rw [FilterService.stop]
  cases hrunning : s.running with
  | false => exact h
  | true =>
      obtain ⟨hstop, hevent⟩ := h.channelsOpen hrunning
      simp only [hstop, hevent]
      exact ⟨h.noPanic, (fun hrun => by cases hrun), rfl⟩

/-- **Step lemma.** -/
theorem LifecycleOk.step (h : LifecycleOk s) {call : ServiceCall} (hsafe : SafeCall s call)
    (hstep : serviceStep s call = some t) : CallOk s call t ∧ LifecycleOk t := by
  obtain rfl := Option.some.inj hstep
  cases call with
  | start opens =>
      rw [call_start h.noPanic]
      obtain ⟨hafter, hopened⟩ := h.start hsafe
      refine hafter.callOk ?_
      rintro _ ⟨⟩ hnil
      rw [call_start h.noPanic] at hnil
      exact hopened hnil
  | stop =>
      rw [call_stop h.noPanic]
      refine h.stop.callOk ?_
      rintro _ ⟨⟩

/-- A call that is not safe goes wrong. -/
theorem safeCall_of_callOk {call : ServiceCall} (hstep : serviceStep s call = some t)
    (hok : CallOk s call t) : SafeCall s call := by
  obtain rfl := Option.some.inj hstep
  cases call with
  | stop => trivial
  | start opens =>
      intro hrunning
      have hpanic : s.panicked = false := by
        by_contra hpanic
        have hafter := hok.noPanic
        rw [FilterService.call, if_pos (eq_true_of_ne_false hpanic)] at hafter
        exact hpanic hafter
      have hopened := hok.opened opens rfl
      have hchannels := hok.channelsOpen
      rw [call_start hpanic, FilterService.start, hrunning] at hopened hchannels
      have hpos : 0 < s.maxRetries := by
        by_contra hnot
        have hzero : s.maxRetries.toNat = 0 := Int.toNat_of_nonpos (Int.not_lt.mp hnot)
        obtain ⟨i, hi, _⟩ := hopened (by rw [hzero]; rfl)
        omega
      refine ⟨hpos, fun hclosed i hi => ?_⟩
      by_contra hopen
      have hsuccess : attemptsFail opens s.maxRetries.toNat 0 false = false :=
        (attemptsFail_start hpos).mpr ⟨i, hi, eq_true_of_ne_false hopen⟩
      rw [hsuccess] at hchannels
      cases hclosed.symm.trans (hchannels rfl).1

/-- **The life cycle, exactly.**  All calls of a caller go as expected if and only if each `Start`
of a stopped service has attempts to make, and each after a `Stop` fails. -/
theorem calls_ok_iff (cfg : Option Config) (calls : List ServiceCall) :
    Along serviceStep CallOk (newFilterService cfg) calls ↔
      Allowed serviceStep SafeCall (newFilterService cfg) calls := by
  constructor
  · refine allowed_of_along (fun _ => True) ?_ (fun _ _ _ _ _ => trivial) ?_ trivial
    · exact fun s call => ⟨_, rfl⟩
    · exact fun s call t _ hstep hok => safeCall_of_callOk hstep hok
  · refine along_of_invariant LifecycleOk ?_ (newFilterService_lifecycleOk cfg)
    exact fun s call t h hsafe hstep => h.step hsafe hstep

end

/-- Without attempts, `Start` returns nil without a port; after a `Stop`, it returns nil with
closed channels, and the next `Stop` panics. -/
theorem restart_panics :
    let opens : ℕ → Bool := fun _ => true
    ¬ (∀ cfg calls, Along serviceStep CallOk (newFilterService cfg) calls) ∧
    ((newFilterService (some ⟨0⟩)).call (.start fun _ => false)).1 = true ∧
    (steps serviceStep (newFilterService none) [.start opens, .stop, .start opens] =
      some ⟨3, true, true, true, false⟩) ∧
    (steps serviceStep (newFilterService none) [.start opens, .stop, .start opens, .stop] =
      some ⟨3, true, true, false, true⟩) := by
  intro opens
  refine ⟨fun hall => ?_, rfl, rfl, rfl⟩
  obtain ⟨hok, _⟩ := hall (some ⟨0⟩) [.start fun _ => false] _ rfl
  obtain ⟨i, hi, _⟩ := hok.opened _ rfl rfl
  exact Nat.not_lt_zero i hi

end Kawin.Svc
