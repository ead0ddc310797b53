import Kawin.Base.Crew
import Kawin.Base.Ranking
import Kawin.Driver.ClaimTiling
import Kawin.Driver.RingTermination

/-!
# `ProduceSlot` is lock-free

The claim loop of `ProduceSlot` starts over whenever another call has moved the write head between
its read and its compare-exchange, and it comes round again after every wrap.  It has no counter,
but it cannot go on for ever: a call starts over only because another call claimed something, and
there is a limit to what `n` calls can claim.  Each of them claims one slot at most, and between two
wraps somebody claims a slot, since a wrap leaves the write head at the physical start, where every
slot fits.

The rank of a state (`RingMachine.left`) adds up what is left to each call if nobody interferes,
with a round more for each call whose copy of the write head is stale, and prices every claim that
can still be made (`claimsLeft`) at the rounds that it can cost all the others.  Every step of a
call lowers it (`left_producer`) and nothing raises it.
-/

namespace Kawin.Driver

open ByteMemory Transition Crew

/-! ## What is left to a call -/

/-- The call has its slot still to claim. -/
def Producer.unclaimed : Producer → Bool
  | .idle | .checkSize _ | .readWriteHead _ | .readReadHead _ _ | .exchange _ _ => true
  | .mark f | .queryCounter f | .store f _ | .nextSeq f | .storeSeq f _ | .copyPayload f
  | .commit f => f.kind = .pad
  | .countDropped | .countEnqueued | .returned => false

/-- A round more for a call whose copy of the write head is stale. -/
def staleRound (head cur : LONG) : ℕ := if cur = head then 0 else 3

/-- What is left to a call after it has committed the region. -/
def Fill.leftAfter (f : Fill) : ℕ := if f.kind = .pad then 3 else 1

/-- How many steps are left to a call if the write head stays where it is. -/
def Producer.left (head : LONG) : Producer → ℕ
  | .returned => 0
  | .idle | .checkSize _ => 4
  | .readWriteHead _ => 3
  | .readReadHead _ cur => 2 + staleRound head cur
  | .exchange _ cur => 1 + staleRound head cur
  | .countDropped | .countEnqueued => 1
  | .mark f => f.leftAfter + 12
  | .queryCounter f => f.leftAfter + 11
  | .store f rest => f.leftAfter + 5 + rest.length
  | .nextSeq f => f.leftAfter + 4
  | .storeSeq f _ => f.leftAfter + 3
  | .copyPayload f => f.leftAfter + 2
  | .commit f => f.leftAfter + 1

/-- A wrap is possible only near the physical end. -/
def nearEnd (head : LONG) : Bool := (spaceToEnd head).toNat < 65536

/-- How many claims the first `n` calls can still make, wraps included. -/
def RingMachine.claimsLeft (n : ℕ) (s : RingMachine) : ℕ :=
  2 * held (Finset.range n) (fun pc : Producer => pc.unclaimed.toNat) s.producers +
    (nearEnd s.disp.writeHead).toNat

/-- The rank: how many steps are left to the first `n` calls. -/
def RingMachine.left (n : ℕ) (s : RingMachine) : ℕ :=
  held (Finset.range n) (Producer.left s.disp.writeHead) s.producers +
    s.claimsLeft n * (3 * n + 15)

/-! ## Claims -/

section

variable {n : ℕ} {s s' : RingMachine} {i : ℕ} {pc : Producer} {event : Accepted}

theorem stride_le (event : Accepted) : (stride event.size).toNat ≤ 65536 := by
  have hsize : event.size.toNat ≤ 65508 := event.fits
  rw [stride_toNat (by omega)]
  omega

/-- Every slot fits between the physical start and the end. -/
theorem nearEnd_of_wraps {cur : LONG} (hwraps : wraps cur (stride event.size) = true) :
    nearEnd cur = true := by
  have hstride := stride_le event
  have hlt : (spaceToEnd cur).toNat < (stride event.size).toNat := of_decide_eq_true hwraps
  exact decide_eq_true (by omega)

/-- A wrap leaves the write head at the physical start. -/
theorem nearEnd_wrapped (cur : LONG) : nearEnd (cur + spaceToEnd cur) = false := by
  have hstart : slotAt (cur + spaceToEnd cur) = 0 := by
    have hspace := spaceToEnd_toNat cur
    have hslot := slotAt_toNat cur
    rw [asyncRingBytes_toNat] at hslot
    rw [slotAt_toNat, asyncRingBytes_toNat, BitVec.toNat_add, hspace]
    omega
  refine decide_eq_false ?_
  rw [spaceToEnd_toNat, hstart]
  decide

/-- A stale copy of the write head costs a round, and no more. -/
theorem Producer.left_le_add (head head' : LONG) (pc : Producer) :
    pc.left head' ≤ pc.left head + 3 := by
  have hstale : ∀ cur, staleRound head' cur ≤ staleRound head cur + 3 := by
    intro cur
    unfold staleRound
    split <;> split <;> omega
  cases pc with
  | readReadHead event cur | exchange event cur =>
      have hcur := hstale cur
      simp only [Producer.left]
      omega
  | _ => exact Nat.le_add_right _ 3

/-- A call whose rank does not depend on others goes on, and leaves the write head alone. -/
theorem left_goes (hi : i < n) (hcrew : s'.producers = Function.update s.producers i pc)
    (hhead : s'.disp.writeHead = s.disp.writeHead)
    (hleft : pc.left s.disp.writeHead < (s.producers i).left s.disp.writeHead)
    (hunclaimed : pc.unclaimed = true → (s.producers i).unclaimed = true) :
    s'.left n < s.left n := by
  have hmem : i ∈ Finset.range n := Finset.mem_range.mpr hi
  have hheld := @held_update _ _ _ _ _ (Finset.range n) i (Producer.left s.disp.writeHead)
    s.producers pc hmem
  have hclaims := @held_update _ _ _ _ _ (Finset.range n) i
    (fun pc : Producer => pc.unclaimed.toNat) s.producers pc hmem
  have hfewer : pc.unclaimed.toNat ≤ (s.producers i).unclaimed.toNat := Bool.toNat_le_toNat
    hunclaimed
  have hprice : s'.claimsLeft n * (3 * n + 15) ≤ s.claimsLeft n * (3 * n + 15) := by
    apply Nat.mul_le_mul_right
    unfold RingMachine.claimsLeft
    rw [hcrew, hhead]
    omega
  unfold RingMachine.left
  rw [hcrew, hhead]
  omega

/-- A call claims a region: one claim less is left, and that pays for the rounds that it costs. -/
theorem left_claims (hi : i < n) (hcrew : s'.producers = Function.update s.producers i pc)
    (hleft : pc.left s'.disp.writeHead ≤ 15)
    (hbefore : 1 ≤ (s.producers i).left s'.disp.writeHead)
    (hclaims : s'.claimsLeft n < s.claimsLeft n) : s'.left n < s.left n := by
  have hmem : i ∈ Finset.range n := Finset.mem_range.mpr hi
  have hheld := @held_update _ _ _ _ _ (Finset.range n) i (Producer.left s'.disp.writeHead)
    s.producers pc hmem
  have hothers : held (Finset.range n) (Producer.left s'.disp.writeHead) s.producers ≤
      held (Finset.range n) (Producer.left s.disp.writeHead) s.producers + n * 3 := by
    have hgrows := @held_le_held_add _ _ (Finset.range n) (Producer.left s.disp.writeHead)
      s.producers (Producer.left s'.disp.writeHead) 3 (Producer.left_le_add _ _)
    rwa [Finset.card_range] at hgrows
  have hprice : s'.claimsLeft n * (3 * n + 15) + (3 * n + 15) ≤ s.claimsLeft n * (3 * n + 15) :=
    calc s'.claimsLeft n * (3 * n + 15) + (3 * n + 15)
        = (s'.claimsLeft n + 1) * (3 * n + 15) := (Nat.succ_mul _ _).symm
      _ ≤ s.claimsLeft n * (3 * n + 15) := Nat.mul_le_mul_right _ hclaims
  unfold RingMachine.left
  rw [hcrew]
  omega

/-- A slot is claimed by a call that claims no other. -/
theorem claimsLeft_slot (hi : i < n) (hunclaimed : (s.producers i).unclaimed = true)
    (hpc : pc.unclaimed = false) {len payload : UINT32} :
    (s.claim i .slot len payload pc).claimsLeft n < s.claimsLeft n := by
  have hclaims := @held_update _ _ _ _ _ (Finset.range n) i
    (fun pc : Producer => pc.unclaimed.toNat) s.producers pc (Finset.mem_range.mpr hi)
  have hnear : (nearEnd (s.claim i .slot len payload pc).disp.writeHead).toNat ≤ 1 :=
    Bool.toNat_le _
  rw [hunclaimed, hpc, Bool.toNat_true, Bool.toNat_false] at hclaims
  have hcrew : (s.claim i .slot len payload pc).producers = Function.update s.producers i pc := rfl
  unfold RingMachine.claimsLeft
  rw [hcrew]
  omega

/-- After a wrap there is none before the next slot. -/
theorem claimsLeft_wrap (hi : i < n) (hunclaimed : (s.producers i).unclaimed = true)
    {kind : RegionKind} {payload : UINT32}
    (hwraps : wraps s.disp.writeHead (stride event.size) = true) :
    (s.claim i kind (spaceToEnd s.disp.writeHead) payload pc).claimsLeft n < s.claimsLeft n := by
  have hclaims := @held_update _ _ _ _ _ (Finset.range n) i
    (fun pc : Producer => pc.unclaimed.toNat) s.producers pc (Finset.mem_range.mpr hi)
  have hfewer : pc.unclaimed.toNat ≤ 1 := Bool.toNat_le _
  have hcrew : (s.claim i kind (spaceToEnd s.disp.writeHead) payload pc).producers =
      Function.update s.producers i pc := rfl
  have hhead : (s.claim i kind (spaceToEnd s.disp.writeHead) payload pc).disp.writeHead =
      s.disp.writeHead + spaceToEnd s.disp.writeHead := rfl
  rw [hunclaimed, Bool.toNat_true] at hclaims
  unfold RingMachine.claimsLeft
  rw [hcrew, hhead, nearEnd_wrapped, nearEnd_of_wraps hwraps, Bool.toNat_true, Bool.toNat_false]
  omega

/-! ## Steps -/

theorem left_exchange (hi : i < n) {cur : LONG} (hpc : s.producers i = .exchange event cur) :
    (exchangeStep s i event cur).left n < s.left n := by
  have hbefore : ∀ head, 1 ≤ (s.producers i).left head := by
    intro head
    rw [hpc]
    exact Nat.le_add_right _ _
  have hunclaimed : (s.producers i).unclaimed = true := by
    rw [hpc]
    rfl
  unfold exchangeStep
  dsimp only
  by_cases hmoved : s.disp.writeHead ≠ cur
  · rw [if_pos hmoved]
    refine left_goes hi rfl rfl ?_ fun _ => hunclaimed
    rw [hpc, Producer.left, Producer.left, staleRound, if_neg (Ne.symm hmoved)]
    decide
  · rw [if_neg hmoved]
    obtain rfl : s.disp.writeHead = cur := not_not.mp hmoved
    by_cases hwraps : wraps s.disp.writeHead (stride event.size) = true
    · rw [if_pos hwraps]
      refine left_claims hi rfl ?_ (hbefore _) (claimsLeft_wrap hi hunclaimed hwraps)
      split
      · exact le_rfl
      · exact Nat.le_add_right 3 12
    · rw [if_neg hwraps]
      exact left_claims hi rfl (Nat.le_add_right 13 2) (hbefore _)
        (claimsLeft_slot hi hunclaimed rfl)

/-- **Step lemma.**  Every step of a call leaves less to do. -/
theorem left_producer (hi : i < n) (hpc : s.producers i = pc)
    (hstep : producerStep s i pc = some s') : s'.left n < s.left n := by
  have hgoes : ∀ {pc'}, s'.producers = Function.update s.producers i pc' →
      s'.disp.writeHead = s.disp.writeHead →
      pc'.left s.disp.writeHead < pc.left s.disp.writeHead →
      (pc'.unclaimed = true → pc.unclaimed = true) → s'.left n < s.left n := by
    rw [← hpc]
    exact fun hcrew hhead hleft hunclaimed => left_goes hi hcrew hhead hleft hunclaimed
  cases pc with
  | idle | returned => cases hstep
  | exchange event cur =>
      cases hstep
      exact left_exchange hi hpc
  | checkSize payload =>
      cases hstep
      refine hgoes rfl rfl ?_ fun _ => rfl
      split <;> simp [Producer.left]
  | countDropped | countEnqueued =>
      cases hstep
      exact hgoes rfl rfl Nat.zero_lt_one fun hclaims => hclaims
  | readWriteHead event =>
      cases hstep
      exact hgoes rfl rfl (by simp [Producer.left, staleRound]) fun _ => rfl
  | readReadHead event cur =>
      cases hstep
      refine hgoes rfl rfl ?_ fun _ => rfl
      split
      · exact Nat.lt_of_lt_of_le Nat.one_lt_two (Nat.le_add_right 2 _)
      · exact Nat.add_lt_add_right Nat.one_lt_two _
  | mark f =>
      cases hstep
      refine hgoes rfl rfl ?_ ?_
      · split
        · exact Nat.lt_succ_self (f.leftAfter + 11)
        · exact Nat.lt_succ_self (f.leftAfter + 11)
      · split
        · exact id
        · exact id
  | queryCounter f =>
      cases hstep
      exact hgoes rfl rfl (Nat.lt_succ_self (f.leftAfter + 10)) id
  | store f rest =>
      cases rest with
      | nil =>
          cases hstep
          refine hgoes rfl rfl ?_ ?_
          · split
            · exact Nat.add_lt_add_left (by decide : 1 < 5) _
            · exact Nat.add_lt_add_left (by decide : 4 < 5) _
          · split
            · exact id
            · exact id
      | cons st rest =>
          cases hstep
          exact hgoes rfl rfl (Nat.lt_succ_self _) id
  | nextSeq f | storeSeq f seq | copyPayload f =>
      cases hstep
      exact hgoes rfl rfl (Nat.lt_succ_self _) id
  | commit f =>
      cases hstep
      by_cases hpad : f.kind = .pad
      · refine hgoes rfl rfl ?_ fun _ => decide_eq_true hpad
        rw [if_pos hpad, Producer.left, Producer.left, Fill.leftAfter, if_pos hpad]
        decide
      · refine hgoes rfl rfl ?_ ?_
        · rw [if_neg hpad, Producer.left, Producer.left, Fill.leftAfter, if_neg hpad]
          decide
        · rw [if_neg hpad]
          exact fun hclaims => absurd hclaims Bool.false_ne_true

/-- What is no step of a call leaves the rank as it is. -/
theorem left_others {action : RingAction} (haction : ∀ i, action ≠ .producer i)
    (hstep : ringStep s action = some s') : s'.left n = s.left n := by
  have hsame : s'.producers = s.producers → s'.disp.writeHead = s.disp.writeHead →
      s'.left n = s.left n := by
    intro hcrew hhead
    unfold RingMachine.left RingMachine.claimsLeft
    rw [hcrew, hhead]
  cases action with
  | tick =>
      cases hstep
      exact hsame rfl rfl
  | produce i event =>
      obtain ⟨hidle, rfl⟩ := ringStep_produce hstep
      have hleft : held (Finset.range n) (Producer.left s.disp.writeHead)
          (Function.update s.producers i (.checkSize event)) =
          held (Finset.range n) (Producer.left s.disp.writeHead) s.producers :=
        held_update_of_eq (by rw [hidle]; rfl)
      have hclaims : held (Finset.range n) (fun pc : Producer => pc.unclaimed.toNat)
          (Function.update s.producers i (.checkSize event)) =
          held (Finset.range n) (fun pc : Producer => pc.unclaimed.toNat) s.producers :=
        held_update_of_eq (by rw [hidle]; rfl)
      unfold RingMachine.left RingMachine.claimsLeft RingMachine.goto
      dsimp only
      rw [hleft, hclaims]
  | producer i => exact absurd rfl (haction i)
  | consume =>
      obtain ⟨_, rfl⟩ := ringStep_consume hstep
      exact hsame rfl rfl
  | consumer =>
      have hclaims := consumerStep_sameClaims hstep
      exact hsame hclaims.producers hclaims.writeHead

end

/-! ## Runs -/

/-- The next step of a `ProduceSlot` call. -/
def RingAction.ofCall : RingAction → Bool
  | .producer _ => true
  | _ => false

/-- Only the first `n` calls begin. -/
def RingAction.Within (n : ℕ) : RingAction → Prop
  | .produce i _ => i < n
  | _ => True

instance RingAction.decidableWithin (n : ℕ) : ∀ action : RingAction, Decidable (action.Within n)
  | .produce i _ => Nat.decLt i n
  | .tick | .producer _ | .consume | .consumer => .isTrue trivial

/-- Only the first `n` calls have begun. -/
def RingMachine.Within (n : ℕ) (s : RingMachine) : Prop := ∀ i, n ≤ i → s.producers i = .idle

section

variable {n : ℕ} {s s' : RingMachine} {action : RingAction}

theorem RingMachine.Within.step (h : s.Within n) (haction : action.Within n)
    (hstep : ringStep s action = some s') : s'.Within n := by
  intro i hi
  cases action with
  | tick =>
      cases hstep
      exact h i hi
  | produce j event =>
      obtain ⟨_, rfl⟩ := ringStep_produce hstep
      have hj : j < n := haction
      exact (RingMachine.goto_of_ne (by omega)).trans (h i hi)
  | producer j =>
      by_cases hji : i = j
      · rw [ringStep, ← hji, h i hi] at hstep
        cases hstep
      · exact (producers_of_ne hstep hji).trans (h i hi)
  | consume =>
      obtain ⟨_, rfl⟩ := ringStep_consume hstep
      exact h i hi
  | consumer =>
      rw [(consumerStep_sameClaims hstep).producers]
      exact h i hi

/-- **Step lemma.** -/
theorem left_step (h : s.Within n) (hstep : ringStep s action = some s') :
    s'.left n + action.ofCall.toNat ≤ s.left n := by
  by_cases hcall : ∃ i, action = .producer i
  · obtain ⟨i, rfl⟩ := hcall
    have hi : i < n := by
      by_contra hi
      rw [ringStep, h i (not_lt.mp hi)] at hstep
      cases hstep
    exact left_producer hi rfl hstep
  · have hothers : ∀ i, action ≠ .producer i := fun i heq => hcall ⟨i, heq⟩
    have hnone : action.ofCall = false := by
      cases action with
      | producer i => exact absurd rfl (hothers i)
      | _ => rfl
    rw [hnone, left_others hothers hstep, Bool.toNat_false, Nat.add_zero]

theorem left_init (outside : Memory) (freq : UINT64) :
    (RingMachine.init outside freq).left n = 6 * n ^ 2 + 34 * n := by
  have hheld : ∀ share : Producer → ℕ, held (Finset.range n) share
      (RingMachine.init outside freq).producers = n * share .idle := by
    intro share
    have hsum : held (Finset.range n) share (RingMachine.init outside freq).producers =
        (Finset.range n).card * share .idle := held_const fun _ _ => rfl
    rw [hsum, Finset.card_range]
  have hhead : (RingMachine.init outside freq).disp.writeHead = 0 := rfl
  have hstart : nearEnd 0 = false := by decide
  unfold RingMachine.left RingMachine.claimsLeft
  rw [hheld, hheld, hhead, hstart]
  simp only [Producer.left, Producer.unclaimed, Bool.toNat_true, Bool.toNat_false]
  ring

/-- A call that has begun and not returned is never stuck. -/
theorem producerStep_enabled {i : ℕ} {pc : Producer} (hbegun : pc ≠ .idle)
    (hlive : pc ≠ .returned) : ∃ t, producerStep s i pc = some t := by
  cases pc with
  | idle => exact absurd rfl hbegun
  | returned => exact absurd rfl hlive
  | store f rest =>
      cases rest with
      | nil => exact ⟨_, rfl⟩
      | cons st rest => exact ⟨_, rfl⟩
  | _ => exact ⟨_, rfl⟩

end

/-- **`ProduceSlot` is lock-free.**  In every run in which `n` calls begin, however they, the
consumer and the clock fall between one another, the calls take `6 n² + 34 n` steps at most; and a
call that has not returned can always take a step. -/
theorem calls_lockFree (outside : Memory) (freq : UINT64) {n : ℕ} {actions : List RingAction}
    {s : RingMachine} (hcalls : ∀ action ∈ actions, action.Within n)
    (hsteps : steps ringStep (RingMachine.init outside freq) actions = some s) :
    actions.countP RingAction.ofCall ≤ 6 * n ^ 2 + 34 * n ∧
      ∀ i, s.producers i ≠ .idle → s.producers i ≠ .returned →
        ∃ t, ringStep s (.producer i) = some t := by
  constructor
  · have hallowed : Allowed ringStep (fun _ action => action.Within n)
        (RingMachine.init outside freq) actions :=
      allowed_of_forall fun action hmem _ => hcalls action hmem
    have hwithin : (RingMachine.init outside freq).Within n := fun _ _ => rfl
    have hwork := @work_le_rank _ _ ringStep (fun _ action => action.Within n) RingAction.ofCall
      (RingMachine.left n) (RingMachine.Within n) (fun s action t h haction hstep =>
        ⟨h.step haction hstep, left_step h hstep⟩) actions _ _ hwithin hallowed hsteps
    rw [left_init] at hwork
    omega
  · intro i hbegun hlive
    exact producerStep_enabled hbegun hlive

/-- Two calls read the same write head; the one that comes second starts over. -/
private def startsOver : List RingAction :=
  [.produce 0 (hundredBytes 1), .produce 1 (twoHundredBytes 2), .producer 0, .producer 1,
    .producer 0, .producer 1, .producer 0, .producer 1, .producer 0, .producer 1, .consume,
    .consumer, .producer 1, .tick, .producer 1]

theorem calls_lockFree_startsOver : startsOver.countP RingAction.ofCall = 10 ∧
    startsOver.countP RingAction.ofCall ≤ 6 * 2 ^ 2 + 34 * 2 := by
  have hruns : (steps ringStep (RingMachine.init (fun _ => 0) 10000000) startsOver).isSome := by
    decide +kernel
  obtain ⟨s, hs⟩ := Option.isSome_iff_exists.mp hruns
  have hfree := calls_lockFree (fun _ => 0) 10000000 (n := 2) (by decide) hs
  exact ⟨rfl, hfree.1⟩

end Kawin.Driver
