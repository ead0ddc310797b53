import Kawin.Base.ByteList

/-!
# Readers that leave a trace

A `TracedReader` computes a value from a byte memory and says which bytes it read on the way.
The trace is complete: a reader carries the proof that a memory with the same bytes there
gives the same value and the same trace.  A reader whose trace lies below some bound
is therefore blind to what stands above it (`run_congr_of_within`).

Readers compose as a monad, and traces by concatenation (`within_bind`).
-/

namespace ByteMemory

/-- A block of bytes. -/
structure Span where
  start : ℕ
  length : ℕ
  deriving DecidableEq

/-- Every byte of the span lies in `[low, high)`. -/
def Span.Within (span : Span) (low high : ℕ) : Prop :=
  span.length = 0 ∨ (low ≤ span.start ∧ span.start + span.length ≤ high)

/-- The memories have the same bytes on the spans. -/
def AgreeOn (spans : List Span) (m m' : Memory) : Prop :=
  ∀ span ∈ spans, ∀ i, span.start ≤ i → i < span.start + span.length → m i = m' i

structure TracedReader (α : Type) where
  run : Memory → α × List Span
  /-- the trace names every byte that the result depends on -/
  complete : ∀ m m', AgreeOn (run m).2 m m' → run m' = run m

namespace TracedReader

variable {α β : Type}

def value (reader : TracedReader α) (m : Memory) : α := (reader.run m).1

def spans (reader : TracedReader α) (m : Memory) : List Span := (reader.run m).2

/-- The reader reads no byte outside `[low, high)`. -/
def Within (reader : TracedReader α) (m : Memory) (low high : ℕ) : Prop :=
  ∀ span ∈ reader.spans m, span.Within low high

/-- A value that takes no reading. -/
def ret (a : α) : TracedReader α := ⟨fun _ => (a, []), fun _ _ _ => rfl⟩

/-- One reader after the other. -/
def andThen (reader : TracedReader α) (next : α → TracedReader β) : TracedReader β where
  run m := (((next (reader.value m)).run m).1, reader.spans m ++ (next (reader.value m)).spans m)
  complete m m' hagree := by
    have hfirst : reader.run m' = reader.run m :=
      reader.complete m m' fun span hspan => hagree span (List.mem_append_left _ hspan)
    have hsecond : (next (reader.value m)).run m' = (next (reader.value m)).run m :=
      (next (reader.value m)).complete m m' fun span hspan =>
        hagree span (List.mem_append_right _ hspan)
    simp only [value, spans] at hsecond ⊢
    rw [hfirst, hsecond]

instance : Monad TracedReader where
  pure := ret
  bind := andThen

/-- The little-endian number of `w` bytes at `a`. -/
def nat (a w : ℕ) : TracedReader ℕ where
  run m := (readNat m a w, [⟨a, w⟩])
  complete m m' hagree := by
    rw [readNat_congr fun i hlow hhigh => hagree ⟨a, w⟩ (List.mem_singleton_self _) i hlow hhigh]

/-- The `n` 16-bit units at `a`. -/
def units (a n : ℕ) : TracedReader (List (BitVec 16)) where
  run m := (readUnits m a n, [⟨a, 2 * n⟩])
  complete m m' hagree := by
    rw [readUnits_congr fun i hlow hhigh =>
      hagree ⟨a, 2 * n⟩ (List.mem_singleton_self _) i hlow hhigh]

/-- The `n` bytes at `a`. -/
def bytes (a n : ℕ) : TracedReader (List Byte) where
  run m := ((List.range n).map fun i => m (a + i), [⟨a, n⟩])
  complete m m' hagree := by
    have hbytes : (List.range n).map (fun i => m' (a + i)) =
        (List.range n).map fun i => m (a + i) :=
      List.map_congr_left fun i hi => (hagree ⟨a, n⟩ (List.mem_singleton_self _) (a + i)
        (Nat.le_add_right a i) (Nat.add_lt_add_left (List.mem_range.mp hi) a)).symm
    rw [hbytes]

/-! ## Rules -/

variable {m m' : Memory} {low high : ℕ} {reader : TracedReader α} {next : α → TracedReader β}

-- These are no `rfl` lemmas: simp would leave the unfolding of the monad to the kernel.
@[simp] theorem value_pure (a : α) : (pure a : TracedReader α).value m = a := by
  unfold value
  rfl

@[simp] theorem value_bind : (reader >>= next).value m = (next (reader.value m)).value m := by
  unfold value
  rfl

@[simp] theorem value_nat (a w : ℕ) : (nat a w).value m = readNat m a w := by
  simp only [value, nat]

@[simp] theorem value_units (a n : ℕ) : (units a n).value m = readUnits m a n := by
  simp only [value, units]

@[simp] theorem within_pure (a : α) : (pure a : TracedReader α).Within m low high :=
  fun _ hspan => absurd hspan List.not_mem_nil

/-- **Composition.**  A reader stays within bounds when each of its parts does. -/
@[simp] theorem within_bind : (reader >>= next).Within m low high ↔
    reader.Within m low high ∧ (next (reader.value m)).Within m low high :=
  List.forall_mem_append

theorem within_singleton {start length : ℕ} (hspans : reader.spans m = [⟨start, length⟩]) :
    reader.Within m low high ↔ length = 0 ∨ (low ≤ start ∧ start + length ≤ high) := by
  rw [Within, hspans]
  exact List.forall_mem_singleton

@[simp] theorem within_nat (a w : ℕ) :
    (nat a w).Within m low high ↔ w = 0 ∨ (low ≤ a ∧ a + w ≤ high) :=
  within_singleton rfl

@[simp] theorem within_units (a n : ℕ) :
    (units a n).Within m low high ↔ 2 * n = 0 ∨ (low ≤ a ∧ a + 2 * n ≤ high) :=
  within_singleton rfl

@[simp] theorem within_bytes (a n : ℕ) :
    (bytes a n).Within m low high ↔ n = 0 ∨ (low ≤ a ∧ a + n ≤ high) :=
  within_singleton rfl

/-- **Locality.**  A reader that stays within bounds does not see what lies outside them. -/
theorem run_congr_of_within (hwithin : reader.Within m low high)
    (hagree : ∀ i, low ≤ i → i < high → m i = m' i) : reader.run m' = reader.run m := by
  refine reader.complete m m' fun span hspan i hlow hhigh => ?_
  rcases hwithin span hspan with hempty | ⟨hstart, hstop⟩
  · omega
  · exact hagree i (by omega) (by omega)

end TracedReader

end ByteMemory
