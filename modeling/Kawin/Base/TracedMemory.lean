import Kawin.Base.TracedReader

/-!
# Memories that know what was written

A `TracedMemory` is a byte memory with the list of the blocks written to it so far.  Each block
carries a label, which says what it was written for, so that "every byte lies where it belongs"
can be said of labels with different places (`Inside`).

`inside_store` is all there is to know about one more write.  What a write leaves alone, and
what is found where something was copied to, are the frame and the copy rules: for units anywhere in
the memory, and for the bytes at its beginning.
-/

namespace ByteMemory

/-! ## Units in a memory that is written to -/

variable {m source : Memory} {units : List (BitVec 16)} {a b k n : ℕ}

/-- **Frame rule.**  Units do not see a copy to a disjoint block. -/
theorem readUnits_copy_of_disjoint (h : Disjoint a (2 * k) b n) :
    readUnits (copy m b n source) a k = readUnits m a k := by
  apply readUnits_congr
  intro i hlow hhigh
  apply copy_of_not_mem
  unfold Disjoint at h
  omega

/-- A memory that holds a string holds its prefixes. -/
theorem carries_memoryOf_take (units : List (BitVec 16)) (k : ℕ) :
    Carries (memoryOf (unitsBytes units)) 0 (unitsBytes (units.take k)) := by
  have hbytes : unitsBytes units = unitsBytes (units.take k) ++ unitsBytes (units.drop k) := by
    unfold unitsBytes
    rw [← List.flatMap_append, List.take_append_drop]
  have hwhole := carries_memoryOf (unitsBytes units)
  rw [hbytes] at hwhole ⊢
  exact (carries_append.mp hwhole).1

/-- Units that stand in `source` stand in a copy of it, as far as it goes. -/
theorem readUnits_copy_memoryOf (hcopied : 2 * k ≤ n) (hk : k ≤ units.length) :
    readUnits (copy m a n (memoryOf (unitsBytes units))) a k = units.take k := by
  have hlength : (units.take k).length = k := List.length_take_of_le hk
  have hcopy :
      Carries (copy m a n (memoryOf (unitsBytes units))) a (unitsBytes (units.take k)) := by
    intro i hi
    have hlt : i < n := by
      rw [length_unitsBytes, hlength] at hi
      omega
    rw [copy_of_mem _ _ (by omega) (by omega), Nat.add_sub_cancel_left,
      ← carries_memoryOf_take units k i hi, Nat.zero_add]
  calc readUnits (copy m a n (memoryOf (unitsBytes units))) a k
      = readUnits (copy m a n (memoryOf (unitsBytes units))) a (units.take k).length := by
        rw [hlength]
    _ = units.take k := readUnits_of_carries hcopy

/-! ## The first bytes of a memory -/

/-- The first `n` bytes of a memory. -/
def firstBytes (m : Memory) (n : ℕ) : List Byte := (List.range n).map m

@[simp] theorem length_firstBytes (m : Memory) (n : ℕ) : (firstBytes m n).length = n := by
  rw [firstBytes, List.length_map, List.length_range]

/-- A copy behind the first bytes leaves them alone. -/
theorem firstBytes_copy_of_le (h : k ≤ a) : firstBytes (copy m a n source) k = firstBytes m k := by
  apply List.map_congr_left
  intro i hi
  rw [List.mem_range] at hi
  exact copy_of_not_mem m source (Or.inl (hi.trans_le h))

/-- A copy that begins where the first bytes end is appended to them. -/
theorem firstBytes_copy_append :
    firstBytes (copy m a n source) (a + n) = firstBytes m a ++ firstBytes source n := by
  unfold firstBytes
  rw [List.range_add, List.map_append, List.map_map]
  congr 1
  · exact firstBytes_copy_of_le le_rfl
  · apply List.map_congr_left
    intro i hi
    rw [List.mem_range] at hi
    simp only [Function.comp]
    rw [copy_of_mem _ _ (by omega) (by omega), Nat.add_sub_cancel_left]

theorem firstBytes_of_carries {bytes : List Byte} (h : Carries m 0 bytes) :
    firstBytes m bytes.length = bytes := by
  apply List.ext_getElem (length_firstBytes _ _)
  intro i hi _
  have hbyte := h i (by rwa [length_firstBytes] at hi)
  rw [Nat.zero_add] at hbyte
  simp only [firstBytes, List.getElem_map, List.getElem_range, hbyte]

/-- A copy of a memory carries its first bytes. -/
theorem carries_copy_firstBytes : Carries (copy m a n source) a (firstBytes source n) := by
  intro i hi
  rw [length_firstBytes] at hi
  rw [copy_of_mem _ _ (by omega) (by omega), Nat.add_sub_cancel_left]
  simp [firstBytes]

/-- Bytes stay where they are while other blocks are written. -/
theorem Carries.copy_of_disjoint {bytes : List Byte} {b : ℕ} (h : Carries m a bytes)
    (hdisj : Disjoint a bytes.length b n) : Carries (copy m b n source) a bytes := by
  intro i hi
  rw [← h i hi]
  apply copy_of_not_mem
  unfold Disjoint at hdisj
  omega

/-- Bytes that stand in a memory can be copied from there. -/
theorem Carries.copied {buffer : Memory} {bytes : List Byte} (h : Carries m a bytes)
    (hn : n = bytes.length) : Carries (copy buffer 0 n fun i => m (a + i)) 0 bytes := by
  intro i hi
  rw [copy_of_mem _ _ (by omega) (by omega), Nat.zero_add, Nat.sub_zero]
  exact h i hi

/-! ## Traces of writes -/

structure TracedMemory (ι : Type) where
  memory : Memory
  /-- the blocks written so far, each with what it was written for -/
  writes : List (ι × Span)

namespace TracedMemory

variable {ι : Type} {t : TracedMemory ι} {region : ι → Span} {label : ι}

/-- A memory that nothing has been written to. -/
def untouched (m : Memory) : TracedMemory ι := ⟨m, []⟩

/-- `n` bytes of `source` copied to `a`. -/
def store (t : TracedMemory ι) (label : ι) (a n : ℕ) (source : Memory) : TracedMemory ι :=
  ⟨copy t.memory a n source, t.writes ++ [(label, ⟨a, n⟩)]⟩

/-- Every byte that was written lies in the region of what it was written for. -/
def Inside (t : TracedMemory ι) (region : ι → Span) : Prop :=
  ∀ write ∈ t.writes, write.2.Within (region write.1).start
    ((region write.1).start + (region write.1).length)

instance : Decidable (t.Inside region) :=
  inferInstanceAs (Decidable (∀ write ∈ t.writes, write.2.length = 0 ∨
    ((region write.1).start ≤ write.2.start ∧ write.2.start + write.2.length ≤
      (region write.1).start + (region write.1).length)))

@[simp] theorem memory_store : (t.store label a n source).memory = copy t.memory a n source := rfl

@[simp] theorem inside_untouched : (untouched m).Inside region :=
  fun _ hwrite => absurd hwrite List.not_mem_nil

/-- **One more write.** -/
@[simp] theorem inside_store : (t.store label a n source).Inside region ↔
    t.Inside region ∧ (n = 0 ∨ ((region label).start ≤ a ∧
      a + n ≤ (region label).start + (region label).length)) := by
  unfold Inside store
  rw [List.forall_mem_append, List.forall_mem_singleton]
  rfl

end TracedMemory

end ByteMemory
