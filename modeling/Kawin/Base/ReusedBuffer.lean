import Mathlib.Data.Nat.Notation
import Mathlib.Data.Vector.Defs

/-!
# Buffers that are used again

Every message is stored at the start of one buffer, which is never cleared: behind the message
stands what earlier messages have left.  Whoever is handed the buffer can see that.  `ReadsOnly`
says of a message that it makes no difference: what is read is the same whatever stands behind the
message.

A run over such messages reads what each of them would give in a buffer of its own
(`readAll_eq_map`).  Of any other message that cannot be said, since earlier ones can leave
anything behind (`readsOnly_iff_histories`).
-/

namespace ReusedBuffer

variable {α β : Type*} {size : ℕ}

abbrev Buffer (α : Type*) (size : ℕ) := List.Vector α size

/-- A message that fits the buffer. -/
abbrev Message (α : Type*) (size : ℕ) := {text : List α // text.length ≤ size}

def store (buffer : Buffer α size) (message : Message α size) : Buffer α size :=
  ⟨message.1 ++ buffer.toList.drop message.1.length, by
    rw [List.length_append, List.length_drop, buffer.toList_length]
    exact Nat.add_sub_cancel' message.2⟩

/-- The message that fills the buffer with this content. -/
def fill (buffer : Buffer α size) : Message α size :=
  ⟨buffer.toList, Nat.le_of_eq buffer.toList_length⟩

/-- The buffer after the messages. -/
def contents (buffer : Buffer α size) (messages : List (Message α size)) : Buffer α size :=
  messages.foldl store buffer

section

variable (read : Buffer α size → β)

/-- What is read of each message, when it has come. -/
def readAll : Buffer α size → List (Message α size) → List β
  | _, [] => []
  | buffer, message :: messages =>
      read (store buffer message) :: readAll (store buffer message) messages

/-- What stands behind the message makes no difference. -/
def ReadsOnly (message : Message α size) : Prop :=
  ∀ stale stale', read (store stale message) = read (store stale' message)

end

variable {read : Buffer α size → β} {message : Message α size} {messages : List (Message α size)}

theorem toList_store (buffer : Buffer α size) (message : Message α size) :
    (store buffer message).toList = message.1 ++ buffer.toList.drop message.1.length := rfl

/-- Nothing is left of what stood in the buffer. -/
theorem store_fill (buffer stale : Buffer α size) : store buffer (fill stale) = stale := by
  have hdropped : buffer.toList.drop stale.toList.length = [] :=
    List.drop_eq_nil_of_le (Nat.le_of_eq (buffer.toList_length.trans stale.toList_length.symm))
  apply Subtype.ext
  calc stale.toList ++ buffer.toList.drop stale.toList.length
      = stale.toList := by rw [hdropped, List.append_nil]

/-- **Runs.**  Each message is read as if it stood in a fresh buffer. -/
theorem readAll_eq_map (fresh stale : Buffer α size)
    (h : ∀ message ∈ messages, ReadsOnly read message) :
    readAll read stale messages = messages.map fun message => read (store fresh message) := by
  induction messages generalizing stale with
  | nil => rfl
  | cons message messages ih =>
      have hhead : read (store stale message) = read (store fresh message) :=
        h message List.mem_cons_self stale fresh
      rw [readAll, List.map_cons, hhead,
        ih (store stale message) fun later hlater => h later (List.mem_cons_of_mem _ hlater)]

/-- **Histories.**  It is enough to look at what earlier messages can leave behind: everything. -/
theorem readsOnly_iff_histories {Sent : Message α size → Prop} (fresh : Buffer α size)
    (hsent : ∀ message : Message α size, message.1.length = size → Sent message) :
    ReadsOnly read message ↔ ∀ before before' : List (Message α size),
      (∀ earlier ∈ before, Sent earlier) → (∀ earlier ∈ before', Sent earlier) →
        read (store (contents fresh before) message) =
          read (store (contents fresh before') message) := by
  constructor
  · intro h before before' _ _
    exact h _ _
  · intro h stale stale'
    have hfull : ∀ left : Buffer α size, ∀ earlier ∈ [fill left], Sent earlier := by
      intro left earlier hearlier
      rw [List.mem_singleton.mp hearlier]
      exact hsent (fill left) left.toList_length
    have hleft := h [fill stale] [fill stale'] (hfull stale) (hfull stale')
    simp only [contents, List.foldl_cons, List.foldl_nil, store_fill] at hleft
    exact hleft

end ReusedBuffer
