import Mathlib.Data.List.Nodup
import Spinscale.Qutex

/-!
# The acquisition history tracker

`QutexAcquisitionHistoryTracker` is the process-wide registry of lockvokers that timed out on a
failed acquisition. Its map (`AcquisitionHistoryMap`, an `unordered_map` keyed by continuation)
is modelled as its entries in iteration order; each operation runs under the tracker's own
`SpinLock` and is therefore one atomic step. Iteration order is unspecified in C++, so every
result proved about these functions holds for any order of the entries.
-/

namespace Spinscale

/-- `AcquisitionHistoryEntry`: the qutex the lockvoker wants (its `firstFailedQutex`) and the
qutexes its continuation history holds, behind a `unique_ptr` that every reader null-checks. -/
structure AcquisitionHistoryEntry where
  wantedLock : QutexId
  heldLocks : Option (List QutexId)
  deriving DecidableEq, Repr

/-- `AcquisitionHistoryMap`, as its entries in iteration order. -/
abbrev AcquisitionHistory := List (ContinuationId × AcquisitionHistoryEntry)

namespace AcquisitionHistory

/-- Is `continuation` a key of the map (`find(continuation) != end()`)? -/
def contains (history : AcquisitionHistory) (continuation : ContinuationId) : Bool :=
  history.any (·.1 == continuation)

/-- `addIfNotExists(continuation, wantedLock, heldLocks)`: an existing entry is kept unchanged. -/
def addIfNotExists (history : AcquisitionHistory) (continuation : ContinuationId)
    (wantedLock : QutexId) (heldLocks : List QutexId) : AcquisitionHistory :=
  if history.contains continuation then history
  else history ++ [(continuation, ⟨wantedLock, some heldLocks⟩)]

/-- `remove(continuation)`: erase the entry, reporting whether there was one. -/
def remove (history : AcquisitionHistory) (continuation : ContinuationId) :
    AcquisitionHistory × Bool :=
  if history.contains continuation then (history.eraseP (·.1 == continuation), true)
  else (history, false)

/-- `heuristicallyTraceContinuationHistoryForGridlockOn(firstFailedQutex, currentContinuation)`:
does another entry's held list contain the qutex the current continuation failed on? -/
def heuristicallyTraceContinuationHistoryForGridlockOn (history : AcquisitionHistory)
    (firstFailedQutex : QutexId) (currentContinuation : ContinuationId) : Bool :=
  history.any fun entry =>
    entry.1 != currentContinuation &&
      match entry.2.heldLocks with
      | none => false
      | some heldLocks => heldLocks.contains firstFailedQutex

@[simp] theorem contains_nil (continuation : ContinuationId) :
    contains [] continuation = false := rfl

/-- After `addIfNotExists` the continuation is a key, and every other key is kept. -/
theorem contains_addIfNotExists (history : AcquisitionHistory) (continuation other : ContinuationId)
    (wantedLock : QutexId) (heldLocks : List QutexId) :
    (history.addIfNotExists continuation wantedLock heldLocks).contains other =
      (other == continuation || history.contains other) := by
  unfold addIfNotExists
  split
  · rename_i hHas
    by_cases hEq : other = continuation
    · subst hEq; simp [hHas]
    · simp [hEq]
  · simp only [contains, List.any_append, List.any_cons, List.any_nil, Bool.or_false]
    rw [Bool.or_comm, Bool.beq_comm]

/-- The keys of the map in iteration order. -/
def keys (history : AcquisitionHistory) : List ContinuationId :=
  history.map (·.1)

theorem contains_iff_mem_keys (history : AcquisitionHistory) (continuation : ContinuationId) :
    history.contains continuation = true ↔ continuation ∈ history.keys := by
  simp only [contains, keys, List.any_eq_true, beq_iff_eq, List.mem_map]

theorem keys_remove (history : AcquisitionHistory) (continuation : ContinuationId) :
    (history.remove continuation).1.keys = history.keys.erase continuation := by
  unfold remove
  split
  · rw [keys, keys, List.erase_eq_eraseP', List.eraseP_map]
    rfl
  · rename_i absent
    rw [List.erase_of_not_mem ((contains_iff_mem_keys _ _).not.mp absent)]

/-- `addIfNotExists` keeps the keys distinct. -/
theorem nodup_keys_addIfNotExists {history : AcquisitionHistory} (nodup : history.keys.Nodup)
    (continuation : ContinuationId) (wantedLock : QutexId) (heldLocks : List QutexId) :
    (history.addIfNotExists continuation wantedLock heldLocks).keys.Nodup := by
  unfold addIfNotExists
  split
  · exact nodup
  · rename_i absent
    rw [keys, List.map_append, List.nodup_append]
    exact ⟨nodup, List.nodup_singleton _, List.disjoint_singleton.mpr
      ((contains_iff_mem_keys _ _).not.mp absent)⟩

/-- With distinct keys, `remove` takes exactly the continuation out of the keys. -/
theorem contains_remove {history : AcquisitionHistory} (nodup : history.keys.Nodup)
    (continuation other : ContinuationId) :
    (history.remove continuation).1.contains other =
      (other != continuation && history.contains other) := by
  apply Bool.eq_iff_iff.mpr
  rw [Bool.and_eq_true, bne_iff_ne, contains_iff_mem_keys, contains_iff_mem_keys, keys_remove,
    nodup.mem_erase_iff]

end AcquisitionHistory

end Spinscale
