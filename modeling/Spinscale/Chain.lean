import Spinscale.Qutex

/-!
# Caller chains

Every continuation keeps a shared handle to its caller's continuation
(`AsynchronousContinuation::getCallersContinuationShPtr`), so the continuations above a new one
form a finite list, nearest caller first. The debug walkers of
`serializedAsynchronousContinuation.h` classify each link with
`std::dynamic_pointer_cast<SerializedAsynchronousContinuation<OriginalCbFnT>>`, where
`OriginalCbFnT` is the walking continuation's own callback signature. A serialized caller
instantiated with another signature is a different class, so the cast yields null and the walkers
skip it; `ChainLink.asSerialized` models that cast.
-/

namespace Spinscale

/-- The callback signature `OriginalCbFnT` a continuation class template is instantiated with. -/
abbrev CallbackSignature := Nat

/-- One continuation of a caller chain: a plain continuation, or a serialized one with its
callback signature and the qutexes of its LockSet in declaration order. -/
inductive ChainLink where
  | plain
  | serialized (signature : CallbackSignature) (lockSet : List QutexId)
  deriving DecidableEq, Repr

/-- `dynamic_pointer_cast<SerializedAsynchronousContinuation<OriginalCbFnT>>` for the signature
`signature`: the LockSet of a serialized link of that very signature, and null otherwise. -/
def ChainLink.asSerialized (signature : CallbackSignature) : ChainLink → Option (List QutexId)
  | .plain => none
  | .serialized linkSignature lockSet => if linkSignature = signature then some lockSet else none

/-- `getAcquiredQutexHistory()` of a continuation with callback signature `signature`: walk the
callers nearest first and `push_front` every qutex of each caller the cast recognises. -/
def getAcquiredQutexHistory (signature : CallbackSignature) (callers : List ChainLink) :
    List QutexId :=
  callers.foldl
    (fun heldLocks link =>
      match link.asSerialized signature with
      | none => heldLocks
      | some lockSet => lockSet.foldl (fun held qutex => qutex :: held) heldLocks)
    []

/-- `traceContinuationHistoryForDeadlockOn(firstFailedQutex)`: does some caller the cast
recognises list the qutex in its LockSet (`getLockUsageDesc` does not throw)? -/
def traceContinuationHistoryForDeadlockOn (signature : CallbackSignature)
    (callers : List ChainLink) (firstFailedQutex : QutexId) : Bool :=
  callers.any fun link =>
    match link.asSerialized signature with
    | none => false
    | some lockSet => lockSet.contains firstFailedQutex

/-- `traceContinuationHistoryForDeadlock()`: the first qutex of the new LockSet, in declaration
order, that `traceContinuationHistoryForDeadlockOn` finds above the new continuation. -/
def traceContinuationHistoryForDeadlock (signature : CallbackSignature)
    (callers : List ChainLink) (lockSet : List QutexId) : Option QutexId :=
  lockSet.find? (traceContinuationHistoryForDeadlockOn signature callers)

/-- The qutexes of every serialized caller, whatever its callback signature, in walking order. -/
def serializedCallerLocks (callers : List ChainLink) : List QutexId :=
  callers.flatMap fun
    | .plain => []
    | .serialized _ lockSet => lockSet

/-- The qutexes of the callers the cast recognises, in walking order. -/
def recognisedCallerLocks (signature : CallbackSignature) (callers : List ChainLink) :
    List QutexId :=
  callers.flatMap fun link => (link.asSerialized signature).getD []

/-! ## What the walkers compute -/

private theorem foldl_pushFront (lockSet held : List QutexId) :
    lockSet.foldl (fun held qutex => qutex :: held) held = lockSet.reverse ++ held := by
  induction lockSet generalizing held with
  | nil => rfl
  | cons qutex rest inductionHypothesis => simp [inductionHypothesis]

private theorem getAcquiredQutexHistory_foldl (signature : CallbackSignature)
    (callers : List ChainLink) (held : List QutexId) :
    callers.foldl
        (fun heldLocks link =>
          match link.asSerialized signature with
          | none => heldLocks
          | some lockSet => lockSet.foldl (fun held qutex => qutex :: held) heldLocks) held =
      (recognisedCallerLocks signature callers).reverse ++ held := by
  induction callers generalizing held with
  | nil => rfl
  | cons link rest inductionHypothesis =>
    rw [List.foldl_cons, inductionHypothesis]
    cases hCast : link.asSerialized signature <;>
      simp [recognisedCallerLocks, hCast, foldl_pushFront]

/-- `getAcquiredQutexHistory` lists every qutex of every recognised caller's LockSet, each
occurrence once, in reverse walking order; the continuation's own LockSet is not walked. -/
theorem getAcquiredQutexHistory_eq (signature : CallbackSignature) (callers : List ChainLink) :
    getAcquiredQutexHistory signature callers = (recognisedCallerLocks signature callers).reverse := by
  rw [getAcquiredQutexHistory, getAcquiredQutexHistory_foldl, List.append_nil]

/-- The deadlock walker finds a qutex exactly when it is in the acquired-qutex history. -/
theorem traceContinuationHistoryForDeadlockOn_iff (signature : CallbackSignature)
    (callers : List ChainLink) (qutex : QutexId) :
    traceContinuationHistoryForDeadlockOn signature callers qutex = true ↔
      qutex ∈ getAcquiredQutexHistory signature callers := by
  rw [getAcquiredQutexHistory_eq, List.mem_reverse]
  simp only [traceContinuationHistoryForDeadlockOn, recognisedCallerLocks, List.any_eq_true,
    List.mem_flatMap]
  constructor
  · rintro ⟨link, hLink, hHas⟩
    cases hCast : link.asSerialized signature <;> simp_all
    exact ⟨link, hLink, by simpa [hCast] using hHas⟩
  · rintro ⟨link, hLink, hMem⟩
    cases hCast : link.asSerialized signature <;> simp_all
    exact ⟨link, hLink, by simpa [hCast] using hMem⟩

/-- The two debug walkers agree: deadlock tracing at construction reports the first qutex of the
LockSet that `getAcquiredQutexHistory` would list. -/
theorem traceContinuationHistoryForDeadlock_eq (signature : CallbackSignature)
    (callers : List ChainLink) (lockSet : List QutexId) :
    traceContinuationHistoryForDeadlock signature callers lockSet =
      lockSet.find? fun qutex => decide (qutex ∈ getAcquiredQutexHistory signature callers) := by
  unfold traceContinuationHistoryForDeadlock
  congr 1
  funext qutex
  rw [Bool.eq_iff_iff, decide_eq_true_iff, traceContinuationHistoryForDeadlockOn_iff]

/-- A serialized caller instantiated with another callback signature is skipped: a chain whose
only serialized caller holds qutex 7 under signature 1 hides it from a continuation of signature 0
that asks for qutex 7. -/
theorem traceContinuationHistoryForDeadlock_skips_other_signature :
    7 ∈ serializedCallerLocks [.serialized 1 [7]] ∧
      traceContinuationHistoryForDeadlock 0 [.serialized 1 [7]] [7] = none ∧
      getAcquiredQutexHistory 0 [.serialized 1 [7]] = [] := by
  decide

end Spinscale
