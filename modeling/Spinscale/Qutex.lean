import Mathlib.Data.List.Perm.Basic
import Mathlib.Data.List.Count
import Mathlib.Tactic.Ring

/-!
# Qutex

A qutex (`sscl::Qutex`, `qutex.h` and `puppetApplication.cpp`) is a mutex with a FIFO of waiting
lockvokers and a positional acquisition rule. Every operation runs under the qutex's own
`SpinLock`, so each one is a single atomic step: it is modelled here as a pure function from the
qutex's fields to its new fields and its outcome. An operation that throws `std::runtime_error`
reports `Outcome.threw` together with the fields it leaves behind, since `backoff` and `release`
change or keep their state in different ways before they throw.

The model is of the debug build (`CONFIG_ENABLE_DEBUG_LOCKS`), which also tracks `currOwner`.
A waking call (`awaken()` on the new front) happens after the spinlock is dropped; the operations
therefore return the continuation to awaken and leave the wake to the thread that called them.

For a waiter with exactly one node in the queue, `tryAcquire_positional_rule` states the
acquisition rule as a condition on the node's index, and `backoff_rotation` states where
`backoff` moves the node and whom it awakens. `qutex_error_exits` says what each throw leaves
behind: the throw of `release` keeps the spinlock, and the last check of `backoff` throws after
the rotation and the release of ownership.
-/

namespace Spinscale

/-- A qutex, identified by its address (`Qutex &`). -/
abbrev QutexId := Nat

/-- A serialized continuation, identified by its address. Lockvokers compare equal exactly when
their continuations do (`LockerAndInvokerBase::operator==`). -/
abbrev ContinuationId := Nat

/-- A node of a qutex's waiter queue (`LockerAndInvokerBase::List`): a shared handle to a copy of
the lockvoker of `continuation`, inserted by `registerInQueue` for that continuation's LockUsage
number `usage`, whose stored iterator points at this node. -/
structure Lockvoker where
  continuation : ContinuationId
  usage : Nat
  deriving DecidableEq, Repr

/-- The shared state of a qutex. `locked` is its `SpinLock`; the debug `name` is only printed
and is left out. -/
structure Qutex where
  queue : List Lockvoker
  isOwned : Bool
  currOwner : Option ContinuationId
  locked : Bool
  deriving DecidableEq, Repr

/-- How an operation ended: it returned a value, or threw `std::runtime_error(what)`. -/
inductive Outcome (α : Type) where
  | returned (value : α)
  | threw (what : String)
  deriving DecidableEq, Repr

/-- A freshly constructed qutex: empty queue, not owned, spinlock free. -/
def Qutex.empty : Qutex where
  queue := []
  isOwned := false
  currOwner := none
  locked := false

/-- `tryAcquire` on an empty queue (`__func__` is prefixed as in the source). -/
def tryAcquireEmptyQueueError : String :=
  "tryAcquire: tryAcquire called on empty queue - this should never happen"

/-- `backoff` on an empty queue. -/
def backoffEmptyQueueError : String :=
  "backoff: backoff called on empty queue - this should never happen"

/-- `backoff` by the front waiter of a single-lock LockSet. -/
def backoffSingleLockFrontError : String :=
  "backoff: Failed acquirer is at front of queue with nRequiredLocks==1 - acquirer at front of " ++
    "queue with nRequiredLocks==1 should always succeed."

/-- `backoff` leaving the failed acquirer at the front of a queue of more than one entry. -/
def backoffFrontAfterRotationError : String :=
  "backoff: Failed acquirer is at the front of the queue at the end of backoff, yet " ++
    "nQItems > 1 - this should never happen"

/-- `release` of a qutex that is not owned. -/
def releaseUnownedError : String :=
  "release: release() called on unowned qutex - this should never happen"

namespace Qutex

/-- `registerInQueue`: insert a node at the tail; the returned iterator is that node. -/
def registerInQueue (qutex : Qutex) (lockvoker : Lockvoker) : Qutex :=
  { qutex with queue := qutex.queue ++ [lockvoker] }

/-- `unregisterFromQueue(it)`: erase the node the iterator points at. -/
def unregisterFromQueue (qutex : Qutex) (lockvoker : Lockvoker) : Qutex :=
  { qutex with queue := qutex.queue.erase lockvoker }

/-- A successful acquisition by `owner`: `isOwned` and, in debug builds, `currOwner` set to the
owner's own queue entry (found through its LockSet's stored iterator, or the front). -/
def acquiredBy (qutex : Qutex) (owner : ContinuationId) : Qutex :=
  { qutex with isOwned := true, currOwner := some owner }

/-- The reverse scan of `tryAcquire`: does `trying` occur among the last `nRearItemsToScan`
entries of the queue? -/
def foundInRear (queue : List Lockvoker) (trying : ContinuationId) (nRearItemsToScan : Nat) :
    Bool :=
  (queue.reverse.take nRearItemsToScan).any (·.continuation == trying)

/-- The positional rule of `tryAcquire` on a free qutex with a non-empty queue: the only waiter,
or a queue too short to have a rear window, always succeeds; a single-lock waiter must be the
front; a multi-lock waiter must not be in the rear `queue.length / nRequiredLocks` entries. -/
def mayAcquire (queue : List Lockvoker) (trying : ContinuationId) (nRequiredLocks : Nat) : Bool :=
  let qNItems := queue.length
  let nRearItemsToScan := qNItems / nRequiredLocks
  if qNItems == 1 || nRearItemsToScan < 1 then true
  else if nRequiredLocks == 1 then queue.head?.map (·.continuation) == some trying
  else !foundInRear queue trying nRearItemsToScan

/-- `Qutex::tryAcquire(tryingLockvoker, nRequiredLocks)`. -/
def tryAcquire (qutex : Qutex) (trying : ContinuationId) (nRequiredLocks : Nat) :
    Qutex × Outcome Bool :=
  if qutex.queue.isEmpty then (qutex, .threw tryAcquireEmptyQueueError)
  else if qutex.isOwned then (qutex, .returned false)
  else if mayAcquire qutex.queue trying nRequiredLocks then
    (qutex.acquiredBy trying, .returned true)
  else (qutex, .returned false)

/-- `queue.splice(insertPos, queue, queue.begin())` on the queue `front :: rest`, where
`insertPos` is `begin()` advanced `index` times (`none`: `end()`). -/
def spliceFront (front : Lockvoker) (rest : List Lockvoker) : Option Nat → List Lockvoker
  | none => rest ++ [front]
  | some 0 => front :: rest
  | some (index + 1) => rest.take index ++ front :: rest.drop index

/-- The queue after `backoff`'s rotation: a failed acquirer at the front of a queue of more than
one entry is moved before index `nRequiredLocks`, or to the tail when the queue is no longer. -/
def rotateOnBackoff (queue : List Lockvoker) (failedAcquirer : ContinuationId)
    (nRequiredLocks : Nat) : List Lockvoker :=
  match queue with
  | [] => []
  | oldFront :: rest =>
    if oldFront.continuation == failedAcquirer && queue.length > 1 then
      spliceFront oldFront rest
        (if queue.length > nRequiredLocks then some nRequiredLocks else none)
    else queue

/-- The end of `backoff`, after the spinlock is dropped: the failed acquirer still in front of a
queue of more than one entry is an error; otherwise the new front is awakened when the queue had
more than one entry. -/
def wakeAfterBackoff (queue : List Lockvoker) (failedAcquirer : ContinuationId) (nQItems : Nat) :
    Outcome (Option ContinuationId) :=
  match queue with
  | [] => .returned none
  | newFront :: _ =>
    if newFront.continuation == failedAcquirer && nQItems > 1 then
      .threw backoffFrontAfterRotationError
    else .returned (if nQItems > 1 then some newFront.continuation else none)

/-- The qutex after `backoff`'s rotation, with `isOwned` cleared and `currOwner` reset. -/
def rotatedAndFreed (qutex : Qutex) (failedAcquirer : ContinuationId) (nRequiredLocks : Nat) :
    Qutex :=
  { qutex with
    queue := rotateOnBackoff qutex.queue failedAcquirer nRequiredLocks
    isOwned := false
    currOwner := none }

/-- `Qutex::backoff(failedAcquirer, nRequiredLocks)`. -/
def backoff (qutex : Qutex) (failedAcquirer : ContinuationId) (nRequiredLocks : Nat) :
    Qutex × Outcome (Option ContinuationId) :=
  match qutex.queue with
  | [] => (qutex, .threw backoffEmptyQueueError)
  | oldFront :: _ =>
    if oldFront.continuation == failedAcquirer && nRequiredLocks == 1 then
      (qutex, .threw backoffSingleLockFrontError)
    else
      (qutex.rotatedAndFreed failedAcquirer nRequiredLocks,
        wakeAfterBackoff (rotateOnBackoff qutex.queue failedAcquirer nRequiredLocks)
          failedAcquirer qutex.queue.length)

/-- `Qutex::release()`: mark the qutex free and name the front to awaken. The unowned case
throws with the spinlock still held. -/
def release (qutex : Qutex) : Qutex × Outcome (Option ContinuationId) :=
  if !qutex.isOwned || qutex.currOwner.isNone then
    ({ qutex with locked := true }, .threw releaseUnownedError)
  else
    let freed := { qutex with isOwned := false, currOwner := none }
    match qutex.queue with
    | [] => (freed, .returned none)
    | front :: _ => (freed, .returned (some front.continuation))

/-! ## Field lemmas -/

@[simp] theorem registerInQueue_queue (qutex : Qutex) (lockvoker : Lockvoker) :
    (qutex.registerInQueue lockvoker).queue = qutex.queue ++ [lockvoker] := rfl

@[simp] theorem registerInQueue_isOwned (qutex : Qutex) (lockvoker : Lockvoker) :
    (qutex.registerInQueue lockvoker).isOwned = qutex.isOwned := rfl

@[simp] theorem registerInQueue_currOwner (qutex : Qutex) (lockvoker : Lockvoker) :
    (qutex.registerInQueue lockvoker).currOwner = qutex.currOwner := rfl

@[simp] theorem unregisterFromQueue_queue (qutex : Qutex) (lockvoker : Lockvoker) :
    (qutex.unregisterFromQueue lockvoker).queue = qutex.queue.erase lockvoker := rfl

@[simp] theorem unregisterFromQueue_isOwned (qutex : Qutex) (lockvoker : Lockvoker) :
    (qutex.unregisterFromQueue lockvoker).isOwned = qutex.isOwned := rfl

@[simp] theorem unregisterFromQueue_currOwner (qutex : Qutex) (lockvoker : Lockvoker) :
    (qutex.unregisterFromQueue lockvoker).currOwner = qutex.currOwner := rfl

@[simp] theorem acquiredBy_queue (qutex : Qutex) (owner : ContinuationId) :
    (qutex.acquiredBy owner).queue = qutex.queue := rfl

@[simp] theorem acquiredBy_isOwned (qutex : Qutex) (owner : ContinuationId) :
    (qutex.acquiredBy owner).isOwned = true := rfl

@[simp] theorem acquiredBy_currOwner (qutex : Qutex) (owner : ContinuationId) :
    (qutex.acquiredBy owner).currOwner = some owner := rfl

/-! ## `tryAcquire` -/

/-- `tryAcquire` either leaves the qutex exactly as it was, or acquires a free qutex for the
trying continuation and reports success. -/
theorem tryAcquire_cases (qutex : Qutex) (trying : ContinuationId) (nRequiredLocks : Nat) :
    ((qutex.tryAcquire trying nRequiredLocks).1 = qutex ∧
        (qutex.tryAcquire trying nRequiredLocks).2 ≠ .returned true) ∨
      ((qutex.tryAcquire trying nRequiredLocks).1 = qutex.acquiredBy trying ∧
        (qutex.tryAcquire trying nRequiredLocks).2 = .returned true ∧ qutex.isOwned = false) := by
  unfold tryAcquire
  split
  · simp
  · split
    · simp
    · split <;> simp_all

/-- `tryAcquire` throws exactly on an empty queue. -/
theorem tryAcquire_threw_iff (qutex : Qutex) (trying : ContinuationId) (nRequiredLocks : Nat)
    (what : String) :
    (qutex.tryAcquire trying nRequiredLocks).2 = .threw what ↔
      qutex.queue = [] ∧ what = tryAcquireEmptyQueueError := by
  unfold tryAcquire
  by_cases hEmpty : qutex.queue = []
  · simp [hEmpty, eq_comm]
  · have hNotEmpty : qutex.queue.isEmpty = false := List.isEmpty_eq_false.mpr hEmpty
    simp only [hNotEmpty, Bool.false_eq_true, if_false, hEmpty, false_and, iff_false]
    split_ifs <;> simp

/-- `tryAcquire` never changes the queue. -/
@[simp] theorem tryAcquire_queue (qutex : Qutex) (trying : ContinuationId) (nRequiredLocks : Nat) :
    (qutex.tryAcquire trying nRequiredLocks).1.queue = qutex.queue := by
  rcases tryAcquire_cases qutex trying nRequiredLocks with ⟨h, -⟩ | ⟨h, -⟩ <;> simp [h]

/-- An owned qutex refuses every `tryAcquire`. -/
theorem tryAcquire_ne_true_of_owned (qutex : Qutex) (owned : qutex.isOwned = true)
    (trying : ContinuationId) (nRequiredLocks : Nat) :
    (qutex.tryAcquire trying nRequiredLocks).2 ≠ .returned true := by
  rcases tryAcquire_cases qutex trying nRequiredLocks with ⟨-, refused⟩ | ⟨-, -, free⟩
  · exact refused
  · simp [owned] at free

/-- A `tryAcquire` that does not succeed, on a nonempty queue, refuses and changes nothing. -/
theorem tryAcquire_refuses (qutex : Qutex) (trying : ContinuationId) (nRequiredLocks : Nat)
    (nonempty : qutex.queue ≠ []) (same : (qutex.tryAcquire trying nRequiredLocks).1 = qutex)
    (notAcquired : (qutex.tryAcquire trying nRequiredLocks).2 ≠ .returned true) :
    qutex.tryAcquire trying nRequiredLocks = (qutex, .returned false) := by
  refine Prod.ext same ?_
  cases outcome : (qutex.tryAcquire trying nRequiredLocks).2 with
  | threw what => exact absurd ((tryAcquire_threw_iff _ _ _ _).mp outcome).1 nonempty
  | returned acquired =>
    cases acquired
    · rfl
    · exact absurd outcome notAcquired

/-! ## The positional rule

A lockvoker compares equal to every node of its continuation, so the rule is stated for a waiter
with exactly one node in the queue, at `index`.
-/

section Position

variable {queue : List Lockvoker} {trying : ContinuationId} {index : Nat}

/-- The queue splits at the waiter's only node; the nodes before and after it are other
continuations'. -/
theorem split_of_once (found : queue[index]?.map (·.continuation) = some trying)
    (once : queue.countP (·.continuation == trying) = 1) :
    ∃ pre node post, queue = pre ++ node :: post ∧ pre.length = index ∧
      node.continuation = trying ∧ ∀ other ∈ pre ++ post, other.continuation ≠ trying := by
  obtain ⟨node, atIndex, named⟩ := Option.map_eq_some'.mp found
  obtain ⟨bound, rfl⟩ := List.getElem?_eq_some_iff.mp atIndex
  have split : queue = queue.take index ++ queue[index] :: queue.drop (index + 1) := by
    rw [← List.drop_eq_getElem_cons bound, List.take_append_drop]
  refine ⟨_, _, _, split, List.length_take_of_le bound.le, named, fun other member same => ?_⟩
  have others : (queue.take index ++ queue.drop (index + 1)).countP
      (·.continuation == trying) = 0 := by
    rw [split, List.countP_append, List.countP_cons, named, beq_self_eq_true, if_pos rfl] at once
    rw [List.countP_append]
    omega
  exact List.countP_eq_zero.mp others other member (by simpa using same)

/-- The reverse scan over the last `nRear` entries finds the waiter exactly when its node is among
them. -/
theorem foundInRear_iff (found : queue[index]?.map (·.continuation) = some trying)
    (once : queue.countP (·.continuation == trying) = 1) (nRear : Nat) :
    foundInRear queue trying nRear = true ↔ queue.length - nRear ≤ index := by
  obtain ⟨pre, node, post, rfl, rfl, named, others⟩ := split_of_once found once
  have postMisses : (post.reverse.take nRear).any (·.continuation == trying) = false :=
    List.any_eq_false.mpr fun other member => by
      simpa using others other (List.mem_append_right _
        (List.mem_reverse.mp (List.mem_of_mem_take member)))
  unfold foundInRear
  rw [List.reverse_append, List.reverse_cons, List.append_assoc, List.take_append_eq_append_take,
    List.any_append, postMisses, Bool.false_or, List.length_reverse, List.length_append,
    List.length_cons]
  cases remaining : nRear - post.length with
  | zero => simp; omega
  | succ k => simp [named]; omega

/-- The waiter is the front exactly when its only node is at index 0. -/
theorem front_iff (found : queue[index]?.map (·.continuation) = some trying)
    (once : queue.countP (·.continuation == trying) = 1) :
    queue.head?.map (·.continuation) = some trying ↔ index = 0 := by
  obtain ⟨pre, node, post, rfl, rfl, named, others⟩ := split_of_once found once
  cases pre with
  | nil => simp [named]
  | cons first pre => simpa using others first (List.mem_cons_self _ _)

/-- The positional rule as a condition on the index of the waiter's node. -/
theorem mayAcquire_iff (found : queue[index]?.map (·.continuation) = some trying)
    (once : queue.countP (·.continuation == trying) = 1) {nRequiredLocks : Nat}
    (positive : 1 ≤ nRequiredLocks) :
    mayAcquire queue trying nRequiredLocks = true ↔
      queue.length = 1 ∨ queue.length < nRequiredLocks ∨ (nRequiredLocks = 1 ∧ index = 0) ∨
        (2 ≤ nRequiredLocks ∧ index < queue.length - queue.length / nRequiredLocks) := by
  have rear := foundInRear_iff found once (queue.length / nRequiredLocks)
  have short : queue.length / nRequiredLocks < 1 ↔ queue.length < nRequiredLocks :=
    Nat.div_lt_one_iff positive
  unfold mayAcquire
  by_cases single : queue.length = 1
  · simp [single]
  by_cases fewer : queue.length < nRequiredLocks
  · simp [short.mpr fewer, fewer]
  by_cases one : nRequiredLocks = 1
  · simp [single, fewer, one, short, front_iff found once]
  · simp only [single, fewer, one, short, beq_iff_eq, decide_False, Bool.or_false,
      Bool.false_eq_true, if_false, false_or, false_and, Bool.not_eq_true']
    rw [← Bool.not_eq_true, rear]
    omega

end Position

/-- `Q - ⌊Q / S⌋ = ⌈Q (S - 1) / S⌉`: outside the rear window of `tryAcquire` are the leading
`⌈Q (S - 1) / S⌉` entries. -/
theorem sub_div_eq_ceil (count size : Nat) (positive : 1 ≤ size) :
    count - count / size = (count * (size - 1) + (size - 1)) / size := by
  obtain ⟨s, rfl⟩ : ∃ s, size = s + 1 := ⟨size - 1, by omega⟩
  have division := Nat.div_add_mod count (s + 1)
  have bound := Nat.mod_lt count (Nat.succ_pos s)
  generalize count / (s + 1) = quotient at *
  generalize count % (s + 1) = remainder at *
  subst division
  obtain ⟨t, rfl⟩ : ∃ t, s = remainder + t := ⟨s - remainder, by omega⟩
  have numerator : ((remainder + t + 1) * quotient + remainder) * (remainder + t + 1 - 1) +
      (remainder + t + 1 - 1) =
      t + ((remainder + t) * quotient + remainder) * (remainder + t + 1) := by
    simp only [Nat.add_sub_cancel]
    ring
  rw [numerator, Nat.add_mul_div_right _ _ (Nat.succ_pos _), Nat.div_eq_of_lt (by omega),
    Nat.zero_add, Nat.add_mul, Nat.one_mul]
  omega

/-- `tryAcquire` by a waiter with exactly one node, at `index`, in a queue of `Q` entries, for a
LockSet of `S ≥ 1`: an owned qutex refuses and is unchanged; a free one is acquired exactly when
`Q = 1`, `Q < S`, `S = 1` and the waiter is the front, or `S ≥ 2` and the waiter is among the
leading `Q - ⌊Q / S⌋ = ⌈Q (S - 1) / S⌉` entries. The front waiter of a free qutex always
acquires it. -/
theorem tryAcquire_positional_rule (qutex : Qutex) (trying : ContinuationId)
    (nRequiredLocks index : Nat) (positive : 1 ≤ nRequiredLocks)
    (found : qutex.queue[index]?.map (·.continuation) = some trying)
    (once : qutex.queue.countP (·.continuation == trying) = 1) :
    (qutex.isOwned = true → qutex.tryAcquire trying nRequiredLocks = (qutex, .returned false)) ∧
    (qutex.isOwned = false → qutex.tryAcquire trying nRequiredLocks =
      if qutex.queue.length = 1 ∨ qutex.queue.length < nRequiredLocks ∨
          (nRequiredLocks = 1 ∧ index = 0) ∨
          (2 ≤ nRequiredLocks ∧ index < qutex.queue.length - qutex.queue.length / nRequiredLocks)
      then (qutex.acquiredBy trying, .returned true) else (qutex, .returned false)) ∧
    (qutex.isOwned = false → index = 0 →
      qutex.tryAcquire trying nRequiredLocks = (qutex.acquiredBy trying, .returned true)) ∧
    qutex.queue.length - qutex.queue.length / nRequiredLocks =
      (qutex.queue.length * (nRequiredLocks - 1) + (nRequiredLocks - 1)) / nRequiredLocks := by
  have nonempty : qutex.queue.isEmpty = false :=
    List.isEmpty_eq_false.mpr fun empty => by simp [empty] at found
  have rule := mayAcquire_iff found once positive
  refine ⟨fun owned => by simp [tryAcquire, nonempty, owned], fun free => ?_, fun free front => ?_,
    sub_div_eq_ceil _ _ positive⟩
  · unfold tryAcquire
    simp only [nonempty, free, Bool.false_eq_true, if_false]
    by_cases may : mayAcquire qutex.queue trying nRequiredLocks = true
    · rw [if_pos may, if_pos (rule.mp may)]
    · rw [if_neg may, if_neg (mt rule.mpr may)]
  · have may : mayAcquire qutex.queue trying nRequiredLocks = true := by
      refine rule.mpr (.inr (.inr ?_))
      by_cases one : nRequiredLocks = 1
      · exact .inl ⟨one, front⟩
      · have smaller := Nat.div_lt_self (List.length_pos.mpr (List.isEmpty_eq_false.mp nonempty))
          (show 1 < nRequiredLocks by omega)
        exact .inr ⟨by omega, by omega⟩
    simp [tryAcquire, nonempty, free, may]

/-- The middle waiter of three, with a LockSet of two, is outside the rear window of one entry:
it acquires the free qutex. -/
theorem middle_waiter_acquires :
    (⟨[⟨1, 0⟩, ⟨2, 0⟩, ⟨3, 0⟩], false, none, false⟩ : Qutex).tryAcquire 2 2 =
      (⟨[⟨1, 0⟩, ⟨2, 0⟩, ⟨3, 0⟩], true, some 2, false⟩, .returned true) :=
  ((tryAcquire_positional_rule _ 2 2 1 (by decide) (by decide) (by decide)).2.1 rfl).trans
    (by decide)

/-! ## `backoff` -/

/-- The splice moves a node and keeps every other one. -/
theorem spliceFront_perm (front : Lockvoker) (rest : List Lockvoker) (index : Option Nat) :
    (spliceFront front rest index).Perm (front :: rest) := by
  match index with
  | none => exact List.perm_append_singleton front rest
  | some 0 => exact List.Perm.refl _
  | some (index + 1) =>
    have moved : (rest.take index ++ front :: rest.drop index).Perm
        (front :: (rest.take index ++ rest.drop index)) := List.perm_middle
    rwa [List.take_append_drop] at moved

/-- The rotation of `backoff` never drops or duplicates a node. -/
theorem rotateOnBackoff_perm (queue : List Lockvoker) (failedAcquirer : ContinuationId)
    (nRequiredLocks : Nat) : (rotateOnBackoff queue failedAcquirer nRequiredLocks).Perm queue := by
  unfold rotateOnBackoff
  split
  · exact List.Perm.refl _
  · split
    · exact spliceFront_perm _ _ _
    · exact List.Perm.refl _

@[simp] theorem rotatedAndFreed_queue (qutex : Qutex) (failedAcquirer : ContinuationId)
    (nRequiredLocks : Nat) :
    (qutex.rotatedAndFreed failedAcquirer nRequiredLocks).queue =
      rotateOnBackoff qutex.queue failedAcquirer nRequiredLocks := rfl

@[simp] theorem rotatedAndFreed_isOwned (qutex : Qutex) (failedAcquirer : ContinuationId)
    (nRequiredLocks : Nat) : (qutex.rotatedAndFreed failedAcquirer nRequiredLocks).isOwned = false :=
  rfl

@[simp] theorem rotatedAndFreed_currOwner (qutex : Qutex) (failedAcquirer : ContinuationId)
    (nRequiredLocks : Nat) : (qutex.rotatedAndFreed failedAcquirer nRequiredLocks).currOwner = none :=
  rfl

/-- `backoff` either throws before touching the qutex, or rotates the queue and frees the qutex
(also when it then throws because the failed acquirer is still in front). -/
theorem backoff_fst (qutex : Qutex) (failedAcquirer : ContinuationId) (nRequiredLocks : Nat) :
    (qutex.backoff failedAcquirer nRequiredLocks).1 = qutex ∨
      (qutex.backoff failedAcquirer nRequiredLocks).1 =
        qutex.rotatedAndFreed failedAcquirer nRequiredLocks := by
  unfold backoff
  split
  · exact Or.inl rfl
  · split
    · exact Or.inl rfl
    · exact Or.inr rfl

/-- `backoff` only rotates the queue. -/
theorem backoff_queue_perm (qutex : Qutex) (failedAcquirer : ContinuationId)
    (nRequiredLocks : Nat) :
    (qutex.backoff failedAcquirer nRequiredLocks).1.queue.Perm qutex.queue := by
  rcases backoff_fst qutex failedAcquirer nRequiredLocks with h | h
  · rw [h]
  · rw [h]
    exact rotateOnBackoff_perm _ _ _

/-- A `backoff` that returns has rotated the queue and freed the qutex. -/
theorem backoff_returned (qutex : Qutex) (failedAcquirer : ContinuationId) (nRequiredLocks : Nat)
    (wake : Option ContinuationId)
    (h : (qutex.backoff failedAcquirer nRequiredLocks).2 = .returned wake) :
    (qutex.backoff failedAcquirer nRequiredLocks).1 =
      qutex.rotatedAndFreed failedAcquirer nRequiredLocks := by
  unfold backoff at *
  split
  · simp_all
  · split
    · simp_all
    · rfl

/-- A `backoff` by a waiter that has a node in the queue, for a LockSet of more than one qutex,
passes both entry checks: it rotates, frees the qutex and ends in `wakeAfterBackoff`. -/
theorem backoff_of_mem (qutex : Qutex) (failedAcquirer : ContinuationId) (nRequiredLocks : Nat)
    (usage : Nat) (mem : ⟨failedAcquirer, usage⟩ ∈ qutex.queue) (several : nRequiredLocks ≠ 1) :
    qutex.backoff failedAcquirer nRequiredLocks =
      (qutex.rotatedAndFreed failedAcquirer nRequiredLocks,
        wakeAfterBackoff (rotateOnBackoff qutex.queue failedAcquirer nRequiredLocks)
          failedAcquirer qutex.queue.length) := by
  unfold backoff
  split
  · rename_i empty
    rw [empty] at mem
    cases mem
  · simp [several]

/-- The only error of `backoff`'s final check is that the failed acquirer is still in front. -/
theorem wakeAfterBackoff_threw {queue : List Lockvoker} {failedAcquirer : ContinuationId}
    {nQItems : Nat} {what : String}
    (threw : wakeAfterBackoff queue failedAcquirer nQItems = .threw what) :
    what = backoffFrontAfterRotationError := by
  unfold wakeAfterBackoff at threw
  split at threw
  · cases threw
  · split at threw
    · cases threw
      rfl
    · cases threw

/-- The rotation of a failed acquirer at the front of a queue of more than one entry: it moves to
index `min nRequiredLocks Q - 1`, and the other entries keep their order. -/
theorem rotateOnBackoff_front {failedAcquirer : ContinuationId} {front : Lockvoker}
    {rest : List Lockvoker} {nRequiredLocks : Nat} (isFront : front.continuation = failedAcquirer)
    (nonempty : rest ≠ []) (positive : 1 ≤ nRequiredLocks) :
    rotateOnBackoff (front :: rest) failedAcquirer nRequiredLocks =
      rest.take (min nRequiredLocks (rest.length + 1) - 1) ++
        front :: rest.drop (min nRequiredLocks (rest.length + 1) - 1) := by
  have several : rest.length + 1 > 1 := by
    have := List.length_pos.mpr nonempty
    omega
  obtain ⟨s, rfl⟩ : ∃ s, nRequiredLocks = s + 1 := ⟨nRequiredLocks - 1, by omega⟩
  simp only [rotateOnBackoff, isFront, beq_self_eq_true, List.length_cons, several,
    decide_True, Bool.and_self, if_true]
  split_ifs with longer
  · rw [Nat.min_eq_left (by omega), Nat.add_sub_cancel]
    rfl
  · rw [Nat.min_eq_right (by omega), Nat.add_sub_cancel, List.take_length, List.drop_length]
    rfl

/-- The rotated front moves behind the next entry at least: the second entry becomes the front. -/
theorem rotateOnBackoff_front_head {failedAcquirer : ContinuationId} {front first : Lockvoker}
    {others : List Lockvoker} {nRequiredLocks : Nat} (isFront : front.continuation = failedAcquirer)
    (several : 2 ≤ nRequiredLocks) :
    (rotateOnBackoff (front :: first :: others) failedAcquirer nRequiredLocks).head? =
      some first := by
  rw [rotateOnBackoff_front isFront (List.cons_ne_nil _ _) (by omega), List.length_cons,
    ← Nat.succ_pred_eq_of_pos (show 0 < min nRequiredLocks (others.length + 1 + 1) - 1 by omega),
    List.take_succ_cons, List.cons_append, List.head?_cons]

/-- After the rotation, a waiter with exactly one node is not the front of a queue of more than
one entry. -/
theorem rotateOnBackoff_head_of_once {queue : List Lockvoker} {failedAcquirer : ContinuationId}
    {nRequiredLocks : Nat} (several : 2 ≤ nRequiredLocks)
    (once : queue.countP (·.continuation == failedAcquirer) = 1) (longer : 1 < queue.length) :
    ∀ newFront ∈ (rotateOnBackoff queue failedAcquirer nRequiredLocks).head?,
      newFront.continuation ≠ failedAcquirer := by
  obtain ⟨front, first, others, rfl⟩ : ∃ front first others, queue = front :: first :: others := by
    match queue, longer with
    | front :: first :: others, _ => exact ⟨front, first, others, rfl⟩
  intro newFront found same
  by_cases isFront : front.continuation = failedAcquirer
  · rw [rotateOnBackoff_front_head isFront several, Option.mem_some_iff] at found
    subst found
    simp [List.countP_cons, isFront, same] at once
  · have kept : rotateOnBackoff (front :: first :: others) failedAcquirer nRequiredLocks =
        front :: first :: others := by
      simp [rotateOnBackoff, isFront]
    rw [kept, List.head?_cons, Option.mem_some_iff] at found
    exact isFront (found ▸ same)

/-- `backoff` by a waiter with exactly one node, for a LockSet of more than one qutex, passes every
check: it rotates and frees the qutex, and awakens the front of the rotated queue unless the
waiter was alone in it. -/
theorem backoff_of_once (qutex : Qutex) (failedAcquirer : ContinuationId) (nRequiredLocks : Nat)
    (several : 2 ≤ nRequiredLocks)
    (once : qutex.queue.countP (·.continuation == failedAcquirer) = 1) :
    qutex.backoff failedAcquirer nRequiredLocks =
      (qutex.rotatedAndFreed failedAcquirer nRequiredLocks,
        .returned (if 1 < qutex.queue.length then
          (rotateOnBackoff qutex.queue failedAcquirer nRequiredLocks).head?.map (·.continuation)
        else none)) := by
  obtain ⟨node, member, named⟩ :=
    List.countP_pos_iff.mp (show 0 < _ by rw [once]; exact Nat.one_pos)
  rw [backoff_of_mem qutex failedAcquirer nRequiredLocks node.usage
    (by simpa [← (beq_iff_eq.mp named)] using member) (by omega)]
  unfold wakeAfterBackoff
  split
  · rename_i empty
    simp [empty]
  · rename_i newFront rest rotated
    have notFront := rotateOnBackoff_head_of_once several once
    by_cases longer : 1 < qutex.queue.length
    · have other := notFront longer newFront (by rw [rotated]; rfl)
      simp [rotated, longer, other]
    · simp [rotated, longer]

/-- Whoever `backoff` names to awaken is another continuation, with a node in the queue it
leaves: the new front. -/
theorem backoff_awakens_other {qutex freed : Qutex} {failedAcquirer : ContinuationId}
    {nRequiredLocks : Nat} {awakened : ContinuationId}
    (backedOff : qutex.backoff failedAcquirer nRequiredLocks = (freed, .returned (some awakened))) :
    awakened ≠ failedAcquirer ∧ ∃ node ∈ freed.queue, node.continuation = awakened := by
  unfold backoff at backedOff
  split at backedOff
  · cases backedOff
  · split at backedOff
    · cases backedOff
    · obtain ⟨rfl, woken⟩ := Prod.mk.inj backedOff
      unfold wakeAfterBackoff at woken
      split at woken
      · cases woken
      · rename_i newFront rest rotated
        split at woken
        · cases woken
        · rename_i notFront
          have several : qutex.queue.length > 1 := by
            by_contra single
            simp [single] at woken
          simp only [several, if_true, Outcome.returned.injEq, Option.some.injEq] at woken
          subst woken
          refine ⟨fun same => notFront (by simp [same, several]), newFront, ?_, rfl⟩
          simp [rotatedAndFreed, rotated]

/-- `backoff` by a waiter with exactly one node in the queue, for a LockSet of `S ≥ 2`: the qutex
is freed and the queue only permuted. A waiter at the front of `Q > 1` entries moves to index
`min S Q - 1`, the others keeping their order, and the new front, another continuation, is
awakened; behind the front the queue stays as it is and the front is awakened; alone in the queue
nobody is awakened. -/
theorem backoff_rotation (qutex : Qutex) (failedAcquirer : ContinuationId) (nRequiredLocks : Nat)
    (several : 2 ≤ nRequiredLocks)
    (once : qutex.queue.countP (·.continuation == failedAcquirer) = 1) :
    (qutex.backoff failedAcquirer nRequiredLocks).1.isOwned = false ∧
    (qutex.backoff failedAcquirer nRequiredLocks).1.queue.Perm qutex.queue ∧
    (∀ front rest, qutex.queue = front :: rest → front.continuation = failedAcquirer → rest ≠ [] →
      (qutex.backoff failedAcquirer nRequiredLocks).1.queue =
          rest.take (min nRequiredLocks qutex.queue.length - 1) ++
            front :: rest.drop (min nRequiredLocks qutex.queue.length - 1) ∧
        ∃ newFront, (qutex.backoff failedAcquirer nRequiredLocks).1.queue.head? = some newFront ∧
          newFront.continuation ≠ failedAcquirer ∧
          (qutex.backoff failedAcquirer nRequiredLocks).2 = .returned (some newFront.continuation)) ∧
    (∀ front rest, qutex.queue = front :: rest → front.continuation ≠ failedAcquirer →
      (qutex.backoff failedAcquirer nRequiredLocks).1.queue = qutex.queue ∧
        (qutex.backoff failedAcquirer nRequiredLocks).2 = .returned (some front.continuation)) ∧
    (qutex.queue.length = 1 → (qutex.backoff failedAcquirer nRequiredLocks).2 = .returned none) := by
  have notFront := rotateOnBackoff_head_of_once several once
  rw [backoff_of_once qutex failedAcquirer nRequiredLocks several once]
  refine ⟨rfl, rotateOnBackoff_perm _ _ _, fun front rest queue isFront nonempty => ?_,
    fun front rest queue isOther => ?_, fun single => by simp [single]⟩
  · have longer : 1 < qutex.queue.length := by
      simpa [queue] using List.length_pos.mpr nonempty
    have rotated := rotateOnBackoff_front isFront nonempty (by omega : 1 ≤ nRequiredLocks)
    have length : qutex.queue.length = rest.length + 1 := by rw [queue]; rfl
    rw [← queue] at rotated
    rw [length]
    obtain ⟨first, others, rfl⟩ := List.exists_cons_of_ne_nil nonempty
    have head : (rotateOnBackoff qutex.queue failedAcquirer nRequiredLocks).head? = some first := by
      rw [queue]
      exact rotateOnBackoff_front_head isFront several
    refine ⟨rotated, first, head, notFront longer first (by rw [head]; rfl), ?_⟩
    simp [longer, head]
  · obtain ⟨node, member, named⟩ :=
      List.countP_pos_iff.mp (show 0 < _ by rw [once]; exact Nat.one_pos)
    have inRest : node ∈ rest := by
      rw [queue] at member
      rcases List.mem_cons.mp member with rfl | inRest
      · exact absurd (beq_iff_eq.mp named) isOther
      · exact inRest
    have kept : rotateOnBackoff qutex.queue failedAcquirer nRequiredLocks = qutex.queue := by
      rw [queue]
      simp [rotateOnBackoff, isOther]
    have longer : 1 < qutex.queue.length := by
      simpa [queue] using List.length_pos.mpr (List.ne_nil_of_mem inRest)
    simp only [rotatedAndFreed_queue, kept, if_pos longer, true_and]
    rw [queue]
    rfl

/-- The front of four entries, with a LockSet of two, moves behind the next entry. -/
theorem front_rotated_behind_next :
    ((⟨[⟨1, 0⟩, ⟨2, 0⟩, ⟨3, 0⟩, ⟨4, 0⟩], true, some 1, false⟩ : Qutex).backoff 1 2).1.queue =
      [⟨2, 0⟩, ⟨1, 0⟩, ⟨3, 0⟩, ⟨4, 0⟩] :=
  ((backoff_rotation _ 1 2 (by decide) (by decide)).2.2.1 _ _ rfl rfl (by decide)).1.trans
    (by decide)

/-! ## `release` -/

/-- `release` never changes the queue. -/
@[simp] theorem release_queue (qutex : Qutex) : qutex.release.1.queue = qutex.queue := by
  unfold release
  split
  · rfl
  · split <;> rfl

/-- `release` of an owned qutex frees it, keeps its queue and names the front. -/
theorem release_of_owned (qutex : Qutex) (hOwned : qutex.isOwned = true)
    (owner : ContinuationId) (hOwner : qutex.currOwner = some owner) :
    qutex.release =
      ({ qutex with isOwned := false, currOwner := none },
        .returned (qutex.queue.head?.map (·.continuation))) := by
  unfold release
  simp only [hOwned, hOwner, Bool.not_true, Option.isNone_some, Bool.or_self,
    Bool.false_eq_true, if_false]
  split <;> simp_all

/-- The only error of `release` is the release of an unowned qutex. -/
theorem release_threw {qutex : Qutex} {what : String} (threw : qutex.release.2 = .threw what) :
    what = releaseUnownedError := by
  unfold release at threw
  split at threw
  · cases threw
    rfl
  · split at threw <;> cases threw

/-! ## Error exits -/

/-- Where each `std::runtime_error` of the qutex operations leaves the qutex (a throw awakens
nobody). `tryAcquire` and the two entry checks of `backoff` throw before any change; the last
check of `backoff` throws after the rotation and the release of ownership; `release` throws with
the spinlock still held. A free qutex's `release`, and a `backoff` by a waiter with the front two
nodes of an owned qutex, show the last two. -/
theorem qutex_error_exits :
    (∀ (qutex : Qutex) (trying : ContinuationId) (nRequiredLocks : Nat) (what : String),
      ((qutex.tryAcquire trying nRequiredLocks).2 = .threw what →
        (qutex.tryAcquire trying nRequiredLocks).1 = qutex) ∧
      ((qutex.backoff trying nRequiredLocks).2 = .threw what →
        (qutex.backoff trying nRequiredLocks).1 = qutex ∨
          what = backoffFrontAfterRotationError ∧
            (qutex.backoff trying nRequiredLocks).1 = qutex.rotatedAndFreed trying nRequiredLocks) ∧
      (qutex.release.2 = .threw what → qutex.release.1 = { qutex with locked := true })) ∧
    Qutex.empty.release = ({ Qutex.empty with locked := true }, .threw releaseUnownedError) ∧
    (⟨[⟨0, 0⟩, ⟨0, 1⟩], true, some 0, false⟩ : Qutex).backoff 0 3 =
      (⟨[⟨0, 1⟩, ⟨0, 0⟩], false, none, false⟩, .threw backoffFrontAfterRotationError) := by
  refine ⟨fun qutex trying nRequiredLocks what =>
    ⟨fun threw => ?_, fun threw => ?_, fun threw => ?_⟩, by decide, by decide⟩
  · rcases tryAcquire_cases qutex trying nRequiredLocks with ⟨same, -⟩ | ⟨-, returned, -⟩
    · exact same
    · rw [returned] at threw
      cases threw
  · unfold backoff at threw ⊢
    split
    · exact .inl rfl
    · split
      · exact .inl rfl
      · rename_i front rest queue notSingle
        rw [queue] at threw
        dsimp only at threw
        rw [if_neg notSingle] at threw
        exact .inr ⟨wakeAfterBackoff_threw threw, rfl⟩
  · unfold release at threw ⊢
    split
    · rfl
    · rename_i owned
      rw [if_neg owned] at threw
      split at threw <;> cases threw

end Qutex

end Spinscale
