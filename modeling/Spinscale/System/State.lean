import Mathlib.Logic.Function.Basic
import Mathlib.Tactic.Simps.Basic
import Spinscale.Chain
import Spinscale.Tracker

/-!
# The state of the lock runtime

Any number of `ComponentThread`s (reactors), each a single-threaded `io_service` loop, run the
lockvokers of serialized continuations. The global state holds every qutex, every continuation
with its LockSet and lockvoker, every thread's posted tasks, the acquisition history tracker and
the steady clock.

A continuation's `Phase` says where its code is: in `firstWake`'s registration loop, asleep
between attempts, inside one of the loops of `LockerAndInvoker::operator()`, or in
`LockSet::release` after its body has run. A thread that executes a continuation's code names it
in `running`; an `awaken()` that a qutex operation asked for after dropping its spinlock is
pending in `wake`.

`trace` is a history variable: the qutex calls, executions, postings and body invocations so far,
newest first. No source data structure holds it; who holds a qutex is read off it (`Trace.holds`),
and how often a body ran or a qutex was released is counted in it.
-/

namespace Spinscale

/-- A `ComponentThread`, identified by `sscl::ThreadId`. -/
abbrev ThreadId := Nat

/-- A task posted on a thread's `io_service`: a copy of a continuation's `LockerAndInvoker`
(posted by `awaken`), or the original callback posted by `callOriginalCb` to the caller. -/
inductive Task where
  | lockvoker (continuation : ContinuationId)
  | callback (continuation : ContinuationId)
  deriving DecidableEq, Repr

/-- The rest of an `awaken(forceAwaken)` on a continuation's lockvoker: the exchange of its
`isAwakeOrBeingAwakened` flag, then the post to its target thread. -/
inductive Wake where
  | exchange (continuation : ContinuationId) (forceAwaken : Bool)
  | post (continuation : ContinuationId)
  deriving DecidableEq, Repr

/-- A `ComponentThread`: the FIFO of its `io_service`, the continuation whose code it is
executing, and an `awaken()` it has still to complete. -/
structure ComponentThread where
  ioService : List Task
  running : Option ContinuationId
  wake : Option Wake
  deriving DecidableEq, Repr

/-- A thread that has nothing posted, runs nothing and wakes nobody. -/
def ComponentThread.idle : ComponentThread where
  ioService := []
  running := none
  wake := none

/-- Where a continuation's code is. The loops count the LockUsages already handled. -/
inductive Phase where
  /-- `firstWake`'s `registerInLockSet`: LockUsages below `next` are in their queues. -/
  | registering (next : Nat)
  /-- Between two executions of the lockvoker (posted or not). -/
  | asleep
  /-- `tryAcquireOrBackOff`'s acquisition loop: the first `next` qutexes were acquired. -/
  | acquiring (next : Nat)
  /-- `tryAcquireOrBackOff`'s backoff loop over the `nAcquired` qutexes acquired. -/
  | backingOff (next nAcquired : Nat) (firstFailedQutex : QutexId)
  /-- The failed attempt is about to call `allowAwakening()`. -/
  | allowing (firstFailedQutex : QutexId)
  /-- The failed attempt's gridlock branch, which enters the tracker. -/
  | tracking (firstFailedQutex : QutexId)
  /-- `unregisterFromQutexQueues` after success: LockUsages below `next` are erased. -/
  | unregistering (next : Nat)
  /-- The successful attempt is about to call the tracker's `remove`. -/
  | untracking
  /-- The body (`invocationTarget`) has been invoked and has not completed its LockSet. -/
  | invoked
  /-- `LockSet::release` from `callOriginalCb`, at LockUsage `next`. -/
  | releasing (next : Nat)
  /-- `callOriginalCb` has released the LockSet. -/
  | released
  deriving DecidableEq, Repr

/-- `LockSet::LockUsageDesc` without its iterator, which is the queue node
`⟨continuation, usage⟩` itself. -/
structure LockUsageDesc where
  qutex : QutexId
  hasBeenReleased : Bool
  deriving DecidableEq, Repr

/-- `LockSet<OriginalCbFnT>`. -/
structure LockSet where
  locks : List LockUsageDesc
  allLocksAcquired : Bool
  registeredInQutexQueues : Bool
  deriving DecidableEq, Repr

/-- A `SerializedAsynchronousContinuation` with its LockSet and its lockvoker's state. The
signature and callers are fixed at construction; `phase` and `gridlockLikely` (sampled at the
start of each execution) are where its lockvoker's code is. -/
structure SerializedAsynchronousContinuation where
  requiredLocks : LockSet
  isAwakeOrBeingAwakened : Bool
  target : ThreadId
  caller : ThreadId
  creationTimestamp : Nat
  signature : CallbackSignature
  callers : List ChainLink
  /-- The original callback's `callbackFn` is set. -/
  callbackFn : Bool
  phase : Phase
  gridlockLikely : Bool
  deriving DecidableEq, Repr

/-- What application code supplies to construct a serialized continuation and its lockvoker. -/
structure ContinuationSpec where
  lockSet : List QutexId
  target : ThreadId
  caller : ThreadId
  signature : CallbackSignature
  callers : List ChainLink
  /-- The original callback's `callbackFn` is set. -/
  callbackFn : Bool
  deriving DecidableEq, Repr

/-- An entry of the history variable. -/
inductive Event where
  /-- A `Qutex::tryAcquire` call and whether it acquired the qutex. -/
  | tryAcquire (continuation : ContinuationId) (qutex : QutexId) (acquired : Bool)
  /-- A `Qutex::backoff` call from `tryAcquireOrBackOff`. -/
  | backoff (continuation : ContinuationId) (qutex : QutexId)
  /-- A `Qutex::release` call from `LockSet::release` or `releaseQutexEarly`. -/
  | release (continuation : ContinuationId) (qutex : QutexId)
  /-- A `LockerAndInvoker::operator()` execution begins. -/
  | execute (continuation : ContinuationId)
  /-- `tryAcquireOrBackOff` returned true. -/
  | acquiredAll (continuation : ContinuationId)
  /-- The body `invocationTarget()` is invoked. -/
  | invoke (continuation : ContinuationId)
  /-- A `LockerAndInvoker` is posted to its target's `io_service`. -/
  | post (continuation : ContinuationId)
  deriving DecidableEq, Repr

/-- The whole runtime. `deadlockTimeout` is `CONFIG_DEBUG_QUTEX_DEADLOCK_TIMEOUT_MS`; `aborted`
is the `std::runtime_error` that ended the process, if one was thrown. -/
structure Sys where
  qutexes : QutexId → Qutex
  continuations : ContinuationId → Option SerializedAsynchronousContinuation
  nextContinuation : ContinuationId
  threads : ThreadId → ComponentThread
  acquisitionHistory : AcquisitionHistory
  now : Nat
  deadlockTimeout : Nat
  trace : List Event
  aborted : Option String

/-- The runtime before any continuation exists. -/
def Sys.initial (deadlockTimeout : Nat) : Sys where
  qutexes := fun _ => Qutex.empty
  continuations := fun _ => none
  nextContinuation := 0
  threads := fun _ => ComponentThread.idle
  acquisitionHistory := []
  now := 0
  deadlockTimeout := deadlockTimeout
  trace := []
  aborted := none

namespace SerializedAsynchronousContinuation

/-- The number of LockUsages, `requiredLocks.locks.size()`. -/
def lockCount (continuation : SerializedAsynchronousContinuation) : Nat :=
  continuation.requiredLocks.locks.length

/-- The qutex of LockUsage `index`, if there is one. -/
def lockAt (continuation : SerializedAsynchronousContinuation) (index : Nat) : Option QutexId :=
  continuation.requiredLocks.locks[index]?.map (·.qutex)

/-- The qutexes of the LockSet in declaration order. -/
def lockQutexes (continuation : SerializedAsynchronousContinuation) : List QutexId :=
  continuation.requiredLocks.locks.map (·.qutex)

end SerializedAsynchronousContinuation

namespace Sys

/-! The setters below write `Function.update` out as a non-dependent `if`: they are the same
function (`setQutex_qutexes` and its siblings), but a concrete run then evaluates by `decide`
without comparing unevaluated keys through the cast in `Function.update`'s dependent branch. -/

/-- Replace one qutex. -/
@[simps continuations nextContinuation threads acquisitionHistory now deadlockTimeout trace aborted]
def setQutex (s : Sys) (qutex : QutexId) (value : Qutex) : Sys :=
  { s with qutexes := fun qutex' => if qutex' = qutex then value else s.qutexes qutex' }

/-- Replace one continuation. -/
@[simps qutexes nextContinuation threads acquisitionHistory now deadlockTimeout trace aborted]
def setContinuation (s : Sys) (continuation : ContinuationId)
    (value : SerializedAsynchronousContinuation) : Sys :=
  { s with
    continuations := fun continuation' =>
      if continuation' = continuation then some value else s.continuations continuation' }

/-- Replace one thread. -/
@[simps qutexes continuations nextContinuation acquisitionHistory now deadlockTimeout trace aborted]
def setThread (s : Sys) (thread : ThreadId) (value : ComponentThread) : Sys :=
  { s with threads := fun thread' => if thread' = thread then value else s.threads thread' }

@[simp] theorem setQutex_qutexes (s : Sys) (qutex : QutexId) (value : Qutex) :
    (s.setQutex qutex value).qutexes = Function.update s.qutexes qutex value := by
  funext qutex'
  simp only [setQutex, Function.update_apply]

@[simp] theorem setContinuation_continuations (s : Sys) (continuation : ContinuationId)
    (value : SerializedAsynchronousContinuation) :
    (s.setContinuation continuation value).continuations =
      Function.update s.continuations continuation (some value) := by
  funext continuation'
  simp only [setContinuation, Function.update_apply]

@[simp] theorem setThread_threads (s : Sys) (thread : ThreadId) (value : ComponentThread) :
    (s.setThread thread value).threads = Function.update s.threads thread value := by
  funext thread'
  simp only [setThread, Function.update_apply]

/-- Append an entry to the history variable. -/
@[simps]
def record (s : Sys) (event : Event) : Sys :=
  { s with trace := event :: s.trace }

/-- A programming error ends the process. -/
@[simps]
def abort (s : Sys) (what : String) : Sys :=
  { s with aborted := some what }

/-- `io_service::post`: append a task to a thread's FIFO. -/
def postTask (s : Sys) (thread : ThreadId) (task : Task) : Sys :=
  s.setThread thread { s.threads thread with ioService := (s.threads thread).ioService ++ [task] }

theorem setContinuation_continuations_eq_some {s : Sys} {c c' : ContinuationId}
    {value k : SerializedAsynchronousContinuation} :
    (s.setContinuation c value).continuations c' = some k ↔
      (c' = c ∧ k = value) ∨ (c' ≠ c ∧ s.continuations c' = some k) := by
  by_cases hc : c' = c
  · subst hc; simp [eq_comm]
  · simp [Function.update_noteq hc, hc]

@[simp] theorem setContinuation_continuations_self (s : Sys) (c : ContinuationId)
    (value : SerializedAsynchronousContinuation) :
    (s.setContinuation c value).continuations c = some value := by
  simp

theorem setContinuation_continuations_ne (s : Sys) (c : ContinuationId)
    (value : SerializedAsynchronousContinuation) {c' : ContinuationId} (other : c' ≠ c) :
    (s.setContinuation c value).continuations c' = s.continuations c' := by
  simp [other]

@[simp] theorem setThread_setContinuation_self (s : Sys) (c : ContinuationId)
    (value : SerializedAsynchronousContinuation) (thread : ThreadId) (threadValue : ComponentThread) :
    ((s.setContinuation c value).setThread thread threadValue).continuations c = some value := by
  simp

theorem setThread_threads_apply (s : Sys) (thread thread' : ThreadId) (value : ComponentThread) :
    (s.setThread thread value).threads thread' =
      if thread' = thread then value else s.threads thread' := by
  simp only [setThread_threads, Function.update_apply]

/-- A thread is between tasks: it runs no continuation's code and completes no wake. -/
def Idle (s : Sys) (thread : ThreadId) : Prop :=
  (s.threads thread).running = none ∧ (s.threads thread).wake = none

/-- Thread `thread` is executing the code of continuation `continuation`, whose state is
`value`, and has no wake to complete first. -/
structure Executes (s : Sys) (thread : ThreadId) (continuation : ContinuationId)
    (value : SerializedAsynchronousContinuation) : Prop where
  alive : s.aborted = none
  noWake : (s.threads thread).wake = none
  running : (s.threads thread).running = some continuation
  state : s.continuations continuation = some value

/-- A step that changes neither the aborted flag, the threads nor the continuations keeps a
thread executing. -/
theorem Executes.congr {s s' : Sys} {thread : ThreadId} {continuation : ContinuationId}
    {value : SerializedAsynchronousContinuation} (executes : s.Executes thread continuation value)
    (aborted : s'.aborted = s.aborted) (threads : s'.threads = s.threads)
    (continuations : s'.continuations = s.continuations) : s'.Executes thread continuation value :=
  ⟨aborted.trans executes.alive, threads ▸ executes.noWake, threads ▸ executes.running,
    continuations ▸ executes.state⟩

end Sys

end Spinscale
