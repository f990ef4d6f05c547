import Spinscale.System.State

/-!
# Atomic steps of the lock runtime

Each function below is one atomic step of a thread: one qutex operation under its spinlock, one
access to a continuation's `isAwakeOrBeingAwakened` flag, one post or dequeue of a task, or one
tracker operation under the tracker's spinlock. Purely local work of the thread (loop counters,
`firstFailedQutex`, the LockSet's flags, which no other thread reads) is folded into the
neighbouring shared step.

`Step` is the authoritative semantics: its constructors are the code's atomic steps, each with
the guard under which the code takes it, and they interleave freely across threads.
`Sys.next` is an interpreter that picks the step of one action; `next_step` shows it only ever
takes `Step`s, so runs of the interpreter are runs of the semantics.
-/

namespace Spinscale

/-- `operator()` on a thread other than its target. -/
def wrongThreadError : String :=
  "LockerAndInvoker::operator(): Thread safety violation - executing on wrong ComponentThread"

/-- `tryAcquireOrBackOff` before `registerInQutexQueues`. -/
def tryAcquireOrBackOffUnregisteredError : String :=
  "tryAcquireOrBackOff: LockSet::tryAcquireOrBackOff() called but not registered in Qutex queues"

/-- `tryAcquireOrBackOff` after the LockSet was acquired. -/
def tryAcquireOrBackOffAcquiredError : String :=
  "tryAcquireOrBackOff: LockSet::tryAcquireOrBackOff() called but allLocksAcquired is already true"

/-- `unregisterFromQutexQueues` before `registerInQutexQueues`. -/
def unregisterFromQutexQueuesError : String :=
  "unregisterFromQutexQueues: LockSet::unregisterFromQutexQueues() called but not registered in " ++
    "Qutex queues"

/-- `LockSet::release` before `registerInQutexQueues`. -/
def lockSetReleaseUnregisteredError : String :=
  "release: LockSet::release() called but not registered in Qutex queues"

/-- `LockSet::release` of a LockSet that is not acquired. -/
def lockSetReleaseUnacquiredError : String :=
  "release: LockSet::release() called but allLocksAcquired is false"

/-- `releaseQutexEarly` of a LockSet that is not acquired. -/
def releaseQutexEarlyError : String :=
  "releaseQutexEarly: LockSet::releaseQutexEarly() called but allLocksAcquired is false"

/-- `getLockUsageDesc` of a qutex outside the LockSet. -/
def getLockUsageDescError : String :=
  "getLockUsageDesc: Qutex not found in this LockSet"

/-- The `LockerAndInvoker` constructor after `traceContinuationHistoryForDeadlock` found a qutex
that a caller already holds. -/
def deadlockDetectedError : String :=
  "LockerAndInvoker::LockerAndInvoker(): Deadlock detected"

/-- `getLockUsageDesc(criterionLock)`: the first LockUsage naming the qutex, with its index. -/
def getLockUsageDesc (locks : List LockUsageDesc) (qutex : QutexId) :
    Option (Nat × LockUsageDesc) :=
  locks.enum.find? (·.2.qutex == qutex)

namespace Sys

/-- Replace the tracker's map. -/
@[simps]
def setAcquisitionHistory (s : Sys) (history : AcquisitionHistory) : Sys :=
  { s with acquisitionHistory := history }

/-- `registerInLockSet`: `registerInQueue` the lockvoker copy for LockUsage `usage`. -/
def registerStep (s : Sys) (c : ContinuationId) (k : SerializedAsynchronousContinuation)
    (usage : Nat) (qutex : QutexId) : Sys :=
  (s.setQutex qutex ((s.qutexes qutex).registerInQueue ⟨c, usage⟩)).setContinuation c
    { k with phase := .registering (usage + 1) }

/-- The end of `registerInLockSet` (`registeredInQutexQueues = true`) and the start of
`firstWake`'s forced `awaken(true)`. -/
def finishRegistration (s : Sys) (thread : ThreadId) (c : ContinuationId)
    (k : SerializedAsynchronousContinuation) : Sys :=
  (s.setContinuation c
      { k with
        requiredLocks := { k.requiredLocks with registeredInQutexQueues := true }
        phase := .asleep }).setThread thread
    { s.threads thread with running := none, wake := some (.exchange c true) }

/-- `awaken`'s `isAwakeOrBeingAwakened.exchange(true)`: an unforced wake that finds the flag
already set ends here; otherwise the post follows. -/
def exchangeStep (s : Sys) (thread : ThreadId) (c : ContinuationId)
    (k : SerializedAsynchronousContinuation) (forceAwaken : Bool) : Sys :=
  (s.setContinuation c { k with isAwakeOrBeingAwakened := true }).setThread thread
    { s.threads thread with
      wake := if k.isAwakeOrBeingAwakened && !forceAwaken then none else some (.post c) }

/-- `awaken`'s `target->getIoService().post(*this)`. -/
def postStep (s : Sys) (thread : ThreadId) (c : ContinuationId)
    (k : SerializedAsynchronousContinuation) : Sys :=
  ((s.setThread thread { s.threads thread with wake := none }).postTask k.target
    (.lockvoker c)).record (.post c)

/-- The start of `LockerAndInvoker::operator()`: the thread check, the sampling of
`gridlockLikely` (`isGridlockLikely()`), and `tryAcquireOrBackOff`'s two checks. -/
def startOperator (s : Sys) (thread : ThreadId) (c : ContinuationId)
    (k : SerializedAsynchronousContinuation) : Sys :=
  let s := s.record (.execute c)
  if thread ≠ k.target then s.abort wrongThreadError
  else if !k.requiredLocks.registeredInQutexQueues then
    s.abort tryAcquireOrBackOffUnregisteredError
  else if k.requiredLocks.allLocksAcquired then s.abort tryAcquireOrBackOffAcquiredError
  else
    (s.setContinuation c
        { k with
          phase := .acquiring 0
          gridlockLikely := decide (s.deadlockTimeout ≤ s.now - k.creationTimestamp) }).setThread
      thread { s.threads thread with running := some c }

/-- `io_service::run_one` on an idle thread: pop the head task and start it. An original
callback is application code, whose own steps are separate actions. -/
def dequeueStep (s : Sys) (thread : ThreadId) (task : Task) (rest : List Task) : Sys :=
  let s := s.setThread thread { s.threads thread with ioService := rest }
  match task with
  | .callback _ => s
  | .lockvoker c =>
    match s.continuations c with
    | none => s
    | some k => s.startOperator thread c k

/-- `tryAcquireOrBackOff`'s loop: `Qutex::tryAcquire` on LockUsage `next`; a failure records
`firstFailedQutex` and starts the backoff loop over the `next` qutexes acquired. -/
def tryAcquireStep (s : Sys) (c : ContinuationId) (k : SerializedAsynchronousContinuation)
    (next : Nat) (qutex : QutexId) : Sys :=
  let result := (s.qutexes qutex).tryAcquire c k.lockCount
  let s := s.setQutex qutex result.1
  match result.2 with
  | .threw what => (s.record (.tryAcquire c qutex false)).abort what
  | .returned true =>
    (s.setContinuation c { k with phase := .acquiring (next + 1) }).record
      (.tryAcquire c qutex true)
  | .returned false =>
    (s.setContinuation c { k with phase := .backingOff 0 next qutex }).record
      (.tryAcquire c qutex false)

/-- `tryAcquireOrBackOff` returns true (`allLocksAcquired = true`); `unregisterFromQutexQueues`
then checks that the LockSet is registered. -/
def acquiredAllStep (s : Sys) (c : ContinuationId) (k : SerializedAsynchronousContinuation) :
    Sys :=
  let s := (s.setContinuation c
      { k with
        requiredLocks := { k.requiredLocks with allLocksAcquired := true }
        phase := .unregistering 0 }).record (.acquiredAll c)
  if k.requiredLocks.registeredInQutexQueues then s else s.abort unregisterFromQutexQueuesError

/-- The backoff loop: `Qutex::backoff` on acquired qutex number `next`, then its wake. -/
def backoffStep (s : Sys) (thread : ThreadId) (c : ContinuationId)
    (k : SerializedAsynchronousContinuation) (next nAcquired : Nat)
    (firstFailedQutex qutex : QutexId) : Sys :=
  let result := (s.qutexes qutex).backoff c k.lockCount
  let s := (s.setQutex qutex result.1).record (.backoff c qutex)
  match result.2 with
  | .threw what => s.abort what
  | .returned wake =>
    (s.setContinuation c { k with phase := .backingOff (next + 1) nAcquired firstFailedQutex }).setThread
      thread { s.threads thread with wake := wake.map (Wake.exchange · false) }

/-- The end of the backoff loop: `tryAcquireOrBackOff` returns false. -/
def finishBackoff (s : Sys) (c : ContinuationId) (k : SerializedAsynchronousContinuation)
    (firstFailedQutex : QutexId) : Sys :=
  s.setContinuation c { k with phase := .allowing firstFailedQutex }

/-- `allowAwakening()` after a failed attempt; without `gridlockLikely` the execution returns
(`deadlockLikely` only gates diagnostics that change no state). -/
def allowAwakeningStep (s : Sys) (thread : ThreadId) (c : ContinuationId)
    (k : SerializedAsynchronousContinuation) (firstFailedQutex : QutexId) : Sys :=
  let s := s.setContinuation c
    { k with
      isAwakeOrBeingAwakened := false
      phase := if k.gridlockLikely then .tracking firstFailedQutex else .asleep }
  if k.gridlockLikely then s else s.setThread thread { s.threads thread with running := none }

/-- The gridlock branch: `addIfNotExists(this continuation, firstFailedQutex,
getAcquiredQutexHistory())`. The heuristic and complete traces that follow only read the tracker
and print, and the execution returns. -/
def trackStep (s : Sys) (thread : ThreadId) (c : ContinuationId)
    (k : SerializedAsynchronousContinuation) (firstFailedQutex : QutexId) : Sys :=
  ((s.setAcquisitionHistory
      (s.acquisitionHistory.addIfNotExists c firstFailedQutex
        (getAcquiredQutexHistory k.signature k.callers))).setContinuation c
      { k with phase := .asleep }).setThread thread { s.threads thread with running := none }

/-- `unregisterFromQutexQueues`: `unregisterFromQueue` the node of LockUsage `next`. -/
def unregisterStep (s : Sys) (c : ContinuationId) (k : SerializedAsynchronousContinuation)
    (next : Nat) (qutex : QutexId) : Sys :=
  (s.setQutex qutex ((s.qutexes qutex).unregisterFromQueue ⟨c, next⟩)).setContinuation c
    { k with phase := .unregistering (next + 1) }

/-- `invocationTarget()`: the body runs, and this execution of the lockvoker ends. -/
def invokeStep (s : Sys) (thread : ThreadId) (c : ContinuationId)
    (k : SerializedAsynchronousContinuation) : Sys :=
  ((s.setContinuation c { k with phase := .invoked }).setThread thread
    { s.threads thread with running := none }).record (.invoke c)

/-- The end of `unregisterFromQutexQueues`: an execution that sampled `gridlockLikely` removes
its continuation from the tracker next; any other invokes the body. -/
def finishUnregistration (s : Sys) (thread : ThreadId) (c : ContinuationId)
    (k : SerializedAsynchronousContinuation) : Sys :=
  if k.gridlockLikely then s.setContinuation c { k with phase := .untracking }
  else s.invokeStep thread c k

/-- The tracker's `remove` of a false positive, then the body. -/
def untrackStep (s : Sys) (thread : ThreadId) (c : ContinuationId)
    (k : SerializedAsynchronousContinuation) : Sys :=
  (s.setAcquisitionHistory (s.acquisitionHistory.remove c).1).invokeStep thread c k

/-- `LockSet::release`'s loop at LockUsage `next`: skip a qutex released early, otherwise
`Qutex::release` it and wake its front. -/
def releaseStep (s : Sys) (thread : ThreadId) (c : ContinuationId)
    (k : SerializedAsynchronousContinuation) (next : Nat) (usage : LockUsageDesc) : Sys :=
  if usage.hasBeenReleased then s.setContinuation c { k with phase := .releasing (next + 1) }
  else
    let result := (s.qutexes usage.qutex).release
    let s := (s.setQutex usage.qutex result.1).record (.release c usage.qutex)
    match result.2 with
    | .threw what => s.abort what
    | .returned wake =>
      (s.setContinuation c { k with phase := .releasing (next + 1) }).setThread thread
        { s.threads thread with wake := wake.map (Wake.exchange · false) }

/-- `PostedAsynchronousContinuation::callOriginalCb`: post the original callback to the caller's
thread, if its `callbackFn` is set. -/
def postedCallOriginalCb (s : Sys) (c : ContinuationId) (k : SerializedAsynchronousContinuation) :
    Sys :=
  if k.callbackFn then s.postTask k.caller (.callback c) else s

/-- What holds of the state with the callback posted, when it is set, and of the state without it
holds after `postedCallOriginalCb`. -/
theorem postedCallOriginalCb_cases {P : Sys → Prop} (s : Sys) (c : ContinuationId)
    (k : SerializedAsynchronousContinuation)
    (posted : k.callbackFn = true → P (s.postTask k.caller (.callback c))) (unposted : P s) :
    P (s.postedCallOriginalCb c k) := by
  unfold postedCallOriginalCb
  split
  · exact posted ‹_›
  · exact unposted

/-! Posting the callback changes only the caller's thread. -/

@[simp] theorem postedCallOriginalCb_qutexes (s : Sys) (c : ContinuationId)
    (k : SerializedAsynchronousContinuation) : (s.postedCallOriginalCb c k).qutexes = s.qutexes :=
  by unfold postedCallOriginalCb; split <;> rfl

@[simp] theorem postedCallOriginalCb_continuations (s : Sys) (c : ContinuationId)
    (k : SerializedAsynchronousContinuation) :
    (s.postedCallOriginalCb c k).continuations = s.continuations :=
  by unfold postedCallOriginalCb; split <;> rfl

@[simp] theorem postedCallOriginalCb_acquisitionHistory (s : Sys) (c : ContinuationId)
    (k : SerializedAsynchronousContinuation) :
    (s.postedCallOriginalCb c k).acquisitionHistory = s.acquisitionHistory :=
  by unfold postedCallOriginalCb; split <;> rfl

@[simp] theorem postedCallOriginalCb_trace (s : Sys) (c : ContinuationId)
    (k : SerializedAsynchronousContinuation) : (s.postedCallOriginalCb c k).trace = s.trace :=
  by unfold postedCallOriginalCb; split <;> rfl

@[simp] theorem postedCallOriginalCb_aborted (s : Sys) (c : ContinuationId)
    (k : SerializedAsynchronousContinuation) : (s.postedCallOriginalCb c k).aborted = s.aborted :=
  by unfold postedCallOriginalCb; split <;> rfl

/-- The end of `LockSet::release` (`allLocksAcquired = false`); `callOriginalCb` then posts the
original callback to the caller's thread. -/
def finishRelease (s : Sys) (thread : ThreadId) (c : ContinuationId)
    (k : SerializedAsynchronousContinuation) : Sys :=
  ((s.setContinuation c
      { k with
        requiredLocks := { k.requiredLocks with allLocksAcquired := false }
        phase := .released }).setThread thread
    { s.threads thread with running := none }).postedCallOriginalCb c k

/-- `SerializedAsynchronousContinuation::callOriginalCb`, called by the body on the target
thread: `LockSet::release`'s checks, then its loop. -/
def callOriginalCb (s : Sys) (c : ContinuationId) (k : SerializedAsynchronousContinuation) :
    Sys :=
  if !k.requiredLocks.registeredInQutexQueues then s.abort lockSetReleaseUnregisteredError
  else if !k.requiredLocks.allLocksAcquired then s.abort lockSetReleaseUnacquiredError
  else
    (s.setContinuation c { k with phase := .releasing 0 }).setThread k.target
      { s.threads k.target with running := some c }

/-- `releaseQutexEarly(qutex)` on the target thread: release the first LockUsage naming the qutex
unless it was already released early, then wake the qutex's front. -/
def releaseQutexEarly (s : Sys) (c : ContinuationId) (k : SerializedAsynchronousContinuation)
    (qutex : QutexId) : Sys :=
  if !k.requiredLocks.allLocksAcquired then s.abort releaseQutexEarlyError
  else
    match getLockUsageDesc k.requiredLocks.locks qutex with
    | none => s.abort getLockUsageDescError
    | some (index, usage) =>
      if usage.hasBeenReleased then s
      else
        let result := (s.qutexes usage.qutex).release
        let s := (s.setQutex usage.qutex result.1).record (.release c usage.qutex)
        match result.2 with
        | .threw what => s.abort what
        | .returned wake =>
          (s.setContinuation c
              { k with
                requiredLocks :=
                  { k.requiredLocks with
                    locks := k.requiredLocks.locks.set index { usage with hasBeenReleased := true } } }).setThread
            k.target { s.threads k.target with wake := wake.map (Wake.exchange · false) }

/-- Application code on `thread` constructs a serialized continuation and its
`LockerAndInvoker`: deadlock tracing over the callers, then `firstWake`'s
`isAwakeOrBeingAwakened.store(true)` and the start of `registerInLockSet`. -/
def construct (s : Sys) (thread : ThreadId) (spec : ContinuationSpec) : Sys :=
  match traceContinuationHistoryForDeadlock spec.signature spec.callers spec.lockSet with
  | some _ => s.abort deadlockDetectedError
  | none =>
    let c := s.nextContinuation
    (({ s with nextContinuation := c + 1 } : Sys).setContinuation c
        { requiredLocks :=
            { locks := spec.lockSet.map (⟨·, false⟩)
              allLocksAcquired := false
              registeredInQutexQueues := false }
          isAwakeOrBeingAwakened := true
          target := spec.target
          caller := spec.caller
          creationTimestamp := s.now
          signature := spec.signature
          callers := spec.callers
          callbackFn := spec.callbackFn
          phase := .registering 0
          gridlockLikely := false }).setThread
      thread { s.threads thread with running := some c }

/-- The steady clock advances by one millisecond. -/
@[simps]
def tick (s : Sys) : Sys := { s with now := s.now + 1 }

end Sys

/-- The atomic steps of the runtime, each under the guard the code takes it with. -/
inductive Step : Sys → Sys → Prop
  | register {s thread c k usage qutex} (executes : s.Executes thread c k)
      (phase : k.phase = .registering usage) (lock : k.lockAt usage = some qutex) :
      Step s (s.registerStep c k usage qutex)
  | finishRegistration {s thread c k usage} (executes : s.Executes thread c k)
      (phase : k.phase = .registering usage) (done : k.lockAt usage = none) :
      Step s (s.finishRegistration thread c k)
  | exchange {s thread c k forceAwaken} (alive : s.aborted = none)
      (wake : (s.threads thread).wake = some (.exchange c forceAwaken))
      (state : s.continuations c = some k) :
      Step s (s.exchangeStep thread c k forceAwaken)
  | post {s thread c k} (alive : s.aborted = none)
      (wake : (s.threads thread).wake = some (.post c)) (state : s.continuations c = some k) :
      Step s (s.postStep thread c k)
  | dequeue {s thread task rest} (alive : s.aborted = none) (idle : s.Idle thread)
      (queue : (s.threads thread).ioService = task :: rest) :
      Step s (s.dequeueStep thread task rest)
  | tryAcquire {s thread c k next qutex} (executes : s.Executes thread c k)
      (phase : k.phase = .acquiring next) (lock : k.lockAt next = some qutex) :
      Step s (s.tryAcquireStep c k next qutex)
  | acquiredAll {s thread c k next} (executes : s.Executes thread c k)
      (phase : k.phase = .acquiring next) (done : k.lockAt next = none) :
      Step s (s.acquiredAllStep c k)
  | backoff {s thread c k next nAcquired firstFailedQutex qutex} (executes : s.Executes thread c k)
      (phase : k.phase = .backingOff next nAcquired firstFailedQutex) (pending : next < nAcquired)
      (lock : k.lockAt next = some qutex) :
      Step s (s.backoffStep thread c k next nAcquired firstFailedQutex qutex)
  | finishBackoff {s thread c k next nAcquired firstFailedQutex} (executes : s.Executes thread c k)
      (phase : k.phase = .backingOff next nAcquired firstFailedQutex) (done : nAcquired ≤ next) :
      Step s (s.finishBackoff c k firstFailedQutex)
  | allowAwakening {s thread c k firstFailedQutex} (executes : s.Executes thread c k)
      (phase : k.phase = .allowing firstFailedQutex) :
      Step s (s.allowAwakeningStep thread c k firstFailedQutex)
  | track {s thread c k firstFailedQutex} (executes : s.Executes thread c k)
      (phase : k.phase = .tracking firstFailedQutex) :
      Step s (s.trackStep thread c k firstFailedQutex)
  | unregister {s thread c k next qutex} (executes : s.Executes thread c k)
      (phase : k.phase = .unregistering next) (lock : k.lockAt next = some qutex) :
      Step s (s.unregisterStep c k next qutex)
  | finishUnregistration {s thread c k next} (executes : s.Executes thread c k)
      (phase : k.phase = .unregistering next) (done : k.lockAt next = none) :
      Step s (s.finishUnregistration thread c k)
  | untrack {s thread c k} (executes : s.Executes thread c k) (phase : k.phase = .untracking) :
      Step s (s.untrackStep thread c k)
  | release {s thread c k next usage} (executes : s.Executes thread c k)
      (phase : k.phase = .releasing next) (lock : k.requiredLocks.locks[next]? = some usage) :
      Step s (s.releaseStep thread c k next usage)
  | finishRelease {s thread c k next} (executes : s.Executes thread c k)
      (phase : k.phase = .releasing next) (done : k.requiredLocks.locks[next]? = none) :
      Step s (s.finishRelease thread c k)
  | construct {s thread} (spec : ContinuationSpec) (alive : s.aborted = none)
      (idle : s.Idle thread) :
      Step s (s.construct thread spec)
  | callOriginalCb {s c k} (alive : s.aborted = none) (state : s.continuations c = some k)
      (idle : s.Idle k.target) :
      Step s (s.callOriginalCb c k)
  | releaseQutexEarly {s c k} (qutex : QutexId) (alive : s.aborted = none)
      (state : s.continuations c = some k) (idle : s.Idle k.target) :
      Step s (s.releaseQutexEarly c k qutex)
  | tick {s} (alive : s.aborted = none) : Step s s.tick

/-- The states a run can reach from a freshly started runtime. -/
inductive Reachable : Sys → Prop
  | initial (deadlockTimeout : Nat) : Reachable (Sys.initial deadlockTimeout)
  | step {s s'} (reachable : Reachable s) (step : Step s s') : Reachable s'

/-! ## The interpreter -/

/-- What a scheduler can do next. -/
inductive Action where
  /-- The thread performs its next atomic step. -/
  | execute (thread : ThreadId)
  /-- The idle thread starts its next posted task. -/
  | dequeue (thread : ThreadId)
  /-- Application code on the idle thread constructs a serialized continuation. -/
  | construct (thread : ThreadId) (spec : ContinuationSpec)
  /-- The continuation's body completes its LockSet through `callOriginalCb`. -/
  | callOriginalCb (continuation : ContinuationId)
  /-- The continuation's body calls `releaseQutexEarly`. -/
  | releaseQutexEarly (continuation : ContinuationId) (qutex : QutexId)
  /-- Time passes. -/
  | tick
  deriving DecidableEq, Repr

/-- What application code on `thread` supplies for a continuation that targets the same thread,
completes there with a callback set, and has no caller chain. -/
def ContinuationSpec.onThread (thread : ThreadId) (lockSet : List QutexId) : ContinuationSpec where
  lockSet := lockSet
  target := thread
  caller := thread
  signature := 0
  callers := []
  callbackFn := true

namespace Sys

/-- Is the thread between tasks? -/
def isIdle (s : Sys) (thread : ThreadId) : Bool :=
  (s.threads thread).running.isNone && (s.threads thread).wake.isNone

/-- The next step of a continuation's code on `thread`, by its phase. -/
def advance (s : Sys) (thread : ThreadId) (c : ContinuationId)
    (k : SerializedAsynchronousContinuation) : Sys :=
  match k.phase with
  | .registering usage =>
    match k.lockAt usage with
    | some qutex => s.registerStep c k usage qutex
    | none => s.finishRegistration thread c k
  | .asleep => s
  | .acquiring next =>
    match k.lockAt next with
    | some qutex => s.tryAcquireStep c k next qutex
    | none => s.acquiredAllStep c k
  | .backingOff next nAcquired firstFailedQutex =>
    if next < nAcquired then
      match k.lockAt next with
      | some qutex => s.backoffStep thread c k next nAcquired firstFailedQutex qutex
      | none => s
    else s.finishBackoff c k firstFailedQutex
  | .allowing firstFailedQutex => s.allowAwakeningStep thread c k firstFailedQutex
  | .tracking firstFailedQutex => s.trackStep thread c k firstFailedQutex
  | .unregistering next =>
    match k.lockAt next with
    | some qutex => s.unregisterStep c k next qutex
    | none => s.finishUnregistration thread c k
  | .untracking => s.untrackStep thread c k
  | .invoked => s
  | .releasing next =>
    match k.requiredLocks.locks[next]? with
    | some usage => s.releaseStep thread c k next usage
    | none => s.finishRelease thread c k
  | .released => s

/-- The next atomic step of a thread: its pending wake first, then its continuation's code. -/
def executeThread (s : Sys) (thread : ThreadId) : Sys :=
  match (s.threads thread).wake with
  | some (.exchange c forceAwaken) =>
    match s.continuations c with
    | some k => s.exchangeStep thread c k forceAwaken
    | none => s
  | some (.post c) =>
    match s.continuations c with
    | some k => s.postStep thread c k
    | none => s
  | none =>
    match (s.threads thread).running with
    | none => s
    | some c =>
      match s.continuations c with
      | some k => s.advance thread c k
      | none => s

/-- Perform one action; an action that is not enabled leaves the state unchanged, and nothing
happens after the process aborted. -/
def next (s : Sys) (action : Action) : Sys :=
  if s.aborted.isSome then s
  else
    match action with
    | .execute thread => s.executeThread thread
    | .dequeue thread =>
      if s.isIdle thread then
        match (s.threads thread).ioService with
        | [] => s
        | task :: rest => s.dequeueStep thread task rest
      else s
    | .construct thread spec => if s.isIdle thread then s.construct thread spec else s
    | .callOriginalCb c =>
      match s.continuations c with
      | some k => if s.isIdle k.target then s.callOriginalCb c k else s
      | none => s
    | .releaseQutexEarly c qutex =>
      match s.continuations c with
      | some k => if s.isIdle k.target then s.releaseQutexEarly c k qutex else s
      | none => s
    | .tick => s.tick

/-- Run a schedule of actions. -/
def run (s : Sys) (actions : List Action) : Sys :=
  actions.foldl next s

/-- The interpreter's idle test decides `Idle`. -/
theorem isIdle_iff (s : Sys) (thread : ThreadId) : s.isIdle thread = true ↔ s.Idle thread := by
  simp [isIdle, Idle, Option.isNone_iff_eq_none]

/-- Every step the interpreter takes from a thread's code is a `Step`. -/
theorem advance_step {s : Sys} {thread : ThreadId} {c : ContinuationId}
    {k : SerializedAsynchronousContinuation} (executes : s.Executes thread c k) :
    s.advance thread c k = s ∨ Step s (s.advance thread c k) := by
  unfold advance
  split
  · rename_i usage phase
    split
    · exact .inr (.register executes phase ‹_›)
    · exact .inr (.finishRegistration executes phase ‹_›)
  · exact .inl rfl
  · rename_i next phase
    split
    · exact .inr (.tryAcquire executes phase ‹_›)
    · exact .inr (.acquiredAll executes phase ‹_›)
  · rename_i next nAcquired firstFailedQutex phase
    split
    · split
      · exact .inr (.backoff executes phase ‹_› ‹_›)
      · exact .inl rfl
    · exact .inr (.finishBackoff executes phase (Nat.le_of_not_lt ‹_›))
  · exact .inr (.allowAwakening executes ‹_›)
  · exact .inr (.track executes ‹_›)
  · rename_i next phase
    split
    · exact .inr (.unregister executes phase ‹_›)
    · exact .inr (.finishUnregistration executes phase ‹_›)
  · exact .inr (.untrack executes ‹_›)
  · exact .inl rfl
  · rename_i next phase
    split
    · exact .inr (.release executes phase ‹_›)
    · exact .inr (.finishRelease executes phase ‹_›)
  · exact .inl rfl

/-- Every action the interpreter performs is a `Step`, or nothing at all. -/
theorem next_step (s : Sys) (action : Action) : s.next action = s ∨ Step s (s.next action) := by
  unfold next
  split
  · exact .inl rfl
  · rename_i hAlive
    have alive : s.aborted = none := by simpa using hAlive
    split
    · rename_i thread
      unfold executeThread
      split
      · split
        · exact .inr (.exchange alive ‹_› ‹_›)
        · exact .inl rfl
      · split
        · exact .inr (.post alive ‹_› ‹_›)
        · exact .inl rfl
      · split
        · exact .inl rfl
        · split
          · exact advance_step ⟨alive, ‹_›, ‹_›, ‹_›⟩
          · exact .inl rfl
    · rename_i thread
      split
      · split
        · exact .inl rfl
        · exact .inr (.dequeue alive ((isIdle_iff s thread).mp ‹_›) ‹_›)
      · exact .inl rfl
    · rename_i thread spec
      split
      · exact .inr (.construct spec alive ((isIdle_iff s thread).mp ‹_›))
      · exact .inl rfl
    · split
      · split
        · exact .inr (.callOriginalCb alive ‹_› ((isIdle_iff s _).mp ‹_›))
        · exact .inl rfl
      · exact .inl rfl
    · rename_i c qutex
      split
      · split
        · exact .inr (.releaseQutexEarly qutex alive ‹_› ((isIdle_iff s _).mp ‹_›))
        · exact .inl rfl
      · exact .inl rfl
    · exact .inr (.tick alive)

end Sys

/-- A reachable state stays reachable under any action of the interpreter. -/
theorem Reachable.next {s : Sys} (reachable : Reachable s) (action : Action) :
    Reachable (s.next action) := by
  rcases s.next_step action with unchanged | step
  · rw [unchanged]
    exact reachable
  · exact .step reachable step

/-- Every state a schedule leads to from a reachable state is reachable. -/
theorem Reachable.run {s : Sys} (reachable : Reachable s) (actions : List Action) :
    Reachable (s.run actions) := by
  induction actions generalizing s with
  | nil => exact reachable
  | cons action rest inductionHypothesis => exact inductionHypothesis (reachable.next action)

end Spinscale
