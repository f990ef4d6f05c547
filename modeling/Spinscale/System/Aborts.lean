import Spinscale.System.Ownership

/-!
# Why a run aborts

The runtime throws on every check it makes, and a throw ends the process (`Sys.abort`). Most of
those checks guard the runtime against itself: `operator()`'s thread and LockSet checks, the empty
queue of `tryAcquire` and `backoff`, `backoff`'s single-lock front, the registration check of
`unregisterFromQutexQueues`, and the release of an unowned qutex. None of them fires in any run.
A run aborts only through what application code supplies or calls: a LockSet that names a qutex a
caller holds, `callOriginalCb` or `releaseQutexEarly` outside an acquired body, or a LockSet that
names one qutex twice, which puts two nodes of one continuation in a queue and fails `backoff`'s
last check.

Every step requires a live process, so the step that aborts is the last one of a run, and the
invariants of the state before it (`Scheduling`, `Queues`, `Ownership`) rule out each check of the
runtime at its own site.
-/

namespace Spinscale

/-- The errors of application code: a LockSet that holds a qutex one of its callers holds, and
`callOriginalCb` or `releaseQutexEarly` called outside the body of an acquired continuation. -/
def applicationErrors : List String :=
  [deadlockDetectedError, lockSetReleaseUnregisteredError, lockSetReleaseUnacquiredError,
    releaseQutexEarlyError, getLockUsageDescError]

/-- With a LockSet that names each qutex once, a continuation that waits on a qutex has exactly
one node in its queue. -/
theorem Queues.countP_continuation {s : Sys} (h : Queues s) {c : ContinuationId}
    {k : SerializedAsynchronousContinuation} (state : s.continuations c = some k)
    (distinct : k.lockQutexes.Nodup) {qutex : QutexId} {usage : Nat}
    (member : ⟨c, usage⟩ ∈ (s.qutexes qutex).queue) :
    (s.qutexes qutex).queue.countP (·.continuation == c) = 1 := by
  obtain ⟨_, state', lock, -⟩ := (h.mem qutex _).mp member
  cases state.symm.trans state'
  have everyNode : ∀ node ∈ (s.qutexes qutex).queue.filter (·.continuation == c),
      node = ⟨c, usage⟩ := by
    rintro ⟨c', usage'⟩ found
    simp only [List.mem_filter, beq_iff_eq] at found
    obtain ⟨found, rfl⟩ := found
    obtain ⟨_, state'', lock', -⟩ := (h.mem qutex _).mp found
    cases state.symm.trans state''
    have distinct' : (k.lockQutexes.take k.lockCount).Nodup := by
      rwa [List.take_of_length_le (by simp [SerializedAsynchronousContinuation.lockQutexes,
        SerializedAsynchronousContinuation.lockCount])]
    rw [show usage' = usage from SerializedAsynchronousContinuation.lockAt_inj distinct'
      (SerializedAsynchronousContinuation.lockAt_lt lock')
      (SerializedAsynchronousContinuation.lockAt_lt lock) lock' lock]
  have single := List.nodup_replicate.mp
    (List.eq_replicate_iff.mpr ⟨rfl, everyNode⟩ ▸ (h.nodup qutex).filter _)
  have present : 0 < ((s.qutexes qutex).queue.filter (·.continuation == c)).length :=
    List.length_pos_of_mem (List.mem_filter.mpr ⟨member, by simp⟩)
  rw [List.countP_eq_length_filter]
  omega

/-- The step into an aborted state aborts with an error of application code, or with `backoff`'s
last check, on a continuation whose LockSet names a qutex twice: the `backoff` it records last. -/
theorem Step.abortReason {s s' : Sys} (reachable : Reachable s) (step : Step s s') {what : String}
    (aborted : s'.aborted = some what) :
    what ∈ applicationErrors ∨ what = backoffFrontAfterRotationError ∧
      ∃ c qutex k, s'.trace.head? = some (.backoff c qutex) ∧ s'.continuations c = some k ∧
        ¬ k.lockQutexes.Nodup := by
  have notUnowned : what ≠ releaseUnownedError := fun unowned =>
    (reachable.step step).ownership.noReleaseError (unowned ▸ aborted)
  have sched := reachable.scheduling
  have queues := reachable.queues
  cases step with
  | register executes => simp [Sys.registerStep, executes.alive] at aborted
  | finishRegistration executes => simp [Sys.finishRegistration, executes.alive] at aborted
  | exchange alive => simp [Sys.exchangeStep, alive] at aborted
  | post alive => simp [Sys.postStep, Sys.postTask, alive] at aborted
  | @dequeue thread task rest alive idle queue =>
    cases task with
    | callback => simp [Sys.dequeueStep, alive] at aborted
    | lockvoker c =>
      obtain ⟨k, state, target, -, -, registered, notAcquired⟩ := sched.dequeued idle queue
      simp [Sys.dequeueStep, Sys.startOperator, state, target, registered, notAcquired, alive]
        at aborted
  | @tryAcquire thread c k next qutex executes phase lock =>
    have waiting := (queues.mem qutex ⟨c, next⟩).mpr ⟨k, executes.state, lock, by rw [phase]; trivial⟩
    simp only [Sys.tryAcquireStep] at aborted
    split at aborted
    · rename_i threw
      rw [((Qutex.tryAcquire_threw_iff _ _ _ _).mp threw).1] at waiting
      cases waiting
    all_goals simp [executes.alive] at aborted
  | @acquiredAll thread c k next executes phase =>
    have registered := (sched.tracked c k executes.state).consistent.registered.mpr
      (by simp [phase, Phase.Registering])
    simp [Sys.acquiredAllStep, registered, executes.alive] at aborted
  | @backoff thread c k next nAcquired firstFailedQutex qutex executes phase pending lock =>
    simp only [Sys.backoffStep] at aborted
    split at aborted
    · rename_i what' threw
      cases (Option.some.inj aborted : what' = what)
      have entered := backoff_passes_entry_checks reachable executes.state phase pending lock
      refine .inr ⟨Qutex.wakeAfterBackoff_threw (entered ▸ threw), c, qutex, k,
        by simp [Sys.backoffStep, threw], by simp [Sys.backoffStep, threw, executes.state],
        fun distinct => ?_⟩
      have failed := SerializedAsynchronousContinuation.lockAt_lt
        (queues.failed c k executes.state _ _ _ phase)
      have once := queues.countP_continuation executes.state distinct
        ((queues.mem qutex ⟨c, next⟩).mpr ⟨k, executes.state, lock, by rw [phase]; trivial⟩)
      rw [Qutex.backoff_of_once _ _ _ (by omega) once] at threw
      cases threw
    · simp [executes.alive] at aborted
  | finishBackoff executes => simp [Sys.finishBackoff, executes.alive] at aborted
  | allowAwakening executes =>
    unfold Sys.allowAwakeningStep at aborted
    split at aborted <;> simp [executes.alive] at aborted
  | track executes => simp [Sys.trackStep, executes.alive] at aborted
  | unregister executes => simp [Sys.unregisterStep, executes.alive] at aborted
  | finishUnregistration executes =>
    unfold Sys.finishUnregistration at aborted
    split at aborted <;> simp [Sys.invokeStep, executes.alive] at aborted
  | untrack executes => simp [Sys.untrackStep, Sys.invokeStep, executes.alive] at aborted
  | release executes =>
    dsimp only [Sys.releaseStep] at aborted
    split at aborted
    · simp [executes.alive] at aborted
    · split at aborted
      · rename_i what' threw
        cases (Option.some.inj aborted : what' = what)
        exact absurd (Qutex.release_threw threw) notUnowned
      · simp [executes.alive] at aborted
  | finishRelease executes =>
    simp [Sys.finishRelease, Sys.postTask, executes.alive] at aborted
  | construct spec alive =>
    unfold Sys.construct at aborted
    split at aborted
    · cases (Option.some.inj aborted : deadlockDetectedError = what)
      simp [applicationErrors]
    · simp [alive] at aborted
  | callOriginalCb alive =>
    unfold Sys.callOriginalCb at aborted
    split_ifs at aborted
    all_goals first
      | cases (Option.some.inj aborted); simp [applicationErrors]
      | simp [alive] at aborted
  | releaseQutexEarly qutex alive =>
    dsimp only [Sys.releaseQutexEarly] at aborted
    split at aborted
    · cases (Option.some.inj aborted : releaseQutexEarlyError = what)
      simp [applicationErrors]
    split at aborted
    · cases (Option.some.inj aborted : getLockUsageDescError = what)
      simp [applicationErrors]
    split at aborted
    · simp [alive] at aborted
    split at aborted
    · rename_i what' threw
      cases (Option.some.inj aborted : what' = what)
      exact absurd (Qutex.release_threw threw) notUnowned
    · simp [alive] at aborted
  | tick alive => simp [alive] at aborted

/-- In every reachable state that has aborted, the error is one of application code, or the last
check of `backoff`, thrown by the last `backoff` of the run, whose continuation's LockSet names a
qutex twice. No check the runtime makes on its own behalf ever fires. -/
theorem aborted_only_by_application {s : Sys} (reachable : Reachable s) {what : String}
    (aborted : s.aborted = some what) :
    what ∈ applicationErrors ∨ what = backoffFrontAfterRotationError ∧
      ∃ c qutex k, s.trace.head? = some (.backoff c qutex) ∧ s.continuations c = some k ∧
        ¬ k.lockQutexes.Nodup := by
  cases reachable with
  | initial => cases aborted
  | step reachable step => exact step.abortReason reachable aborted

/-- A continuation on thread 0 that registers on qutex 0 and is posted; its body has not run when
application code calls `callOriginalCb`. -/
def earlyCallOriginalCb : List Action :=
  [.construct 0 (.onThread 0 [0]), .execute 0, .execute 0, .execute 0, .execute 0,
    .callOriginalCb 0]

/-- `callOriginalCb` before the body has run aborts with an error of application code. -/
theorem early_callOriginalCb_is_application_error :
    lockSetReleaseUnacquiredError ∈ applicationErrors ∨
      lockSetReleaseUnacquiredError = backoffFrontAfterRotationError ∧
        ∃ c qutex k, ((Sys.initial 100).run earlyCallOriginalCb).trace.head? =
            some (.backoff c qutex) ∧
          ((Sys.initial 100).run earlyCallOriginalCb).continuations c = some k ∧
          ¬ k.lockQutexes.Nodup :=
  aborted_only_by_application ((Reachable.initial 100).run earlyCallOriginalCb) (by decide)

end Spinscale
