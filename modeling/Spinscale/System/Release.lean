import Spinscale.System.AttemptSteps
import Spinscale.System.Ownership

/-!
# `callOriginalCb` and the exactly-once discipline

`SerializedAsynchronousContinuation::callOriginalCb` runs `LockSet::release`: after its two checks
the target thread releases each LockUsage not released early, one `Qutex::release` a step, and
completes the `awaken()` of the queue's front that each release leaves, before it posts the
original callback. `releaseLoop_steps` shows that the thread's own steps finish that loop from
any reachable state inside it: no release throws (`Ownership`), and each woken front is another
continuation with a record (`Queues`), so its wake completes (`Sys.wake_completes`).

`reachable_exactlyOnce` assembles the exactly-once discipline of a continuation: at most one
posted copy of its lockvoker, at most one success and no post after it, at most one run of the
body and only while it holds its LockSet, each qutex released at most once, and, once the body
has called `callOriginalCb`, every qutex of the LockSet exactly once.
-/

namespace Spinscale

/-- `release` names the front of the queue it keeps. -/
theorem Qutex.release_awakens_front {qutex value : Qutex} {awakened : ContinuationId}
    (result : qutex.release = (value, .returned (some awakened))) :
    ∃ front ∈ qutex.queue, front.continuation = awakened := by
  unfold Qutex.release at result
  split at result
  · cases result
  · split at result
    · cases result
    · rename_i front rest queue
      cases result
      exact ⟨front, by simp [queue], rfl⟩

/-! ## The release loop -/

/-- One step of `LockSet::release`'s loop, and the `awaken()` it leaves: the thread goes on at the
next LockUsage. -/
theorem release_steps {s : Sys} (reachable : Reachable s) {thread : ThreadId}
    {c : ContinuationId} {k : SerializedAsynchronousContinuation} {next : Nat}
    {usage : LockUsageDesc} (executes : s.Executes thread c { k with phase := .releasing next })
    (found : k.requiredLocks.locks[next]? = some usage) :
    ∃ steps, (s.runAlone thread steps).Executes thread c
      { k with phase := .releasing (next + 1) } := by
  have step : s.next (.execute thread) =
      s.releaseStep thread c { k with phase := .releasing next } next usage := by
    simp only [Sys.next_execute executes, Sys.advance, found]
  cases early : usage.hasBeenReleased
  · -- The LockUsage is still held: `Qutex::release` it.
    match result : (s.qutexes usage.qutex).release with
    | (value, .threw what) =>
      have aborted := (reachable.next (.execute thread)).ownership.noReleaseError
      rw [step] at aborted
      simp [Sys.releaseStep, early, result,
        Qutex.release_threw (show (s.qutexes usage.qutex).release.2 = .threw what by rw [result])]
        at aborted
    | (value, .returned wake) =>
      -- The state after the release, with the wake it leaves pending.
      set s₁ := ((((s.setQutex usage.qutex value).record (.release c usage.qutex)).setContinuation c
        { k with phase := .releasing (next + 1) }).setThread thread
          { ((s.setQutex usage.qutex value).record (.release c usage.qutex)).threads thread with
            wake := wake.map (Wake.exchange · false) }) with s₁_def
      have step₁ : s.next (.execute thread) = s₁ := by
        rw [step]
        simp only [Sys.releaseStep, early, result]
        rfl
      have running₁ : (s₁.threads thread).running = some c := by simp [s₁_def, executes.running]
      have state₁ : s₁.continuations c = some { k with phase := .releasing (next + 1) } := by
        simp [s₁_def]
      cases wake with
      | none =>
        refine ⟨1, ?_⟩
        rw [Sys.runAlone_succ, step₁, Sys.runAlone_zero]
        exact ⟨executes.alive, by simp [s₁_def], running₁, state₁⟩
      | some awakened =>
        -- The front that `release` names waits in the queue, so it is another continuation.
        obtain ⟨front, member, named⟩ := Qutex.release_awakens_front result
        have reachable₁ : Reachable s₁ := step₁ ▸ reachable.next _
        have queue : (s₁.qutexes usage.qutex).queue = (s.qutexes usage.qutex).queue := by
          simp [s₁_def, ← Qutex.release_queue (s.qutexes usage.qutex), result]
        obtain ⟨k', woken, waits⟩ :=
          (reachable₁.queues.mem usage.qutex front).mp (queue ▸ member)
        have other : awakened ≠ c := by
          rintro rfl
          rw [named, state₁] at woken
          cases woken
          exact waits.2
        rw [named] at woken
        obtain ⟨steps, executes₂, -⟩ := Sys.wake_completes
          (show s₁.aborted = none by simp [s₁_def, executes.alive]) (by simp [s₁_def]) running₁
          state₁ other woken
        refine ⟨1 + steps, ?_⟩
        rw [Sys.runAlone_add, Sys.runAlone_succ, step₁, Sys.runAlone_zero]
        exact executes₂
  · -- Released early: the loop skips it.
    refine ⟨1, ?_⟩
    rw [Sys.runAlone_succ, step, Sys.runAlone_zero]
    simp only [Sys.releaseStep, early, if_true]
    exact ⟨by simp [executes.alive], by simp [executes.noWake], by simp [executes.running],
      by simp⟩

/-- From any reachable state in `LockSet::release`'s loop, the thread's own steps finish the loop:
the continuation reaches `released` with its LockSet no longer acquired. -/
theorem releaseLoop_steps (thread : ThreadId) (c : ContinuationId)
    (k : SerializedAsynchronousContinuation) :
    ∀ (remaining next : Nat) (s : Sys), Reachable s → k.lockCount - next = remaining →
      s.Executes thread c { k with phase := .releasing next } →
      ∃ steps, (s.runAlone thread steps).continuations c =
        some { k with
          requiredLocks := { k.requiredLocks with allLocksAcquired := false }
          phase := .released }
  | 0, next, s, _, done, executes => by
    have past : k.requiredLocks.locks[next]? = none :=
      List.getElem?_eq_none_iff.mpr
        (by unfold SerializedAsynchronousContinuation.lockCount at done; omega)
    refine ⟨1, ?_⟩
    rw [Sys.runAlone_succ, Sys.next_execute executes, Sys.runAlone_zero]
    simp [Sys.advance, past, Sys.finishRelease]
  | remaining + 1, next, s, reachable, more, executes => by
    obtain ⟨usage, found⟩ : ∃ usage, k.requiredLocks.locks[next]? = some usage :=
      ⟨_, List.getElem?_eq_getElem
        (by unfold SerializedAsynchronousContinuation.lockCount at more; omega)⟩
    obtain ⟨steps, executes'⟩ := release_steps reachable executes found
    obtain ⟨steps', released⟩ := releaseLoop_steps thread c k remaining (next + 1) _
      (reachable.runAlone thread steps) (by omega) executes'
    exact ⟨steps + steps', by rw [Sys.runAlone_add]; exact released⟩

/-! ## Exactly-once bodies and releases -/

/-- The exactly-once discipline for continuation `c` in state `s`. -/
structure ExactlyOnce (s : Sys) (c : ContinuationId) : Prop where
  /-- A copy of its lockvoker is posted only on its target thread... -/
  queuedOnTarget : ∀ k, s.continuations c = some k → ∀ thread, thread ≠ k.target →
    (s.threads thread).ioService.count (.lockvoker c) = 0
  /-- ...and at most one copy. -/
  queuedAtMostOne : ∀ thread, (s.threads thread).ioService.count (.lockvoker c) ≤ 1
  /-- At most one execution sees `tryAcquireOrBackOff` return true... -/
  acquiredAllOnce : s.trace.count (.acquiredAll c) ≤ 1
  /-- ...and no copy of the lockvoker is posted after it. -/
  notPostedAfterSuccess : ∀ newer older, s.trace = newer ++ .acquiredAll c :: older →
    .post c ∉ newer
  /-- The body runs at most once... -/
  invokeOnce : s.trace.count (.invoke c) ≤ 1
  /-- ...and only while the continuation holds every qutex of its LockSet. -/
  invokedHolding : ∀ k, s.continuations c = some k → ∀ newer older,
    s.trace = newer ++ .invoke c :: older → ∀ qutex ∈ k.lockQutexes,
      Trace.holds c qutex older = true
  /-- Each qutex is released at most once, by `releaseQutexEarly` or `LockSet::release`... -/
  releaseOnce : ∀ qutex, s.trace.count (.release c qutex) ≤ 1
  /-- ...and, once the body has called `callOriginalCb`, every qutex of the LockSet exactly once:
  the target thread's own steps finish `LockSet::release` and leave the continuation
  `released`. -/
  releasedAll : ∀ k, s.continuations c = some k → k.phase = .invoked → s.aborted = none →
    s.Idle k.target → ∃ steps k',
      ((s.callOriginalCb c k).runAlone k.target steps).continuations c = some k' ∧
      k'.phase = .released ∧ ∀ qutex ∈ k.lockQutexes,
        ((s.callOriginalCb c k).runAlone k.target steps).trace.count (.release c qutex) = 1
  /-- A repeated `callOriginalCb` throws before releasing anything. -/
  repeatedCallOriginalCb : ∀ k, s.continuations c = some k → k.phase = .released →
    s.callOriginalCb c k = s.abort lockSetReleaseUnacquiredError

/-- Once the body has called `callOriginalCb`, the target thread's own steps release every qutex
of the LockSet, each exactly once, and leave the continuation `released`. -/
theorem callOriginalCb_releases_all {s : Sys} (reachable : Reachable s) {c : ContinuationId}
    {k : SerializedAsynchronousContinuation} (state : s.continuations c = some k)
    (invoked : k.phase = .invoked) (alive : s.aborted = none) (idle : s.Idle k.target) :
    ∃ steps k', ((s.callOriginalCb c k).runAlone k.target steps).continuations c = some k' ∧
      k'.phase = .released ∧ ∀ qutex ∈ k.lockQutexes,
        ((s.callOriginalCb c k).runAlone k.target steps).trace.count (.release c qutex) = 1 := by
  have consistent := (reachable.scheduling.tracked c k state).consistent
  have registered := consistent.registered.mpr (by simp [invoked, Phase.Registering])
  have acquired := consistent.acquired.mpr (by simp [invoked, Phase.Holding])
  have called := reachable.step (.callOriginalCb alive state idle)
  have executes : (s.callOriginalCb c k).Executes k.target c { k with phase := .releasing 0 } := by
    simp only [Sys.callOriginalCb, registered, acquired, Bool.not_true, Bool.false_eq_true, if_false]
    exact ⟨by simp [alive], by simp [idle.2], by simp, by simp⟩
  obtain ⟨steps, released⟩ :=
    releaseLoop_steps k.target c k k.lockCount 0 _ called (Nat.sub_zero _) executes
  have record := ((called.runAlone k.target steps).ownership).record c _ released
  exact ⟨steps, _, released, rfl, fun qutex member => Nat.le_antisymm (record.releaseOnce qutex)
    (List.count_pos_iff.mpr (record.releasedAll rfl qutex member))⟩

/-- In every reachable state, each continuation keeps the exactly-once discipline: one queued copy
of its lockvoker at most, on its target; one success at most, with no post after it; one run of
its body at most, holding its LockSet; each qutex released at most once, and all of them exactly
once after the body's `callOriginalCb`; and a repeated `callOriginalCb` throws. -/
theorem reachable_exactlyOnce {s : Sys} (reachable : Reachable s) (c : ContinuationId) :
    ExactlyOnce s c := by
  have h := reachable.ownership
  have sched := reachable.scheduling
  cases state : s.continuations c with
  | none =>
    have untouched := sched.untouched c state
    have unborn : ∀ k, s.continuations c ≠ some k := fun k hk => by
      rw [state] at hk
      cases hk
    have absent : ∀ event : Event, event.continuation = c → event ∉ s.trace :=
      fun _ own member => h.unborn c state _ member own
    have never : ∀ event : Event, event.continuation = c → s.trace.count event ≤ 1 :=
      fun event own => (List.count_eq_zero.mpr (absent event own)).trans_le (Nat.zero_le 1)
    refine ⟨fun k hk => absurd hk (unborn k), fun thread => (untouched.queued thread).trans_le
      (Nat.zero_le 1), never _ rfl, fun newer older split _ => absent (.acquiredAll c) rfl ?_,
      never _ rfl, fun k hk => absurd hk (unborn k), fun qutex => never (.release c qutex) rfl,
      fun k hk => absurd hk (unborn k), fun k hk => absurd hk (unborn k)⟩
    rw [split]
    exact List.mem_append_right _ (.head _)
  | some k =>
    have tracked := sched.tracked c k state
    have record := h.record c k state
    refine ⟨fun k' state' thread other => ?_, tracked.queuedAtMostOne, record.acquiredAllOnce,
      record.quietAfterSuccess, record.invokeOnce, fun k' state' => ?_, record.releaseOnce,
      fun k' state' invoked alive idle => ?_, fun k' state' released => ?_⟩ <;>
      rw [state] at state' <;> cases state'
    · exact Nat.eq_zero_of_not_pos fun queued => other (tracked.queued thread queued)
    · exact record.invokedHolding
    · exact callOriginalCb_releases_all reachable state invoked alive idle
    · have registered := tracked.consistent.registered.mpr (by simp [released, Phase.Registering])
      have acquired : k.requiredLocks.allLocksAcquired = false := by
        rw [← Bool.not_eq_true, tracked.consistent.acquired, released]
        exact id
      simp [Sys.callOriginalCb, registered, acquired]

/-- One continuation on thread 0 locking qutexes 0 and 1, run until its body has been invoked. -/
def bodyInvoked : List Action :=
  [.construct 0 (.onThread 0 [0, 1]), .execute 0, .execute 0, .execute 0, .execute 0, .execute 0,
    .dequeue 0, .execute 0, .execute 0, .execute 0, .execute 0, .execute 0, .execute 0]

/-- The exactly-once discipline after `bodyInvoked`, whose continuation 0 has its body invoked on an
idle thread, so that its `callOriginalCb` releases qutexes 0 and 1 once each. -/
theorem invoked_body_releases_once :
    ExactlyOnce ((Sys.initial 100).run bodyInvoked) 0 ∧
      ∃ k, ((Sys.initial 100).run bodyInvoked).continuations 0 = some k ∧ k.phase = .invoked ∧
        ((Sys.initial 100).run bodyInvoked).aborted = none ∧
        ((Sys.initial 100).run bodyInvoked).Idle k.target :=
  ⟨reachable_exactlyOnce ((Reachable.initial 100).run bodyInvoked) 0, _, rfl, by decide, by decide,
    (Sys.isIdle_iff _ _).mp (by decide)⟩

end Spinscale
