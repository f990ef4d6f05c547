import Spinscale.System.Scheduling
import Spinscale.System.Progress
import Spinscale.Gridlock

/-!
# The acquisition history tracker across runs

In a debug build every execution of a lockvoker samples `gridlockLikely` (`isGridlockLikely()`:
the continuation is older than `CONFIG_DEBUG_QUTEX_DEADLOCK_TIMEOUT_MS`). A failed execution that
sampled it enters its continuation into the tracker (`addIfNotExists`), and a successful one that
sampled it calls `remove` after `unregisterFromQutexQueues` and before the body.

`Tracking` says what the tracker holds in every reachable state, phase by phase (`Phase.Tracked`):
a key is a continuation that sampled `gridlockLikely` and whose body has not run, and a lockvoker
asleep after an execution that sampled it is a key. Since the steady clock never goes back, a
sampled `gridlockLikely` stays true, so every later execution of a key samples it again and its
successful one removes it.

The tracker reaches only lockvokers that execute after their timeout. A failed execution that did
not sample `gridlockLikely` returns after `allowAwakening()` and drops the lockvoker, although the
class comment of `LockerAndInvoker` says that a lockvoker that cannot take its locks re-posts
itself: `waiter_never_tracked` shows a stranded lockvoker that failed before its timeout and is
never executed again.

The gridlock branch's complete trace reports exactly the dependency cycles of the entries as
recorded (`reachable_completelyTrace_iff`). An entry records the wanted lock of its continuation's
first timed-out failure, so a cycle of the current waits can go unreported
(`stale_wanted_lock_hides_cycle`).
-/

namespace Spinscale

namespace Phase

/-- The lockvoker is registered and its body has not run: from the end of `firstWake`'s
registration until the tracker's `remove` in its successful execution. -/
def Awaiting : Phase → Prop
  | .registering _ | .invoked | .releasing _ | .released => False
  | _ => True

/-- What the tracker holds of a continuation in each phase, given the `gridlockLikely` its latest
execution sampled and whether it is a key of the map: nothing before the first execution, exactly
the timed-out sleepers, at most the timed-out executions in progress, and nothing once the body
has run. The gridlock branch is only reached by an execution that sampled `gridlockLikely`. -/
def Tracked : Phase → Bool → Bool → Prop
  | .registering _, gridlockLikely, key => gridlockLikely = false ∧ key = false
  | .asleep, gridlockLikely, key => key = gridlockLikely
  | .tracking _, gridlockLikely, _ => gridlockLikely = true
  | .invoked, _, key | .releasing _, _, key | .released, _, key => key = false
  | _, gridlockLikely, key => key = true → gridlockLikely = true

/-- A key sampled `gridlockLikely` and has not run its body. -/
theorem Tracked.key {phase : Phase} {gridlockLikely : Bool}
    (tracked : phase.Tracked gridlockLikely true) : gridlockLikely = true ∧ phase.Awaiting := by
  cases phase <;> simp_all [Tracked, Awaiting]

end Phase

/-- What the tracker and the clock say of continuation `c` in state `k`. -/
structure Sampled (s : Sys) (c : ContinuationId) (k : SerializedAsynchronousContinuation) :
    Prop where
  tracked : k.phase.Tracked k.gridlockLikely (s.acquisitionHistory.contains c)
  timedOut : k.gridlockLikely = true → s.deadlockTimeout ≤ s.now - k.creationTimestamp

/-- A step of the continuation's code that keeps its sample and moves it to a phase with the same
obligations. -/
theorem Sampled.withPhase {s : Sys} {c : ContinuationId} {k k' : SerializedAsynchronousContinuation}
    (sampled : Sampled s c k) (gridlockLikely : k'.gridlockLikely = k.gridlockLikely)
    (created : k'.creationTimestamp = k.creationTimestamp)
    (tracked : k.phase.Tracked k.gridlockLikely (s.acquisitionHistory.contains c) →
      k'.phase.Tracked k.gridlockLikely (s.acquisitionHistory.contains c)) :
    Sampled s c k' :=
  ⟨gridlockLikely ▸ tracked sampled.tracked, fun sampledTrue =>
    created ▸ sampled.timedOut (gridlockLikely ▸ sampledTrue)⟩

/-- The tracker invariant: the keys are distinct and name existing continuations, each of which
is `Sampled`. -/
structure Tracking (s : Sys) : Prop where
  nodup : s.acquisitionHistory.keys.Nodup
  absent : ∀ c, s.continuations c = none → s.acquisitionHistory.contains c = false
  sampled : ∀ c k, s.continuations c = some k → Sampled s c k

namespace Tracking

/-- A fresh runtime has an empty tracker and no continuation. -/
theorem initial (deadlockTimeout : Nat) : Tracking (Sys.initial deadlockTimeout) where
  nodup := List.nodup_nil
  absent _ _ := rfl
  sampled _ _ state := by cases state

/-- A step that keeps the map, the continuations and the timeout, and lets the clock run on. -/
theorem frame {s s' : Sys} (h : Tracking s)
    (history : s'.acquisitionHistory = s.acquisitionHistory)
    (continuations : s'.continuations = s.continuations)
    (deadlockTimeout : s'.deadlockTimeout = s.deadlockTimeout) (now : s.now ≤ s'.now) :
    Tracking s' where
  nodup := history ▸ h.nodup
  absent c state := history ▸ h.absent c (continuations ▸ state)
  sampled c k state := by
    have sampled := h.sampled c k (continuations ▸ state)
    refine ⟨history ▸ sampled.tracked, fun sampledTrue => ?_⟩
    have := sampled.timedOut sampledTrue
    omega

/-! Steps that keep the map, the continuations, the timeout and the clock. -/

theorem record {s : Sys} (h : Tracking s) (event : Event) : Tracking (s.record event) :=
  h.frame rfl rfl rfl le_rfl

theorem abort {s : Sys} (h : Tracking s) (what : String) : Tracking (s.abort what) :=
  h.frame rfl rfl rfl le_rfl

theorem setThread {s : Sys} (h : Tracking s) (thread : ThreadId) (value : ComponentThread) :
    Tracking (s.setThread thread value) :=
  h.frame rfl rfl rfl le_rfl

theorem setQutex {s : Sys} (h : Tracking s) (qutex : QutexId) (value : Qutex) :
    Tracking (s.setQutex qutex value) :=
  h.frame rfl rfl rfl le_rfl

theorem postTask {s : Sys} (h : Tracking s) (thread : ThreadId) (task : Task) :
    Tracking (s.postTask thread task) :=
  h.frame rfl rfl rfl le_rfl

/-- A new map that differs from the old one at most at key `c`, and a new state of `c` that the
new map and clock sample. -/
theorem update {s : Sys} {c : ContinuationId} {k k' : SerializedAsynchronousContinuation}
    (h : Tracking s) (state : s.continuations c = some k) (history : AcquisitionHistory)
    (nodup : history.keys.Nodup)
    (others : ∀ c', c' ≠ c → history.contains c' = s.acquisitionHistory.contains c')
    (sampled : Sampled (s.setAcquisitionHistory history) c k') :
    Tracking ((s.setAcquisitionHistory history).setContinuation c k') where
  nodup := nodup
  absent c' none' := by
    have other : c' ≠ c := by
      rintro rfl
      simp at none'
    rw [Sys.setContinuation_continuations_ne _ _ _ other] at none'
    exact (others c' other).trans (h.absent c' none')
  sampled c' k'' state' := by
    rcases Sys.setContinuation_continuations_eq_some.mp state' with ⟨rfl, rfl⟩ | ⟨other, state'⟩
    · exact ⟨sampled.tracked, sampled.timedOut⟩
    · have old := h.sampled c' k'' state'
      exact ⟨(others c' other).symm ▸ old.tracked, old.timedOut⟩

/-- A new state of `c` under the same map. -/
theorem setContinuation {s : Sys} {c : ContinuationId} {k k' : SerializedAsynchronousContinuation}
    (h : Tracking s) (state : s.continuations c = some k) (sampled : Sampled s c k') :
    Tracking (s.setContinuation c k') :=
  h.update state _ h.nodup (fun _ _ => rfl) sampled

/-- A step of the continuation's code that keeps its sample and the obligations of its phase. -/
theorem setPhase {s : Sys} {c : ContinuationId} {k k' : SerializedAsynchronousContinuation}
    (h : Tracking s) (state : s.continuations c = some k)
    (gridlockLikely : k'.gridlockLikely = k.gridlockLikely)
    (created : k'.creationTimestamp = k.creationTimestamp)
    (tracked : k.phase.Tracked k.gridlockLikely (s.acquisitionHistory.contains c) →
      k'.phase.Tracked k.gridlockLikely (s.acquisitionHistory.contains c)) :
    Tracking (s.setContinuation c k') :=
  h.setContinuation state ((h.sampled c k state).withPhase gridlockLikely created tracked)

/-- The start of an execution samples `gridlockLikely`; a key sampled it before, its timeout has
passed, and it samples it again. -/
theorem startOperator {s : Sys} {thread : ThreadId} {c : ContinuationId}
    {k : SerializedAsynchronousContinuation} (h : Tracking s) (state : s.continuations c = some k)
    (asleep : k.phase = .asleep) : Tracking (s.startOperator thread c k) := by
  have sampled := h.sampled c k state
  unfold Sys.startOperator
  split
  · exact (h.record _).abort _
  split
  · exact (h.record _).abort _
  split
  · exact (h.record _).abort _
  refine Tracking.setThread ?_ _ _
  refine (h.record _).setContinuation state ⟨fun key => ?_, of_decide_eq_true⟩
  have key : s.acquisitionHistory.contains c = true := key
  have tracked := sampled.tracked
  rw [asleep, key] at tracked
  exact decide_eq_true (sampled.timedOut tracked.symm)

/-- A new continuation is not a key and has sampled nothing. -/
theorem construct {s : Sys} {thread : ThreadId} (spec : ContinuationSpec) (h : Tracking s)
    (sched : Scheduling s) : Tracking (s.construct thread spec) := by
  have fresh := h.absent _ (sched.fresh s.nextContinuation le_rfl)
  unfold Sys.construct
  split
  · exact h.abort _
  · refine Tracking.setThread ?_ _ _
    refine ⟨h.nodup, fun c' none' => ?_, fun c' k' state' => ?_⟩
    · have other : c' ≠ s.nextContinuation := by
        rintro rfl
        simp at none'
      exact h.absent c' ((Sys.setContinuation_continuations_ne _ _ _ other).symm.trans none')
    · rcases Sys.setContinuation_continuations_eq_some.mp state' with ⟨rfl, rfl⟩ | ⟨-, state'⟩
      · exact ⟨⟨rfl, fresh⟩, nofun⟩
      · exact ⟨(h.sampled c' k' state').tracked, (h.sampled c' k' state').timedOut⟩

/-- Every step keeps the tracker invariant. -/
theorem step {s s' : Sys} (h : Tracking s) (sched : Scheduling s) (step : Step s s') :
    Tracking s' := by
  cases step with
  | register executes phase =>
    exact (h.setQutex _ _).setPhase executes.state rfl rfl (by rw [phase]; exact id)
  | @finishRegistration thread c k usage executes phase =>
    refine Tracking.setThread ?_ _ _
    refine h.setPhase executes.state rfl rfl ?_
    rw [phase]
    exact fun ⟨unsampled, absent⟩ => absent.trans unsampled.symm
  | @exchange thread c k _ _ _ state =>
    refine Tracking.setThread ?_ _ _
    exact h.setContinuation state ⟨(h.sampled c k state).tracked, (h.sampled c k state).timedOut⟩
  | post => exact ((h.setThread _ _).postTask _ _).record _
  | @dequeue thread task rest _ idle queue =>
    cases task with
    | callback => exact h.setThread _ _
    | lockvoker c =>
      obtain ⟨k, state, -, asleep, -, -, -⟩ := sched.dequeued idle queue
      simp only [Sys.dequeueStep, Sys.setThread_continuations, state]
      exact (h.setThread _ _).startOperator state asleep
  | @tryAcquire thread c k next qutex executes phase =>
    have acquiring := h.setQutex qutex ((s.qutexes qutex).tryAcquire c k.lockCount).1
    dsimp only [Sys.tryAcquireStep]
    split
    · exact (acquiring.record _).abort _
    · refine Tracking.record ?_ _
      exact acquiring.setPhase executes.state rfl rfl (by rw [phase]; exact id)
    · refine Tracking.record ?_ _
      exact acquiring.setPhase executes.state rfl rfl (by rw [phase]; exact id)
  | @acquiredAll thread c k next executes phase =>
    have acquired : Tracking (s.setContinuation c { k with
        requiredLocks := { k.requiredLocks with allLocksAcquired := true }
        phase := .unregistering 0 }) :=
      h.setPhase executes.state rfl rfl (by rw [phase]; exact id)
    dsimp only [Sys.acquiredAllStep]
    split
    · exact acquired.record _
    · exact (acquired.record _).abort _
  | @backoff thread c k next nAcquired firstFailedQutex qutex executes phase =>
    have rotated := (h.setQutex qutex ((s.qutexes qutex).backoff c k.lockCount).1).record
      (.backoff c qutex)
    dsimp only [Sys.backoffStep]
    split
    · exact rotated.abort _
    · refine Tracking.setThread ?_ _ _
      exact rotated.setPhase executes.state rfl rfl (by rw [phase]; exact id)
  | finishBackoff executes phase =>
    exact h.setPhase executes.state rfl rfl (by rw [phase]; exact id)
  | @allowAwakening thread c k firstFailedQutex executes phase =>
    have allowed : ∀ phase' : Phase,
        (k.gridlockLikely = true ∨ s.acquisitionHistory.contains c = false →
          phase'.Tracked k.gridlockLikely (s.acquisitionHistory.contains c)) →
        Tracking (s.setContinuation c { k with isAwakeOrBeingAwakened := false, phase := phase' }) :=
      fun _ tracked => h.setPhase executes.state rfl rfl fun keyed => tracked (by
        rw [phase] at keyed
        cases hKey : s.acquisitionHistory.contains c
        · exact .inr rfl
        · exact .inl (keyed hKey))
    unfold Sys.allowAwakeningStep
    split
    · rename_i sampledTrue
      exact allowed (.tracking firstFailedQutex) fun _ => sampledTrue
    · rename_i sampledFalse
      refine (allowed .asleep fun keyed => ?_).setThread _ _
      rcases keyed with sampledTrue | absent
      · exact absurd sampledTrue sampledFalse
      · show s.acquisitionHistory.contains c = k.gridlockLikely
        rw [absent, Bool.eq_false_iff.mpr sampledFalse]
  | @track thread c k firstFailedQutex executes phase =>
    have sampledTrue : k.gridlockLikely = true := by
      have tracked := (h.sampled c k executes.state).tracked
      rwa [phase] at tracked
    refine Tracking.setThread ?_ _ _
    refine h.update executes.state _ (AcquisitionHistory.nodup_keys_addIfNotExists h.nodup _ _ _)
      (fun c' other => ?_) ⟨?_, (h.sampled c k executes.state).timedOut⟩
    · rw [AcquisitionHistory.contains_addIfNotExists, beq_false_of_ne other, Bool.false_or]
    · simp only [Sys.setAcquisitionHistory_acquisitionHistory,
        AcquisitionHistory.contains_addIfNotExists, beq_self_eq_true, Bool.true_or, Phase.Tracked]
      exact sampledTrue.symm
  | unregister executes phase =>
    exact (h.setQutex _ _).setPhase executes.state rfl rfl (by rw [phase]; exact id)
  | @finishUnregistration thread c k next executes phase =>
    unfold Sys.finishUnregistration
    split
    · exact h.setPhase executes.state rfl rfl (by rw [phase]; exact id)
    · rename_i sampledFalse
      refine (Tracking.setThread ?_ _ _).record _
      refine h.setPhase executes.state rfl rfl fun keyed => ?_
      rw [phase] at keyed
      simp only [Phase.Tracked]
      cases hKey : s.acquisitionHistory.contains c
      · rfl
      · exact absurd (keyed hKey) sampledFalse
  | @untrack thread c k executes phase =>
    refine (Tracking.setThread ?_ _ _).record _
    refine h.update executes.state _ ?_ (fun c' other => ?_)
      ⟨?_, (h.sampled c k executes.state).timedOut⟩
    · rw [AcquisitionHistory.keys_remove]
      exact h.nodup.erase c
    · rw [AcquisitionHistory.contains_remove h.nodup, bne_iff_ne.mpr other, Bool.true_and]
    · simp only [Sys.setAcquisitionHistory_acquisitionHistory,
        AcquisitionHistory.contains_remove h.nodup, bne_self_eq_false, Bool.false_and,
        Phase.Tracked]
  | release executes phase =>
    unfold Sys.releaseStep
    split
    · exact h.setPhase executes.state rfl rfl (by rw [phase]; exact id)
    · dsimp only
      split
      · exact ((h.setQutex _ _).record _).abort _
      · refine Tracking.setThread ?_ _ _
        exact ((h.setQutex _ _).record _).setPhase executes.state rfl rfl (by rw [phase]; exact id)
  | finishRelease executes phase =>
    refine Sys.postedCallOriginalCb_cases _ _ _ (fun _ => Tracking.postTask ?stopped _ _) ?stopped
    refine Tracking.setThread ?_ _ _
    exact h.setPhase executes.state rfl rfl (by rw [phase]; exact id)
  | construct spec => exact h.construct spec sched
  | @callOriginalCb c k _ state idle =>
    unfold Sys.callOriginalCb
    split
    · exact h.abort _
    split
    · exact h.abort _
    · rename_i acquired
      have invoked := sched.invoked_of_idle state idle.1
        (((sched.tracked c k state).consistent.acquired).mp (by simpa using acquired))
      refine Tracking.setThread ?_ _ _
      refine h.setPhase state rfl rfl ?_
      rw [invoked]
      exact id
  | @releaseQutexEarly c k qutex _ state =>
    unfold Sys.releaseQutexEarly
    split
    · exact h.abort _
    split
    · exact h.abort _
    · dsimp only
      split
      · exact h
      · split
        · exact ((h.setQutex _ _).record _).abort _
        · refine Tracking.setThread ?_ _ _
          exact ((h.setQutex _ _).record _).setContinuation state
            ⟨(h.sampled c k state).tracked, (h.sampled c k state).timedOut⟩
  | tick => exact h.frame rfl rfl rfl (Nat.le_succ _)

end Tracking

/-- The tracker invariant holds in every reachable state. -/
theorem Reachable.tracking {s : Sys} (reachable : Reachable s) : Tracking s := by
  induction reachable with
  | initial deadlockTimeout => exact .initial deadlockTimeout
  | step reachable step invariant => exact invariant.step reachable.scheduling step

/-! ## What the tracker holds -/

/-- The tracker's keys: distinct, and each a continuation that sampled `gridlockLikely` after its
timeout had passed and whose body has not run. -/
structure KeysAwaitBody (s : Sys) : Prop where
  nodup : s.acquisitionHistory.keys.Nodup
  awaiting : ∀ c, s.acquisitionHistory.contains c = true → ∃ k, s.continuations c = some k ∧
    k.phase.Awaiting ∧ k.gridlockLikely = true ∧ s.deadlockTimeout ≤ s.now - k.creationTimestamp

/-- In every reachable state the tracker's keys are distinct, and each is a continuation that sampled
`gridlockLikely` after its timeout had passed and whose body has not run. -/
theorem reachable_keysAwaitBody {s : Sys} (reachable : Reachable s) : KeysAwaitBody s := by
  have h := reachable.tracking
  refine ⟨h.nodup, fun c key => ?_⟩
  cases state : s.continuations c with
  | none =>
    rw [h.absent c state] at key
    cases key
  | some k =>
    have sampled := h.sampled c k state
    obtain ⟨sampledTrue, awaiting⟩ := Phase.Tracked.key (key ▸ sampled.tracked)
    exact ⟨k, rfl, awaiting, sampledTrue, sampled.timedOut sampledTrue⟩

/-- With no timeout, `T` (continuation 0, `[0]`) acquires qutex 0 and its body returns; `L` (1,
`[0]`) fails on qutex 0 with `gridlockLikely` and is entered into the tracker. -/
def failedAfterTimeout : List Action :=
  [.construct 0 (.onThread 0 [0]), .execute 0, .execute 0, .execute 0, .execute 0,
   .construct 0 (.onThread 0 [0]), .execute 0, .execute 0, .execute 0, .execute 0,
   .dequeue 0, .execute 0, .execute 0, .execute 0, .execute 0, .execute 0,
   .dequeue 0, .execute 0, .execute 0, .execute 0, .execute 0]

/-- Then `T`'s completion releases qutex 0 and wakes `L`, whose next execution succeeds and
unregisters its LockUsage. -/
def trackedThenAcquired : List Action :=
  failedAfterTimeout ++
    [.callOriginalCb 0, .execute 0, .execute 0, .execute 0, .execute 0,
     .dequeue 0, .execute 0, .execute 0, .execute 0]

/-- Where `trackedThenAcquired` leads from a fresh runtime. -/
def acquiredWhileTracked : Sys :=
  (Sys.initial 0).run trackedThenAcquired

/-- The tracker's keys after `trackedThenAcquired`. -/
theorem keysAwaitBody_after_success : KeysAwaitBody acquiredWhileTracked :=
  reachable_keysAwaitBody ((Reachable.initial 0).run trackedThenAcquired)

/-- After `trackedThenAcquired`, continuation 1 is still a key of the tracker although it has
succeeded and its node is gone from qutex 0's queue: `remove` comes after the unregistration. -/
theorem tracker_key_after_success :
    Reachable acquiredWhileTracked ∧ acquiredWhileTracked.aborted = none ∧
      acquiredWhileTracked.acquisitionHistory.contains 1 = true ∧
      Event.acquiredAll 1 ∈ acquiredWhileTracked.trace ∧
      (acquiredWhileTracked.qutexes 0).queue = [] ∧
      (acquiredWhileTracked.continuations 1).map (·.phase) = some (.unregistering 1) :=
  ⟨(Reachable.initial 0).run _, by decide, by decide, by decide, by decide, by decide⟩

/-- `strandingSchedule` under a timeout of one millisecond, which passes after it. -/
def strandedAfterTimeout : Sys :=
  (Sys.initial 1).run (strandingSchedule ++ [.tick])

set_option maxRecDepth 2000 in
/-- After `strandingSchedule` and one tick past the timeout, the two waiters of thread 0 are asleep
in the queue of qutex 0 without having sampled `gridlockLikely`, the thread has nothing posted,
and no run of its own steps ever enters them into the tracker. -/
theorem waiter_never_tracked :
    Reachable strandedAfterTimeout ∧ strandedAfterTimeout.aborted = none ∧
      (strandedAfterTimeout.threads 0).ioService = [] ∧ strandedAfterTimeout.Dormant [0] ∧
      strandedAfterTimeout.nextContinuation = 3 ∧
      (strandedAfterTimeout.continuations 0).map (·.phase) = some .released ∧
      strandedAfterTimeout.deadlockTimeout = 1 ∧ strandedAfterTimeout.now = 1 ∧
      (strandedAfterTimeout.continuations 1).map
          (fun k => (k.phase, k.gridlockLikely, k.creationTimestamp)) = some (.asleep, false, 0) ∧
      (strandedAfterTimeout.continuations 2).map
          (fun k => (k.phase, k.gridlockLikely, k.creationTimestamp)) = some (.asleep, false, 0) ∧
      ⟨1, 1⟩ ∈ (strandedAfterTimeout.qutexes 0).queue ∧
      ⟨2, 0⟩ ∈ (strandedAfterTimeout.qutexes 0).queue ∧
      ∀ actions, (∀ action ∈ actions, action.Internal [0]) →
        (strandedAfterTimeout.run actions).acquisitionHistory = [] ∧
          (strandedAfterTimeout.run actions).qutexes = strandedAfterTimeout.qutexes :=
  have stuck : strandedAfterTimeout.Dormant [0] := by decide
  have empty : strandedAfterTimeout.acquisitionHistory = [] := by decide
  ⟨(Reachable.initial 1).run _, by decide, by decide, stuck, by decide, by decide, by decide,
    by decide, by decide, by decide, by decide, by decide, fun _ internal =>
      have unchanged := Sys.run_internal stuck internal
      ⟨unchanged.acquisitionHistory.trans empty, unchanged.qutexes⟩⟩

/-! ## The gridlock branch -/

/-- The gridlock branch of an execution updates the tracker as `gridlockBranch` does; its two
traces only read the map. -/
theorem trackStep_acquisitionHistory (s : Sys) (thread : ThreadId) (c : ContinuationId)
    (k : SerializedAsynchronousContinuation) (firstFailedQutex : QutexId) :
    (s.trackStep thread c k firstFailedQutex).acquisitionHistory =
      (s.acquisitionHistory.gridlockBranch c firstFailedQutex
        (getAcquiredQutexHistory k.signature k.callers)).1 :=
  rfl

/-- In every reachable state the complete trace of the gridlock branch reports a gridlock exactly
when the entries as recorded have a dependency cycle. -/
theorem reachable_completelyTrace_iff {s : Sys} (reachable : Reachable s)
    (firstFailedQutex : QutexId) :
    s.acquisitionHistory.completelyTraceContinuationHistoryForGridlockOn firstFailedQutex = true ↔
      ∃ c, Relation.TransGen s.acquisitionHistory.Depends c c :=
  AcquisitionHistory.completelyTrace_iff reachable.tracking.nodup firstFailedQutex

/-- Construct a continuation on thread 0 whose LockSet is `[qutex]`, and post its lockvoker. -/
def constructHolder (qutex : QutexId) : List Action :=
  [.construct 0 (.onThread 0 [qutex]), .execute 0, .execute 0, .execute 0, .execute 0]

/-- With no timeout: continuations 0, 1 and 2 acquire qutexes 0, 1 and 2 and their bodies return.
`C` (3, LockSet `[0, 1]`, a caller holding qutex 2) fails on qutex 0 and enters the tracker wanting
qutex 0; `D` (4, LockSet `[2]`, a caller holding qutex 1) fails on qutex 2 and enters it. Then
continuation 0 completes and wakes `C`, which acquires qutex 0, fails on qutex 1, backs off and
reaches its gridlock branch. -/
def staleSchedule : List Action :=
  constructHolder 0 ++ constructHolder 1 ++ constructHolder 2 ++
  [.dequeue 0, .execute 0, .execute 0, .execute 0, .execute 0, .execute 0,
   .dequeue 0, .execute 0, .execute 0, .execute 0, .execute 0, .execute 0,
   .dequeue 0, .execute 0, .execute 0, .execute 0, .execute 0, .execute 0,
   .construct 0 { lockSet := [0, 1], target := 0, caller := 0, signature := 0,
                  callers := [.serialized 0 [2]], callbackFn := true },
   .execute 0, .execute 0, .execute 0, .execute 0, .execute 0,
   .dequeue 0, .execute 0, .execute 0, .execute 0, .execute 0,
   .construct 0 { lockSet := [2], target := 0, caller := 0, signature := 0,
                  callers := [.serialized 0 [1]], callbackFn := true },
   .execute 0, .execute 0, .execute 0, .execute 0,
   .dequeue 0, .execute 0, .execute 0, .execute 0, .execute 0,
   .callOriginalCb 0, .execute 0, .execute 0, .execute 0, .execute 0,
   .dequeue 0, .execute 0, .execute 0, .execute 0, .execute 0, .execute 0]

/-- Where `staleSchedule` leads from a fresh runtime. -/
def staleEntry : Sys :=
  (Sys.initial 0).run staleSchedule

/-- The complete trace at `staleEntry`. -/
theorem completelyTrace_iff_at_staleEntry :
    staleEntry.acquisitionHistory.completelyTraceContinuationHistoryForGridlockOn 1 = true ↔
      ∃ c, Relation.TransGen staleEntry.acquisitionHistory.Depends c c :=
  reachable_completelyTrace_iff ((Reachable.initial 0).run staleSchedule) 1

set_option maxRecDepth 2000 in
/-- At `staleEntry` continuation 4 waits on qutex 2, held by 3, while 3 waits on qutex 1, held by
4; the tracker still records 4's first wanted lock, qutex 2, and 3's gridlock branch reports no
gridlock. -/
theorem stale_wanted_lock_hides_cycle :
    Reachable staleEntry ∧ staleEntry.aborted = none ∧
      (staleEntry.continuations 3).map
          (fun k => (k.phase, k.gridlockLikely, getAcquiredQutexHistory k.signature k.callers)) =
        some (.tracking 1, true, [2]) ∧
      (staleEntry.continuations 4).map
          (fun k => (k.phase, getAcquiredQutexHistory k.signature k.callers)) =
        some (.asleep, [1]) ∧
      Event.tryAcquire 4 2 false ∈ staleEntry.trace ∧
      staleEntry.acquisitionHistory = [(3, ⟨0, some [2]⟩), (4, ⟨2, some [1]⟩)] ∧
      staleEntry.acquisitionHistory.gridlockBranch 3 1 [2] =
        (staleEntry.acquisitionHistory, true, false) :=
  ⟨(Reachable.initial 0).run _, by decide, by decide, by decide, by decide, by decide,
    by decide⟩

end Spinscale
