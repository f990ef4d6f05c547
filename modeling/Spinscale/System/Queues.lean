import Mathlib.Data.List.Nodup
import Mathlib.Data.List.Enum
import Spinscale.System.Scheduling

/-!
# Waiter-queue integrity

`registerInQutexQueues` inserts one node per LockUsage into its qutex's queue and stores the
iterator; `unregisterFromQutexQueues` erases them through those iterators after the LockSet was
acquired. In between, `backoff` may splice a node to another position of the same queue, which
keeps every iterator valid. A node is identified here with its LockUsage
`⟨continuation, usage⟩`, so iterator validity is the statement that each LockUsage's node is in
the queue exactly while the LockUsage is registered.

`Queues` says that every queue holds, without duplicates, exactly the nodes of the LockUsages
that are registered: those below the registration loop's counter, all of them from the end of
registration until `tryAcquireOrBackOff` succeeds, and those the unregistration loop has not yet
reached. Its consequences are that `tryAcquire` and `backoff` always find their own node, and so
a non-empty queue.
-/

namespace Spinscale

namespace Phase

/-- LockUsage `usage` has its node in its qutex's queue in this phase: registration has passed it
and unregistration has not reached it. -/
def Registered : Phase → Nat → Prop
  | .registering next, usage => usage < next
  | .unregistering next, usage => next ≤ usage
  | .untracking, _ | .invoked, _ | .releasing _, _ | .released, _ => False
  | _, _ => True

end Phase

namespace SerializedAsynchronousContinuation

/-- A LockUsage with a qutex is below the LockSet's size. -/
theorem lockAt_lt {k : SerializedAsynchronousContinuation} {usage : Nat} {qutex : QutexId}
    (lock : k.lockAt usage = some qutex) : usage < k.lockCount := by
  simp only [lockAt, Option.map_eq_some', List.getElem?_eq_some_iff] at lock
  obtain ⟨_, ⟨bound, -⟩, -⟩ := lock
  exact bound

/-- A LockUsage past the last one is at least the LockSet's size. -/
theorem lockCount_le {k : SerializedAsynchronousContinuation} {usage : Nat}
    (done : k.lockAt usage = none) : k.lockCount ≤ usage := by
  simpa [lockAt, lockCount] using done

/-- Marking a LockUsage released early keeps the qutex of every LockUsage. -/
theorem lockAt_markReleased {k : SerializedAsynchronousContinuation} {index : Nat}
    {usage : LockUsageDesc} (found : k.requiredLocks.locks[index]? = some usage) (usage' : Nat) :
    ({ k with requiredLocks := { k.requiredLocks with
        locks := k.requiredLocks.locks.set index { usage with hasBeenReleased := true } } } :
      SerializedAsynchronousContinuation).lockAt usage' = k.lockAt usage' := by
  simp only [lockAt, List.getElem?_set]
  split_ifs with hIndex hBound
  · subst hIndex
    simp [found]
  · exact absurd (List.getElem?_eq_some_iff.mp found).1 hBound
  · rfl

/-- LockUsage `usage` of the continuation names `qutex` and has its node in that qutex's queue. -/
def Waits (k : SerializedAsynchronousContinuation) (usage : Nat) (qutex : QutexId) : Prop :=
  k.lockAt usage = some qutex ∧ k.phase.Registered usage

/-- A new state that names the same qutexes and keeps every LockUsage registered or not keeps
the nodes. -/
theorem waits_congr {k k' : SerializedAsynchronousContinuation}
    (lockAt : ∀ usage, k'.lockAt usage = k.lockAt usage)
    (same : ∀ usage, usage < k.lockCount → (k'.phase.Registered usage ↔ k.phase.Registered usage))
    (usage : Nat) (qutex : QutexId) : k'.Waits usage qutex ↔ k.Waits usage qutex := by
  simp only [Waits, lockAt]
  constructor
  · rintro ⟨lock, registered⟩
    exact ⟨lock, (same usage (lockAt_lt lock)).mp registered⟩
  · rintro ⟨lock, registered⟩
    exact ⟨lock, (same usage (lockAt_lt lock)).mpr registered⟩

end SerializedAsynchronousContinuation

/-- `getLockUsageDesc` finds a LockUsage of the LockSet that names the qutex. -/
theorem getLockUsageDesc_spec {locks : List LockUsageDesc} {qutex : QutexId} {index : Nat}
    {usage : LockUsageDesc} (found : getLockUsageDesc locks qutex = some (index, usage)) :
    locks[index]? = some usage ∧ usage.qutex = qutex := by
  have member := List.mem_of_find?_eq_some found
  have names := List.find?_some found
  rw [List.mem_enum_iff_getElem?] at member
  exact ⟨member, by simpa using names⟩

namespace Sys

/-- The node `lockvoker` belongs in the queue of `qutex`. -/
def Waiting (s : Sys) (qutex : QutexId) (lockvoker : Lockvoker) : Prop :=
  ∃ k, s.continuations lockvoker.continuation = some k ∧ k.Waits lockvoker.usage qutex

theorem waiting_setContinuation (s : Sys) (c : ContinuationId)
    (value : SerializedAsynchronousContinuation) (qutex : QutexId) (lockvoker : Lockvoker) :
    (s.setContinuation c value).Waiting qutex lockvoker ↔
      if lockvoker.continuation = c then value.Waits lockvoker.usage qutex
      else s.Waiting qutex lockvoker := by
  simp only [Waiting, setContinuation_continuations, Function.update_apply]
  split_ifs <;> simp

end Sys

/-- Waiter-queue integrity, and the one fact about the backoff loop that its checks rely on: the
usage that failed exists. -/
structure Queues (s : Sys) : Prop where
  nodup : ∀ qutex, (s.qutexes qutex).queue.Nodup
  mem : ∀ qutex lockvoker, lockvoker ∈ (s.qutexes qutex).queue ↔ s.Waiting qutex lockvoker
  failed : ∀ c k, s.continuations c = some k → ∀ next nAcquired firstFailedQutex,
    k.phase = .backingOff next nAcquired firstFailedQutex →
      k.lockAt nAcquired = some firstFailedQutex

namespace Queues

/-- A fresh runtime has empty queues and no continuation. -/
theorem initial (deadlockTimeout : Nat) : Queues (Sys.initial deadlockTimeout) where
  nodup _ := List.nodup_nil
  mem _ _ := by simp [Sys.initial, Sys.Waiting, Qutex.empty]
  failed _ _ state := by cases state

/-- A step that only permutes queues and changes no continuation. -/
theorem congr {s s' : Sys} (h : Queues s)
    (queues : ∀ qutex, (s'.qutexes qutex).queue.Perm (s.qutexes qutex).queue)
    (continuations : s'.continuations = s.continuations) : Queues s' where
  nodup qutex := (queues qutex).nodup_iff.mpr (h.nodup qutex)
  mem qutex lockvoker := by
    rw [(queues qutex).mem_iff, h.mem qutex lockvoker, Sys.Waiting, Sys.Waiting, continuations]
  failed c k state := h.failed c k (continuations ▸ state)

/-- A step that changes no qutex and no continuation. -/
theorem frame {s s' : Sys} (h : Queues s) (qutexes : s'.qutexes = s.qutexes)
    (continuations : s'.continuations = s.continuations) : Queues s' :=
  h.congr (fun _ => qutexes ▸ List.Perm.refl _) continuations

/-- A qutex operation that only permutes its queue. -/
theorem setQutex {s : Sys} (h : Queues s) (qutex : QutexId) (value : Qutex)
    (perm : value.queue.Perm (s.qutexes qutex).queue) : Queues (s.setQutex qutex value) :=
  h.congr (fun _ => by
    rw [Sys.setQutex_qutexes, Function.update_apply]
    split_ifs with hq
    · exact hq ▸ perm
    · exact List.Perm.refl _) rfl

/-! Steps that touch no queue and no continuation. -/

theorem record {s : Sys} (h : Queues s) (event : Event) : Queues (s.record event) :=
  h.frame rfl rfl

theorem abort {s : Sys} (h : Queues s) (what : String) : Queues (s.abort what) :=
  h.frame rfl rfl

theorem setThread {s : Sys} (h : Queues s) (thread : ThreadId) (value : ComponentThread) :
    Queues (s.setThread thread value) :=
  h.frame rfl rfl

theorem setAcquisitionHistory {s : Sys} (h : Queues s) (history : AcquisitionHistory) :
    Queues (s.setAcquisitionHistory history) :=
  h.frame rfl rfl

theorem postTask {s : Sys} (h : Queues s) (thread : ThreadId) (task : Task) :
    Queues (s.postTask thread task) :=
  h.frame rfl rfl

/-- A new state for a continuation with the same registered LockUsages. -/
theorem setContinuation {s : Sys} {c : ContinuationId} {k k' : SerializedAsynchronousContinuation}
    (h : Queues s) (state : s.continuations c = some k)
    (waits : ∀ usage qutex, k'.Waits usage qutex ↔ k.Waits usage qutex)
    (failed : ∀ next nAcquired firstFailedQutex, k'.phase = .backingOff next nAcquired firstFailedQutex →
      k'.lockAt nAcquired = some firstFailedQutex) :
    Queues (s.setContinuation c k') where
  nodup := h.nodup
  mem qutex lockvoker := by
    rw [Sys.setContinuation_qutexes, h.mem qutex lockvoker]
    simp only [Sys.Waiting, Sys.setContinuation_continuations, Function.update_apply]
    split_ifs with hc
    · rw [hc, state]
      simp [waits]
    · rfl
  failed c' k'' hk := by
    rcases Sys.setContinuation_continuations_eq_some.mp hk with ⟨-, rfl⟩ | ⟨-, hk⟩
    · exact failed
    · exact h.failed c' k'' hk

/-- A change of phase that keeps the registered LockUsages and is no backoff loop. -/
theorem setPhase {s : Sys} {c : ContinuationId} {k : SerializedAsynchronousContinuation}
    {phase : Phase} (h : Queues s) (state : s.continuations c = some k)
    (same : ∀ usage, usage < k.lockCount → (phase.Registered usage ↔ k.phase.Registered usage))
    (notBackingOff : ∀ next nAcquired firstFailedQutex,
      phase ≠ .backingOff next nAcquired firstFailedQutex) :
    Queues (s.setContinuation c { k with phase := phase }) :=
  h.setContinuation state (SerializedAsynchronousContinuation.waits_congr (fun _ => rfl) same)
    fun _ _ _ hPhase => absurd hPhase (notBackingOff _ _ _)

/-- A qutex's queue after a step that changes it and the state of one continuation: the new queue
is what `Waiting` prescribes there, and nothing changes for the other qutexes. -/
theorem update {s : Sys} {c : ContinuationId} {k k' : SerializedAsynchronousContinuation}
    {qutex : QutexId} {value : Qutex} (h : Queues s) (state : s.continuations c = some k)
    (nodup : value.queue.Nodup)
    (mem : ∀ lockvoker, lockvoker ∈ value.queue ↔ (s.setContinuation c k').Waiting qutex lockvoker)
    (others : ∀ qutex', qutex' ≠ qutex → ∀ usage, k'.Waits usage qutex' ↔ k.Waits usage qutex')
    (failed : ∀ next nAcquired firstFailedQutex, k'.phase = .backingOff next nAcquired firstFailedQutex →
      k'.lockAt nAcquired = some firstFailedQutex) :
    Queues ((s.setQutex qutex value).setContinuation c k') where
  nodup qutex' := by
    simp only [Sys.setContinuation_qutexes, Sys.setQutex_qutexes, Function.update_apply]
    split_ifs
    · exact nodup
    · exact h.nodup qutex'
  mem qutex' lockvoker := by
    simp only [Sys.setContinuation_qutexes, Sys.setQutex_qutexes, Function.update_apply]
    split_ifs with hq
    · subst hq
      exact mem lockvoker
    · rw [h.mem, Sys.waiting_setContinuation]
      split_ifs with hc
      · obtain ⟨continuation, usage⟩ := lockvoker
        simp only at hc
        subst hc
        simp only [Sys.Waiting, state, Option.some.injEq, exists_eq_left']
        exact (others qutex' hq usage).symm
      · rfl
  failed c' k'' hk := by
    rcases Sys.setContinuation_continuations_eq_some.mp hk with ⟨-, rfl⟩ | ⟨-, hk⟩
    · exact failed
    · exact h.failed c' k'' hk

/-- `registerInQueue` of LockUsage `usage` appends its node, which no queue held. -/
theorem register {s : Sys} {thread : ThreadId} {c : ContinuationId}
    {k : SerializedAsynchronousContinuation} {usage : Nat} {qutex : QutexId} (h : Queues s)
    (executes : s.Executes thread c k) (phase : k.phase = .registering usage)
    (lock : k.lockAt usage = some qutex) : Queues (s.registerStep c k usage qutex) := by
  have unregistered : ∀ qutex', (⟨c, usage⟩ : Lockvoker) ∉ (s.qutexes qutex').queue := by
    intro qutex' member
    obtain ⟨k', hk, -, registered⟩ := (h.mem qutex' _).mp member
    cases executes.state.symm.trans hk
    rw [phase] at registered
    exact Nat.lt_irrefl _ registered
  refine h.update executes.state
    (List.nodup_append.mpr ⟨h.nodup qutex, List.nodup_singleton _,
      List.disjoint_singleton.mpr (unregistered qutex)⟩) (fun lockvoker => ?_)
    (fun qutex' hq usage' => ?_) (fun _ _ _ hPhase => by cases hPhase)
  · rw [Qutex.registerInQueue_queue, List.mem_append, h.mem, Sys.waiting_setContinuation,
      List.mem_singleton]
    obtain ⟨continuation, usage'⟩ := lockvoker
    by_cases hc : continuation = c
    · subst hc
      simp only [Sys.Waiting, executes.state, Option.some.injEq, exists_eq_left', if_true,
        SerializedAsynchronousContinuation.Waits, phase, Phase.Registered, Lockvoker.mk.injEq,
        true_and]
      constructor
      · rintro (⟨hLock, hLt⟩ | rfl)
        · exact ⟨hLock, by omega⟩
        · exact ⟨lock, by omega⟩
      · rintro ⟨hLock, hLe⟩
        rcases Nat.lt_or_eq_of_le (Nat.le_of_lt_succ hLe) with hLt | rfl
        · exact .inl ⟨hLock, hLt⟩
        · exact .inr rfl
    · simp [hc]
  · simp only [SerializedAsynchronousContinuation.Waits, phase, Phase.Registered]
    constructor
    · rintro ⟨hLock, hLe⟩
      refine ⟨hLock, ?_⟩
      rcases Nat.lt_or_eq_of_le (Nat.le_of_lt_succ hLe) with hLt | rfl
      · exact hLt
      · exact absurd (hLock.symm.trans lock) (fun hEq => hq (Option.some_injective _ hEq))
    · rintro ⟨hLock, hLt⟩
      exact ⟨hLock, by omega⟩

/-- `unregisterFromQueue` of LockUsage `next` erases its node, which its queue held. -/
theorem unregister {s : Sys} {thread : ThreadId} {c : ContinuationId}
    {k : SerializedAsynchronousContinuation} {next : Nat} {qutex : QutexId} (h : Queues s)
    (executes : s.Executes thread c k) (phase : k.phase = .unregistering next)
    (lock : k.lockAt next = some qutex) : Queues (s.unregisterStep c k next qutex) := by
  refine h.update executes.state ((h.nodup qutex).erase _) (fun lockvoker => ?_)
    (fun qutex' hq usage' => ?_) (fun _ _ _ hPhase => by cases hPhase)
  · rw [Qutex.unregisterFromQueue_queue, (h.nodup qutex).mem_erase_iff, h.mem,
      Sys.waiting_setContinuation]
    obtain ⟨continuation, usage'⟩ := lockvoker
    by_cases hc : continuation = c
    · subst hc
      simp only [Sys.Waiting, executes.state, Option.some.injEq, exists_eq_left', if_true,
        SerializedAsynchronousContinuation.Waits, phase, Phase.Registered, ne_eq,
        Lockvoker.mk.injEq, true_and]
      constructor
      · rintro ⟨hNe, hLock, hLe⟩
        exact ⟨hLock, by omega⟩
      · rintro ⟨hLock, hLt⟩
        exact ⟨by omega, hLock, by omega⟩
    · simp [hc]
  · simp only [SerializedAsynchronousContinuation.Waits, phase, Phase.Registered]
    constructor
    · rintro ⟨hLock, hLt⟩
      exact ⟨hLock, by omega⟩
    · rintro ⟨hLock, hLe⟩
      refine ⟨hLock, ?_⟩
      rcases Nat.lt_or_eq_of_le hLe with hLt | rfl
      · exact hLt
      · exact absurd (hLock.symm.trans lock) (fun hEq => hq (Option.some_injective _ hEq))

/-- A new continuation has no LockUsage registered yet. -/
theorem construct {s : Sys} {thread : ThreadId} (spec : ContinuationSpec) (h : Queues s)
    (sched : Scheduling s) : Queues (s.construct thread spec) := by
  have fresh := sched.fresh s.nextContinuation le_rfl
  unfold Sys.construct
  split
  · exact h.abort _
  · dsimp only
    refine Queues.setThread ?_ _ _
    refine ⟨h.nodup, fun qutex lockvoker => ?_, fun c' k' hk => ?_⟩
    · rw [Sys.setContinuation_qutexes, Sys.waiting_setContinuation]
      split_ifs with hc
      · simp only [SerializedAsynchronousContinuation.Waits, Phase.Registered,
          Nat.not_lt_zero, and_false, iff_false]
        rw [h.mem]
        rintro ⟨k', hk, -⟩
        rw [hc, fresh] at hk
        cases hk
      · exact h.mem qutex lockvoker
    · rcases Sys.setContinuation_continuations_eq_some.mp hk with ⟨-, rfl⟩ | ⟨-, hk⟩
      · intro _ _ _ hPhase
        cases hPhase
      · exact h.failed c' k' hk

/-- Every step keeps waiter-queue integrity. -/
theorem step {s s' : Sys} (h : Queues s) (sched : Scheduling s) (step : Step s s') : Queues s' := by
  cases step with
  | register executes phase lock => exact h.register executes phase lock
  | @finishRegistration thread c k usage executes phase done =>
    refine Queues.setThread ?_ _ _
    refine h.setContinuation executes.state
      (SerializedAsynchronousContinuation.waits_congr (fun _ => rfl) fun _ hLt => ?_) ?_
    · rw [phase]
      exact iff_of_true trivial (hLt.trans_le (SerializedAsynchronousContinuation.lockCount_le done))
    · rintro _ _ _ ⟨⟩
  | @exchange thread c k forceAwaken _ _ state =>
    refine Queues.setThread ?_ _ _
    exact h.setContinuation state (fun _ _ => Iff.rfl) (h.failed c k state)
  | post => exact ((h.setThread _ _).postTask _ _).record _
  | @dequeue thread task rest _ idle queue =>
    cases task with
    | callback => exact h.setThread _ _
    | lockvoker c =>
      obtain ⟨k, state, -, asleep, -, -, -⟩ := sched.dequeued idle queue
      simp only [Sys.dequeueStep, Sys.setThread_continuations, state, Sys.startOperator]
      split
      · exact ((h.setThread _ _).record _).abort _
      split
      · exact ((h.setThread _ _).record _).abort _
      split
      · exact ((h.setThread _ _).record _).abort _
      refine Queues.setThread ?_ _ _
      refine ((h.setThread _ _).record _).setContinuation state
        (SerializedAsynchronousContinuation.waits_congr (fun _ => rfl) ?_) ?_
      · rw [asleep]
        exact fun _ _ => Iff.rfl
      · rintro _ _ _ ⟨⟩
  | @tryAcquire thread c k next qutex executes phase lock =>
    have acquiring := h.setQutex qutex ((s.qutexes qutex).tryAcquire c k.lockCount).1
      (by rw [Qutex.tryAcquire_queue])
    have same : ∀ {phase' : Phase}, (∀ usage, phase'.Registered usage) → ∀ usage, usage < k.lockCount →
        (phase'.Registered usage ↔ k.phase.Registered usage) := fun registered usage _ =>
      iff_of_true (registered usage) (by rw [phase]; trivial)
    dsimp only [Sys.tryAcquireStep]
    split
    · exact (acquiring.record _).abort _
    · refine Queues.record ?_ _
      exact acquiring.setPhase executes.state (same fun _ => trivial) (by rintro _ _ _ ⟨⟩)
    · refine Queues.record ?_ _
      refine acquiring.setContinuation executes.state
        (SerializedAsynchronousContinuation.waits_congr (fun _ => rfl) (same fun _ => trivial)) ?_
      rintro _ _ _ ⟨⟩
      exact lock
  | @acquiredAll thread c k next executes phase =>
    have acquired : Queues (s.setContinuation c { k with
        requiredLocks := { k.requiredLocks with allLocksAcquired := true }
        phase := .unregistering 0 }) :=
      h.setContinuation executes.state
        (SerializedAsynchronousContinuation.waits_congr (fun _ => rfl) fun usage _ =>
          iff_of_true (Nat.zero_le usage) (by rw [phase]; trivial))
        (by rintro _ _ _ ⟨⟩)
    dsimp only [Sys.acquiredAllStep]
    split
    · exact acquired.record _
    · exact (acquired.record _).abort _
  | @backoff thread c k next nAcquired firstFailedQutex qutex executes phase _ _ =>
    have rotated := (h.setQutex qutex ((s.qutexes qutex).backoff c k.lockCount).1
      (Qutex.backoff_queue_perm _ _ _)).record (.backoff c qutex)
    dsimp only [Sys.backoffStep]
    split
    · exact rotated.abort _
    · refine Queues.setThread ?_ _ _
      refine rotated.setContinuation executes.state
        (SerializedAsynchronousContinuation.waits_congr (fun _ => rfl) ?_) ?_
      · rw [phase]
        exact fun _ _ => Iff.rfl
      · rintro _ _ _ ⟨⟩
        exact h.failed c k executes.state _ _ _ phase
  | finishBackoff executes phase =>
    refine h.setPhase executes.state ?_ (by rintro _ _ _ ⟨⟩)
    rw [phase]
    exact fun _ _ => Iff.rfl
  | @allowAwakening thread c k firstFailedQutex executes phase =>
    have allowed : ∀ phase' : Phase, (∀ usage, phase'.Registered usage) →
        (∀ next nAcquired firstFailedQutex', phase' ≠ .backingOff next nAcquired firstFailedQutex') →
        Queues (s.setContinuation c { k with isAwakeOrBeingAwakened := false, phase := phase' }) :=
      fun _ registered notBackingOff => h.setContinuation executes.state
        (SerializedAsynchronousContinuation.waits_congr (fun _ => rfl) fun usage _ =>
          iff_of_true (registered usage) (by rw [phase]; trivial))
        fun _ _ _ hPhase => absurd hPhase (notBackingOff _ _ _)
    unfold Sys.allowAwakeningStep
    split
    · exact allowed (.tracking firstFailedQutex) (fun _ => trivial) (by rintro _ _ _ ⟨⟩)
    · exact (allowed .asleep (fun _ => trivial) (by rintro _ _ _ ⟨⟩)).setThread _ _
  | track executes phase =>
    refine Queues.setThread ?_ _ _
    refine (h.setAcquisitionHistory _).setPhase executes.state ?_ (by rintro _ _ _ ⟨⟩)
    rw [phase]
    exact fun _ _ => Iff.rfl
  | unregister executes phase lock => exact h.unregister executes phase lock
  | @finishUnregistration thread c k next executes phase done =>
    have gone : ∀ {phase' : Phase}, (∀ usage, ¬ phase'.Registered usage) →
        ∀ usage, usage < k.lockCount → (phase'.Registered usage ↔ k.phase.Registered usage) :=
      fun unregistered usage hLt => iff_of_false (unregistered usage) (by
        rw [phase]
        exact Nat.not_le.mpr (hLt.trans_le (SerializedAsynchronousContinuation.lockCount_le done)))
    unfold Sys.finishUnregistration Sys.invokeStep
    split
    · exact h.setPhase executes.state (gone fun _ => id) (by rintro _ _ _ ⟨⟩)
    · refine Queues.record (Queues.setThread ?_ _ _) _
      exact h.setPhase executes.state (gone fun _ => id) (by rintro _ _ _ ⟨⟩)
  | untrack executes phase =>
    unfold Sys.untrackStep Sys.invokeStep
    refine Queues.record (Queues.setThread ?_ _ _) _
    refine (h.setAcquisitionHistory _).setPhase executes.state ?_ (by rintro _ _ _ ⟨⟩)
    rw [phase]
    exact fun _ _ => Iff.rfl
  | @release thread c k next usage executes phase _ =>
    have same : ∀ usage, usage < k.lockCount →
        ((Phase.releasing (next + 1)).Registered usage ↔ k.phase.Registered usage) := by
      rw [phase]
      exact fun _ _ => Iff.rfl
    unfold Sys.releaseStep
    split
    · exact h.setPhase executes.state same (by rintro _ _ _ ⟨⟩)
    · have released := (h.setQutex usage.qutex (s.qutexes usage.qutex).release.1
        (by rw [Qutex.release_queue])).record (.release c usage.qutex)
      dsimp only
      split
      · exact released.abort _
      · refine Queues.setThread ?_ _ _
        exact released.setPhase executes.state same (by rintro _ _ _ ⟨⟩)
  | finishRelease executes phase =>
    refine Sys.postedCallOriginalCb_cases _ _ _ (fun _ => Queues.postTask ?stopped _ _) ?stopped
    refine Queues.setThread ?_ _ _
    refine h.setContinuation executes.state
      (SerializedAsynchronousContinuation.waits_congr (fun _ => rfl) ?_) ?_
    · rw [phase]
      exact fun _ _ => Iff.rfl
    · rintro _ _ _ ⟨⟩
  | construct spec => exact h.construct spec sched
  | @callOriginalCb c k _ state idle =>
    unfold Sys.callOriginalCb
    split
    · exact h.abort _
    split
    · exact h.abort _
    rename_i acquired
    have invoked := sched.invoked_of_idle state idle.1
      ((sched.tracked c k state).consistent.acquired.mp (by simpa using acquired))
    refine Queues.setThread ?_ _ _
    refine h.setPhase state ?_ (by rintro _ _ _ ⟨⟩)
    rw [invoked]
    exact fun _ _ => Iff.rfl
  | @releaseQutexEarly c k qutex _ state idle =>
    unfold Sys.releaseQutexEarly
    split
    · exact h.abort _
    split
    · exact h.abort _
    rename_i index usage found
    obtain ⟨hUsage, -⟩ := getLockUsageDesc_spec found
    split
    · exact h
    have released := (h.setQutex usage.qutex (s.qutexes usage.qutex).release.1
      (by rw [Qutex.release_queue])).record (.release c usage.qutex)
    dsimp only
    split
    · exact released.abort _
    · refine Queues.setThread ?_ _ _
      have lockAt := SerializedAsynchronousContinuation.lockAt_markReleased hUsage
      exact released.setContinuation state
        (SerializedAsynchronousContinuation.waits_congr lockAt fun _ _ => Iff.rfl)
        fun _ nAcquired _ hPhase => (lockAt nAcquired).trans (h.failed c k state _ _ _ hPhase)
  | tick _ => exact h.frame rfl rfl

end Queues

/-- Every reachable state has intact waiter queues. -/
theorem Reachable.queues {s : Sys} (reachable : Reachable s) : Queues s := by
  induction reachable with
  | initial deadlockTimeout => exact .initial deadlockTimeout
  | step reachable step invariant => exact invariant.step reachable.scheduling step

/-- In every reachable state each qutex's queue holds, once each, exactly the nodes of the
LockUsages naming it that the registration loop has inserted and the unregistration loop has not
erased. So `tryAcquire`, `backoff` and `unregisterFromQueue` always find their own node. -/
theorem queues_hold_registered_lockUsages {s : Sys} (reachable : Reachable s) :
    (∀ qutex, (s.qutexes qutex).queue.Nodup) ∧
    (∀ qutex lockvoker, lockvoker ∈ (s.qutexes qutex).queue ↔ s.Waiting qutex lockvoker) ∧
    (∀ c k next qutex, s.continuations c = some k → k.phase = .acquiring next →
      k.lockAt next = some qutex → (⟨c, next⟩ : Lockvoker) ∈ (s.qutexes qutex).queue) ∧
    (∀ c k next nAcquired firstFailedQutex qutex, s.continuations c = some k →
      k.phase = .backingOff next nAcquired firstFailedQutex → k.lockAt next = some qutex →
      (⟨c, next⟩ : Lockvoker) ∈ (s.qutexes qutex).queue) ∧
    (∀ c k next qutex, s.continuations c = some k → k.phase = .unregistering next →
      k.lockAt next = some qutex → (⟨c, next⟩ : Lockvoker) ∈ (s.qutexes qutex).queue) := by
  have h := reachable.queues
  have own : ∀ {c k usage qutex}, s.continuations c = some k → k.Waits usage qutex →
      (⟨c, usage⟩ : Lockvoker) ∈ (s.qutexes qutex).queue :=
    fun state waits => (h.mem _ _).mpr ⟨_, state, waits⟩
  refine ⟨h.nodup, h.mem, fun c k _ _ state phase lock => own state ⟨lock, ?_⟩,
    fun c k _ _ _ _ state phase lock => own state ⟨lock, ?_⟩,
    fun c k _ _ state phase lock => own state ⟨lock, ?_⟩⟩ <;>
  simp [phase, Phase.Registered]

/-- One continuation on thread 0 that locks qutex 0, stopped after its `tryAcquireOrBackOff`
returned true and before `unregisterFromQutexQueues` erased its node. -/
def acquiredBeforeUnregistration : List Action :=
  [.construct 0 (.onThread 0 [0]), .execute 0, .execute 0, .execute 0, .execute 0,
    .dequeue 0, .execute 0, .execute 0]

/-- A node stays in its queue after the attempt that acquired the LockSet, until the same
execution's unregistration loop erases it. -/
theorem node_remains_after_successful_attempt :
    Reachable ((Sys.initial 100).run acquiredBeforeUnregistration) ∧
      Event.acquiredAll 0 ∈ ((Sys.initial 100).run acquiredBeforeUnregistration).trace ∧
      (⟨0, 0⟩ : Lockvoker) ∈
        (((Sys.initial 100).run acquiredBeforeUnregistration).qutexes 0).queue :=
  ⟨(Reachable.initial 100).run _, by decide⟩

/-- The queue of qutex 0 after `acquiredBeforeUnregistration`. -/
theorem queues_hold_registered_lockUsages_after_success :
    (((Sys.initial 100).run acquiredBeforeUnregistration).qutexes 0).queue.Nodup ∧
      ((⟨0, 0⟩ : Lockvoker) ∈ (((Sys.initial 100).run acquiredBeforeUnregistration).qutexes 0).queue ↔
        ((Sys.initial 100).run acquiredBeforeUnregistration).Waiting 0 ⟨0, 0⟩) :=
  have h := queues_hold_registered_lockUsages ((Reachable.initial 100).run acquiredBeforeUnregistration)
  ⟨h.1 0, h.2.1 0 _⟩

/-! ## The checks of `backoff`

The backoff loop calls `backoff` only on qutexes it acquired in the same attempt, each of which
is before the first failed one, so the LockSet has at least two LockUsages; and the waiter's node
is in the queue. Both entry checks of `backoff` therefore pass. Its last check, that the new front
is not the failed acquirer itself, compares continuations, and a LockSet that names a qutex twice
puts two nodes of one continuation in that queue. -/

/-- In every reachable state, the `backoff` of the backoff loop passes both entry checks: it
rotates, frees the qutex and ends in `wakeAfterBackoff`. -/
theorem backoff_passes_entry_checks {s : Sys} (reachable : Reachable s) {c : ContinuationId}
    {k : SerializedAsynchronousContinuation} {next nAcquired : Nat}
    {firstFailedQutex qutex : QutexId} (state : s.continuations c = some k)
    (phase : k.phase = .backingOff next nAcquired firstFailedQutex) (pending : next < nAcquired)
    (lock : k.lockAt next = some qutex) :
    (s.qutexes qutex).backoff c k.lockCount =
      ((s.qutexes qutex).rotatedAndFreed c k.lockCount,
        Qutex.wakeAfterBackoff (Qutex.rotateOnBackoff (s.qutexes qutex).queue c k.lockCount) c
          (s.qutexes qutex).queue.length) := by
  have h := reachable.queues
  have failed := SerializedAsynchronousContinuation.lockAt_lt (h.failed c k state _ _ _ phase)
  refine Qutex.backoff_of_mem _ c _ next ((h.mem _ _).mpr ⟨k, state, lock, ?_⟩) (by omega)
  rw [phase]
  trivial

/-- One continuation on thread 0 whose LockSet names qutex 0 twice and then qutex 1: it acquires
qutex 0 through its first LockUsage, fails on the second and backs off. -/
def repeatedQutexSchedule : List Action :=
  [.construct 0 (.onThread 0 [0, 0, 1]), .execute 0, .execute 0, .execute 0, .execute 0,
    .execute 0, .execute 0, .dequeue 0, .execute 0, .execute 0, .execute 0]

/-- A LockSet that names qutex 0 twice, backing off from it, aborts on `backoff`'s last check. -/
theorem backoff_front_error_with_repeated_qutex :
    Reachable ((Sys.initial 100).run repeatedQutexSchedule) ∧
      (((Sys.initial 100).run repeatedQutexSchedule).continuations 0).map
        SerializedAsynchronousContinuation.lockQutexes = some [0, 0, 1] ∧
      ((Sys.initial 100).run repeatedQutexSchedule).aborted = some backoffFrontAfterRotationError :=
  ⟨(Reachable.initial 100).run _, by decide⟩

end Spinscale
