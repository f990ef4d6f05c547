import Spinscale.System.Queues

/-!
# Qutex ownership and the history of each continuation

Who holds a qutex is read off the history variable: continuation `c` holds `q` when its last
`tryAcquire`, `backoff` or `release` on `q` was a `tryAcquire` that returned true
(`Trace.holds`). `Ownership` says that the qutex's own fields agree with this (`currOwner` names
the holder, `isOwned` says there is one), that every `backoff` and `release` was called by the
holder, and how often each continuation succeeded, ran its body and released each qutex.

Those facts hold in every reachable state, the aborted ones included. Their proof needs a second
set of facts that hold only while the process runs (`Holdings`): they say which qutexes a
continuation holds from where its code is, which is how `tryAcquireOrBackOff`, the unregistration
loop and `LockSet::release` decide what to release. The history facts (`Record`) are what the
exactly-once discipline of `Spinscale.System.Release` is built from.
-/

namespace Spinscale

namespace Event

/-- The continuation whose code the event belongs to. -/
def continuation : Event → ContinuationId
  | .tryAcquire c _ _ | .backoff c _ | .release c _ | .execute c | .acquiredAll c | .invoke c
  | .post c => c

/-- What the event does to continuation `c`'s hold on `qutex`: a `tryAcquire` that returned true
takes it, a `backoff` or a `release` gives it up. -/
def holding (c : ContinuationId) (qutex : QutexId) : Event → Option Bool
  | .tryAcquire c' qutex' true => if c' = c ∧ qutex' = qutex then some true else none
  | .backoff c' qutex' | .release c' qutex' => if c' = c ∧ qutex' = qutex then some false else none
  | _ => none

/-- An event that changes nothing of what continuation `c`'s phase says about its history: it
takes or gives up no hold of `c`, and is no success or invocation of `c`. -/
structure Silent (event : Event) (c : ContinuationId) : Prop where
  holding : ∀ qutex, event.holding c qutex = none
  notAcquiredAll : event ≠ .acquiredAll c
  notInvoke : event ≠ .invoke c

/-- A silent event that is not a post of `c`'s lockvoker either. -/
structure Quiet (event : Event) (c : ContinuationId) extends event.Silent c : Prop where
  notPost : event ≠ .post c

theorem quiet_of_continuation_ne {event : Event} {c : ContinuationId}
    (other : event.continuation ≠ c) : event.Quiet c where
  holding qutex := by
    cases event with
    | tryAcquire c' _ acquired => cases acquired <;> simp [holding, show c' ≠ c from other]
    | backoff c' _ | release c' _ => simp [holding, show c' ≠ c from other]
    | _ => rfl
  notAcquiredAll same := other (by rw [same]; rfl)
  notInvoke same := other (by rw [same]; rfl)
  notPost same := other (by rw [same]; rfl)

theorem quiet_execute (c : ContinuationId) : (Event.execute c).Quiet c :=
  ⟨⟨fun _ => rfl, by simp, by simp⟩, by simp⟩

theorem quiet_tryAcquire_false (c : ContinuationId) (qutex : QutexId) :
    (Event.tryAcquire c qutex false).Quiet c :=
  ⟨⟨fun _ => rfl, by simp, by simp⟩, by simp⟩

theorem silent_post (c c' : ContinuationId) : (Event.post c').Silent c :=
  ⟨fun _ => rfl, by simp, by simp⟩

theorem Silent.release_ne {event : Event} {c : ContinuationId} (silent : event.Silent c)
    (qutex : QutexId) : event ≠ .release c qutex := by
  rintro rfl
  simpa [Event.holding] using silent.holding qutex

end Event

namespace Trace

/-- Continuation `c` holds `qutex` after the history (newest event first): its last
`tryAcquire`, `backoff` or `release` on the qutex was a `tryAcquire` that returned true. -/
def holds (c : ContinuationId) (qutex : QutexId) : List Event → Bool
  | [] => false
  | event :: older => (event.holding c qutex).getD (holds c qutex older)

@[simp] theorem holds_nil (c : ContinuationId) (qutex : QutexId) : holds c qutex [] = false := rfl

theorem holds_cons_of_holding {c : ContinuationId} {qutex : QutexId} {event : Event}
    (quiet : event.holding c qutex = none) (older : List Event) :
    holds c qutex (event :: older) = holds c qutex older := by
  simp [holds, quiet]

@[simp] theorem holds_tryAcquire_self (c : ContinuationId) (qutex : QutexId) (older : List Event) :
    holds c qutex (.tryAcquire c qutex true :: older) = true := by
  simp [holds, Event.holding]

@[simp] theorem holds_backoff_self (c : ContinuationId) (qutex : QutexId) (older : List Event) :
    holds c qutex (.backoff c qutex :: older) = false := by
  simp [holds, Event.holding]

@[simp] theorem holds_release_self (c : ContinuationId) (qutex : QutexId) (older : List Event) :
    holds c qutex (.release c qutex :: older) = false := by
  simp [holds, Event.holding]

/-- Every `backoff` and `release` in the history (newest event first) was called by the holder of
its qutex. -/
def CallsByHolder : List Event → Prop
  | [] => True
  | event :: older =>
    (∀ c qutex, (event = .backoff c qutex ∨ event = .release c qutex) →
      holds c qutex older = true) ∧ CallsByHolder older

/-- A `backoff` or `release` anywhere in the history was called by the holder of its qutex. -/
theorem CallsByHolder.split {newer older : List Event} {event : Event}
    (calls : CallsByHolder (newer ++ event :: older)) {c : ContinuationId} {qutex : QutexId}
    (call : event = .backoff c qutex ∨ event = .release c qutex) : holds c qutex older = true := by
  induction newer with
  | nil => exact calls.1 c qutex call
  | cons _ newer inductionHypothesis => exact inductionHypothesis calls.2

/-- The history's splits at an event of the newer history `event :: trace`. -/
theorem cons_eq_append {event event' : Event} {trace newer older : List Event}
    (split : event :: trace = newer ++ event' :: older) :
    (newer = [] ∧ event = event' ∧ trace = older) ∨
      ∃ newer', newer = event :: newer' ∧ trace = newer' ++ event' :: older := by
  rcases List.cons_eq_append_iff.mp split with ⟨rfl, front⟩ | ⟨newer', rfl, rest⟩
  · cases front
    exact .inl ⟨rfl, rfl, rfl⟩
  · exact .inr ⟨newer', rfl, rest⟩

end Trace

namespace Phase

/-- `tryAcquireOrBackOff` has returned true for the continuation. -/
def Succeeded : Phase → Prop
  | .unregistering _ | .untracking | .invoked | .releasing _ | .released => True
  | _ => False

/-- The body of the continuation has been invoked. -/
def Invoked : Phase → Prop
  | .invoked | .releasing _ | .released => True
  | _ => False

/-- The continuation holds no qutex, has acquired none in its current attempt, and has not
succeeded. -/
def Empty : Phase → Prop
  | .acquiring next => next = 0
  | .registering _ | .asleep | .allowing _ | .tracking _ => True
  | _ => False

/-- The LockSet is acquired and `LockSet::release` has not started. -/
def Owning : Phase → Prop
  | .unregistering _ | .untracking | .invoked => True
  | _ => False

end Phase

namespace SerializedAsynchronousContinuation

/-- LockUsage `usage` exists and `releaseQutexEarly` has not released it. -/
def Unreleased (k : SerializedAsynchronousContinuation) (usage : Nat) : Prop :=
  ∃ desc, k.requiredLocks.locks[usage]? = some desc ∧ desc.hasBeenReleased = false

/-- The continuation holds the qutex of LockUsage `usage`, by where its code is: those acquired
so far by the acquisition loop, those the backoff loop has not reached, every LockUsage not
released early from success until `LockSet::release`, and there those its loop has not reached. -/
def HoldsAt (k : SerializedAsynchronousContinuation) (usage : Nat) : Prop :=
  match k.phase with
  | .acquiring next => usage < next
  | .backingOff next nAcquired _ => next ≤ usage ∧ usage < nAcquired
  | .unregistering _ | .untracking | .invoked => k.Unreleased usage
  | .releasing next => next ≤ usage ∧ k.Unreleased usage
  | _ => False

/-- The continuation holds `qutex` through one of its LockUsages. -/
def Holds (k : SerializedAsynchronousContinuation) (qutex : QutexId) : Prop :=
  ∃ usage, k.lockAt usage = some qutex ∧ k.HoldsAt usage

/-- The number of LockUsages acquired by the current attempt, or by the successful one. -/
def acquiredCount (k : SerializedAsynchronousContinuation) : Nat :=
  match k.phase with
  | .acquiring next => next
  | .backingOff _ nAcquired _ => nAcquired
  | .unregistering _ | .untracking | .invoked | .releasing _ | .released => k.lockCount
  | _ => 0

theorem lockAt_eq (k : SerializedAsynchronousContinuation) (usage : Nat) :
    k.lockAt usage = k.lockQutexes[usage]? := by
  simp [lockAt, lockQutexes]

/-- Two LockUsages among the first `count` name different qutexes when those are distinct. -/
theorem lockAt_inj {k : SerializedAsynchronousContinuation} {count usage usage' : Nat}
    {qutex : QutexId} (distinct : (k.lockQutexes.take count).Nodup) (below : usage < count)
    (below' : usage' < count) (lock : k.lockAt usage = some qutex)
    (lock' : k.lockAt usage' = some qutex) : usage = usage' := by
  rw [lockAt_eq, ← List.getElem?_take_of_lt below] at lock
  rw [lockAt_eq, ← List.getElem?_take_of_lt below'] at lock'
  obtain ⟨bound, hEq⟩ := List.getElem?_eq_some_iff.mp lock
  obtain ⟨bound', hEq'⟩ := List.getElem?_eq_some_iff.mp lock'
  exact (distinct.getElem_inj_iff).mp (hEq.trans hEq'.symm)

theorem lockAt_eq_some {k : SerializedAsynchronousContinuation} {usage : Nat} {qutex : QutexId} :
    k.lockAt usage = some qutex ↔
      ∃ desc, k.requiredLocks.locks[usage]? = some desc ∧ desc.qutex = qutex := by
  simp [lockAt]

theorem mem_lockQutexes {k : SerializedAsynchronousContinuation} {qutex : QutexId} :
    qutex ∈ k.lockQutexes ↔ ∃ usage, k.lockAt usage = some qutex := by
  simp only [lockAt_eq, List.mem_iff_getElem?]

theorem lockQutexes_markReleased {k : SerializedAsynchronousContinuation} {index : Nat}
    {usage : LockUsageDesc} (found : k.requiredLocks.locks[index]? = some usage) :
    ({ k with requiredLocks := { k.requiredLocks with
        locks := k.requiredLocks.locks.set index { usage with hasBeenReleased := true } } } :
      SerializedAsynchronousContinuation).lockQutexes = k.lockQutexes :=
  List.ext_getElem? fun usage' => by rw [← lockAt_eq, ← lockAt_eq, lockAt_markReleased found]

theorem not_holds_of_empty {k : SerializedAsynchronousContinuation} (empty : k.phase.Empty)
    (qutex : QutexId) : ¬ k.Holds qutex := by
  rintro ⟨usage, -, holdsAt⟩
  unfold HoldsAt at holdsAt
  cases phase : k.phase <;> rw [phase] at empty holdsAt
  all_goals first | exact holdsAt | exact empty.elim | (simp only [Phase.Empty] at empty; omega)

theorem acquiredCount_of_empty {k : SerializedAsynchronousContinuation} (empty : k.phase.Empty) :
    k.acquiredCount = 0 := by
  unfold acquiredCount
  cases phase : k.phase <;> rw [phase] at empty <;> first | rfl | exact empty | exact empty.elim

theorem unreleased_markReleased {k : SerializedAsynchronousContinuation} {index : Nat}
    {usage : LockUsageDesc} (found : k.requiredLocks.locks[index]? = some usage) (usage' : Nat) :
    ({ k with requiredLocks := { k.requiredLocks with
        locks := k.requiredLocks.locks.set index { usage with hasBeenReleased := true } } } :
      SerializedAsynchronousContinuation).Unreleased usage' ↔ k.Unreleased usage' ∧ usage' ≠ index := by
  have bound := (List.getElem?_eq_some_iff.mp found).1
  simp only [Unreleased, List.getElem?_set]
  by_cases hIndex : index = usage'
  · subst hIndex
    simp [bound]
  · simp [hIndex, Ne.symm hIndex]

/-- From success until the body runs, and while it runs, the continuation holds the qutex of
every LockUsage not released early. -/
theorem holdsAt_of_owning {k : SerializedAsynchronousContinuation} (owning : k.phase.Owning)
    (usage : Nat) : k.HoldsAt usage ↔ k.Unreleased usage := by
  unfold HoldsAt
  split <;> simp_all [Phase.Owning]

/-- Two owning states with the same LockUsages hold the same qutexes. -/
theorem holds_congr_of_owning {k k' : SerializedAsynchronousContinuation}
    (owning : k.phase.Owning) (owning' : k'.phase.Owning)
    (locks : k'.requiredLocks.locks = k.requiredLocks.locks) (qutex : QutexId) :
    k'.Holds qutex ↔ k.Holds qutex := by
  refine exists_congr fun usage => ?_
  rw [holdsAt_of_owning owning, holdsAt_of_owning owning']
  simp only [lockAt, Unreleased, locks]

theorem holds_congr {k k' : SerializedAsynchronousContinuation}
    (lockAt : ∀ usage, k'.lockAt usage = k.lockAt usage)
    (holdsAt : ∀ usage, k'.HoldsAt usage ↔ k.HoldsAt usage) (qutex : QutexId) :
    k'.Holds qutex ↔ k.Holds qutex :=
  exists_congr fun usage => by rw [lockAt, holdsAt]

theorem acquiredCount_of_succeeded {k : SerializedAsynchronousContinuation}
    (succeeded : k.phase.Succeeded) : k.acquiredCount = k.lockCount := by
  unfold acquiredCount
  split <;> simp_all [Phase.Succeeded]

end SerializedAsynchronousContinuation

/-- What the phase of continuation `c` in state `k` says about its holds and its history while
the process runs: the qutexes it holds, that those acquired by one attempt are distinct, that
nothing is released early before the body runs, and whether it succeeded, ran its body and
released each qutex of its LockSet. -/
structure Holdings (trace : List Event) (c : ContinuationId)
    (k : SerializedAsynchronousContinuation) : Prop where
  holds : ∀ qutex, Trace.holds c qutex trace = true ↔ k.Holds qutex
  distinct : (k.lockQutexes.take k.acquiredCount).Nodup
  unreleased : ¬ k.phase.Invoked → ∀ desc ∈ k.requiredLocks.locks, desc.hasBeenReleased = false
  acquiredAll : .acquiredAll c ∈ trace ↔ k.phase.Succeeded
  invoke : .invoke c ∈ trace ↔ k.phase.Invoked
  released : ∀ qutex,
    .release c qutex ∈ trace ↔ k.phase.Invoked ∧ qutex ∈ k.lockQutexes ∧ ¬ k.Holds qutex

/-- The history of continuation `c`, in state `k`: it succeeded at most once and its lockvoker was
not posted after that, its body ran at most once and then held every qutex of the LockSet, and
each qutex was released at most once, all of them once `LockSet::release` has completed. -/
structure Record (trace : List Event) (c : ContinuationId)
    (k : SerializedAsynchronousContinuation) : Prop where
  acquiredAllOnce : trace.count (.acquiredAll c) ≤ 1
  quietAfterSuccess : ∀ newer older, trace = newer ++ .acquiredAll c :: older → .post c ∉ newer
  invokeOnce : trace.count (.invoke c) ≤ 1
  invokedHolding : ∀ newer older, trace = newer ++ .invoke c :: older →
    ∀ qutex ∈ k.lockQutexes, Trace.holds c qutex older = true
  releaseOnce : ∀ qutex, trace.count (.release c qutex) ≤ 1
  releasedAll : k.phase = .released → ∀ qutex ∈ k.lockQutexes, .release c qutex ∈ trace

namespace Holdings

variable {trace : List Event} {c : ContinuationId} {k k' : SerializedAsynchronousContinuation}

theorem cons (h : Holdings trace c k) {event : Event} (silent : event.Silent c) :
    Holdings (event :: trace) c k where
  holds qutex := by rw [Trace.holds_cons_of_holding (silent.holding qutex), h.holds]
  distinct := h.distinct
  unreleased := h.unreleased
  acquiredAll := by rw [List.mem_cons, or_iff_right (Ne.symm silent.notAcquiredAll), h.acquiredAll]
  invoke := by rw [List.mem_cons, or_iff_right (Ne.symm silent.notInvoke), h.invoke]
  released qutex := by
    rw [List.mem_cons, or_iff_right (Ne.symm (silent.release_ne qutex)), h.released]

theorem append (h : Holdings trace c k) {events : List Event}
    (silent : ∀ event ∈ events, event.Silent c) : Holdings (events ++ trace) c k := by
  induction events with
  | nil => exact h
  | cons event events inductionHypothesis =>
    exact (inductionHypothesis fun e he => silent e (.tail _ he)).cons (silent event (.head _))

/-- A new state with the same LockUsages, holding the same qutexes, with no more acquired in the
current attempt, and as far as before in success and invocation. -/
theorem withState (h : Holdings trace c k) (locks : k'.requiredLocks.locks = k.requiredLocks.locks)
    (holds : ∀ qutex, k'.Holds qutex ↔ k.Holds qutex) (fewer : k'.acquiredCount ≤ k.acquiredCount)
    (succeeded : k'.phase.Succeeded ↔ k.phase.Succeeded) (invoked : k'.phase.Invoked ↔ k.phase.Invoked) :
    Holdings trace c k' := by
  have lockQutexes : k'.lockQutexes = k.lockQutexes := by
    simp only [SerializedAsynchronousContinuation.lockQutexes, locks]
  refine ⟨fun qutex => (h.holds qutex).trans (holds qutex).symm, ?_, ?_, h.acquiredAll.trans
    succeeded.symm, h.invoke.trans invoked.symm, fun qutex => ?_⟩
  · rw [lockQutexes]
    exact h.distinct.sublist (List.take_sublist_take_left _ fewer)
  · rw [locks, invoked]
    exact h.unreleased
  · rw [h.released, invoked, lockQutexes, holds]

/-- A step from a phase that holds nothing and has not succeeded to one that has acquired
nothing either. -/
theorem toEmpty (h : Holdings trace c k) (locks : k'.requiredLocks.locks = k.requiredLocks.locks)
    (nothing : ∀ qutex, ¬ k.Holds qutex) (notSucceeded : ¬ k.phase.Succeeded)
    (empty' : k'.phase.Empty) : Holdings trace c k' := by
  have invoked : ∀ {phase : Phase}, ¬ phase.Succeeded → ¬ phase.Invoked := by
    intro phase notSucceeded
    cases phase <;> simp_all [Phase.Succeeded, Phase.Invoked]
  have notSucceeded' : ¬ k'.phase.Succeeded := by
    revert empty'
    cases k'.phase <;> simp [Phase.Empty, Phase.Succeeded]
  refine h.withState locks (fun qutex => iff_of_false
    (SerializedAsynchronousContinuation.not_holds_of_empty empty' qutex) (nothing qutex)) ?_
    (iff_of_false notSucceeded' notSucceeded) (iff_of_false (invoked notSucceeded') (invoked notSucceeded))
  rw [SerializedAsynchronousContinuation.acquiredCount_of_empty empty']
  exact Nat.zero_le _

/-- A step between two phases that hold nothing and have not succeeded. -/
theorem empty (h : Holdings trace c k) (locks : k'.requiredLocks.locks = k.requiredLocks.locks)
    (empty : k.phase.Empty) (empty' : k'.phase.Empty) : Holdings trace c k' :=
  h.toEmpty locks (SerializedAsynchronousContinuation.not_holds_of_empty empty) (by
    revert empty
    cases k.phase <;> simp [Phase.Empty, Phase.Succeeded]) empty'

/-- A successful `tryAcquire` of the qutex of LockUsage `next` in the acquisition loop, which the
continuation holds through no earlier LockUsage: the hold through `next` begins, and the qutexes of
the attempt stay distinct. -/
theorem acquire (h : Holdings trace c k) {next : Nat} {qutex : QutexId}
    (phase : k.phase = .acquiring next) (lock : k.lockAt next = some qutex)
    (unheld : qutex ∉ k.lockQutexes.take next) :
    Holdings (.tryAcquire c qutex true :: trace) c { k with phase := .acquiring (next + 1) } := by
  refine ⟨fun qutex' => ?_, ?_, fun _ => h.unreleased (by simp [phase, Phase.Invoked]), ?_, ?_,
    fun qutex' => ?_⟩
  · by_cases hq : qutex' = qutex
    · subst hq
      simp only [Trace.holds_tryAcquire_self, true_iff]
      exact ⟨next, lock, by simp [SerializedAsynchronousContinuation.HoldsAt]⟩
    · rw [Trace.holds_cons_of_holding (by simp [Event.holding, Ne.symm hq]), h.holds]
      simp only [SerializedAsynchronousContinuation.Holds,
        SerializedAsynchronousContinuation.HoldsAt, phase]
      constructor
      · rintro ⟨usage, found, below⟩
        exact ⟨usage, found, Nat.lt_succ_of_lt below⟩
      · rintro ⟨usage, found, below⟩
        rcases Nat.lt_succ_iff_lt_or_eq.mp below with below | rfl
        · exact ⟨usage, found, below⟩
        · exact absurd (Option.some_injective _ (found.symm.trans lock)) hq
  · have distinct := h.distinct
    simp only [SerializedAsynchronousContinuation.acquiredCount, phase] at distinct
    show (k.lockQutexes.take (next + 1)).Nodup
    rw [List.take_succ, ← SerializedAsynchronousContinuation.lockAt_eq, lock]
    exact List.nodup_append.mpr ⟨distinct, List.nodup_singleton _,
      List.disjoint_singleton.mpr unheld⟩
  · rw [List.mem_cons, or_iff_right (by simp), h.acquiredAll, phase]
    simp [Phase.Succeeded]
  · rw [List.mem_cons, or_iff_right (by simp), h.invoke, phase]
    simp [Phase.Invoked]
  · rw [List.mem_cons, or_iff_right (by simp), h.released, phase]
    simp [Phase.Invoked]

/-- The release of the qutex of LockUsage `index` after the body ran: the hold through that
LockUsage ends, and since the LockSet's qutexes are distinct no other LockUsage holds the qutex. -/
theorem release (h : Holdings trace c k) {index : Nat} {qutex : QutexId}
    (lock : k.lockAt index = some qutex) (held : k.HoldsAt index)
    (lockAt : ∀ usage, k'.lockAt usage = k.lockAt usage)
    (holdsAt : ∀ usage, k'.HoldsAt usage ↔ k.HoldsAt usage ∧ usage ≠ index)
    (count : k'.acquiredCount = k.lockCount) (succeeded : k.phase.Succeeded)
    (invoked : k.phase.Invoked) (succeeded' : k'.phase.Succeeded) (invoked' : k'.phase.Invoked) :
    Holdings (.release c qutex :: trace) c k' := by
  have lockQutexes : k'.lockQutexes = k.lockQutexes := List.ext_getElem? fun usage => by
    rw [← SerializedAsynchronousContinuation.lockAt_eq, ← SerializedAsynchronousContinuation.lockAt_eq,
      lockAt]
  have distinct := h.distinct
  rw [SerializedAsynchronousContinuation.acquiredCount_of_succeeded succeeded] at distinct
  have gone : ¬ k'.Holds qutex := by
    rintro ⟨usage, lock', held'⟩
    rw [lockAt] at lock'
    exact ((holdsAt usage).mp held').2 (SerializedAsynchronousContinuation.lockAt_inj distinct
      (SerializedAsynchronousContinuation.lockAt_lt lock')
      (SerializedAsynchronousContinuation.lockAt_lt lock) lock' lock)
  have others : ∀ qutex', qutex' ≠ qutex → (k'.Holds qutex' ↔ k.Holds qutex') := by
    intro qutex' other
    refine exists_congr fun usage => ?_
    rw [lockAt, holdsAt]
    constructor
    · rintro ⟨lock', held', -⟩
      exact ⟨lock', held'⟩
    · rintro ⟨lock', held'⟩
      refine ⟨lock', held', ?_⟩
      rintro rfl
      exact other (Option.some_injective _ (lock'.symm.trans lock))
  refine ⟨fun qutex' => ?_, ?_, fun notInvoked => absurd invoked' notInvoked, ?_, ?_,
    fun qutex' => ?_⟩
  · by_cases hq : qutex' = qutex
    · subst hq
      simpa using gone
    · rw [Trace.holds_cons_of_holding (by simp [Event.holding, Ne.symm hq]), h.holds, others _ hq]
  · rwa [count, lockQutexes]
  · rw [List.mem_cons, or_iff_right (by simp), h.acquiredAll]
    exact iff_of_true succeeded succeeded'
  · rw [List.mem_cons, or_iff_right (by simp), h.invoke]
    exact iff_of_true invoked invoked'
  · by_cases hq : qutex' = qutex
    · subst hq
      exact iff_of_true (.head _) ⟨invoked', lockQutexes ▸
        SerializedAsynchronousContinuation.mem_lockQutexes.mpr ⟨index, lock⟩, gone⟩
    · rw [List.mem_cons, or_iff_right (by simp [hq]), h.released, others _ hq, lockQutexes]
      exact and_congr (iff_of_true invoked invoked') Iff.rfl

end Holdings

namespace Record

variable {trace : List Event} {c : ContinuationId} {k k' : SerializedAsynchronousContinuation}

/-- A new event keeps the history facts under the side conditions each kind of event needs. -/
theorem cons (r : Record trace c k) (event : Event)
    (acquiredAll : event = .acquiredAll c → .acquiredAll c ∉ trace)
    (post : event = .post c → .acquiredAll c ∉ trace)
    (invoke : event = .invoke c →
      .invoke c ∉ trace ∧ ∀ qutex ∈ k.lockQutexes, Trace.holds c qutex trace = true)
    (release : ∀ qutex, event = .release c qutex → .release c qutex ∉ trace) :
    Record (event :: trace) c k where
  acquiredAllOnce := by
    by_cases hEvent : event = .acquiredAll c
    · subst hEvent
      rw [List.count_cons_self, List.count_eq_zero.mpr (acquiredAll rfl)]
    · rw [List.count_cons_of_ne (Ne.symm hEvent)]
      exact r.acquiredAllOnce
  quietAfterSuccess newer older split := by
    rcases Trace.cons_eq_append split with ⟨rfl, -, -⟩ | ⟨newer', rfl, split'⟩
    · exact List.not_mem_nil _
    · rw [List.mem_cons, not_or]
      refine ⟨fun hPost => post hPost.symm ?_, r.quietAfterSuccess newer' older split'⟩
      rw [split']
      exact List.mem_append_right _ (.head _)
  invokeOnce := by
    by_cases hEvent : event = .invoke c
    · subst hEvent
      rw [List.count_cons_self, List.count_eq_zero.mpr (invoke rfl).1]
    · rw [List.count_cons_of_ne (Ne.symm hEvent)]
      exact r.invokeOnce
  invokedHolding newer older split := by
    rcases Trace.cons_eq_append split with ⟨-, rfl, rfl⟩ | ⟨newer', -, split'⟩
    · exact (invoke rfl).2
    · exact r.invokedHolding newer' older split'
  releaseOnce qutex := by
    by_cases hEvent : event = .release c qutex
    · subst hEvent
      rw [List.count_cons_self, List.count_eq_zero.mpr (release qutex rfl)]
    · rw [List.count_cons_of_ne (Ne.symm hEvent)]
      exact r.releaseOnce qutex
  releasedAll released qutex member := .tail _ (r.releasedAll released qutex member)

theorem quiet (r : Record trace c k) {event : Event} (quiet : event.Quiet c) :
    Record (event :: trace) c k :=
  r.cons event (fun hEvent => absurd hEvent quiet.notAcquiredAll) (fun hEvent => absurd hEvent quiet.notPost)
    (fun hEvent => absurd hEvent quiet.notInvoke) fun qutex hEvent => absurd hEvent (quiet.release_ne qutex)

theorem append (r : Record trace c k) {events : List Event}
    (quiet : ∀ event ∈ events, event.Quiet c) : Record (events ++ trace) c k := by
  induction events with
  | nil => exact r
  | cons event events inductionHypothesis =>
    exact (inductionHypothesis fun e he => quiet e (.tail _ he)).quiet (quiet event (.head _))

/-- A new state with the same LockSet, which has not completed `LockSet::release` unless it had. -/
theorem withState (r : Record trace c k) (lockQutexes : k'.lockQutexes = k.lockQutexes)
    (released : k'.phase = .released → k.phase = .released) : Record trace c k' := by
  refine ⟨r.acquiredAllOnce, r.quietAfterSuccess, r.invokeOnce, ?_, r.releaseOnce, ?_⟩
  · rw [lockQutexes]
    exact r.invokedHolding
  · rw [lockQutexes]
    exact fun hPhase => r.releasedAll (released hPhase)

end Record

/-- The ownership fields of the qutexes agree with the history, and every `backoff` and `release`
in it was called by the holder. -/
structure Owners (qutexes : QutexId → Qutex) (trace : List Event) : Prop where
  owner : ∀ qutex c, (qutexes qutex).currOwner = some c ↔ Trace.holds c qutex trace = true
  owned : ∀ qutex, (qutexes qutex).isOwned = (qutexes qutex).currOwner.isSome
  callsByHolder : Trace.CallsByHolder trace

namespace Owners

variable {qutexes qutexes' : QutexId → Qutex} {trace : List Event}

/-- The holder of a qutex is its `currOwner`, and the qutex is owned. -/
theorem of_holds (o : Owners qutexes trace) {c : ContinuationId} {qutex : QutexId}
    (holder : Trace.holds c qutex trace = true) :
    (qutexes qutex).currOwner = some c ∧ (qutexes qutex).isOwned = true := by
  have owner := (o.owner qutex c).mpr holder
  exact ⟨owner, by rw [o.owned, owner]; rfl⟩

/-- Events that take and give up no hold, over qutexes with the same ownership fields. -/
theorem quiet (o : Owners qutexes trace)
    (currOwner : ∀ qutex, (qutexes' qutex).currOwner = (qutexes qutex).currOwner)
    (isOwned : ∀ qutex, (qutexes' qutex).isOwned = (qutexes qutex).isOwned) (events : List Event)
    (silent : ∀ event ∈ events, ∀ c qutex, event.holding c qutex = none) :
    Owners qutexes' (events ++ trace) := by
  induction events with
  | nil => exact ⟨fun qutex c => by rw [currOwner, o.owner, List.nil_append], fun qutex => by
      rw [currOwner, isOwned, o.owned], o.callsByHolder⟩
  | cons event events inductionHypothesis =>
    have rest := inductionHypothesis fun e he => silent e (.tail _ he)
    have quiet := silent event (.head _)
    refine ⟨fun qutex c => ?_, rest.owned, ?_, rest.callsByHolder⟩
    · rw [List.cons_append, Trace.holds_cons_of_holding (quiet c qutex), rest.owner]
    · rintro c qutex (rfl | rfl) <;> simp [Event.holding] at quiet

/-- A successful `tryAcquire` of a free qutex makes the acquirer its holder. -/
theorem acquire (o : Owners qutexes trace) (c : ContinuationId) {qutex : QutexId}
    (free : (qutexes qutex).isOwned = false) :
    Owners (Function.update qutexes qutex ((qutexes qutex).acquiredBy c))
      (.tryAcquire c qutex true :: trace) := by
  have unheld : ∀ c', Trace.holds c' qutex trace = false := fun c' => by
    by_contra held
    have := (o.of_holds (Bool.not_eq_false _ ▸ held)).2
    rw [free] at this
    cases this
  refine ⟨fun qutex' c' => ?_, fun qutex' => ?_, ⟨?_, o.callsByHolder⟩⟩
  · rw [Function.update_apply]
    split_ifs with hq
    · subst hq
      by_cases hc : c' = c
      · subst hc; simp
      · simp [Trace.holds, Event.holding, Ne.symm hc, hc, unheld c']
    · rw [Trace.holds_cons_of_holding (by simp [Event.holding, Ne.symm hq]), o.owner]
  · rw [Function.update_apply]
    split_ifs with hq
    · rfl
    · exact o.owned qutex'
  · rintro _ _ (hEvent | hEvent) <;> cases hEvent

/-- A `backoff` or `release` by the holder that frees the qutex ends the hold. -/
theorem giveUp (o : Owners qutexes trace) {c : ContinuationId} {qutex : QutexId} {event : Event}
    (holder : Trace.holds c qutex trace = true) (call : event = .backoff c qutex ∨ event = .release c qutex)
    (value : Qutex) (freed : value.currOwner = none) (free : value.isOwned = false) :
    Owners (Function.update qutexes qutex value) (event :: trace) := by
  have owner := (o.of_holds holder).1
  have holding : ∀ c' qutex', event.holding c' qutex' =
      if c' = c ∧ qutex' = qutex then some false else none := by
    rcases call with rfl | rfl <;> intro c' qutex' <;> simp only [Event.holding, eq_comm]
  refine ⟨fun qutex' c' => ?_, fun qutex' => ?_, ⟨?_, o.callsByHolder⟩⟩
  · rw [Function.update_apply, Trace.holds, holding]
    split_ifs with hq hc hc
    · simp [freed]
    · subst hq
      rw [freed, Option.getD_none, ← o.owner, owner]
      simp only [Option.some.injEq, reduceCtorEq, false_iff]
      exact fun hEq => hc ⟨hEq.symm, rfl⟩
    · exact absurd hc.2 hq
    · rw [Option.getD_none, o.owner]
  · rw [Function.update_apply]
    split_ifs
    · rw [freed, free]; rfl
    · exact o.owned qutex'
  · rintro c' qutex' call'
    rcases call with rfl | rfl <;> rcases call' with hEvent | hEvent <;> cases hEvent <;>
      exact holder

end Owners

/-- Qutex ownership and the history of every continuation in any state; and, while the process
runs, what each continuation's phase says. -/
structure Ownership (s : Sys) : Prop where
  owners : Owners s.qutexes s.trace
  noReleaseError : s.aborted ≠ some releaseUnownedError
  unborn : ∀ c, s.continuations c = none → ∀ event ∈ s.trace, event.continuation ≠ c
  record : ∀ c k, s.continuations c = some k → Record s.trace c k
  live : s.aborted = none → ∀ c k, s.continuations c = some k → Holdings s.trace c k

namespace Ownership

theorem initial (deadlockTimeout : Nat) : Ownership (Sys.initial deadlockTimeout) where
  owners := ⟨fun _ _ => by simp [Sys.initial, Qutex.empty], fun _ => rfl, trivial⟩
  noReleaseError := by simp [Sys.initial]
  unborn _ _ _ member := by cases member
  record _ _ state := by cases state
  live _ _ _ state := by cases state

/-- A step of continuation `c`, to state `k'`, that appends only its own events. -/
theorem update {s s' : Sys} {c : ContinuationId} {k' : SerializedAsynchronousContinuation}
    (h : Ownership s) (events : List Event) (alive : s.aborted = none)
    (state' : s'.continuations c = some k')
    (others : ∀ c', c' ≠ c → s'.continuations c' = s.continuations c')
    (trace : s'.trace = events ++ s.trace) (own : ∀ event ∈ events, event.continuation = c)
    (owners : Owners s'.qutexes s'.trace) (noReleaseError : s'.aborted ≠ some releaseUnownedError)
    (record : Record s'.trace c k') (live : s'.aborted = none → Holdings s'.trace c k') :
    Ownership s' := by
  have quiet : ∀ c', c' ≠ c → ∀ event ∈ events, event.Quiet c' := fun c' other event member =>
    Event.quiet_of_continuation_ne (by rw [own event member]; exact Ne.symm other)
  refine ⟨owners, noReleaseError, fun c' absent event member => ?_, fun c' k'' state'' => ?_,
    fun alive' c' k'' state'' => ?_⟩
  · have other : c' ≠ c := by
      rintro rfl
      rw [state'] at absent
      cases absent
    rw [trace, List.mem_append] at member
    rcases member with member | member
    · rw [own event member]
      exact Ne.symm other
    · exact h.unborn c' ((others c' other).symm.trans absent) event member
  · by_cases other : c' = c
    · subst other
      rw [state'] at state''
      cases state''
      exact record
    · rw [trace]
      exact (h.record c' k'' ((others c' other).symm.trans state'')).append (quiet c' other)
  · by_cases other : c' = c
    · subst other
      rw [state'] at state''
      cases state''
      exact live alive'
    · rw [trace]
      exact (h.live alive c' k'' ((others c' other).symm.trans state'')).append
        fun event member => (quiet c' other event member).toSilent

/-- A step of continuation `c` whose events take and give up no hold, over qutexes with the same
ownership fields. -/
theorem quiet {s s' : Sys} {c : ContinuationId} {k' : SerializedAsynchronousContinuation}
    (h : Ownership s) (events : List Event) (alive : s.aborted = none)
    (state' : s'.continuations c = some k')
    (others : ∀ c', c' ≠ c → s'.continuations c' = s.continuations c')
    (trace : s'.trace = events ++ s.trace) (own : ∀ event ∈ events, event.continuation = c)
    (currOwner : ∀ qutex, (s'.qutexes qutex).currOwner = (s.qutexes qutex).currOwner)
    (isOwned : ∀ qutex, (s'.qutexes qutex).isOwned = (s.qutexes qutex).isOwned)
    (silent : ∀ event ∈ events, ∀ c qutex, event.holding c qutex = none)
    (noReleaseError : s'.aborted ≠ some releaseUnownedError)
    (record : Record s'.trace c k') (live : s'.aborted = none → Holdings s'.trace c k') :
    Ownership s' :=
  h.update events alive state' others trace own (trace ▸ h.owners.quiet currOwner isOwned events silent)
    noReleaseError record live

/-- A step of continuation `c`, from `k` to `k'` with the same LockSet, that appends no event and
changes no ownership field. -/
theorem internal {s s' : Sys} {c : ContinuationId} {k k' : SerializedAsynchronousContinuation}
    (h : Ownership s) (alive : s.aborted = none) (state : s.continuations c = some k)
    (state' : s'.continuations c = some k')
    (others : ∀ c', c' ≠ c → s'.continuations c' = s.continuations c')
    (currOwner : ∀ qutex, (s'.qutexes qutex).currOwner = (s.qutexes qutex).currOwner)
    (isOwned : ∀ qutex, (s'.qutexes qutex).isOwned = (s.qutexes qutex).isOwned)
    (trace : s'.trace = s.trace) (aborted : s'.aborted = none)
    (lockQutexes : k'.lockQutexes = k.lockQutexes)
    (released : k'.phase = .released → k.phase = .released)
    (live : Holdings s.trace c k → Holdings s.trace c k') : Ownership s' :=
  h.quiet [] alive state' others trace (fun _ member => by cases member) currOwner isOwned
    (fun _ member => by cases member) (by rw [aborted]; exact Option.some_ne_none _ ∘ Eq.symm)
    (trace ▸ (h.record c k state).withState lockQutexes released)
    fun _ => trace ▸ live (h.live alive c k state)

/-- A step that changes no continuation, no ownership field and no history. -/
theorem frame {s s' : Sys} (h : Ownership s) (alive : s.aborted = none)
    (qutexes : ∀ qutex, (s'.qutexes qutex).currOwner = (s.qutexes qutex).currOwner ∧
      (s'.qutexes qutex).isOwned = (s.qutexes qutex).isOwned)
    (continuations : s'.continuations = s.continuations) (trace : s'.trace = s.trace)
    (aborted : s'.aborted = s.aborted) : Ownership s' where
  owners := trace ▸ h.owners.quiet (fun qutex => (qutexes qutex).1)
    (fun qutex => (qutexes qutex).2) [] (fun _ member => by cases member)
  noReleaseError := by rw [aborted, alive]; simp
  unborn c absent := by rw [trace]; exact h.unborn c (continuations ▸ absent)
  record c k state := by rw [trace]; exact h.record c k (continuations ▸ state)
  live _ c k state := by rw [trace]; exact h.live alive c k (continuations ▸ state)

/-- `Qutex::tryAcquire` of the acquisition loop: a success makes the continuation the holder. -/
theorem tryAcquire {s : Sys} {thread : ThreadId} {c : ContinuationId}
    {k : SerializedAsynchronousContinuation} {next : Nat} {qutex : QutexId} (h : Ownership s)
    (executes : s.Executes thread c k) (phase : k.phase = .acquiring next)
    (lock : k.lockAt next = some qutex) : Ownership (s.tryAcquireStep c k next qutex) := by
  have alive := executes.alive
  have hk := h.live alive c k executes.state
  have record := h.record c k executes.state
  dsimp only [Sys.tryAcquireStep]
  rcases Qutex.tryAcquire_cases (s.qutexes qutex) c k.lockCount with
    ⟨same, notTrue⟩ | ⟨acquired, result, free⟩
  · have unchanged :
        (s.setQutex qutex ((s.qutexes qutex).tryAcquire c k.lockCount).1).qutexes = s.qutexes := by
      rw [Sys.setQutex_qutexes, same]
      exact Function.update_eq_self _ _
    have quietEvent := Event.quiet_tryAcquire_false c qutex
    split
    · refine h.quiet [.tryAcquire c qutex false] alive executes.state (fun _ _ => rfl) rfl
        (List.forall_mem_singleton.mpr rfl) (fun q => congrArg Qutex.currOwner (congrFun unchanged q))
        (fun q => congrArg Qutex.isOwned (congrFun unchanged q))
        (List.forall_mem_singleton.mpr fun _ _ => rfl) ?_ (record.quiet quietEvent) (by simp)
      rename_i threw
      rw [Sys.abort_aborted, ((Qutex.tryAcquire_threw_iff _ _ _ _).mp threw).2]
      decide
    · exact absurd ‹_› notTrue
    · refine h.quiet [.tryAcquire c qutex false] alive (Sys.setContinuation_continuations_self _ _ _)
        (fun _ other => Sys.setContinuation_continuations_ne _ _ _ other) rfl
        (List.forall_mem_singleton.mpr rfl) (fun q => congrArg Qutex.currOwner (congrFun unchanged q))
        (fun q => congrArg Qutex.isOwned (congrFun unchanged q))
        (List.forall_mem_singleton.mpr fun _ _ => rfl)
        (by simp [alive]) ((record.quiet quietEvent).withState rfl (by rintro ⟨⟩)) fun _ =>
          (hk.cons quietEvent.toSilent).withState rfl (fun _ => ?_) ?_ ?_ ?_ <;>
        simp [SerializedAsynchronousContinuation.Holds, SerializedAsynchronousContinuation.HoldsAt,
          SerializedAsynchronousContinuation.lockAt, SerializedAsynchronousContinuation.acquiredCount,
          phase, Phase.Succeeded, Phase.Invoked]
  · have unheld : qutex ∉ k.lockQutexes.take next := by
      intro member
      obtain ⟨usage, found⟩ := List.mem_iff_getElem?.mp member
      have below : usage < next := by
        by_contra hge
        rw [List.getElem?_take, if_neg hge] at found
        cases found
      rw [List.getElem?_take_of_lt below, ← SerializedAsynchronousContinuation.lockAt_eq] at found
      have held := (h.owners.of_holds ((hk.holds qutex).mpr ⟨usage, found, by
        simp only [SerializedAsynchronousContinuation.HoldsAt, phase, below]⟩)).2
      rw [free] at held
      cases held
    split
    · rename_i heq
      rw [result] at heq
      cases heq
    · have owners := h.owners.acquire c free
      rw [← acquired, ← Sys.setQutex_qutexes] at owners
      refine h.update [.tryAcquire c qutex true] alive (Sys.setContinuation_continuations_self _ _ _)
        (fun _ other => Sys.setContinuation_continuations_ne _ _ _ other) rfl
        (List.forall_mem_singleton.mpr rfl) owners (by simp [alive])
        ((record.cons (.tryAcquire c qutex true) (by rintro ⟨⟩) (by rintro ⟨⟩) (by rintro ⟨⟩)
          (by rintro _ ⟨⟩)).withState rfl
          (by rintro ⟨⟩)) fun _ => hk.acquire phase lock unheld
    · rename_i heq
      rw [result] at heq
      cases heq

/-- `tryAcquireOrBackOff` returns true: the continuation now holds every qutex of its LockSet
through the LockUsages, none of them released. -/
theorem acquiredAll {s : Sys} {thread : ThreadId} {c : ContinuationId}
    {k : SerializedAsynchronousContinuation} {next : Nat} (h : Ownership s)
    (executes : s.Executes thread c k) (phase : k.phase = .acquiring next)
    (done : k.lockAt next = none) : Ownership (s.acquiredAllStep c k) := by
  have alive := executes.alive
  have hk := h.live alive c k executes.state
  have notSucceeded : .acquiredAll c ∉ s.trace := by
    rw [hk.acquiredAll, phase]
    simp [Phase.Succeeded]
  have record : Record (.acquiredAll c :: s.trace) c
      { k with
        requiredLocks := { k.requiredLocks with allLocksAcquired := true }
        phase := .unregistering 0 } :=
    ((h.record c k executes.state).cons (.acquiredAll c) (fun _ => notSucceeded) (by rintro ⟨⟩)
      (by rintro ⟨⟩) (by rintro _ ⟨⟩)).withState rfl (by rintro ⟨⟩)
  have complete := SerializedAsynchronousContinuation.lockCount_le done
  have holdings : Holdings (.acquiredAll c :: s.trace) c
      { k with
        requiredLocks := { k.requiredLocks with allLocksAcquired := true }
        phase := .unregistering 0 } := by
    refine ⟨fun qutex => ?_, ?_, fun _ => hk.unreleased (by simp [phase, Phase.Invoked]),
      iff_of_true (.head _) trivial, ?_, fun qutex => ?_⟩
    · rw [Trace.holds_cons_of_holding (by simp [Event.holding]), hk.holds]
      simp only [SerializedAsynchronousContinuation.Holds, SerializedAsynchronousContinuation.HoldsAt,
        phase]
      constructor
      · rintro ⟨usage, lock, -⟩
        obtain ⟨desc, found, -⟩ := SerializedAsynchronousContinuation.lockAt_eq_some.mp lock
        exact ⟨usage, lock, desc, found, hk.unreleased (by simp [phase, Phase.Invoked]) desc
          (List.getElem?_mem found)⟩
      · rintro ⟨usage, lock, -⟩
        exact ⟨usage, lock, (SerializedAsynchronousContinuation.lockAt_lt lock).trans_le complete⟩
    · have distinct := hk.distinct
      have length : k.lockQutexes.length = k.lockCount := List.length_map _ _
      simp only [SerializedAsynchronousContinuation.acquiredCount, phase] at distinct
      show (k.lockQutexes.take k.lockCount).Nodup
      rwa [List.take_of_length_le (length.trans_le complete), ← List.take_of_length_le length.le]
        at distinct
    · rw [List.mem_cons, or_iff_right (by simp), hk.invoke, phase]
      simp [Phase.Invoked]
    · rw [List.mem_cons, or_iff_right (by simp), hk.released, phase]
      simp [Phase.Invoked]
  dsimp only [Sys.acquiredAllStep]
  split
  · exact h.quiet [.acquiredAll c] alive (Sys.setContinuation_continuations_self _ _ _)
      (fun _ other => Sys.setContinuation_continuations_ne _ _ _ other) rfl
      (List.forall_mem_singleton.mpr rfl) (fun _ => rfl) (fun _ => rfl)
      (List.forall_mem_singleton.mpr fun _ _ => rfl) (by simp [alive]) record fun _ => holdings
  · exact h.quiet [.acquiredAll c] alive (Sys.setContinuation_continuations_self _ _ _)
      (fun _ other => Sys.setContinuation_continuations_ne _ _ _ other) rfl
      (List.forall_mem_singleton.mpr rfl) (fun _ => rfl) (fun _ => rfl)
      (List.forall_mem_singleton.mpr fun _ _ => rfl)
      (by simp only [Sys.abort_aborted]; decide) record (by simp)

/-- `invocationTarget()` after the unregistration loop, or after the tracker's `remove`: the body
runs while the continuation holds every qutex of its LockSet. -/
theorem invoke {s : Sys} {thread : ThreadId} {c : ContinuationId}
    {k : SerializedAsynchronousContinuation} (h : Ownership s) (executes : s.Executes thread c k)
    (succeeded : k.phase.Succeeded) (notInvoked : ¬ k.phase.Invoked)
    (holdsAt : ∀ usage, k.HoldsAt usage ↔ k.Unreleased usage) :
    Ownership (s.invokeStep thread c k) := by
  have alive := executes.alive
  have hk := h.live alive c k executes.state
  have holds : ∀ qutex, k.Holds qutex ↔ qutex ∈ k.lockQutexes := fun qutex => by
    rw [SerializedAsynchronousContinuation.mem_lockQutexes]
    simp only [SerializedAsynchronousContinuation.Holds, holdsAt]
    constructor
    · rintro ⟨usage, lock, -⟩
      exact ⟨usage, lock⟩
    · rintro ⟨usage, lock⟩
      obtain ⟨desc, found, -⟩ := SerializedAsynchronousContinuation.lockAt_eq_some.mp lock
      exact ⟨usage, lock, desc, found, hk.unreleased notInvoked desc (List.getElem?_mem found)⟩
  have holds' : ∀ qutex, ({ k with phase := .invoked } : SerializedAsynchronousContinuation).Holds
      qutex ↔ k.Holds qutex := fun _ =>
    exists_congr fun usage => and_congr Iff.rfl (holdsAt usage).symm
  have record : Record (.invoke c :: s.trace) c { k with phase := .invoked } :=
    ((h.record c k executes.state).cons (.invoke c) (by rintro ⟨⟩) (by rintro ⟨⟩)
    (fun _ => ⟨mt hk.invoke.mp notInvoked, fun qutex member =>
      (hk.holds qutex).mpr ((holds qutex).mpr member)⟩) (by rintro _ ⟨⟩)).withState rfl
    (by rintro ⟨⟩)
  unfold Sys.invokeStep
  refine h.quiet [.invoke c] alive (by simp)
    (fun _ other => Sys.setContinuation_continuations_ne _ _ _ other) rfl
    (List.forall_mem_singleton.mpr rfl) (fun _ => rfl) (fun _ => rfl)
    (List.forall_mem_singleton.mpr fun _ _ => rfl) (by simp [alive]) record fun _ => ?_
  show Holdings (.invoke c :: s.trace) c _
  refine ⟨fun qutex => ?_, ?_, fun invoked => absurd trivial invoked, ?_,
    iff_of_true (.head _) trivial, fun qutex => ?_⟩
  · rw [Trace.holds_cons_of_holding (by simp [Event.holding]), hk.holds, holds']
  · have distinct := hk.distinct
    rwa [SerializedAsynchronousContinuation.acquiredCount_of_succeeded succeeded] at distinct
  · rw [List.mem_cons, or_iff_right (by simp), hk.acquiredAll]
    exact iff_of_true succeeded trivial
  · rw [List.mem_cons, or_iff_right (by simp), hk.released, holds', holds]
    exact iff_of_false (fun released => notInvoked released.1) fun released =>
      released.2.2 released.2.1

/-- The backoff loop's `backoff` on a qutex the continuation acquired in this attempt frees it;
in a reachable state it reaches the rotation. -/
theorem backoff {s : Sys} {thread : ThreadId} {c : ContinuationId}
    {k : SerializedAsynchronousContinuation} {next nAcquired : Nat}
    {firstFailedQutex qutex : QutexId} (h : Ownership s) (reachable : Reachable s)
    (executes : s.Executes thread c k)
    (phase : k.phase = .backingOff next nAcquired firstFailedQutex) (pending : next < nAcquired)
    (lock : k.lockAt next = some qutex) :
    Ownership (s.backoffStep thread c k next nAcquired firstFailedQutex qutex) := by
  have alive := executes.alive
  have hk := h.live alive c k executes.state
  have holder : Trace.holds c qutex s.trace = true := (hk.holds qutex).mpr ⟨next, lock, by
    simp [SerializedAsynchronousContinuation.HoldsAt, phase, pending]⟩
  have rotated := backoff_passes_entry_checks reachable executes.state phase pending lock
  have owners := h.owners.giveUp holder (.inl rfl) _
    (Qutex.rotatedAndFreed_currOwner (s.qutexes qutex) c k.lockCount)
    (Qutex.rotatedAndFreed_isOwned (s.qutexes qutex) c k.lockCount)
  have freed : ((s.qutexes qutex).backoff c k.lockCount).1 =
      (s.qutexes qutex).rotatedAndFreed c k.lockCount := by
    rw [rotated]
  rw [← freed, ← Sys.setQutex_qutexes] at owners
  have record := (h.record c k executes.state).cons (.backoff c qutex) (by rintro ⟨⟩) (by rintro ⟨⟩)
    (by rintro ⟨⟩) (by rintro _ ⟨⟩)
  have distinct := hk.distinct
  simp only [SerializedAsynchronousContinuation.acquiredCount, phase] at distinct
  dsimp only [Sys.backoffStep]
  split
  · rename_i threw
    rw [rotated] at threw
    refine h.update [.backoff c qutex] alive executes.state (fun _ _ => rfl) rfl
      (List.forall_mem_singleton.mpr rfl) owners ?_ record (by simp)
    rw [Sys.abort_aborted, Qutex.wakeAfterBackoff_threw threw]
    decide
  · refine h.update [.backoff c qutex] alive (Sys.setThread_setContinuation_self _ _ _ _ _)
      (fun _ other => Sys.setContinuation_continuations_ne _ _ _ other) rfl
      (List.forall_mem_singleton.mpr rfl) owners (by simp [alive]) (record.withState rfl (by rintro ⟨⟩))
      fun _ => ?_
    show Holdings (.backoff c qutex :: s.trace) c _
    refine ⟨fun qutex' => ?_, distinct, fun _ => hk.unreleased (by simp [phase, Phase.Invoked]),
      ?_, ?_, fun qutex' => ?_⟩
    · simp only [SerializedAsynchronousContinuation.Holds,
        SerializedAsynchronousContinuation.HoldsAt]
      by_cases hq : qutex' = qutex
      · subst hq
        simp only [Trace.holds_backoff_self, Bool.false_eq_true, false_iff, not_exists, not_and]
        intro usage lock' low high
        have := SerializedAsynchronousContinuation.lockAt_inj distinct high pending lock' lock
        omega
      · rw [Trace.holds_cons_of_holding (by simp [Event.holding, Ne.symm hq]), hk.holds]
        simp only [SerializedAsynchronousContinuation.Holds,
          SerializedAsynchronousContinuation.HoldsAt, phase]
        constructor
        · rintro ⟨usage, lock', range⟩
          refine ⟨usage, lock', Nat.lt_of_le_of_ne range.1 fun hEq => hq ?_, range.2⟩
          subst hEq
          exact Option.some_injective _ (lock'.symm.trans lock)
        · rintro ⟨usage, lock', range⟩
          exact ⟨usage, lock', Nat.le_of_succ_le range.1, range.2⟩
    · rw [List.mem_cons, or_iff_right (by simp), hk.acquiredAll, phase]
      simp [Phase.Succeeded]
    · rw [List.mem_cons, or_iff_right (by simp), hk.invoke, phase]
      simp [Phase.Invoked]
    · rw [List.mem_cons, or_iff_right (by simp), hk.released, phase]
      simp [Phase.Invoked]

/-- A programming error other than a release of an unowned qutex ends the process. -/
theorem abort {s : Sys} (h : Ownership s) (what : String) (other : what ≠ releaseUnownedError) :
    Ownership (s.abort what) where
  owners := h.owners
  noReleaseError := by simpa using other
  unborn := h.unborn
  record := h.record
  live alive := by simp at alive

/-- `LockSet::release`'s loop at LockUsage `next`: a qutex not released early is released by its
holder, this continuation. -/
theorem release {s : Sys} {thread : ThreadId} {c : ContinuationId}
    {k : SerializedAsynchronousContinuation} {next : Nat} {usage : LockUsageDesc}
    (h : Ownership s) (executes : s.Executes thread c k) (phase : k.phase = .releasing next)
    (found : k.requiredLocks.locks[next]? = some usage) :
    Ownership (s.releaseStep thread c k next usage) := by
  have alive := executes.alive
  have hk := h.live alive c k executes.state
  have record := h.record c k executes.state
  unfold Sys.releaseStep
  split
  · rename_i early
    refine h.quiet [] alive (Sys.setContinuation_continuations_self _ _ _)
      (fun _ other => Sys.setContinuation_continuations_ne _ _ _ other) rfl (by simp)
      (fun _ => rfl) (fun _ => rfl) (by simp) (by simp [alive]) (record.withState rfl (by rintro ⟨⟩))
      fun _ => hk.withState rfl (fun qutex => exists_congr fun usage' => and_congr Iff.rfl ?_)
        (by simp [SerializedAsynchronousContinuation.acquiredCount,
          SerializedAsynchronousContinuation.lockCount, phase])
        (by simp [phase, Phase.Succeeded]) (by simp [phase, Phase.Invoked])
    simp only [SerializedAsynchronousContinuation.HoldsAt, phase]
    constructor
    · rintro ⟨low, unreleased⟩
      exact ⟨Nat.le_of_succ_le low, unreleased⟩
    · rintro ⟨low, desc, found', unreleased⟩
      refine ⟨Nat.lt_of_le_of_ne low ?_, desc, found', unreleased⟩
      rintro rfl
      rw [found] at found'
      cases found'
      rw [early] at unreleased
      cases unreleased
  · rename_i notEarly
    have lock : k.lockAt next = some usage.qutex :=
      SerializedAsynchronousContinuation.lockAt_eq_some.mpr ⟨usage, found, rfl⟩
    have held : k.HoldsAt next := by
      simp only [SerializedAsynchronousContinuation.HoldsAt, phase]
      exact ⟨le_rfl, usage, found, by simpa using notEarly⟩
    have holder := (hk.holds usage.qutex).mpr ⟨next, lock, held⟩
    obtain ⟨currOwner, owned⟩ := h.owners.of_holds holder
    have result := Qutex.release_of_owned _ owned _ currOwner
    have owners := h.owners.giveUp holder (.inr rfl) (s.qutexes usage.qutex).release.1
      (by rw [result]) (by rw [result])
    dsimp only
    rw [result]
    dsimp only
    rw [result, ← Sys.setQutex_qutexes] at owners
    refine h.update [.release c usage.qutex] alive (Sys.setThread_setContinuation_self _ _ _ _ _)
      (fun _ other => Sys.setContinuation_continuations_ne _ _ _ other) rfl
      (List.forall_mem_singleton.mpr rfl) owners (by simp [alive])
      ((record.cons (.release c usage.qutex) (by rintro ⟨⟩) (by rintro ⟨⟩) (by rintro ⟨⟩)
        fun _ hEvent => ?_).withState rfl (by rintro ⟨⟩)) fun _ => hk.release lock held
          (fun _ => rfl) (fun usage' => ?_) rfl
          (by simp [phase, Phase.Succeeded]) (by simp [phase, Phase.Invoked]) trivial trivial
    · cases hEvent
      rw [hk.released]
      exact fun released => released.2.2 ⟨next, lock, held⟩
    · simp only [SerializedAsynchronousContinuation.HoldsAt, phase]
      constructor
      · rintro ⟨low, unreleased⟩
        exact ⟨⟨Nat.le_of_succ_le low, unreleased⟩, Nat.ne_of_gt low⟩
      · rintro ⟨⟨low, unreleased⟩, other⟩
        exact ⟨Nat.lt_of_le_of_ne low (Ne.symm other), unreleased⟩

/-- `releaseQutexEarly` from the body: the first LockUsage naming the qutex is released by its
holder, this continuation, unless it was released early before. -/
theorem releaseQutexEarly {s : Sys} {c : ContinuationId} {k : SerializedAsynchronousContinuation}
    (qutex : QutexId) (h : Ownership s) (sched : Scheduling s) (alive : s.aborted = none)
    (state : s.continuations c = some k) (idle : s.Idle k.target) :
    Ownership (s.releaseQutexEarly c k qutex) := by
  have hk := h.live alive c k state
  unfold Sys.releaseQutexEarly
  split
  · exact h.abort _ (by decide)
  rename_i acquired
  have invoked := sched.invoked_of_idle state idle.1
    ((sched.tracked c k state).consistent.acquired.mp (by simpa using acquired))
  split
  · exact h.abort _ (by decide)
  rename_i index usage found
  obtain ⟨found, -⟩ := getLockUsageDesc_spec found
  split
  · exact h
  rename_i notEarly
  have lock : k.lockAt index = some usage.qutex :=
    SerializedAsynchronousContinuation.lockAt_eq_some.mpr ⟨usage, found, rfl⟩
  have held : k.HoldsAt index := by
    simp only [SerializedAsynchronousContinuation.HoldsAt, invoked]
    exact ⟨usage, found, by simpa using notEarly⟩
  have holder := (hk.holds usage.qutex).mpr ⟨index, lock, held⟩
  obtain ⟨currOwner, owned⟩ := h.owners.of_holds holder
  have result := Qutex.release_of_owned _ owned _ currOwner
  have owners := h.owners.giveUp holder (.inr rfl) (s.qutexes usage.qutex).release.1
    (by rw [result]) (by rw [result])
  rw [result, ← Sys.setQutex_qutexes] at owners
  have succeeded : k.phase.Succeeded := by rw [invoked]; trivial
  have invoked' : k.phase.Invoked := by rw [invoked]; trivial
  dsimp only
  rw [result]
  dsimp only
  refine h.update [.release c usage.qutex] alive (Sys.setThread_setContinuation_self _ _ _ _ _)
    (fun _ other => Sys.setContinuation_continuations_ne _ _ _ other) rfl
    (List.forall_mem_singleton.mpr rfl) owners (by simp [alive])
    (((h.record c k state).cons (.release c usage.qutex) (by rintro ⟨⟩) (by rintro ⟨⟩)
      (by rintro ⟨⟩) fun _ hEvent => ?_).withState
        (SerializedAsynchronousContinuation.lockQutexes_markReleased found) id) fun _ =>
      hk.release lock held (SerializedAsynchronousContinuation.lockAt_markReleased found)
        (fun usage' => ?_) ?_ succeeded invoked' succeeded invoked'
  · cases hEvent
    rw [hk.released]
    exact fun released => released.2.2 ⟨index, lock, held⟩
  · simp only [SerializedAsynchronousContinuation.HoldsAt, invoked]
    exact SerializedAsynchronousContinuation.unreleased_markReleased found usage'
  · simp [SerializedAsynchronousContinuation.acquiredCount,
      SerializedAsynchronousContinuation.lockCount, invoked]

/-- Posting the original callback touches no qutex, continuation or history. -/
theorem postedCallOriginalCb {s : Sys} (h : Ownership s) (alive : s.aborted = none)
    (c : ContinuationId) (k : SerializedAsynchronousContinuation) :
    Ownership (s.postedCallOriginalCb c k) :=
  h.frame alive (fun _ => by simp) (by simp) (by simp) (by simp)

/-- The end of `LockSet::release`: every qutex of the LockSet has been released. -/
theorem finishRelease {s : Sys} {thread : ThreadId} {c : ContinuationId}
    {k : SerializedAsynchronousContinuation} {next : Nat} (h : Ownership s)
    (executes : s.Executes thread c k) (phase : k.phase = .releasing next)
    (done : k.requiredLocks.locks[next]? = none) : Ownership (s.finishRelease thread c k) := by
  have alive := executes.alive
  have hk := h.live alive c k executes.state
  have record := h.record c k executes.state
  have nothing : ∀ qutex, ¬ k.Holds qutex := by
    rintro qutex ⟨usage, -, held⟩
    simp only [SerializedAsynchronousContinuation.HoldsAt, phase] at held
    obtain ⟨low, desc, found, -⟩ := held
    have inside := (List.getElem?_eq_some_iff.mp found).1
    have outside := List.getElem?_eq_none_iff.mp done
    omega
  have released : Record s.trace c
      { k with
        requiredLocks := { k.requiredLocks with allLocksAcquired := false }
        phase := .released } :=
    ⟨record.acquiredAllOnce, record.quietAfterSuccess, record.invokeOnce, record.invokedHolding,
      record.releaseOnce, fun _ qutex member =>
        (hk.released qutex).mpr ⟨by rw [phase]; trivial, member, nothing qutex⟩⟩
  unfold Sys.finishRelease
  refine Ownership.postedCallOriginalCb ?_ (by simp [alive]) _ _
  refine h.quiet [] alive (by simp)
    (fun _ other => Sys.setContinuation_continuations_ne _ _ _ other) rfl (by simp)
    (fun _ => rfl) (fun _ => rfl) (by simp) (by simp [alive]) released fun _ =>
      hk.withState rfl (fun qutex => iff_of_false (fun ⟨_, _, held⟩ => held) (nothing qutex))
        ?_ (by simp [phase, Phase.Succeeded]) (by simp [phase, Phase.Invoked])
  simp [SerializedAsynchronousContinuation.acquiredCount,
    SerializedAsynchronousContinuation.lockCount, phase]

/-- Application code constructs a continuation: no event of it is in the history yet. -/
theorem construct {s : Sys} {thread : ThreadId} (spec : ContinuationSpec) (h : Ownership s)
    (sched : Scheduling s) (alive : s.aborted = none) : Ownership (s.construct thread spec) := by
  unfold Sys.construct
  split
  · exact h.abort _ (by decide)
  have quiet : ∀ event ∈ s.trace, event.Quiet s.nextContinuation := fun event member =>
    Event.quiet_of_continuation_ne (h.unborn _ (sched.fresh _ le_rfl) event member)
  have impossible : ∀ {event : Event} {newer older : List Event},
      ([] : List Event) ≠ newer ++ event :: older := by simp
  dsimp only
  refine h.update [] alive (Sys.setThread_setContinuation_self _ _ _ _ _)
    (fun _ other => Sys.setContinuation_continuations_ne _ _ _ other) rfl (by simp) h.owners
    (by simp [alive]) ?_ fun _ => ?_
  · rw [← List.append_nil s.trace]
    refine Record.append ?_ quiet
    exact ⟨Nat.zero_le 1, fun _ _ split => absurd split impossible, Nat.zero_le 1,
      fun _ _ split => absurd split impossible, fun _ => Nat.zero_le 1, by rintro ⟨⟩⟩
  · rw [← List.append_nil s.trace]
    refine Holdings.append ?_ fun event member => (quiet event member).toSilent
    refine ⟨fun qutex => iff_of_false (by simp) fun ⟨_, _, held⟩ => held, List.nodup_nil,
      fun _ desc member => ?_, iff_of_false (by simp) id, iff_of_false (by simp) id,
      fun qutex => iff_of_false (by simp) fun ⟨invoked, _⟩ => invoked⟩
    obtain ⟨qutex, -, rfl⟩ := List.mem_map.mp member
    rfl

/-- Every step keeps qutex ownership and the histories of the continuations. -/
theorem step {s s' : Sys} (h : Ownership s) (reachable : Reachable s) (step : Step s s') :
    Ownership s' := by
  have sched := reachable.scheduling
  cases step with
  | @register thread c k usage qutex executes phase lock =>
    unfold Sys.registerStep
    exact h.internal executes.alive executes.state (Sys.setContinuation_continuations_self _ _ _)
      (fun _ other => Sys.setContinuation_continuations_ne _ _ _ other)
      (by simp [Function.update_apply, apply_ite]) (by simp [Function.update_apply, apply_ite]) rfl
      executes.alive rfl (by rintro ⟨⟩) fun hk => hk.empty rfl (by rw [phase]; trivial) trivial
  | @finishRegistration thread c k usage executes phase done =>
    unfold Sys.finishRegistration
    exact h.internal executes.alive executes.state (Sys.setThread_setContinuation_self _ _ _ _ _)
      (fun _ other => Sys.setContinuation_continuations_ne _ _ _ other) (fun _ => rfl)
      (fun _ => rfl) rfl executes.alive rfl (by rintro ⟨⟩) fun hk =>
        hk.empty rfl (by rw [phase]; trivial) trivial
  | @exchange thread c k forceAwaken alive wake state =>
    unfold Sys.exchangeStep
    exact h.internal alive state (Sys.setThread_setContinuation_self _ _ _ _ _)
      (fun _ other => Sys.setContinuation_continuations_ne _ _ _ other) (fun _ => rfl)
      (fun _ => rfl) rfl alive rfl id fun hk =>
        hk.withState rfl (fun _ => Iff.rfl) le_rfl Iff.rfl Iff.rfl
  | @post thread c k alive wake state =>
    have hk := h.live alive c k state
    have wakeable := (sched.tracked c k state).consistent.wakeable (.inl ⟨thread, .inr wake⟩)
    have notSucceeded : .acquiredAll c ∉ s.trace := by
      rw [hk.acquiredAll]
      revert wakeable
      cases k.phase <;> simp [Phase.Wakeable, Phase.Succeeded]
    unfold Sys.postStep
    exact h.quiet [.post c] alive state (fun _ _ => rfl) rfl (List.forall_mem_singleton.mpr rfl)
      (fun _ => rfl) (fun _ => rfl) (List.forall_mem_singleton.mpr fun _ _ => rfl)
      (by simp [Sys.postTask, alive])
      ((h.record c k state).cons (.post c) (by rintro ⟨⟩) (fun _ => notSucceeded) (by rintro ⟨⟩)
        (by rintro _ ⟨⟩)) fun _ => hk.cons (Event.silent_post c c)
  | @dequeue thread task rest alive idle queue =>
    cases task with
    | callback => exact h.frame alive (fun _ => ⟨rfl, rfl⟩) rfl rfl rfl
    | lockvoker c =>
      obtain ⟨k, state, -, asleep, -, -, -⟩ := sched.dequeued idle queue
      have hk := h.live alive c k state
      have record := (h.record c k state).quiet (Event.quiet_execute c)
      have aborting : ∀ what, what ≠ releaseUnownedError →
          Ownership ((((s.setThread thread { s.threads thread with ioService := rest }).record
            (.execute c))).abort what) := fun what hWhat =>
        h.quiet [.execute c] alive state (fun _ _ => rfl) rfl (List.forall_mem_singleton.mpr rfl)
          (fun _ => rfl) (fun _ => rfl) (List.forall_mem_singleton.mpr fun _ _ => rfl)
          (by simpa using hWhat) record (by simp)
      simp only [Sys.dequeueStep, Sys.setThread_continuations, state, Sys.startOperator]
      split
      · exact aborting _ (by decide)
      split
      · exact aborting _ (by decide)
      split
      · exact aborting _ (by decide)
      refine h.quiet [.execute c] alive (Sys.setThread_setContinuation_self _ _ _ _ _)
        (fun _ other => Sys.setContinuation_continuations_ne _ _ _ other) rfl
        (List.forall_mem_singleton.mpr rfl) (fun _ => rfl) (fun _ => rfl)
        (List.forall_mem_singleton.mpr fun _ _ => rfl)
        (by simp [alive]) (record.withState rfl (by rintro ⟨⟩)) fun _ =>
          (hk.cons (Event.quiet_execute c).toSilent).empty rfl ?_ rfl
      rw [asleep]
      trivial
  | tryAcquire executes phase lock => exact h.tryAcquire executes phase lock
  | acquiredAll executes phase done => exact h.acquiredAll executes phase done
  | backoff executes phase pending lock => exact h.backoff reachable executes phase pending lock
  | @finishBackoff thread c k next nAcquired firstFailedQutex executes phase done =>
    unfold Sys.finishBackoff
    refine h.internal executes.alive executes.state (Sys.setContinuation_continuations_self _ _ _)
      (fun _ other => Sys.setContinuation_continuations_ne _ _ _ other) (fun _ => rfl)
      (fun _ => rfl) rfl executes.alive rfl (by rintro ⟨⟩) fun hk =>
        hk.toEmpty rfl (fun qutex ⟨usage, _, held⟩ => ?_) (by simp [phase, Phase.Succeeded]) trivial
    simp only [SerializedAsynchronousContinuation.HoldsAt, phase] at held
    omega
  | @allowAwakening thread c k firstFailedQutex executes phase =>
    have empty : k.phase.Empty := by rw [phase]; trivial
    unfold Sys.allowAwakeningStep
    split
    · exact h.internal executes.alive executes.state (Sys.setContinuation_continuations_self _ _ _)
        (fun _ other => Sys.setContinuation_continuations_ne _ _ _ other) (fun _ => rfl)
        (fun _ => rfl) rfl executes.alive rfl (by rintro ⟨⟩) fun hk => hk.empty rfl empty trivial
    · exact h.internal executes.alive executes.state (Sys.setThread_setContinuation_self _ _ _ _ _)
        (fun _ other => Sys.setContinuation_continuations_ne _ _ _ other) (fun _ => rfl)
        (fun _ => rfl) rfl executes.alive rfl (by rintro ⟨⟩) fun hk => hk.empty rfl empty trivial
  | @track thread c k firstFailedQutex executes phase =>
    unfold Sys.trackStep
    exact h.internal executes.alive executes.state (Sys.setThread_setContinuation_self _ _ _ _ _)
      (fun _ other => Sys.setContinuation_continuations_ne _ _ _ other) (fun _ => rfl)
      (fun _ => rfl) rfl executes.alive rfl (by rintro ⟨⟩) fun hk =>
        hk.empty rfl (by rw [phase]; trivial) trivial
  | @unregister thread c k next qutex executes phase lock =>
    have succeeded : k.phase.Succeeded := by rw [phase]; trivial
    unfold Sys.unregisterStep
    exact h.internal executes.alive executes.state (Sys.setContinuation_continuations_self _ _ _)
      (fun _ other => Sys.setContinuation_continuations_ne _ _ _ other)
      (by simp [Function.update_apply, apply_ite]) (by simp [Function.update_apply, apply_ite]) rfl
      executes.alive rfl (by rintro ⟨⟩) fun hk =>
        hk.withState rfl (SerializedAsynchronousContinuation.holds_congr_of_owning
          (by rw [phase]; trivial) trivial rfl)
          (SerializedAsynchronousContinuation.acquiredCount_of_succeeded succeeded).ge
          (iff_of_true trivial succeeded) (by simp [phase, Phase.Invoked])
  | @finishUnregistration thread c k next executes phase done =>
    have succeeded : k.phase.Succeeded := by rw [phase]; trivial
    unfold Sys.finishUnregistration
    split
    · exact h.internal executes.alive executes.state (Sys.setContinuation_continuations_self _ _ _)
        (fun _ other => Sys.setContinuation_continuations_ne _ _ _ other) (fun _ => rfl)
        (fun _ => rfl) rfl executes.alive rfl (by rintro ⟨⟩) fun hk =>
          hk.withState rfl (SerializedAsynchronousContinuation.holds_congr_of_owning
            (by rw [phase]; trivial) trivial rfl)
            (SerializedAsynchronousContinuation.acquiredCount_of_succeeded succeeded).ge
            (iff_of_true trivial succeeded) (by simp [phase, Phase.Invoked])
    · exact h.invoke executes succeeded (by simp [phase, Phase.Invoked])
        (SerializedAsynchronousContinuation.holdsAt_of_owning (by rw [phase]; trivial))
  | @untrack thread c k executes phase =>
    have removed : Ownership (s.setAcquisitionHistory (s.acquisitionHistory.remove c).1) :=
      h.frame executes.alive (fun _ => ⟨rfl, rfl⟩) rfl rfl rfl
    unfold Sys.untrackStep
    exact removed.invoke
      (executes.congr rfl rfl rfl) (by rw [phase]; trivial) (by simp [phase, Phase.Invoked])
      (SerializedAsynchronousContinuation.holdsAt_of_owning (by rw [phase]; trivial))
  | release executes phase found => exact h.release executes phase found
  | finishRelease executes phase done => exact h.finishRelease executes phase done
  | construct spec alive _ => exact h.construct spec sched alive
  | @callOriginalCb c k alive state idle =>
    unfold Sys.callOriginalCb
    split
    · exact h.abort _ (by decide)
    split
    · exact h.abort _ (by decide)
    rename_i acquired
    have invoked := sched.invoked_of_idle state idle.1
      ((sched.tracked c k state).consistent.acquired.mp (by simpa using acquired))
    have succeeded : k.phase.Succeeded := by rw [invoked]; trivial
    refine h.internal alive state (Sys.setThread_setContinuation_self _ _ _ _ _)
      (fun _ other => Sys.setContinuation_continuations_ne _ _ _ other) (fun _ => rfl)
      (fun _ => rfl) rfl alive rfl (by rintro ⟨⟩) fun hk =>
        hk.withState rfl (SerializedAsynchronousContinuation.holds_congr (fun _ => rfl)
          fun usage => ?_) (SerializedAsynchronousContinuation.acquiredCount_of_succeeded succeeded).ge
          (iff_of_true trivial succeeded) (by simp [invoked, Phase.Invoked])
    simp only [SerializedAsynchronousContinuation.HoldsAt, invoked, Nat.zero_le, true_and]
    rfl
  | releaseQutexEarly qutex alive state idle =>
    exact h.releaseQutexEarly qutex sched alive state idle
  | tick alive => exact h.frame alive (fun _ => ⟨rfl, rfl⟩) rfl rfl rfl

end Ownership

/-- Every reachable state satisfies the ownership invariant. -/
theorem Reachable.ownership {s : Sys} (reachable : Reachable s) : Ownership s := by
  induction reachable with
  | initial deadlockTimeout => exact .initial deadlockTimeout
  | step reachable step invariant => exact invariant.step reachable step

/-! ## Mutual exclusion -/

/-- Mutual exclusion on `qutex` in state `s`, with the holder read off the history. -/
structure ExclusiveOwnership (s : Sys) (qutex : QutexId) : Prop where
  /-- At most one continuation holds the qutex. -/
  atMostOne : ∀ c c', Trace.holds c qutex s.trace = true → Trace.holds c' qutex s.trace = true →
    c = c'
  /-- `isOwned` is set exactly when one continuation holds the qutex. -/
  owned : (s.qutexes qutex).isOwned = true ↔ ∃! c, Trace.holds c qutex s.trace = true
  /-- `currOwner` is set exactly when `isOwned` is. -/
  currOwner : (s.qutexes qutex).currOwner.isSome = (s.qutexes qutex).isOwned
  /-- Every `backoff` and `release` on the qutex was called by its holder. -/
  callsByHolder : ∀ c newer older, (s.trace = newer ++ .backoff c qutex :: older ∨
    s.trace = newer ++ .release c qutex :: older) → Trace.holds c qutex older = true
  /-- So `release` never raised its error for an unowned qutex. -/
  noReleaseError : s.aborted ≠ some releaseUnownedError

/-- In every reachable state, on every qutex: at most one holder, `isOwned` exactly when there is
one, `currOwner` set exactly when `isOwned` is, every `backoff` and `release` by the holder, and
no release of an unowned qutex. -/
theorem reachable_exclusiveOwnership {s : Sys} (reachable : Reachable s) (qutex : QutexId) :
    ExclusiveOwnership s qutex := by
  have owners := reachable.ownership.owners
  have atMostOne : ∀ c c', Trace.holds c qutex s.trace = true →
      Trace.holds c' qutex s.trace = true → c = c' := fun c c' held held' =>
    Option.some_injective _ (((owners.owner qutex c).mpr held).symm.trans
      ((owners.owner qutex c').mpr held'))
  refine ⟨atMostOne, ?_, (owners.owned qutex).symm, ?_, reachable.ownership.noReleaseError⟩
  · rw [owners.owned]
    constructor
    · intro owned
      obtain ⟨c, owner⟩ := Option.isSome_iff_exists.mp owned
      have held := (owners.owner qutex c).mp owner
      exact ⟨c, held, fun c' held' => atMostOne c' c held' held⟩
    · rintro ⟨c, held, -⟩
      rw [(owners.owner qutex c).mpr held]
      rfl
  · rintro c newer older (split | split) <;> have calls := owners.callsByHolder <;> rw [split] at calls
    · exact calls.split (.inl rfl)
    · exact calls.split (.inr rfl)

/-- Mutual exclusion on qutex 0 once `acquiredBeforeUnregistration` has acquired it. -/
theorem exclusiveOwnership_after_success :
    ExclusiveOwnership ((Sys.initial 100).run acquiredBeforeUnregistration) 0 :=
  reachable_exclusiveOwnership ((Reachable.initial 100).run acquiredBeforeUnregistration) 0

end Spinscale
