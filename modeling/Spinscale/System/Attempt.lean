import Spinscale.System.Step

/-!
# One call of `tryAcquireOrBackOff`

`LockSet::tryAcquireOrBackOff` as one sequential call, on the qutexes as it finds them: the
`tryAcquire` loop in declaration order, which breaks at the first refusal and records it as
`firstFailedQutex`, then `backoff` on each qutex acquired before it. The steps of `Sys` cut the
same code into atomic qutex operations that other threads may interleave; both use the same
`Qutex` operations. The calls made are logged as `Event`s, oldest first.

`tryAcquireOrBackOff_all_or_nothing` is the contract of the call for a lockvoker that has
exactly one node in the queue of every qutex of its LockSet: it returns true exactly when every
`tryAcquire` succeeded, and then holds every qutex; otherwise it has backed off, once, from each
qutex it acquired before the first refusal, touched no other qutex, and holds none.
-/

namespace Spinscale

/-- The qutexes of the LockUsages, in declaration order. -/
def LockSet.qutexes (lockSet : LockSet) : List QutexId :=
  lockSet.locks.map (·.qutex)

/-- One call of `tryAcquireOrBackOff` as it runs: the qutexes, the LockSet, `firstFailedQutex`,
the qutex calls made (oldest first), the continuations `backoff` awakened, and how it ended. -/
structure Attempt where
  qutexes : QutexId → Qutex
  lockSet : LockSet
  firstFailedQutex : Option QutexId
  calls : List Event
  awakened : List ContinuationId
  outcome : Outcome Bool

namespace Attempt

/-- Replace one qutex. -/
def setQutex (attempt : Attempt) (qutex : QutexId) (value : Qutex) : Attempt :=
  { attempt with
    qutexes := fun qutex' => if qutex' = qutex then value else attempt.qutexes qutex' }

/-- Log a qutex call. -/
def call (attempt : Attempt) (event : Event) : Attempt :=
  { attempt with calls := attempt.calls ++ [event] }

end Attempt

/-- How the acquisition loop ended. -/
inductive AcquisitionExit where
  /-- Every LockUsage was acquired. -/
  | completed
  /-- A `tryAcquire` refused after `nAcquired` successes (`break`). -/
  | broke (nAcquired : Nat)
  /-- A `tryAcquire` threw. -/
  | threw (what : String)

/-- The acquisition loop over the qutexes not yet tried, after `nAcquired` successes: `tryAcquire`
each in turn until one refuses, and record that one as `firstFailedQutex`. -/
def acquireLoop (lockvoker : ContinuationId) (nRequiredLocks : Nat) :
    List QutexId → Nat → Attempt → Attempt × AcquisitionExit
  | [], _, attempt => (attempt, .completed)
  | qutex :: rest, nAcquired, attempt =>
    let result := (attempt.qutexes qutex).tryAcquire lockvoker nRequiredLocks
    let attempt := attempt.setQutex qutex result.1
    match result.2 with
    | .threw what => (attempt.call (.tryAcquire lockvoker qutex false), .threw what)
    | .returned false =>
      ({ attempt.call (.tryAcquire lockvoker qutex false) with firstFailedQutex := some qutex },
        .broke nAcquired)
    | .returned true =>
      acquireLoop lockvoker nRequiredLocks rest (nAcquired + 1)
        (attempt.call (.tryAcquire lockvoker qutex true))

/-- The backoff loop over the qutexes acquired: `backoff` each, which awakens the front it names,
then `return false`. -/
def backoffLoop (lockvoker : ContinuationId) (nRequiredLocks : Nat) :
    List QutexId → Attempt → Attempt
  | [], attempt => { attempt with outcome := .returned false }
  | qutex :: rest, attempt =>
    let result := (attempt.qutexes qutex).backoff lockvoker nRequiredLocks
    let attempt := (attempt.setQutex qutex result.1).call (.backoff lockvoker qutex)
    match result.2 with
    | .threw what => { attempt with outcome := .threw what }
    | .returned wake =>
      backoffLoop lockvoker nRequiredLocks rest
        { attempt with awakened := attempt.awakened ++ wake.toList }

/-- `LockSet::tryAcquireOrBackOff(lockvoker, firstFailedQutex)` from the qutexes `qutexes`, with
`firstFailedQutex` empty on entry. -/
def LockSet.tryAcquireOrBackOff (lockSet : LockSet) (lockvoker : ContinuationId)
    (qutexes : QutexId → Qutex) : Attempt :=
  let attempt : Attempt := ⟨qutexes, lockSet, none, [], [], .returned false⟩
  if !lockSet.registeredInQutexQueues then
    { attempt with outcome := .threw tryAcquireOrBackOffUnregisteredError }
  else if lockSet.allLocksAcquired then
    { attempt with outcome := .threw tryAcquireOrBackOffAcquiredError }
  else
    let nRequiredLocks := lockSet.locks.length
    match acquireLoop lockvoker nRequiredLocks lockSet.qutexes 0 attempt with
    | (attempt, .threw what) => { attempt with outcome := .threw what }
    | (attempt, .broke nAcquired) =>
      backoffLoop lockvoker nRequiredLocks (lockSet.qutexes.take nAcquired) attempt
    | (attempt, .completed) =>
      { attempt with
        lockSet := { attempt.lockSet with allLocksAcquired := true }
        outcome := .returned true }

/-! ## The contract -/

/-- `qutexes` with `change` applied to each qutex of `touched`. -/
def changeAll (qutexes : QutexId → Qutex) (touched : List QutexId) (change : Qutex → Qutex) :
    QutexId → Qutex :=
  fun qutex => if qutex ∈ touched then change (qutexes qutex) else qutexes qutex

/-- `tryAcquire` by `lockvoker` succeeds on each qutex of `acquired`, as the qutexes are. -/
def Acquires (qutexes : QutexId → Qutex) (lockvoker : ContinuationId) (nRequiredLocks : Nat)
    (acquired : List QutexId) : Prop :=
  ∀ qutex ∈ acquired, (qutexes qutex).tryAcquire lockvoker nRequiredLocks =
    ((qutexes qutex).acquiredBy lockvoker, .returned true)

/-- What `tryAcquireOrBackOff` is for: either every `tryAcquire` succeeds and the call returns
true holding every qutex, or it stops at the first refusal, backs off once from each qutex it
acquired before it, calls nothing else, and returns false holding none of them. -/
inductive AllOrNothing (lockSet : LockSet) (lockvoker : ContinuationId)
    (qutexes : QutexId → Qutex) : Attempt → Prop
  /-- Every `tryAcquire`, in declaration order, acquired its qutex. -/
  | acquired {attempt : Attempt} (distinct : lockSet.qutexes.Nodup)
      (succeeded : Acquires qutexes lockvoker lockSet.locks.length lockSet.qutexes)
      (calls : attempt.calls = lockSet.qutexes.map (.tryAcquire lockvoker · true))
      (held : attempt.qutexes = changeAll qutexes lockSet.qutexes (·.acquiredBy lockvoker))
      (allLocksAcquired : attempt.lockSet = { lockSet with allLocksAcquired := true })
      (returned : attempt.outcome = .returned true) :
      AllOrNothing lockSet lockvoker qutexes attempt
  /-- The `tryAcquire` of LockUsage `acquired.length` refused; those before it succeeded and are
  backed off in order. -/
  | backedOff {attempt : Attempt} (acquired : List QutexId) (failed : QutexId)
      (rest : List QutexId) (split : lockSet.qutexes = acquired ++ failed :: rest)
      (distinct : acquired.Nodup)
      (succeeded : Acquires qutexes lockvoker lockSet.locks.length acquired)
      (refused : (changeAll qutexes acquired (·.acquiredBy lockvoker) failed).tryAcquire lockvoker
        lockSet.locks.length =
          (changeAll qutexes acquired (·.acquiredBy lockvoker) failed, .returned false))
      (firstFailedQutex : attempt.firstFailedQutex = some failed)
      (calls : attempt.calls = acquired.map (.tryAcquire lockvoker · true) ++
        .tryAcquire lockvoker failed false :: acquired.map (.backoff lockvoker ·))
      (freed : attempt.qutexes =
        changeAll qutexes acquired (·.rotatedAndFreed lockvoker lockSet.locks.length))
      (unchanged : attempt.lockSet = lockSet)
      (returned : attempt.outcome = .returned false) :
      AllOrNothing lockSet lockvoker qutexes attempt

@[simp] theorem changeAll_nil (qutexes : QutexId → Qutex) (change : Qutex → Qutex) :
    changeAll qutexes [] change = qutexes :=
  funext fun _ => if_neg (List.not_mem_nil _)

/-- Changing `qutex` and then every qutex of `touched` changes every qutex of `qutex :: touched`,
when a second change of `qutex` does nothing. -/
theorem changeAll_setQutex (qutexes : QutexId → Qutex) (qutex : QutexId)
    (touched : List QutexId) (change : Qutex → Qutex)
    (again : qutex ∈ touched → change (change (qutexes qutex)) = change (qutexes qutex)) :
    changeAll (fun qutex' => if qutex' = qutex then change (qutexes qutex) else qutexes qutex')
        touched change = changeAll qutexes (qutex :: touched) change := by
  funext qutex'
  by_cases same : qutex' = qutex
  · subst same
    by_cases member : qutex' ∈ touched <;> simp [changeAll, member, again]
  · simp [changeAll, same]

theorem changeAll_changeAll (qutexes : QutexId → Qutex) (touched : List QutexId)
    (first second : Qutex → Qutex) :
    changeAll (changeAll qutexes touched first) touched second =
      changeAll qutexes touched (second ∘ first) := by
  funext qutex
  by_cases member : qutex ∈ touched <;> simp [changeAll, member]

@[simp] theorem changeAll_queue_acquiredBy (qutexes : QutexId → Qutex) (touched : List QutexId)
    (owner : ContinuationId) (qutex : QutexId) :
    (changeAll qutexes touched (·.acquiredBy owner) qutex).queue = (qutexes qutex).queue := by
  unfold changeAll
  split <;> rfl

theorem Attempt.setQutex_self (attempt : Attempt) (qutex : QutexId) :
    attempt.setQutex qutex (attempt.qutexes qutex) = attempt := by
  unfold Attempt.setQutex
  congr
  funext qutex'
  split <;> simp_all

/-! ## The acquisition loop -/

/-- The acquisition loop leaves the LockSet as it is. -/
@[simp] theorem acquireLoop_lockSet (lockvoker : ContinuationId) (nRequiredLocks : Nat) :
    ∀ (pending : List QutexId) (nAcquired : Nat) (attempt : Attempt),
      (acquireLoop lockvoker nRequiredLocks pending nAcquired attempt).1.lockSet = attempt.lockSet
  | [], _, _ => rfl
  | qutex :: rest, nAcquired, attempt => by
    simp only [acquireLoop]
    split
    · rfl
    · rfl
    · exact acquireLoop_lockSet lockvoker nRequiredLocks rest (nAcquired + 1) _

/-- The acquisition loop either acquires every pending qutex, which are then distinct, or stops
at the first refusal after acquiring the distinct qutexes before it. -/
theorem acquireLoop_spec (lockvoker : ContinuationId) (nRequiredLocks : Nat) :
    ∀ (pending : List QutexId) (nAcquired : Nat) (attempt : Attempt),
      (∀ qutex ∈ pending, (attempt.qutexes qutex).queue ≠ []) →
      (pending.Nodup ∧ Acquires attempt.qutexes lockvoker nRequiredLocks pending ∧
        acquireLoop lockvoker nRequiredLocks pending nAcquired attempt =
          ({ attempt with
              qutexes := changeAll attempt.qutexes pending (·.acquiredBy lockvoker)
              calls := attempt.calls ++ pending.map (.tryAcquire lockvoker · true) },
            .completed)) ∨
      ∃ acquired failed rest, pending = acquired ++ failed :: rest ∧ acquired.Nodup ∧
        Acquires attempt.qutexes lockvoker nRequiredLocks acquired ∧
        (changeAll attempt.qutexes acquired (·.acquiredBy lockvoker) failed).tryAcquire lockvoker
            nRequiredLocks =
          (changeAll attempt.qutexes acquired (·.acquiredBy lockvoker) failed, .returned false) ∧
        acquireLoop lockvoker nRequiredLocks pending nAcquired attempt =
          ({ attempt with
              qutexes := changeAll attempt.qutexes acquired (·.acquiredBy lockvoker)
              calls := attempt.calls ++ acquired.map (.tryAcquire lockvoker · true) ++
                [.tryAcquire lockvoker failed false]
              firstFailedQutex := some failed },
            .broke (nAcquired + acquired.length)) := by
  intro pending
  induction pending with
  | nil => exact fun _ _ _ => .inl ⟨List.nodup_nil, by simp [Acquires], by simp [acquireLoop]⟩
  | cons qutex rest ih =>
    intro nAcquired attempt nonempty
    have front := nonempty qutex (List.mem_cons_self _ _)
    rcases Qutex.tryAcquire_cases (attempt.qutexes qutex) lockvoker nRequiredLocks with
      ⟨same, notAcquired⟩ | ⟨acquiredBy, succeeded, free⟩
    · -- The first pending qutex refuses.
      have refused := Qutex.tryAcquire_refuses _ _ _ front same notAcquired
      refine .inr ⟨[], qutex, rest, rfl, List.nodup_nil, by simp [Acquires], by simpa, ?_⟩
      simp [acquireLoop, refused, Attempt.setQutex_self, Attempt.call]
    · -- The first pending qutex is acquired; the loop goes on with the rest.
      set next := (attempt.setQutex qutex ((attempt.qutexes qutex).acquiredBy lockvoker)).call
        (.tryAcquire lockvoker qutex true) with next_def
      have step : acquireLoop lockvoker nRequiredLocks (qutex :: rest) nAcquired attempt =
          acquireLoop lockvoker nRequiredLocks rest (nAcquired + 1) next := by
        simp only [acquireLoop, acquiredBy, succeeded]
      have nextQutexes : next.qutexes = fun qutex' =>
          if qutex' = qutex then (attempt.qutexes qutex).acquiredBy lockvoker
          else attempt.qutexes qutex' := rfl
      -- The qutex now owned refuses any later `tryAcquire`, so it is not acquired again.
      have fresh : ∀ acquired, Acquires next.qutexes lockvoker nRequiredLocks acquired →
          qutex ∉ acquired := fun acquired acquires member =>
        Qutex.tryAcquire_ne_true_of_owned (next.qutexes qutex) (by simp [nextQutexes]) lockvoker
          nRequiredLocks (congrArg Prod.snd (acquires qutex member))
      have extend : ∀ acquired, Acquires next.qutexes lockvoker nRequiredLocks acquired →
          Acquires attempt.qutexes lockvoker nRequiredLocks (qutex :: acquired) := by
        intro acquired acquires qutex' member
        rcases List.mem_cons.mp member with rfl | later
        · exact Prod.ext acquiredBy succeeded
        · have other : qutex' ≠ qutex := fun same => fresh acquired acquires (same ▸ later)
          simpa [nextQutexes, other] using acquires qutex' later
      have nonempty' : ∀ qutex' ∈ rest, (next.qutexes qutex').queue ≠ [] := by
        intro qutex' member
        simp only [nextQutexes]
        split
        · exact front
        · exact nonempty qutex' (List.mem_cons_of_mem _ member)
      have merge : ∀ touched, changeAll next.qutexes touched (·.acquiredBy lockvoker) =
          changeAll attempt.qutexes (qutex :: touched) (·.acquiredBy lockvoker) :=
        fun touched => changeAll_setQutex attempt.qutexes qutex touched (·.acquiredBy lockvoker)
          fun _ => rfl
      rcases ih (nAcquired + 1) next nonempty' with
        ⟨distinct, acquires, loop⟩ | ⟨acquired, failed, rest', split, distinct, acquires, refused, loop⟩
      · refine .inl ⟨List.nodup_cons.mpr ⟨fresh _ acquires, distinct⟩, extend _ acquires, ?_⟩
        rw [step, loop, merge]
        simp [next_def, Attempt.call, Attempt.setQutex]
      · refine .inr ⟨qutex :: acquired, failed, rest', by rw [split]; rfl,
          List.nodup_cons.mpr ⟨fresh _ acquires, distinct⟩, extend _ acquires, ?_, ?_⟩
        · rwa [merge] at refused
        · rw [step, loop, merge]
          simp [next_def, Attempt.call, Attempt.setQutex, Nat.add_assoc, Nat.add_comm 1]

/-! ## The backoff loop -/

/-- The backoff loop over distinct qutexes, in whose queues the lockvoker has one node each,
rotates and frees each in turn, awakens the front each names, and returns false. -/
theorem backoffLoop_spec (lockvoker : ContinuationId) (nRequiredLocks : Nat) :
    ∀ (acquired : List QutexId) (attempt : Attempt), acquired.Nodup →
      acquired.length < nRequiredLocks →
      (∀ qutex ∈ acquired,
        (attempt.qutexes qutex).queue.countP (·.continuation == lockvoker) = 1) →
      backoffLoop lockvoker nRequiredLocks acquired attempt =
        { attempt with
          qutexes := changeAll attempt.qutexes acquired (·.rotatedAndFreed lockvoker nRequiredLocks)
          calls := attempt.calls ++ acquired.map (.backoff lockvoker ·)
          awakened := attempt.awakened ++ acquired.flatMap fun qutex =>
            (if 1 < (attempt.qutexes qutex).queue.length then
              (Qutex.rotateOnBackoff (attempt.qutexes qutex).queue lockvoker
                nRequiredLocks).head?.map (·.continuation)
            else none).toList
          outcome := .returned false } := by
  intro acquired
  induction acquired with
  | nil => intro attempt _ _ _; simp [backoffLoop]
  | cons qutex rest ih =>
    intro attempt distinct shorter once
    obtain ⟨notLater, distinct⟩ := List.nodup_cons.mp distinct
    have several : 2 ≤ nRequiredLocks := by
      simp only [List.length_cons] at shorter
      omega
    rw [backoffLoop, Qutex.backoff_of_once _ _ _ several (once qutex (List.mem_cons_self _ _))]
    dsimp only
    have untouched : ∀ qutex' ∈ rest, (if qutex' = qutex then
        (attempt.qutexes qutex).rotatedAndFreed lockvoker nRequiredLocks
        else attempt.qutexes qutex') = attempt.qutexes qutex' :=
      fun qutex' later => if_neg fun (same : qutex' = qutex) => notLater (same ▸ later)
    rw [ih _ distinct (by simp only [List.length_cons] at shorter; omega)
      fun qutex' later => (congrArg (fun qutex : Qutex => qutex.queue.countP _)
        (untouched qutex' later)).trans (once qutex' (List.mem_cons_of_mem _ later))]
    simp only [Attempt.setQutex, Attempt.call, Attempt.mk.injEq, List.append_assoc, List.map_cons,
      List.singleton_append, true_and]
    refine ⟨changeAll_setQutex attempt.qutexes qutex rest (·.rotatedAndFreed lockvoker nRequiredLocks)
      (absurd · notLater), ?_⟩
    rw [List.flatMap_congr fun qutex' later => by rw [untouched qutex' later], List.flatMap_cons]
    exact ⟨rfl, trivial⟩

/-! ## `tryAcquireOrBackOff` -/

/-- A registered, unacquired LockSet whose lockvoker has one node in each of its qutexes' queues
either acquires every qutex in order, or gives back every qutex it acquired. -/
theorem tryAcquireOrBackOff_all_or_nothing (lockSet : LockSet) (lockvoker : ContinuationId)
    (qutexes : QutexId → Qutex) (registered : lockSet.registeredInQutexQueues = true)
    (notAcquired : lockSet.allLocksAcquired = false)
    (once : ∀ qutex ∈ lockSet.qutexes,
      (qutexes qutex).queue.countP (·.continuation == lockvoker) = 1) :
    AllOrNothing lockSet lockvoker qutexes (lockSet.tryAcquireOrBackOff lockvoker qutexes) := by
  have nonempty : ∀ qutex ∈ lockSet.qutexes, (qutexes qutex).queue ≠ [] :=
    fun qutex member empty => by simpa [empty] using once qutex member
  unfold LockSet.tryAcquireOrBackOff
  simp only [registered, notAcquired, Bool.not_true, Bool.false_eq_true, if_false]
  rcases acquireLoop_spec lockvoker lockSet.locks.length lockSet.qutexes 0
      ⟨qutexes, lockSet, none, [], [], .returned false⟩ nonempty with
    ⟨distinct, succeeded, loop⟩ | ⟨acquired, failed, rest, split, distinct, succeeded, refused, loop⟩
  · rw [loop]
    exact .acquired distinct succeeded rfl rfl rfl rfl
  · have lengths : lockSet.locks.length = acquired.length + (rest.length + 1) := by
      rw [← List.length_map lockSet.locks (·.qutex), ← LockSet.qutexes, split, List.length_append,
        List.length_cons]
    have once' : ∀ qutex ∈ acquired, (changeAll qutexes acquired (·.acquiredBy lockvoker)
        qutex).queue.countP (·.continuation == lockvoker) = 1 := fun qutex member => by
      rw [changeAll_queue_acquiredBy]
      exact once qutex (split ▸ List.mem_append_left _ member)
    rw [loop]
    dsimp only
    rw [Nat.zero_add, split, List.take_left, backoffLoop_spec _ _ acquired _ distinct (by omega) once']
    exact .backedOff acquired failed rest split distinct succeeded refused rfl (by simp)
      (changeAll_changeAll qutexes acquired (·.acquiredBy lockvoker)
        (·.rotatedAndFreed lockvoker lockSet.locks.length)) rfl rfl

/-- Continuation 5 holds one node in a free qutex 0 and one behind the owner 7 of qutex 1. -/
theorem all_or_nothing_two_qutexes :
    (∀ qutex ∈ (⟨[⟨0, false⟩, ⟨1, false⟩], false, true⟩ : LockSet).qutexes,
      ((fun qutex : QutexId => if qutex = 0 then (⟨[⟨5, 0⟩], false, none, false⟩ : Qutex)
        else ⟨[⟨7, 0⟩, ⟨5, 0⟩], true, some 7, false⟩) qutex).queue.countP
          (·.continuation == 5) = 1) ∧
    AllOrNothing ⟨[⟨0, false⟩, ⟨1, false⟩], false, true⟩ 5
      (fun qutex => if qutex = 0 then ⟨[⟨5, 0⟩], false, none, false⟩
        else ⟨[⟨7, 0⟩, ⟨5, 0⟩], true, some 7, false⟩)
      ((⟨[⟨0, false⟩, ⟨1, false⟩], false, true⟩ : LockSet).tryAcquireOrBackOff 5
        fun qutex => if qutex = 0 then ⟨[⟨5, 0⟩], false, none, false⟩
          else ⟨[⟨7, 0⟩, ⟨5, 0⟩], true, some 7, false⟩) :=
  ⟨by decide, tryAcquireOrBackOff_all_or_nothing _ _ _ rfl rfl (by decide)⟩

end Spinscale
