import Spinscale.System.Attempt
import Spinscale.System.Queues

/-!
# The steps of one attempt

`Sys` runs `tryAcquireOrBackOff` as atomic steps of the executing thread: one step per
`tryAcquire`, one per `backoff` followed by the steps of the `awaken()` it leaves (the exchange of
the woken continuation's flag and the post of its lockvoker), and a last step that leaves the
loops. When no other thread acts in between, these steps compute what the sequential call
`LockSet.tryAcquireOrBackOff` computes: the same qutexes, the same qutex calls in the same order,
and the continuation's code goes on where the call returns to, or the process aborts with what the
call throws (`tryAcquireOrBackOff_steps`). So what is proved of the call holds of every attempt
that runs uninterrupted in the runtime.

The proof follows the two loops of the call: `acquireLoop_steps` runs the `tryAcquire` steps
against one unfolding of `acquireLoop` each, and `backoffLoop_steps` the `backoff` steps and their
wakes against `backoffLoop`. The wakes need a reachable state: the continuation `backoff` names is
the new front of a queue, so `Queues` gives it a record to exchange the flag of.
-/

namespace Spinscale

namespace Event

/-- A call of a qutex operation. -/
def qutexCall : Event → Bool
  | .tryAcquire .. | .backoff .. | .release .. => true
  | _ => false

end Event

namespace SerializedAsynchronousContinuation

/-- A continuation's LockUsages do not depend on where its code is. -/
@[simp] theorem lockCount_phase (k : SerializedAsynchronousContinuation) (phase : Phase) :
    ({ k with phase := phase } : SerializedAsynchronousContinuation).lockCount = k.lockCount := rfl

@[simp] theorem lockAt_phase (k : SerializedAsynchronousContinuation) (phase : Phase) :
    ({ k with phase := phase } : SerializedAsynchronousContinuation).lockAt = k.lockAt := rfl

/-- The qutex of LockUsage `next` heads the qutexes from `next` on. -/
theorem lockAt_eq_head?_drop (k : SerializedAsynchronousContinuation) (next : Nat) :
    k.lockAt next = (k.lockQutexes.drop next).head? := by
  simp [lockAt, lockQutexes, List.head?_drop]

/-- Below `nAcquired`, the same holds of the qutexes acquired. -/
theorem lockAt_eq_head?_drop_take (k : SerializedAsynchronousContinuation) {next : Nat}
    {nAcquired : Nat} (below : next < nAcquired) :
    k.lockAt next = ((k.lockQutexes.take nAcquired).drop next).head? := by
  simp [lockAt, lockQutexes, List.head?_drop, below]

end SerializedAsynchronousContinuation

namespace Sys

/-- `thread` performs `steps` atomic steps in a row, no other thread acting. -/
def runAlone (s : Sys) (thread : ThreadId) (steps : Nat) : Sys :=
  s.run (List.replicate steps (.execute thread))

@[simp] theorem runAlone_zero (s : Sys) (thread : ThreadId) : s.runAlone thread 0 = s := rfl

/-- One more step of the thread alone is its next step, then the others. -/
theorem runAlone_succ (s : Sys) (thread : ThreadId) (steps : Nat) :
    s.runAlone thread (steps + 1) = (s.next (.execute thread)).runAlone thread steps := rfl

/-- A run of the thread alone splits anywhere. -/
theorem runAlone_add (s : Sys) (thread : ThreadId) (first second : Nat) :
    s.runAlone thread (first + second) = (s.runAlone thread first).runAlone thread second := by
  simp only [runAlone, run, List.replicate_add, List.foldl_append]

/-- The thread executing a continuation takes its next step in the continuation's code. -/
theorem next_execute {s : Sys} {thread : ThreadId} {c : ContinuationId}
    {k : SerializedAsynchronousContinuation} (executes : s.Executes thread c k) :
    s.next (.execute thread) = s.advance thread c k := by
  simp [next, executes.alive, executeThread, executes.noWake, executes.running, executes.state]

/-- A thread with an exchange to complete takes that step first. -/
theorem next_exchange {s : Sys} {thread : ThreadId} {c : ContinuationId} {forceAwaken : Bool}
    {k : SerializedAsynchronousContinuation} (alive : s.aborted = none)
    (wake : (s.threads thread).wake = some (.exchange c forceAwaken))
    (state : s.continuations c = some k) :
    s.next (.execute thread) = s.exchangeStep thread c k forceAwaken := by
  simp [next, alive, executeThread, wake, state]

/-- A thread with a post to complete takes that step first. -/
theorem next_post {s : Sys} {thread : ThreadId} {c : ContinuationId}
    {k : SerializedAsynchronousContinuation} (alive : s.aborted = none)
    (wake : (s.threads thread).wake = some (.post c)) (state : s.continuations c = some k) :
    s.next (.execute thread) = s.postStep thread c k := by
  simp [next, alive, executeThread, wake, state]

/-- Posting a task changes no thread's running continuation or pending wake. -/
@[simp] theorem postTask_running (s : Sys) (target : ThreadId) (task : Task) (thread : ThreadId) :
    ((s.postTask target task).threads thread).running = (s.threads thread).running := by
  rw [postTask, setThread_threads_apply]
  split <;> simp_all

@[simp] theorem postTask_wake (s : Sys) (target : ThreadId) (task : Task) (thread : ThreadId) :
    ((s.postTask target task).threads thread).wake = (s.threads thread).wake := by
  rw [postTask, setThread_threads_apply]
  split <;> simp_all

/-- An unforced `awaken()` of another continuation that has a record completes within two steps
of the thread, which then goes on executing its own continuation; neither step touches a qutex or
makes a qutex call. -/
theorem wake_completes {s : Sys} {thread : ThreadId} {c c' : ContinuationId}
    {k k' : SerializedAsynchronousContinuation} (alive : s.aborted = none)
    (wake : (s.threads thread).wake = some (.exchange c' false))
    (running : (s.threads thread).running = some c) (state : s.continuations c = some k)
    (other : c' ≠ c) (woken : s.continuations c' = some k') :
    ∃ steps, (s.runAlone thread steps).Executes thread c k ∧
      (s.runAlone thread steps).qutexes = s.qutexes ∧
      (s.runAlone thread steps).trace.filter Event.qutexCall = s.trace.filter Event.qutexCall := by
  have exchanged := next_exchange alive wake woken
  have state' : (s.exchangeStep thread c' k' false).continuations c = some k := by
    simp [exchangeStep, Ne.symm other, state]
  cases awake : k'.isAwakeOrBeingAwakened
  · -- The flag was clear: the post follows.
    have posted : (s.exchangeStep thread c' k' false).next (.execute thread) =
        (s.exchangeStep thread c' k' false).postStep thread c'
          { k' with isAwakeOrBeingAwakened := true } :=
      next_post alive (by simp [exchangeStep, awake]) (by simp [exchangeStep])
    refine ⟨2, ?_⟩
    rw [runAlone_succ, exchanged, runAlone_succ, posted, runAlone_zero]
    refine ⟨⟨alive, ?_, ?_, ?_⟩, rfl, ?_⟩
    · simp [postStep]
    · simp [postStep, exchangeStep, running]
    · simpa [postStep, postTask] using state'
    · simp [postStep, postTask, exchangeStep, Event.qutexCall]
  · -- The flag was already set: the exchange ends the wake.
    refine ⟨1, ?_⟩
    rw [runAlone_succ, exchanged, runAlone_zero]
    exact ⟨⟨alive, by simp [exchangeStep, awake], by simp [exchangeStep, running], state'⟩, rfl, rfl⟩

end Sys

/-- The thread's own steps from a reachable state reach a reachable state. -/
theorem Reachable.runAlone {s : Sys} (reachable : Reachable s) (thread : ThreadId) (steps : Nat) :
    Reachable (s.runAlone thread steps) :=
  reachable.run _

/-! ## The simulation relation -/

/-- The runtime's qutexes are the call's, and the qutex calls it has logged since `base` are the
call's, newest first. -/
structure Mirrors (s : Sys) (attempt : Attempt) (base : List Event) : Prop where
  qutexes : s.qutexes = attempt.qutexes
  calls : s.trace.filter Event.qutexCall = attempt.calls.reverse ++ base

namespace Mirrors

variable {s s' : Sys} {attempt : Attempt} {base : List Event}

/-- A step that changes no qutex and makes no qutex call keeps the mirror. -/
theorem congr (mirrors : Mirrors s attempt base) (qutexes : s'.qutexes = s.qutexes)
    (calls : s'.trace.filter Event.qutexCall = s.trace.filter Event.qutexCall) :
    Mirrors s' attempt base :=
  ⟨qutexes.trans mirrors.qutexes, calls.trans mirrors.calls⟩

/-- Both sides replace the same qutex and make the same qutex call. -/
theorem call (mirrors : Mirrors s attempt base) (qutex : QutexId) (value : Qutex)
    (event : Event) (qutexCall : event.qutexCall = true) :
    Mirrors ((s.setQutex qutex value).record event) ((attempt.setQutex qutex value).call event)
      base where
  qutexes := by
    show (fun qutex' => if qutex' = qutex then value else s.qutexes qutex') = _
    rw [mirrors.qutexes]
    rfl
  calls := by
    simp [Attempt.call, Attempt.setQutex, List.filter_cons_of_pos qutexCall, mirrors.calls]

end Mirrors

/-! ## The acquisition loop -/

/-- Where the runtime stands when the acquisition loop has ended as `exit`: past the last
LockUsage, at the backoff loop with the refused qutex recorded, or aborted with what `tryAcquire`
threw. -/
def AfterAcquisition (s : Sys) (thread : ThreadId) (c : ContinuationId)
    (k : SerializedAsynchronousContinuation) : Attempt × AcquisitionExit → Prop
  | (_, .completed) =>
    ∃ next, k.lockAt next = none ∧ s.Executes thread c { k with phase := .acquiring next }
  | (attempt, .broke nAcquired) => ∃ failed, attempt.firstFailedQutex = some failed ∧
      s.Executes thread c { k with phase := .backingOff 0 nAcquired failed }
  | (_, .threw what) => s.aborted = some what

/-- The `tryAcquire` steps from LockUsage `nAcquired` on compute `acquireLoop` over the qutexes
not yet tried. -/
theorem acquireLoop_steps (thread : ThreadId) (c : ContinuationId)
    (k : SerializedAsynchronousContinuation) (base : List Event) :
    ∀ (pending : List QutexId) (nAcquired : Nat) (attempt : Attempt) (s : Sys),
      k.lockQutexes.drop nAcquired = pending →
      s.Executes thread c { k with phase := .acquiring nAcquired } → Mirrors s attempt base →
      ∃ steps, Mirrors (s.runAlone thread steps)
          (acquireLoop c k.lockCount pending nAcquired attempt).1 base ∧
        AfterAcquisition (s.runAlone thread steps) thread c k
          (acquireLoop c k.lockCount pending nAcquired attempt)
  | [], nAcquired, _, _, rest, executes, mirrors =>
    ⟨0, mirrors, nAcquired, by rw [k.lockAt_eq_head?_drop, rest]; rfl, executes⟩
  | qutex :: pending, nAcquired, attempt, s, rest, executes, mirrors => by
    have found : k.lockAt nAcquired = some qutex := by rw [k.lockAt_eq_head?_drop, rest]; rfl
    have step : s.next (.execute thread) =
        s.tryAcquireStep c { k with phase := .acquiring nAcquired } nAcquired qutex := by
      simp only [Sys.next_execute executes, Sys.advance,
        SerializedAsynchronousContinuation.lockAt_phase, found]
    match result : (attempt.qutexes qutex).tryAcquire c k.lockCount with
    | (value, .threw what) =>
      refine ⟨1, ?_⟩
      rw [Sys.runAlone_succ, step]
      simp only [acquireLoop, Sys.tryAcquireStep, mirrors.qutexes,
        SerializedAsynchronousContinuation.lockCount_phase, result]
      exact ⟨(mirrors.call qutex value (.tryAcquire c qutex false) rfl).congr rfl rfl, rfl⟩
    | (value, .returned false) =>
      refine ⟨1, ?_⟩
      rw [Sys.runAlone_succ, step]
      simp only [acquireLoop, Sys.tryAcquireStep, mirrors.qutexes,
        SerializedAsynchronousContinuation.lockCount_phase, result]
      have called := mirrors.call qutex value (.tryAcquire c qutex false) rfl
      exact ⟨⟨called.qutexes, called.calls⟩, qutex, rfl,
        executes.alive, executes.noWake, executes.running, by simp⟩
    | (value, .returned true) =>
      have later : k.lockQutexes.drop (nAcquired + 1) = pending := by
        rw [← List.drop_drop, rest]
        rfl
      obtain ⟨steps, mirrored, after⟩ := acquireLoop_steps thread c k base pending (nAcquired + 1)
        _ (((s.setQutex qutex value).setContinuation c
          { k with phase := .acquiring (nAcquired + 1) }).record (.tryAcquire c qutex true)) later
        ⟨executes.alive, executes.noWake, executes.running, by simp⟩
        ((mirrors.call qutex value (.tryAcquire c qutex true) rfl).congr rfl rfl)
      refine ⟨steps + 1, ?_⟩
      rw [Sys.runAlone_succ, step]
      simp only [acquireLoop, Sys.tryAcquireStep, mirrors.qutexes,
        SerializedAsynchronousContinuation.lockCount_phase, result]
      exact ⟨mirrored, after⟩

/-! ## The backoff loop -/

/-- Where the runtime stands when the call has ended as `attempt` says: after `true`, in the
unregistration loop with the LockSet the call leaves; after `false`, at `allowAwakening()` with the
call's `firstFailedQutex`; after a throw, aborted with the same error. -/
def Resumes (s : Sys) (thread : ThreadId) (c : ContinuationId)
    (k : SerializedAsynchronousContinuation) (attempt : Attempt) : Prop :=
  match attempt.outcome with
  | .returned true =>
    s.Executes thread c { k with requiredLocks := attempt.lockSet, phase := .unregistering 0 }
  | .returned false => ∃ failed, attempt.firstFailedQutex = some failed ∧
    s.Executes thread c { k with requiredLocks := attempt.lockSet, phase := .allowing failed }
  | .threw what => s.aborted = some what

/-- One `backoff` of the loop that returns, and the `awaken()` it leaves: the thread goes on at
the next acquired qutex, and the qutexes and qutex calls are those of the one step that replaces
the qutex and logs the call. -/
theorem backoff_steps {s : Sys} (reachable : Reachable s) {thread : ThreadId}
    {c : ContinuationId} {k : SerializedAsynchronousContinuation} {next nAcquired : Nat}
    {failed qutex : QutexId} {value : Qutex} {wake : Option ContinuationId}
    (executes : s.Executes thread c { k with phase := .backingOff next nAcquired failed })
    (below : next < nAcquired) (found : k.lockAt next = some qutex)
    (result : (s.qutexes qutex).backoff c k.lockCount = (value, .returned wake)) :
    ∃ steps, (s.runAlone thread steps).Executes thread c
        { k with phase := .backingOff (next + 1) nAcquired failed } ∧
      (s.runAlone thread steps).qutexes =
        ((s.setQutex qutex value).record (.backoff c qutex)).qutexes ∧
      (s.runAlone thread steps).trace.filter Event.qutexCall =
        ((s.setQutex qutex value).record (.backoff c qutex)).trace.filter Event.qutexCall := by
  -- The state after the `backoff` step, with the wake it leaves pending.
  set s₁ := (((s.setQutex qutex value).record (.backoff c qutex)).setContinuation c
    { k with phase := .backingOff (next + 1) nAcquired failed }).setThread thread
      { ((s.setQutex qutex value).record (.backoff c qutex)).threads thread with
        wake := wake.map (Wake.exchange · false) } with s₁_def
  have step : s.next (.execute thread) = s₁ := by
    simp only [Sys.next_execute executes, Sys.advance, below, if_true,
      SerializedAsynchronousContinuation.lockAt_phase, found, Sys.backoffStep,
      SerializedAsynchronousContinuation.lockCount_phase, result]
  have running₁ : (s₁.threads thread).running = some c := by simp [s₁_def, executes.running]
  have state₁ : s₁.continuations c =
      some { k with phase := .backingOff (next + 1) nAcquired failed } := by
    simp [s₁_def]
  cases wake with
  | none =>
    refine ⟨1, ?_⟩
    rw [Sys.runAlone_succ, step, Sys.runAlone_zero]
    exact ⟨⟨executes.alive, by simp [s₁_def], running₁, state₁⟩, rfl, rfl⟩
  | some awakened =>
    -- `backoff` named another continuation, the new front; `Queues` gives it a record.
    obtain ⟨other, node, member, named⟩ := Qutex.backoff_awakens_other result
    have reachable₁ : Reachable s₁ := step ▸ reachable.next _
    obtain ⟨k', woken, -⟩ := (reachable₁.queues.mem qutex node).mp (by simpa [s₁_def] using member)
    rw [named] at woken
    obtain ⟨steps, executes₂, qutexes₂, calls₂⟩ := Sys.wake_completes
      (show s₁.aborted = none from executes.alive) (by simp [s₁_def]) running₁ state₁ other woken
    refine ⟨1 + steps, ?_⟩
    rw [Sys.runAlone_add, Sys.runAlone_succ, step, Sys.runAlone_zero]
    exact ⟨executes₂, qutexes₂, calls₂⟩

/-- The `backoff` steps, with their wakes, from acquired qutex `next` on compute `backoffLoop` over
the acquired qutexes not yet backed off from. -/
theorem backoffLoop_steps (thread : ThreadId) (c : ContinuationId)
    (k : SerializedAsynchronousContinuation) (base : List Event) (nAcquired : Nat)
    (failed : QutexId) :
    ∀ (pending : List QutexId) (next : Nat) (attempt : Attempt) (s : Sys), Reachable s →
      (k.lockQutexes.take nAcquired).drop next = pending →
      attempt.lockSet = k.requiredLocks → attempt.firstFailedQutex = some failed →
      s.Executes thread c { k with phase := .backingOff next nAcquired failed } →
      Mirrors s attempt base →
      ∃ steps, Mirrors (s.runAlone thread steps) (backoffLoop c k.lockCount pending attempt) base ∧
        Resumes (s.runAlone thread steps) thread c k (backoffLoop c k.lockCount pending attempt)
  | [], next, attempt, s, reachable, rest, lockSet, firstFailed, executes, mirrors => by
    -- The failed LockUsage exists, so the loop has run past every acquired one.
    have exists_failed : k.lockAt nAcquired = some failed :=
      reachable.queues.failed c _ executes.state next nAcquired failed rfl
    have inRange : nAcquired < k.lockQutexes.length := by
      by_contra past
      rw [k.lockAt_eq_head?_drop, List.drop_eq_nil_of_le (by omega)] at exists_failed
      cases exists_failed
    have done : ¬next < nAcquired := by
      have := List.drop_eq_nil_iff.mp rest
      simp only [List.length_take] at this
      omega
    refine ⟨1, ?_⟩
    rw [Sys.runAlone_succ, Sys.next_execute executes]
    simp only [Sys.advance, done, if_false, Sys.finishBackoff, backoffLoop]
    exact ⟨⟨mirrors.qutexes, mirrors.calls⟩, failed, firstFailed, executes.alive, executes.noWake,
      executes.running, by simp [lockSet]⟩
  | qutex :: pending, next, attempt, s, reachable, rest, lockSet, firstFailed, executes,
      mirrors => by
    have below : next < nAcquired := by
      by_contra past
      rw [List.drop_eq_nil_of_le (by simp only [List.length_take]; omega)] at rest
      cases rest
    have found : k.lockAt next = some qutex := by
      rw [k.lockAt_eq_head?_drop_take below, rest]
      rfl
    have later : (k.lockQutexes.take nAcquired).drop (next + 1) = pending := by
      rw [← List.drop_drop, rest]
      rfl
    match result : (attempt.qutexes qutex).backoff c k.lockCount with
    | (value, .threw what) =>
      refine ⟨1, ?_⟩
      rw [Sys.runAlone_succ, Sys.next_execute executes]
      simp only [Sys.advance, below, if_true, SerializedAsynchronousContinuation.lockAt_phase, found,
        backoffLoop, Sys.backoffStep, mirrors.qutexes,
        SerializedAsynchronousContinuation.lockCount_phase, result]
      have called := mirrors.call qutex value (.backoff c qutex) rfl
      exact ⟨⟨called.qutexes, called.calls⟩, rfl⟩
    | (value, .returned wake) =>
      obtain ⟨steps₁, executes₁, qutexes₁, calls₁⟩ :=
        backoff_steps reachable executes below found (by rw [mirrors.qutexes]; exact result)
      have called := (mirrors.call qutex value (.backoff c qutex) rfl).congr qutexes₁ calls₁
      obtain ⟨steps, mirrored, resumes⟩ := backoffLoop_steps thread c k base nAcquired failed
        pending (next + 1) { (attempt.setQutex qutex value).call (.backoff c qutex) with
          awakened := attempt.awakened ++ wake.toList } _ (reachable.runAlone thread steps₁) later
        lockSet firstFailed executes₁ ⟨called.qutexes, called.calls⟩
      refine ⟨steps₁ + steps, ?_⟩
      rw [Sys.runAlone_add]
      simp only [backoffLoop, result]
      exact ⟨mirrored, resumes⟩

/-! ## `tryAcquireOrBackOff` -/

/-- From a reachable state in which `thread` executes continuation `c` at the start of
`tryAcquireOrBackOff`, with the call's two checks passing, the thread's own steps, no other thread
acting, compute the sequential call on the qutexes as they are: the same qutexes, the same qutex
calls, and the code goes on where the call returns to, or the process aborts with what it throws. -/
theorem tryAcquireOrBackOff_steps {s : Sys} (reachable : Reachable s) {thread : ThreadId}
    {c : ContinuationId} {k : SerializedAsynchronousContinuation} (executes : s.Executes thread c k)
    (phase : k.phase = .acquiring 0) (registered : k.requiredLocks.registeredInQutexQueues = true)
    (notAcquired : k.requiredLocks.allLocksAcquired = false) :
    ∃ steps, Mirrors (s.runAlone thread steps) (k.requiredLocks.tryAcquireOrBackOff c s.qutexes)
        (s.trace.filter Event.qutexCall) ∧
      Resumes (s.runAlone thread steps) thread c k
        (k.requiredLocks.tryAcquireOrBackOff c s.qutexes) := by
  have executes₀ : s.Executes thread c { k with phase := .acquiring 0 } := by
    rw [← phase]
    exact executes
  have qutexes : k.requiredLocks.qutexes = k.lockQutexes := rfl
  have count : k.requiredLocks.locks.length = k.lockCount := rfl
  unfold LockSet.tryAcquireOrBackOff
  simp only [registered, notAcquired, Bool.not_true, Bool.false_eq_true, if_false, qutexes, count]
  have lockSet : (acquireLoop c k.lockCount k.lockQutexes 0
      ⟨s.qutexes, k.requiredLocks, none, [], [], .returned false⟩).1.lockSet = k.requiredLocks :=
    acquireLoop_lockSet c k.lockCount k.lockQutexes 0 _
  obtain ⟨steps, mirrored, after⟩ := acquireLoop_steps thread c k (s.trace.filter Event.qutexCall)
    k.lockQutexes 0 ⟨s.qutexes, k.requiredLocks, none, [], [], .returned false⟩ s rfl executes₀
    ⟨rfl, rfl⟩
  generalize acquireLoop c k.lockCount k.lockQutexes 0
    ⟨s.qutexes, k.requiredLocks, none, [], [], .returned false⟩ = result at lockSet mirrored after ⊢
  obtain ⟨attempt, _ | nAcquired | what⟩ := result
  · -- Every LockUsage was acquired: one more step returns true.
    obtain ⟨next, past, executes₁⟩ := after
    refine ⟨steps + 1, ?_⟩
    rw [Sys.runAlone_add, Sys.runAlone_succ, Sys.runAlone_zero, Sys.next_execute executes₁]
    simp only [Sys.advance, SerializedAsynchronousContinuation.lockAt_phase, past,
      Sys.acquiredAllStep, registered, if_true]
    refine ⟨⟨mirrored.qutexes, by simpa [Event.qutexCall] using mirrored.calls⟩, ?_⟩
    exact ⟨executes₁.alive, executes₁.noWake, executes₁.running,
      by simp [show attempt.lockSet = k.requiredLocks from lockSet, registered]⟩
  · -- A `tryAcquire` refused: the backoff loop follows.
    obtain ⟨failed, firstFailed, executes₁⟩ := after
    obtain ⟨steps', mirrored', resumes⟩ := backoffLoop_steps thread c k _ nAcquired failed
      (k.lockQutexes.take nAcquired) 0 attempt _ (reachable.runAlone thread steps) rfl lockSet
      firstFailed executes₁ mirrored
    exact ⟨steps + steps', by rw [Sys.runAlone_add]; exact ⟨mirrored', resumes⟩⟩
  · -- A `tryAcquire` threw.
    exact ⟨steps, ⟨mirrored.qutexes, mirrored.calls⟩, after⟩

/-- A continuation on thread 0 registers on qutexes 0 and 1, is posted and dequeued. -/
def attemptStarted : List Action :=
  [.construct 0 (.onThread 0 [0, 1]), .execute 0, .execute 0, .execute 0, .execute 0, .execute 0,
    .dequeue 0]

/-- The continuation of `attemptStarted` at its first `tryAcquire`. -/
def startedContinuation : SerializedAsynchronousContinuation where
  requiredLocks :=
    { locks := [⟨0, false⟩, ⟨1, false⟩], allLocksAcquired := false, registeredInQutexQueues := true }
  isAwakeOrBeingAwakened := true
  target := 0
  caller := 0
  creationTimestamp := 0
  signature := 0
  callers := []
  callbackFn := true
  phase := .acquiring 0
  gridlockLikely := false

/-- The first attempt of `attemptStarted`'s continuation, on qutexes 0 and 1. -/
theorem started_attempt_mirrors_call :
    ∃ steps, Mirrors (((Sys.initial 100).run attemptStarted).runAlone 0 steps)
        (startedContinuation.requiredLocks.tryAcquireOrBackOff 0
          ((Sys.initial 100).run attemptStarted).qutexes)
        (((Sys.initial 100).run attemptStarted).trace.filter Event.qutexCall) ∧
      Resumes (((Sys.initial 100).run attemptStarted).runAlone 0 steps) 0 0 startedContinuation
        (startedContinuation.requiredLocks.tryAcquireOrBackOff 0
          ((Sys.initial 100).run attemptStarted).qutexes) :=
  tryAcquireOrBackOff_steps ((Reachable.initial 100).run attemptStarted)
    ⟨by decide, by decide, by decide, by decide⟩ rfl rfl rfl

end Spinscale
