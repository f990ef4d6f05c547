import Spinscale.System.Step

/-!
# Progress: dormant threads and stranded waiters

A lockvoker asleep in a qutex queue runs again only when an `awaken()` posts it: one from a
`release` or a `backoff` of one of its qutexes, or the forced one of `firstWake`. Once no thread has
a lockvoker posted, runs a continuation's code or owes an `awaken()`, the threads' own steps and
the clock change no qutex and no continuation any more (`Sys.run_internal`): only new work from
the application can move a sleeping lockvoker.

Two schedules reach such a state while lockvokers still sleep in the queues of free qutexes:

- `strandingSchedule`, on one thread. `T` holds qutex 0 across an external completion; `F`
  declares `[1, 0]` and `H` declares `[0, 1]`. `F` fails on qutex 0, and its backoff rotates
  qutex 1's queue so that `H` is in front; the wake it sends `H` finds `H` still posted. `H` fails
  on qutex 0 and sleeps. `T`'s release wakes `F`, the front of qutex 0, which now fails on qutex 1
  (it is in the rear window of qutex 1's queue) and backs off with nothing acquired: nobody wakes
  `H`, and both sleep with every qutex free.
- `lostWakeupSchedule`, on two threads. `L` on thread 1 fails on qutex 0 while `T` on thread 0
  holds it; `T`'s release lands before `L`'s `allowAwakening()`, finds `L`'s flag still set and
  posts nothing; then `allowAwakening()` clears the flag and `L` sleeps at the front of a free
  qutex.
-/

namespace Spinscale

/-- Is the task a posted lockvoker (rather than an original callback)? -/
def Task.isLockvoker : Task → Bool
  | .lockvoker _ => true
  | .callback _ => false

/-- A thread that can wake no lockvoker: none is posted to it, it runs no continuation's code and it
owes no `awaken()`. Original callbacks may still be posted: they are application code. -/
def ComponentThread.Dormant (thread : ComponentThread) : Prop :=
  (∀ task ∈ thread.ioService, task.isLockvoker = false) ∧ thread.running = none ∧
    thread.wake = none

instance : DecidablePred ComponentThread.Dormant :=
  fun _ => inferInstanceAs (Decidable (_ ∧ _ ∧ _))

/-- The actions that need nothing from the application: a step or the next task of one of
`threads`, and the passing of time. -/
def Action.Internal (threads : List ThreadId) : Action → Prop
  | .execute thread => thread ∈ threads
  | .dequeue thread => thread ∈ threads
  | .tick => True
  | _ => False

namespace Sys

/-- Every thread of `threads` is dormant. -/
def Dormant (s : Sys) (threads : List ThreadId) : Prop :=
  ∀ thread ∈ threads, (s.threads thread).Dormant

instance (s : Sys) (threads : List ThreadId) : Decidable (s.Dormant threads) :=
  inferInstanceAs (Decidable (∀ thread ∈ threads, _))

/-- `s'` has the qutexes, continuations, tracker map and outcome of `s`, and `threads` are still
dormant. -/
structure Unchanged (threads : List ThreadId) (s s' : Sys) : Prop where
  qutexes : s'.qutexes = s.qutexes
  continuations : s'.continuations = s.continuations
  acquisitionHistory : s'.acquisitionHistory = s.acquisitionHistory
  aborted : s'.aborted = s.aborted
  dormant : s'.Dormant threads

/-- `Unchanged` is reflexive. -/
theorem Unchanged.refl {threads : List ThreadId} {s : Sys} (dormant : s.Dormant threads) :
    Unchanged threads s s :=
  ⟨rfl, rfl, rfl, rfl, dormant⟩

/-- `Unchanged` is transitive. -/
theorem Unchanged.trans {threads : List ThreadId} {s s' s'' : Sys}
    (first : Unchanged threads s s') (second : Unchanged threads s' s'') :
    Unchanged threads s s'' :=
  ⟨second.qutexes.trans first.qutexes, second.continuations.trans first.continuations,
    second.acquisitionHistory.trans first.acquisitionHistory, second.aborted.trans first.aborted,
    second.dormant⟩

/-- Taking an original callback off a dormant thread leaves it dormant. -/
theorem dormant_dequeueCallback {s : Sys} {threads : List ThreadId} (dormant : s.Dormant threads)
    {thread : ThreadId} {c : ContinuationId} {rest : List Task}
    (queue : (s.threads thread).ioService = .callback c :: rest) :
    (s.dequeueStep thread (.callback c) rest).Dormant threads := by
  intro t member
  obtain ⟨callbacks, running, wake⟩ := dormant t member
  simp only [dequeueStep, setThread_threads_apply]
  split_ifs with ht
  · subst ht
    refine ⟨fun task mem => ?_, running, wake⟩
    rw [queue] at callbacks
    exact callbacks task (List.mem_cons_of_mem _ mem)
  · exact ⟨callbacks, running, wake⟩

/-- One internal action from a state whose `threads` are dormant changes no qutex, no continuation
and not the tracker. -/
theorem next_internal {s : Sys} {threads : List ThreadId} (dormant : s.Dormant threads)
    {action : Action} (internal : action.Internal threads) :
    Unchanged threads s (s.next action) := by
  unfold next
  split
  · exact .refl dormant
  · cases action with
    | execute thread =>
      obtain ⟨_, running, wake⟩ := dormant thread internal
      simp only [executeThread, running, wake]
      exact .refl dormant
    | dequeue thread =>
      obtain ⟨callbacks, _, _⟩ := dormant thread internal
      dsimp only
      split
      · split
        · exact .refl dormant
        · rename_i task rest queue
          cases task with
          | lockvoker c =>
            have posted := callbacks _ (queue ▸ List.mem_cons_self _ _)
            cases posted
          | callback c => exact ⟨rfl, rfl, rfl, rfl, dormant_dequeueCallback dormant queue⟩
      · exact .refl dormant
    | tick => exact ⟨rfl, rfl, rfl, rfl, dormant⟩
    | construct => cases internal
    | callOriginalCb => cases internal
    | releaseQutexEarly => cases internal

/-- A schedule of internal actions from a state whose `threads` are dormant changes no qutex, no
continuation and not the tracker. -/
theorem run_internal {s : Sys} {threads : List ThreadId} (dormant : s.Dormant threads)
    {actions : List Action} (internal : ∀ action ∈ actions, action.Internal threads) :
    Unchanged threads s (s.run actions) := by
  induction actions generalizing s with
  | nil => exact .refl dormant
  | cons action rest inductionHypothesis =>
    have first := next_internal dormant (internal action (List.mem_cons_self _ _))
    exact first.trans
      (inductionHypothesis first.dormant fun a member => internal a (List.mem_cons_of_mem _ member))

end Sys

/-! ## Two stuck schedules -/

/-- `T` (continuation 0, `[0]`), `F` (1, `[1, 0]`) and `H` (2, `[0, 1]`) on thread 0. `T` acquires
qutex 0 and its body returns without completing; `F` acquires qutex 1, fails on qutex 0 and backs
off, rotating qutex 1's queue to `[H, F]`; `H` fails on qutex 0 and sleeps; `T`'s external
completion releases qutex 0 and wakes `F`, which fails on qutex 1 and sleeps; the last task is
`T`'s original callback. -/
def strandingSchedule : List Action :=
  [.construct 0 (.onThread 0 [0]), .execute 0, .execute 0, .execute 0, .execute 0,
   .construct 0 (.onThread 0 [1, 0]), .execute 0, .execute 0, .execute 0, .execute 0, .execute 0,
   .construct 0 (.onThread 0 [0, 1]), .execute 0, .execute 0, .execute 0, .execute 0, .execute 0,
   .dequeue 0, .execute 0, .execute 0, .execute 0, .execute 0,
   .dequeue 0, .execute 0, .execute 0, .execute 0, .execute 0, .execute 0, .execute 0,
   .dequeue 0, .execute 0, .execute 0, .execute 0,
   .callOriginalCb 0, .execute 0, .execute 0, .execute 0, .execute 0,
   .dequeue 0, .execute 0, .execute 0, .execute 0,
   .dequeue 0]

/-- Where `strandingSchedule` leads from a fresh runtime. -/
def strandedState : Sys :=
  (Sys.initial 100).run strandingSchedule

set_option maxRecDepth 2000 in
/-- `strandingSchedule` leaves both qutexes free with two asleep waiters queued on them and nothing
posted on thread 0, and no run of thread 0's own steps changes a qutex or a continuation. -/
theorem waiters_stranded_on_one_reactor :
    Reachable strandedState ∧ strandedState.aborted = none ∧
      (strandedState.threads 0).ioService = [] ∧ strandedState.Dormant [0] ∧
      strandedState.nextContinuation = 3 ∧
      (strandedState.continuations 0).map (·.phase) = some .released ∧
      (strandedState.continuations 1).map (fun k => (k.phase, k.isAwakeOrBeingAwakened)) =
        some (.asleep, false) ∧
      (strandedState.continuations 2).map (fun k => (k.phase, k.isAwakeOrBeingAwakened)) =
        some (.asleep, false) ∧
      (strandedState.qutexes 0).isOwned = false ∧
      (strandedState.qutexes 0).queue = [⟨1, 1⟩, ⟨2, 0⟩] ∧
      (strandedState.qutexes 1).isOwned = false ∧
      (strandedState.qutexes 1).queue = [⟨2, 1⟩, ⟨1, 0⟩] ∧
      ∀ actions, (∀ action ∈ actions, action.Internal [0]) →
        (strandedState.run actions).qutexes = strandedState.qutexes ∧
          (strandedState.run actions).continuations = strandedState.continuations :=
  have stuck : strandedState.Dormant [0] := by decide
  ⟨(Reachable.initial 100).run _, by decide, by decide, stuck, by decide, by decide, by decide,
    by decide, by decide, by decide, by decide, by decide, fun _ internal =>
      have unchanged := Sys.run_internal stuck internal
      ⟨unchanged.qutexes, unchanged.continuations⟩⟩

/-- `T` (continuation 0, `[0]`) on thread 0 and `L` (1, `[0]`) on thread 1. `T` acquires qutex 0 and
its body returns; `L` fails on qutex 0; `T`'s completion releases qutex 0 before `L`'s
`allowAwakening()`, and its `awaken()` on `L` finds the flag set; then `L` clears its flag and
sleeps. -/
def lostWakeupSchedule : List Action :=
  [.construct 0 (.onThread 0 [0]), .execute 0, .execute 0, .execute 0, .execute 0,
   .construct 1 (.onThread 1 [0]), .execute 1, .execute 1, .execute 1, .execute 1,
   .dequeue 0, .execute 0, .execute 0, .execute 0, .execute 0,
   .dequeue 1, .execute 1, .execute 1,
   .callOriginalCb 0, .execute 0, .execute 0, .execute 0,
   .execute 1]

/-- Where `lostWakeupSchedule` leads from a fresh runtime. -/
def lostWakeupState : Sys :=
  (Sys.initial 100).run lostWakeupSchedule

set_option maxRecDepth 2000 in
/-- In `lostWakeupState` the release of qutex 0 found its waiter's flag still set and posted
nothing; the waiter is asleep at the front of the free qutex's queue, and no run of the two
threads' own steps changes a qutex or a continuation. -/
theorem wakeup_lost_before_allowAwakening :
    Reachable lostWakeupState ∧ lostWakeupState.aborted = none ∧
      lostWakeupState.trace.take 2 = [.release 0 0, .tryAcquire 1 0 false] ∧
      (lostWakeupState.qutexes 0).isOwned = false ∧
      (lostWakeupState.qutexes 0).queue.head? = some ⟨1, 0⟩ ∧
      (lostWakeupState.continuations 1).map
          (fun k => (k.lockCount, k.target, k.phase, k.isAwakeOrBeingAwakened)) =
        some (1, 1, .asleep, false) ∧
      lostWakeupState.Dormant [0, 1] ∧
      ∀ actions, (∀ action ∈ actions, action.Internal [0, 1]) →
        (lostWakeupState.run actions).qutexes = lostWakeupState.qutexes ∧
          (lostWakeupState.run actions).continuations = lostWakeupState.continuations :=
  have stuck : lostWakeupState.Dormant [0, 1] := by decide
  ⟨(Reachable.initial 100).run _, by decide, by decide, by decide, by decide, by decide, stuck,
    fun _ internal =>
      have unchanged := Sys.run_internal stuck internal
      ⟨unchanged.qutexes, unchanged.continuations⟩⟩

end Spinscale
