import Mathlib.Data.List.Basic

/-!
# The asynchronous bridge

`AsynchronousBridge` lets a thread wait, inside its own `io_service`, for an asynchronous
operation. `waitForAsyncOperationCompleteOrIoServiceStopped` loops on `io_service.run_one()`,
then loads `isAsyncOperationComplete` and checks `stopped()`. `setAsyncOperationComplete` stores
the flag and then posts an empty handler, so that a `run_one()` blocked on an empty queue
returns. Every `ComponentThread` holds an `io_service::work`, so `run_one()` blocks until it
runs a handler or the service is stopped.

The waiter, the call of `setAsyncOperationComplete` (from another thread or from a handler the
waiter runs) and any other thread that posts handlers or stops the service take atomic steps in
any interleaving. `bridge_no_lost_wakeup` shows that once `setAsyncOperationComplete` has
returned, the waiter is never blocked: it always has a step, each of its steps brings it closer
to leaving the loop, and no other step sets it back. The order of the two writes matters: the
handler the waiter runs after the post finds the flag stored.
-/

namespace Spinscale

/-- A handler on the waiting thread's `io_service`. -/
inductive BridgeHandler where
  /-- The empty handler `setAsyncOperationComplete` posts. -/
  | wake
  /-- Any other handler. -/
  | other
  deriving DecidableEq, Repr

/-- Where the waiting thread is. -/
inductive WaiterPc where
  /-- Not yet in `waitForAsyncOperationCompleteOrIoServiceStopped`. -/
  | idle
  /-- At `io_service.run_one()`. -/
  | waiting
  /-- `run_one()` returned; `isAsyncOperationComplete.load()` is next. -/
  | checking
  /-- The flag was loaded as `flag`; `stopped()` is checked next unless it was set. -/
  | loaded (flag : Bool)
  /-- Left the loop. -/
  | exited
  deriving DecidableEq, Repr

/-- Where the call of `setAsyncOperationComplete` is. -/
inductive SetterPc where
  | idle
  /-- `isAsyncOperationComplete.store(true)` done; the post is next. -/
  | stored
  | returned
  deriving DecidableEq, Repr

/-- The bridge, the waiting thread's `io_service` and the two calls. -/
structure AsynchronousBridge where
  isAsyncOperationComplete : Bool
  queue : List BridgeHandler
  stopped : Bool
  waiter : WaiterPc
  setter : SetterPc
  deriving DecidableEq, Repr

namespace AsynchronousBridge

/-- `AsynchronousBridge(io_service)` on a service that may already hold handlers. -/
def create (queue : List BridgeHandler) (stopped : Bool) : AsynchronousBridge :=
  ⟨false, queue, stopped, .idle, .idle⟩

/-- `exitedBecauseIoServiceStopped()`. -/
def exitedBecauseIoServiceStopped (bridge : AsynchronousBridge) : Bool :=
  bridge.stopped

end AsynchronousBridge

/-- Who takes a step. -/
inductive BridgeActor where
  | waiter | setter | other
  deriving DecidableEq, Repr

/-- The atomic steps. -/
inductive BridgeStep : BridgeActor → AsynchronousBridge → AsynchronousBridge → Prop
  /-- The thread calls `waitForAsyncOperationCompleteOrIoServiceStopped`. -/
  | wait {b} (idle : b.waiter = .idle) : BridgeStep .waiter b { b with waiter := .waiting }
  /-- `run_one()` takes the head handler and runs it; what the handler does is other steps. -/
  | runOne {b handler rest} (waiting : b.waiter = .waiting) (running : b.stopped = false)
      (queue : b.queue = handler :: rest) :
      BridgeStep .waiter b { b with queue := rest, waiter := .checking }
  /-- `run_one()` on a stopped service returns at once. -/
  | runOneStopped {b} (waiting : b.waiter = .waiting) (stopped : b.stopped = true) :
      BridgeStep .waiter b { b with waiter := .checking }
  /-- `isAsyncOperationComplete.load()`. -/
  | load {b} (checking : b.waiter = .checking) :
      BridgeStep .waiter b { b with waiter := .loaded b.isAsyncOperationComplete }
  /-- `|| io_service.stopped()`, then `break` or the next iteration. -/
  | check {b flag} (loaded : b.waiter = .loaded flag) :
      BridgeStep .waiter b { b with waiter := if flag || b.stopped then .exited else .waiting }
  /-- `isAsyncOperationComplete.store(true)`. -/
  | store {b} (idle : b.setter = .idle) :
      BridgeStep .setter b { b with isAsyncOperationComplete := true, setter := .stored }
  /-- `io_service.post([]{})`. -/
  | post {b} (stored : b.setter = .stored) :
      BridgeStep .setter b { b with queue := b.queue ++ [.wake], setter := .returned }
  /-- Another thread, or a handler, posts a handler. -/
  | postOther {b} : BridgeStep .other b { b with queue := b.queue ++ [.other] }
  /-- Another thread, or a handler, stops the service. -/
  | stop {b} : BridgeStep .other b { b with stopped := true }

/-- A run: the actors of its steps, in order. -/
inductive BridgeRun : AsynchronousBridge → List BridgeActor → AsynchronousBridge → Prop
  | nil {b} : BridgeRun b [] b
  | cons {b b' b'' actor actors} (step : BridgeStep actor b b') (run : BridgeRun b' actors b'') :
      BridgeRun b (actor :: actors) b''

/-- The states reachable from a fresh bridge. -/
inductive BridgeReachable : AsynchronousBridge → Prop
  | create (queue : List BridgeHandler) (stopped : Bool) :
      BridgeReachable (AsynchronousBridge.create queue stopped)
  | step {b b' actor} (reachable : BridgeReachable b) (step : BridgeStep actor b b') :
      BridgeReachable b'

namespace AsynchronousBridge

/-- The invariant: the flag is stored before the post, and once `setAsyncOperationComplete` has
returned, a waiter that has not started, is about to block, or is about to loop back after
loading a clear flag has the posted handler still in its queue. -/
structure Wakeable (b : AsynchronousBridge) : Prop where
  stored : b.setter ≠ .idle → b.isAsyncOperationComplete = true
  idle : b.setter = .returned → b.waiter = .idle → BridgeHandler.wake ∈ b.queue
  waiting : b.setter = .returned → b.waiter = .waiting → BridgeHandler.wake ∈ b.queue
  loadedClear : b.setter = .returned → b.waiter = .loaded false → BridgeHandler.wake ∈ b.queue

theorem Wakeable.create (queue : List BridgeHandler) (stopped : Bool) :
    (create queue stopped).Wakeable :=
  ⟨fun idle => absurd rfl idle, nofun, nofun, nofun⟩

/-- Every step of either party keeps `Wakeable`. -/
theorem Wakeable.step {b b' : AsynchronousBridge} {actor : BridgeActor} (h : b.Wakeable)
    (step : BridgeStep actor b b') : b'.Wakeable := by
  obtain ⟨stored, idle, waiting, loadedClear⟩ := h
  cases step with
  | wait started => exact ⟨stored, fun _ => nofun, fun returned _ => idle returned started,
      fun _ => nofun⟩
  | runOne => exact ⟨stored, fun _ => nofun, fun _ => nofun, fun _ => nofun⟩
  | runOneStopped => exact ⟨stored, fun _ => nofun, fun _ => nofun, fun _ => nofun⟩
  | load =>
    refine ⟨stored, fun _ => nofun, fun _ => nofun, fun returned loaded => ?_⟩
    simp only [WaiterPc.loaded.injEq] at returned loaded
    rw [stored (by simp [returned])] at loaded
    cases loaded
  | @check _ flag loaded =>
    refine ⟨stored, fun _ idle' => ?_, fun returned waiting' => ?_, fun _ loaded' => ?_⟩
    · split at idle' <;> cases idle'
    · cases flag
      · exact loadedClear returned loaded
      · simp at waiting'
    · split at loaded' <;> cases loaded'
  | store => exact ⟨fun _ => rfl, nofun, nofun, nofun⟩
  | post =>
    have posted := List.mem_append_right b.queue (List.mem_singleton_self BridgeHandler.wake)
    exact ⟨fun _ => stored (by simp_all), fun _ _ => posted, fun _ _ => posted, fun _ _ => posted⟩
  | postOther =>
    exact ⟨stored, fun returned idle' => List.mem_append_left _ (idle returned idle'),
      fun returned waiting' => List.mem_append_left _ (waiting returned waiting'),
      fun returned loaded => List.mem_append_left _ (loadedClear returned loaded)⟩
  | stop => exact ⟨stored, idle, waiting, loadedClear⟩

/-- The waiter leaves the loop only on a loaded flag that was stored, or on a stopped service. -/
structure Exits (b : AsynchronousBridge) : Prop where
  loadedSet : b.waiter = .loaded true → b.isAsyncOperationComplete = true
  exited : b.waiter = .exited → b.isAsyncOperationComplete = true ∨ b.stopped = true

theorem Exits.create (queue : List BridgeHandler) (stopped : Bool) :
    (create queue stopped).Exits :=
  ⟨nofun, nofun⟩

/-- Every step of either party keeps `Exits`. -/
theorem Exits.step {b b' : AsynchronousBridge} {actor : BridgeActor} (h : b.Exits)
    (step : BridgeStep actor b b') : b'.Exits := by
  obtain ⟨loadedSet, exited⟩ := h
  cases step with
  | wait => exact ⟨nofun, nofun⟩
  | runOne => exact ⟨nofun, nofun⟩
  | runOneStopped => exact ⟨nofun, nofun⟩
  | load => exact ⟨fun loaded => by simpa using loaded, nofun⟩
  | @check _ flag loaded =>
    refine ⟨fun loaded' => ?_, fun exited' => ?_⟩
    · split at loaded' <;> cases loaded'
    · split at exited'
      · rename_i either
        cases flag
        · exact .inr (by simpa using either)
        · exact .inl (loadedSet loaded)
      · cases exited'
  | store => exact ⟨fun _ => rfl, fun _ => .inl rfl⟩
  | post => exact ⟨loadedSet, exited⟩
  | postOther => exact ⟨loadedSet, exited⟩
  | stop => exact ⟨loadedSet, fun _ => .inr rfl⟩

end AsynchronousBridge

/-- Both invariants hold in every reachable state of the bridge. -/
theorem BridgeReachable.invariant {b : AsynchronousBridge} (reachable : BridgeReachable b) :
    b.Wakeable ∧ b.Exits := by
  induction reachable with
  | create queue stopped => exact ⟨.create queue stopped, .create queue stopped⟩
  | step _ step ih => exact ⟨ih.1.step step, ih.2.step step⟩

/-- The wait returns only once the operation is complete or the service is stopped: a waiter that
left the loop on a running service did so on the stored flag. -/
theorem bridge_exits_on_completion {b : AsynchronousBridge} (reachable : BridgeReachable b)
    (exited : b.waiter = .exited) (running : b.exitedBecauseIoServiceStopped = false) :
    b.isAsyncOperationComplete = true := by
  exact (reachable.invariant.2.exited exited).resolve_right
    (by simpa [AsynchronousBridge.exitedBecauseIoServiceStopped] using running)

/-- A bridge whose operation completed before anyone waited: the waiter ran the posted handler,
loaded the flag and left. -/
def wokenBridge : AsynchronousBridge := ⟨true, [], false, .exited, .returned⟩

theorem wokenBridge_reachable : BridgeReachable wokenBridge := by
  have reachable := ((((((BridgeReachable.create [] false).step (.store rfl)).step (.post rfl)).step
    (.wait rfl)).step (.runOne rfl rfl (show _ = [.wake] from rfl))).step (.load rfl)).step
    (.check rfl)
  exact reachable

/-- `wokenBridge` left the loop on the stored flag. -/
theorem woken_bridge_exits_on_completion :
    wokenBridge.waiter = .exited ∧ wokenBridge.exitedBecauseIoServiceStopped = false ∧
      wokenBridge.isAsyncOperationComplete = true :=
  ⟨rfl, rfl, bridge_exits_on_completion wokenBridge_reachable rfl rfl⟩

/-- A bound on the steps the waiter has left once `setAsyncOperationComplete` has returned: from
`waiting` it runs a handler, loads the stored flag and leaves. A clear flag was loaded before the
store, so the waiter may go round once more. -/
def WaiterPc.remaining : WaiterPc → Nat
  | .idle => 4
  | .waiting => 3
  | .checking => 2
  | .loaded true => 1
  | .loaded false => 4
  | .exited => 0

/-- The waiter has at most four steps left. -/
theorem WaiterPc.remaining_le (pc : WaiterPc) : pc.remaining ≤ 4 := by
  rcases pc with _ | _ | _ | (_ | _) | _ <;> decide

/-- Once the setter has returned, no other step moves the waiter or the setter. -/
theorem BridgeStep.waiter_eq {b b' : AsynchronousBridge} {actor : BridgeActor}
    (step : BridgeStep actor b b') (returned : b.setter = .returned) (other : actor ≠ .waiter) : b'.waiter = b.waiter ∧ b'.setter = .returned := by
  cases step with
  | store idle => cases returned.symm.trans idle
  | post stored => cases returned.symm.trans stored
  | postOther => exact ⟨rfl, returned⟩
  | stop => exact ⟨rfl, returned⟩
  | _ => exact absurd rfl other

section Returned

variable {b b' : AsynchronousBridge} (wakeable : b.Wakeable) (returned : b.setter = .returned)
include wakeable returned

/-- Once the setter has returned, each step of the waiter brings it closer to leaving. -/
theorem BridgeStep.remaining_lt (step : BridgeStep .waiter b b') :
    b'.waiter.remaining < b.waiter.remaining := by
  have flag := wakeable.stored (by simp [returned])
  cases step with
  | wait idle => simp [idle, WaiterPc.remaining]
  | runOne waiting => simp [waiting, WaiterPc.remaining]
  | runOneStopped waiting => simp [waiting, WaiterPc.remaining]
  | load checking => simp [checking, flag, WaiterPc.remaining]
  | @check _ flag' loaded =>
    cases flag'
    · rw [loaded]
      split <;> simp [WaiterPc.remaining]
    · simp [loaded, WaiterPc.remaining]

/-- Once the setter has returned, the waiter is never blocked: `run_one()` finds the posted
handler, or a stopped service. -/
theorem AsynchronousBridge.Wakeable.enabled :
    b.waiter = .exited ∨ ∃ b', BridgeStep .waiter b b' := by
  cases waiter : b.waiter with
  | idle => exact .inr ⟨_, .wait waiter⟩
  | waiting =>
    cases stopped : b.stopped
    · obtain ⟨before, after, queue⟩ := List.append_of_mem (wakeable.waiting returned waiter)
      cases before with
      | nil => exact .inr ⟨_, .runOne waiter stopped queue⟩
      | cons handler rest => exact .inr ⟨_, .runOne waiter stopped queue⟩
    · exact .inr ⟨_, .runOneStopped waiter stopped⟩
  | checking => exact .inr ⟨_, .load waiter⟩
  | loaded flag => exact .inr ⟨_, .check waiter⟩
  | exited => exact .inl rfl

end Returned

/-- Along any run from a state where the setter has returned, the waiter's steps are bounded by
what it had left, and the invariant and the returned setter are kept. -/
theorem BridgeRun.remaining {b b' : AsynchronousBridge} {actors : List BridgeActor}
    (run : BridgeRun b actors b') (wakeable : b.Wakeable) (returned : b.setter = .returned) :
    actors.count .waiter + b'.waiter.remaining ≤ b.waiter.remaining ∧ b'.Wakeable ∧
      b'.setter = .returned := by
  induction run with
  | nil => exact ⟨by simp, wakeable, returned⟩
  | @cons b b' b'' actor actors step _ ih =>
    by_cases waiter : actor = .waiter
    · subst waiter
      have closer := step.remaining_lt wakeable returned
      have returned' : b'.setter = .returned := by cases step <;> exact returned
      obtain ⟨bound, rest⟩ := ih (wakeable.step step) returned'
      exact ⟨by rw [List.count_cons_self]; omega, rest⟩
    · obtain ⟨same, returned'⟩ := step.waiter_eq returned waiter
      obtain ⟨bound, rest⟩ := ih (wakeable.step step) returned'
      refine ⟨?_, rest⟩
      rw [List.count_cons_of_ne (Ne.symm waiter), ← same]
      exact bound

/-- No lost wakeup: once `setAsyncOperationComplete` has returned, in any interleaving with any
other thread's posts and stops, the waiter takes at most four more steps and is never blocked
before it has left the loop. -/
theorem bridge_no_lost_wakeup {b b' : AsynchronousBridge} {actors : List BridgeActor}
    (reachable : BridgeReachable b) (returned : b.setter = .returned)
    (run : BridgeRun b actors b') :
    actors.count .waiter ≤ 4 ∧ (b'.waiter = .exited ∨ ∃ b'', BridgeStep .waiter b' b'') := by
  obtain ⟨bound, wakeable, returned'⟩ := run.remaining reachable.invariant.1 returned
  exact ⟨by have := b.waiter.remaining_le; omega, wakeable.enabled returned'⟩

/-- `setAsyncOperationComplete` returned before the thread started to wait. -/
def postedBridge : AsynchronousBridge := ⟨true, [.wake], false, .idle, .returned⟩

theorem postedBridge_reachable : BridgeReachable postedBridge :=
  ((BridgeReachable.create [] false).step (.store rfl)).step (.post rfl)

/-- The waiter starts to wait, another thread posts a handler, and the waiter runs the posted
empty handler and loads the flag. -/
theorem posted_bridge_wakes :
    [BridgeActor.waiter, .other, .waiter, .waiter].count .waiter ≤ 4 ∧
      ((⟨true, [.other], false, .loaded true, .returned⟩ : AsynchronousBridge).waiter = .exited ∨
        ∃ b'', BridgeStep .waiter ⟨true, [.other], false, .loaded true, .returned⟩ b'') :=
  bridge_no_lost_wakeup postedBridge_reachable rfl
    (.cons (.wait rfl) (.cons .postOther
      (.cons (.runOne rfl rfl (show _ = [.wake, .other] from rfl)) (.cons (.load rfl) .nil))))

end Spinscale
