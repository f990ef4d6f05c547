import Mathlib.Data.List.Perm.Basic
import Spinscale.System.State

/-!
# Lifetime operations on the puppet threads

`PuppetApplication::joltAllPuppetThreadsReq` and its four siblings fan one request out to every
puppet thread. Each puppet's per-thread request (`joltThreadReq` and siblings) posts a
`ThreadLifetimeMgmtOp` handler to the puppet's queue; `exitThreadReq` posts two, one to the main
queue and one to the pause queue. A handler that runs posts its reply to the caller's
`io_service`. The caller runs the replies one at a time, and each one counts itself on the
request's `AsynchronousLoop`, whose counters are `unsigned int`s. The reply that completes the
loop calls the original callback.

Each handler that runs and each reply that runs is one atomic step, and they interleave freely
across the puppets. What a handler does to its own thread (stopping or pausing its `io_service`,
`cleanup()`) is outside this model: the thread loops that run those queues are not in the source.

`lifetime_callback_once` shows that the callback runs at most once, exactly when the replies run
reach the number of puppets, and once every handler and reply has run; a jolt of an application
already jolted is the exception, which calls the callback at once without posting anything.
`lifetime_callback_after_every_puppet` shows that, except for `exitAllPuppetThreadsReq` and that
repeated jolt, the callback runs only after every puppet has run its handler, and that a jolt
marks the threads jolted exactly when its callback is due.
-/

namespace Spinscale

/-! ## `AsynchronousLoop` -/

/-- `AsynchronousLoop`: the number of iterations and how many succeeded and failed so far, all
`unsigned int`. -/
structure AsynchronousLoop where
  nTotal : UInt32
  nSucceeded : UInt32
  nFailed : UInt32
  deriving DecidableEq, Repr

namespace AsynchronousLoop

/-- `AsynchronousLoop(nTotal)`, with no iteration counted yet. -/
def create (nTotal : UInt32) : AsynchronousLoop := ⟨nTotal, 0, 0⟩

/-- `isComplete()`: `nSucceeded + nFailed == nTotal`, in `unsigned int`. -/
def isComplete (loop : AsynchronousLoop) : Bool :=
  loop.nSucceeded + loop.nFailed == loop.nTotal

/-- `incrementSuccessOrFailureDueTo(success)`. -/
def incrementSuccessOrFailureDueTo (loop : AsynchronousLoop) (success : Bool) : AsynchronousLoop :=
  if success then { loop with nSucceeded := loop.nSucceeded + 1 }
  else { loop with nFailed := loop.nFailed + 1 }

/-- `incrementSuccessOrFailureAndTestForCompletionDueTo(success)`. -/
def incrementSuccessOrFailureAndTestForCompletionDueTo (loop : AsynchronousLoop) (success : Bool) :
    AsynchronousLoop × Bool :=
  let loop := loop.incrementSuccessOrFailureDueTo success
  (loop, loop.isComplete)

/-- `nTotalIsZero()`. -/
def nTotalIsZero (loop : AsynchronousLoop) : Bool :=
  loop.nTotal == 0

/-- `setRemainingIterationsToFailure()`: `nFailed = nTotal - nSucceeded`, in `unsigned int`. -/
def setRemainingIterationsToFailure (loop : AsynchronousLoop) : AsynchronousLoop :=
  { loop with nFailed := loop.nTotal - loop.nSucceeded }

end AsynchronousLoop

theorem UInt32.toNat_ofNat_mod (n : Nat) : (UInt32.ofNat n).toNat = n % 2 ^ 32 := by
  simp [UInt32.toNat, UInt32.ofNat, BitVec.toNat_ofNat]

theorem UInt32.toNat_add_mod (a b : UInt32) : (a + b).toNat = (a.toNat + b.toNat) % 2 ^ 32 :=
  BitVec.toNat_add _ _

theorem UInt32.ofNat_eq_ofNat_iff (a b : Nat) :
    UInt32.ofNat a = UInt32.ofNat b ↔ a % 2 ^ 32 = b % 2 ^ 32 := by
  refine ⟨fun same => ?_, fun same => UInt32.toNat.inj ?_⟩
  · simpa only [UInt32.toNat_ofNat_mod] using congrArg UInt32.toNat same
  · rw [UInt32.toNat_ofNat_mod, UInt32.toNat_ofNat_mod, same]

theorem UInt32.ofNat_add_one (n : Nat) : UInt32.ofNat n + 1 = UInt32.ofNat (n + 1) := by
  apply UInt32.toNat.inj
  rw [UInt32.toNat_add_mod, UInt32.toNat_ofNat_mod, UInt32.toNat_ofNat_mod]
  show (n % 2 ^ 32 + 1 % 2 ^ 32) % 2 ^ 32 = _
  omega

/-- A loop of `nTotal` iterations with `count` successes counted is complete exactly when
`count` agrees with `nTotal` modulo `2 ^ 32`. -/
theorem AsynchronousLoop.isComplete_succeeded (nTotal count : Nat) (fits : nTotal < 2 ^ 32) :
    (⟨UInt32.ofNat nTotal, UInt32.ofNat count, 0⟩ : AsynchronousLoop).isComplete = true ↔
      count % 2 ^ 32 = nTotal := by
  have noFailure : UInt32.ofNat count + 0 = UInt32.ofNat count := by
    apply UInt32.toNat.inj
    rw [UInt32.toNat_add_mod, UInt32.toNat_ofNat_mod]
    show (count % 2 ^ 32 + 0 % 2 ^ 32) % 2 ^ 32 = count % 2 ^ 32
    omega
  simp only [AsynchronousLoop.isComplete, noFailure, beq_iff_eq, UInt32.ofNat_eq_ofNat_iff,
    Nat.mod_eq_of_lt fits]

/-! ## The requests -/

/-- `getSelf()` on a thread whose thread-local `thisComponentThread` is not set. -/
def getSelfError : String :=
  "getSelf: TLS not initialized"

/-- `std::bad_function_call`, thrown by calling an empty `std::function` (libstdc++'s `what()`). -/
def badFunctionCallError : String :=
  "bad_function_call"

/-- What the lifetime operations read of `PuppetApplication` and of the thread that calls them. -/
structure PuppetApplication where
  /-- `componentThreads`, by thread id. -/
  componentThreads : List ThreadId
  threadsHaveBeenJolted : Bool
  /-- `mrntt::marionetteThreadId`. -/
  marionetteThreadId : ThreadId
  /-- `ComponentThread::tlsInitialized()` on the calling thread. -/
  tlsInitialized : Bool
  deriving DecidableEq, Repr

/-- A per-thread request of `PuppetThread`: its name, whether it refuses the marionette thread,
whether it calls `getSelf()`, and how many queues it posts a handler to. -/
structure ThreadReq where
  name : String
  refusesMrntt : Bool
  callsGetSelf : Bool
  queues : Nat
  deriving DecidableEq, Repr

/-- `PuppetThread::joltThreadReq`: JOLT precedes the thread-local setup, so it names the
marionette thread as caller instead of calling `getSelf()`. -/
def joltThreadReq : ThreadReq := ⟨"joltThreadReq", true, false, 1⟩

/-- `PuppetThread::startThreadReq`. -/
def startThreadReq : ThreadReq := ⟨"startThreadReq", false, true, 1⟩

/-- `PuppetThread::exitThreadReq`: one handler on the main queue and one on the pause queue. -/
def exitThreadReq : ThreadReq := ⟨"exitThreadReq", false, true, 2⟩

/-- `PuppetThread::pauseThreadReq`. -/
def pauseThreadReq : ThreadReq := ⟨"pauseThreadReq", true, true, 1⟩

/-- `PuppetThread::resumeThreadReq`, which posts to the pause queue. -/
def resumeThreadReq : ThreadReq := ⟨"resumeThreadReq", true, true, 1⟩

namespace ThreadReq

/-- The request on one puppet: its checks, then a handler for each queue it posts to. -/
def call (req : ThreadReq) (app : PuppetApplication) (thread : ThreadId) :
    Outcome (List ThreadId) :=
  if req.refusesMrntt && thread == app.marionetteThreadId then
    .threw (req.name ++ ": invoked on mrntt thread")
  else if req.callsGetSelf && !app.tlsInitialized then .threw getSelfError
  else .returned (List.replicate req.queues thread)

/-- The loop over `componentThreads`: the handlers posted until a puppet's request throws, and
what it throws. -/
def postToAll (req : ThreadReq) (app : PuppetApplication) :
    List ThreadId → List ThreadId × Option String
  | [] => ([], none)
  | thread :: rest =>
    match req.call app thread with
    | .threw what => ([], some what)
    | .returned handlers =>
      let posted := req.postToAll app rest
      (handlers ++ posted.1, posted.2)

/-- Each puppet gets at most `queues` handlers. -/
theorem length_postToAll (req : ThreadReq) (app : PuppetApplication) :
    ∀ threads, (req.postToAll app threads).1.length ≤ req.queues * threads.length
  | [] => by simp [postToAll]
  | thread :: rest => by
    have rest' := length_postToAll req app rest
    simp only [postToAll]
    split
    · simp
    · rename_i handlers called
      simp only [call] at called
      split_ifs at called
      cases called
      simp only [List.length_append, List.length_replicate, List.length_cons]
      rw [Nat.mul_succ]
      omega

/-- A loop that no puppet's request stopped posted `queues` handlers for every puppet. -/
theorem length_postToAll_of_none (req : ThreadReq) (app : PuppetApplication) :
    ∀ threads, (req.postToAll app threads).2 = none →
      (req.postToAll app threads).1.length = req.queues * threads.length
  | [] => fun _ => rfl
  | thread :: rest => fun finished => by
    simp only [postToAll] at finished ⊢
    split at finished
    · cases finished
    · rename_i handlers called
      simp only [call] at called
      split_ifs at called
      cases called
      simp only [List.length_append, List.length_replicate, List.length_cons,
        length_postToAll_of_none req app rest finished, Nat.mul_succ]
      omega

/-- The handlers posted are those of a prefix of the puppets, `queues` for each. -/
theorem postToAll_sublist (req : ThreadReq) (app : PuppetApplication) :
    ∀ threads,
      List.Sublist (req.postToAll app threads).1 (threads.flatMap (List.replicate req.queues))
  | [] => List.nil_sublist _
  | thread :: rest => by
    simp only [postToAll, List.flatMap_cons]
    split
    · exact List.nil_sublist _
    · rename_i handlers called
      simp only [call] at called
      split_ifs at called
      cases called
      exact (postToAll_sublist req app rest).append_left _

end ThreadReq

/-- A lifetime request in flight: the application's jolt flag, the `PuppetThreadLifetimeMgmtOp`
with its loop and callback, which of its reply handlers is bound, the handlers posted to puppets
that have not run, and the replies posted to the caller that have not run. `handled` and
`callbacks` are history variables: the puppets whose handler ran, newest first, and how often
the original callback ran. -/
structure LifetimeRequest where
  threadsHaveBeenJolted : Bool
  loop : AsynchronousLoop
  /-- The replies run `joltAllPuppetThreadsReq1`, otherwise
  `executeGenericOpOnAllPuppetThreadsReq1`. -/
  jolting : Bool
  /-- The original callback's `callbackFn` is set. -/
  callbackFn : Bool
  posted : List ThreadId
  replies : Nat
  handled : List ThreadId
  callbacks : Nat
  deriving DecidableEq, Repr

namespace LifetimeRequest

/-- The replies the caller has run. -/
def processed (r : LifetimeRequest) : Nat :=
  r.handled.length - r.replies

/-- `callOriginalCb()` of the non-posted `PuppetThreadLifetimeMgmtOp`: call the callback if it
is set. -/
def callOriginalCb (r : LifetimeRequest) : LifetimeRequest :=
  if r.callbackFn then { r with callbacks := r.callbacks + 1 } else r

/-- `executeGenericOpOnAllPuppetThreadsReq1`: count the reply; the one that completes the loop
calls the callback. -/
def executeGenericOpOnAllPuppetThreadsReq1 (r : LifetimeRequest) : LifetimeRequest :=
  let r := { r with loop := r.loop.incrementSuccessOrFailureDueTo true }
  if !r.loop.isComplete then r else r.callOriginalCb

/-- `joltAllPuppetThreadsReq1`: as the generic reply, and the one that completes the loop also
sets `threadsHaveBeenJolted` before it calls the callback. -/
def joltAllPuppetThreadsReq1 (r : LifetimeRequest) : LifetimeRequest :=
  let r := { r with loop := r.loop.incrementSuccessOrFailureDueTo true }
  if !r.loop.isComplete then r else { r with threadsHaveBeenJolted := true }.callOriginalCb

/-- Puppet `thread` runs one of its handlers, whose `callOriginalCb()` (posted, with its
callback always bound) posts the reply to the caller's `io_service`. -/
def handle (r : LifetimeRequest) (thread : ThreadId) : LifetimeRequest :=
  { r with posted := r.posted.erase thread, replies := r.replies + 1, handled := thread :: r.handled }

/-- The caller's `io_service` runs one reply. -/
def reply (r : LifetimeRequest) : LifetimeRequest :=
  let r := { r with replies := r.replies - 1 }
  if r.jolting then r.joltAllPuppetThreadsReq1 else r.executeGenericOpOnAllPuppetThreadsReq1

/-- A reply counts itself on the loop, calls a set callback when that completes the loop, and
for a jolt then marks the threads jolted. -/
theorem reply_eq (r : LifetimeRequest) :
    r.reply =
      { r with
        replies := r.replies - 1
        loop := r.loop.incrementSuccessOrFailureDueTo true
        callbacks :=
          if (r.loop.incrementSuccessOrFailureDueTo true).isComplete && r.callbackFn then
            r.callbacks + 1
          else r.callbacks
        threadsHaveBeenJolted := r.threadsHaveBeenJolted ||
          (r.loop.incrementSuccessOrFailureDueTo true).isComplete && r.jolting } := by
  obtain ⟨jolted, loop, jolting, callbackFn, posted, replies, handled, callbacks⟩ := r
  simp only [reply, joltAllPuppetThreadsReq1, executeGenericOpOnAllPuppetThreadsReq1, callOriginalCb]
  cases jolting <;> cases callbackFn <;>
    cases complete : (loop.incrementSuccessOrFailureDueTo true).isComplete <;> simp [complete]

end LifetimeRequest

/-- The request a lifetime operation fans out: a loop over `componentThreads.size()` (an
`unsigned int`) and the handlers the per-thread requests post, with what one of them threw. -/
def fanOut (app : PuppetApplication) (req : ThreadReq) (jolting callbackFn : Bool) :
    LifetimeRequest × Option String :=
  let posted := req.postToAll app app.componentThreads
  ({ threadsHaveBeenJolted := app.threadsHaveBeenJolted
     loop := .create (UInt32.ofNat app.componentThreads.length)
     jolting := jolting
     callbackFn := callbackFn
     posted := posted.1
     replies := 0
     handled := []
     callbacks := 0 }, posted.2)

/-- An operation that calls the callback at once and creates no request. -/
def calledAtOnce (threadsHaveBeenJolted jolting callbackFn : Bool) : LifetimeRequest where
  threadsHaveBeenJolted := threadsHaveBeenJolted
  loop := .create 0
  jolting := jolting
  callbackFn := callbackFn
  posted := []
  replies := 0
  handled := []
  callbacks := 1

/-- `startAllPuppetThreadsReq` and its siblings: an application without puppets calls a set
callback at once; otherwise the request is fanned out. -/
def allPuppetThreadsReq (req : ThreadReq) (app : PuppetApplication) (callbackFn : Bool) :
    LifetimeRequest × Option String :=
  if app.componentThreads.length == 0 && callbackFn then
    (calledAtOnce app.threadsHaveBeenJolted false callbackFn, none)
  else fanOut app req false callbackFn

/-- `PuppetApplication::startAllPuppetThreadsReq`. -/
def startAllPuppetThreadsReq : PuppetApplication → Bool → LifetimeRequest × Option String :=
  allPuppetThreadsReq startThreadReq

/-- `PuppetApplication::pauseAllPuppetThreadsReq`. -/
def pauseAllPuppetThreadsReq : PuppetApplication → Bool → LifetimeRequest × Option String :=
  allPuppetThreadsReq pauseThreadReq

/-- `PuppetApplication::resumeAllPuppetThreadsReq`. -/
def resumeAllPuppetThreadsReq : PuppetApplication → Bool → LifetimeRequest × Option String :=
  allPuppetThreadsReq resumeThreadReq

/-- `PuppetApplication::exitAllPuppetThreadsReq`; its replies run
`executeGenericOpOnAllPuppetThreadsReq1`, not `exitAllPuppetThreadsReq1`. -/
def exitAllPuppetThreadsReq : PuppetApplication → Bool → LifetimeRequest × Option String :=
  allPuppetThreadsReq exitThreadReq

/-- `PuppetApplication::joltAllPuppetThreadsReq`: an application already jolted calls the
callback without checking that it is set; one without puppets is marked jolted and calls a set
callback at once; otherwise the request is fanned out. -/
def joltAllPuppetThreadsReq (app : PuppetApplication) (callbackFn : Bool) :
    LifetimeRequest × Option String :=
  if app.threadsHaveBeenJolted then
    if callbackFn then (calledAtOnce true true callbackFn, none)
    else ({ calledAtOnce true true callbackFn with callbacks := 0 }, some badFunctionCallError)
  else if app.componentThreads.length == 0 && callbackFn then (calledAtOnce true true callbackFn, none)
  else fanOut app joltThreadReq true callbackFn

/-- The steps of a request in flight; the handlers of different puppets and the caller's replies
interleave freely. -/
inductive LifetimeStep : LifetimeRequest → LifetimeRequest → Prop
  | handle {r thread} (posted : thread ∈ r.posted) : LifetimeStep r (r.handle thread)
  | reply {r} (pending : 0 < r.replies) : LifetimeStep r r.reply

/-- The states a request reaches from where its operation left it. -/
inductive LifetimeReachable (start : LifetimeRequest) : LifetimeRequest → Prop
  | start : LifetimeReachable start start
  | step {r r'} (reachable : LifetimeReachable start r) (step : LifetimeStep r r') :
      LifetimeReachable start r'

/-- The five lifetime operations of `PuppetApplication`. -/
inductive LifetimeOperation where
  | jolt | start | pause | resume | exit
  deriving DecidableEq, Repr

namespace LifetimeOperation

/-- The operation's entry point. -/
def call : LifetimeOperation → PuppetApplication → Bool → LifetimeRequest × Option String
  | .jolt => joltAllPuppetThreadsReq
  | .start => startAllPuppetThreadsReq
  | .pause => pauseAllPuppetThreadsReq
  | .resume => resumeAllPuppetThreadsReq
  | .exit => exitAllPuppetThreadsReq

/-- The per-thread request the operation calls on each puppet. -/
def threadReq : LifetimeOperation → ThreadReq
  | .jolt => joltThreadReq
  | .start => startThreadReq
  | .pause => pauseThreadReq
  | .resume => resumeThreadReq
  | .exit => exitThreadReq

/-- Every per-thread request posts one or two handlers. -/
theorem threadReq_queues (operation : LifetimeOperation) :
    1 ≤ operation.threadReq.queues ∧ operation.threadReq.queues ≤ 2 := by
  cases operation <;> decide

/-- On an application with puppets, not yet jolted when the operation is a jolt, every operation
fans its request out. -/
theorem call_eq_fanOut (operation : LifetimeOperation) {app : PuppetApplication}
    (callbackFn : Bool) (puppets : 0 < app.componentThreads.length)
    (unjolted : operation = .jolt → app.threadsHaveBeenJolted = false) :
    operation.call app callbackFn =
      fanOut app operation.threadReq (decide (operation = .jolt)) callbackFn := by
  have notEmpty : (app.componentThreads.length == 0) = false := by
    simpa using Nat.pos_iff_ne_zero.mp puppets
  cases operation <;>
    simp [call, threadReq, joltAllPuppetThreadsReq, startAllPuppetThreadsReq,
      pauseAllPuppetThreadsReq, resumeAllPuppetThreadsReq, exitAllPuppetThreadsReq,
      allPuppetThreadsReq, notEmpty, unjolted]

end LifetimeOperation

/-! ## The callback runs once -/

/-- The invariant of a request fanned out over `nTotal` puppets that posted `handlers`, from an
application whose jolt flag was `jolted`: the handlers not yet run and the puppets that ran
theirs are the handlers posted; the caller has run no more replies than were posted; the loop
has counted the replies run; the callback ran once those reached `nTotal`; and a jolt marked the
threads jolted then. -/
structure Counted (handlers : List ThreadId) (nTotal : Nat) (jolted : Bool) (r : LifetimeRequest) :
    Prop where
  perm : (r.posted ++ r.handled).Perm handlers
  replies : r.replies ≤ r.handled.length
  loop : r.loop = ⟨UInt32.ofNat nTotal, UInt32.ofNat r.processed, 0⟩
  callbacks : r.callbacks = if r.callbackFn = true ∧ nTotal ≤ r.processed then 1 else 0
  threadsHaveBeenJolted :
    r.threadsHaveBeenJolted = (jolted || r.jolting && decide (nTotal ≤ r.processed))

namespace Counted

variable {handlers : List ThreadId} {nTotal : Nat} {jolted : Bool} {r : LifetimeRequest}

/-- A reply still to run is one more than the caller has run, out of the handlers posted. -/
theorem processed_lt (h : Counted handlers nTotal jolted r) (pending : 0 < r.replies) :
    r.processed < handlers.length := by
  have total := h.perm.length_eq
  simp only [List.length_append] at total
  have := h.replies
  unfold LifetimeRequest.processed
  omega

/-- A puppet's handler posts a reply and counts nothing. -/
theorem handle (h : Counted handlers nTotal jolted r) {thread : ThreadId}
    (posted : thread ∈ r.posted) : Counted handlers nTotal jolted (r.handle thread) := by
  have processed : (r.handle thread).processed = r.processed := by
    simp only [LifetimeRequest.processed, LifetimeRequest.handle, List.length_cons]
    omega
  refine ⟨?_, by simpa [LifetimeRequest.handle] using h.replies, ?_, ?_, ?_⟩
  · refine List.Perm.trans ?_ h.perm
    simp only [LifetimeRequest.handle]
    exact List.perm_middle.trans (((List.perm_cons_erase posted).symm).append_right _)
  · rw [processed]
    exact h.loop
  · rw [processed]
    exact h.callbacks
  · rw [processed]
    exact h.threadsHaveBeenJolted

/-- A reply counts itself; the one that brings the count to `nTotal` calls the callback and,
for a jolt, marks the threads jolted. The count never wraps back to `nTotal`. -/
theorem reply (h : Counted handlers nTotal jolted r) (fits : nTotal < 2 ^ 32)
    (bounded : handlers.length < nTotal + 2 ^ 32) (pending : 0 < r.replies) :
    Counted handlers nTotal jolted r.reply := by
  have below := h.processed_lt pending
  have succeeded : ∀ replies, replies = r.replies - 1 →
      r.handled.length - replies = r.processed + 1 := by
    intro replies same
    have := h.replies
    unfold LifetimeRequest.processed
    omega
  have complete : (⟨UInt32.ofNat nTotal, UInt32.ofNat r.processed + 1, 0⟩ : AsynchronousLoop).isComplete
      = true ↔ r.processed + 1 = nTotal := by
    rw [UInt32.ofNat_add_one, AsynchronousLoop.isComplete_succeeded _ _ fits]
    omega
  have processed : r.reply.processed = r.processed + 1 := by
    rw [LifetimeRequest.reply_eq]
    exact succeeded _ rfl
  have incremented : r.loop.incrementSuccessOrFailureDueTo true =
      ⟨UInt32.ofNat nTotal, UInt32.ofNat r.processed + 1, 0⟩ := by
    rw [h.loop]
    rfl
  refine ⟨by simpa [LifetimeRequest.reply_eq] using h.perm,
    by simp only [LifetimeRequest.reply_eq]; have := h.replies; omega, ?_, ?_, ?_⟩
  · rw [processed, LifetimeRequest.reply_eq]
    simp only [incremented, UInt32.ofNat_add_one]
  · rw [processed, LifetimeRequest.reply_eq]
    simp only [incremented, h.callbacks]
    by_cases done : r.processed + 1 = nTotal
    · have notYet : ¬ nTotal ≤ r.processed := by omega
      simp [complete.mpr done, done, notYet]
    · simp only [show ¬ _ from fun complete' => done (complete.mp complete'), Bool.false_and,
        Bool.false_eq_true, if_false]
      congr 1
      simp only [eq_iff_iff, and_congr_right_iff]
      omega
  · rw [processed, LifetimeRequest.reply_eq]
    simp only [incremented, h.threadsHaveBeenJolted]
    by_cases done : r.processed + 1 = nTotal
    · have notYet : ¬ nTotal ≤ r.processed := by omega
      simp [complete.mpr done, done, notYet]
    · simp only [show ¬ _ from fun complete' => done (complete.mp complete'), Bool.false_and,
        Bool.or_false]
      congr 2
      simp only [decide_eq_decide]
      omega

/-- Every step of a request in flight keeps the invariant. -/
theorem step (h : Counted handlers nTotal jolted r) (fits : nTotal < 2 ^ 32)
    (bounded : handlers.length < nTotal + 2 ^ 32) {r' : LifetimeRequest}
    (step : LifetimeStep r r') : Counted handlers nTotal jolted r' := by
  cases step with
  | handle posted => exact h.handle posted
  | reply pending => exact h.reply fits bounded pending

/-- A request fanned out over an application's puppets has counted nothing yet. -/
theorem fanOut {app : PuppetApplication} (req : ThreadReq) (jolting callbackFn : Bool)
    (puppets : 0 < app.componentThreads.length) :
    Counted (req.postToAll app app.componentThreads).1 app.componentThreads.length
      app.threadsHaveBeenJolted (Spinscale.fanOut app req jolting callbackFn).1 where
  perm := by simp [Spinscale.fanOut]
  replies := Nat.zero_le _
  loop := rfl
  callbacks := by
    simp [Spinscale.fanOut, LifetimeRequest.processed, Nat.pos_iff_ne_zero.mp puppets]
  threadsHaveBeenJolted := by
    simp [Spinscale.fanOut, LifetimeRequest.processed, Nat.pos_iff_ne_zero.mp puppets]

end Counted

/-- The invariant holds in every state a request reaches from one where it holds. -/
theorem LifetimeReachable.counted {handlers : List ThreadId} {nTotal : Nat} {jolted : Bool}
    {start r : LifetimeRequest} (counted : Counted handlers nTotal jolted start)
    (fits : nTotal < 2 ^ 32) (bounded : handlers.length < nTotal + 2 ^ 32)
    (reachable : LifetimeReachable start r) : Counted handlers nTotal jolted r := by
  induction reachable with
  | start => exact counted
  | step _ step inductionHypothesis => exact inductionHypothesis.step fits bounded step

/-- A request with no handler posted and no reply pending takes no step. -/
theorem LifetimeReachable.eq_start {start r : LifetimeRequest} (idle : start.posted = [])
    (noReply : start.replies = 0) (reachable : LifetimeReachable start r) : r = start := by
  induction reachable with
  | start => rfl
  | step _ step inductionHypothesis =>
    subst inductionHypothesis
    cases step with
    | handle posted => simp [idle] at posted
    | reply pending => omega

/-- Which callback and which reply handler a request has does not change. -/
theorem LifetimeReachable.flags {start r : LifetimeRequest} (reachable : LifetimeReachable start r) :
    r.callbackFn = start.callbackFn ∧ r.jolting = start.jolting := by
  induction reachable with
  | start => exact ⟨rfl, rfl⟩
  | step _ step inductionHypothesis =>
    cases step with
    | handle => exact inductionHypothesis
    | reply => simpa [LifetimeRequest.reply_eq] using inductionHypothesis

/-- Every request of a lifetime operation on puppets fits the invariant, with the handlers its
per-thread requests posted. -/
theorem LifetimeOperation.counted (operation : LifetimeOperation) {app : PuppetApplication}
    (callbackFn : Bool) (puppets : 0 < app.componentThreads.length)
    (fits : app.componentThreads.length < 2 ^ 32)
    (unjolted : operation = .jolt → app.threadsHaveBeenJolted = false) {r : LifetimeRequest}
    (reachable : LifetimeReachable (operation.call app callbackFn).1 r) :
    Counted (operation.threadReq.postToAll app app.componentThreads).1
        app.componentThreads.length app.threadsHaveBeenJolted r ∧
      r.callbackFn = callbackFn ∧ r.jolting = decide (operation = .jolt) := by
  rw [operation.call_eq_fanOut callbackFn puppets unjolted] at reachable
  have bounded := operation.threadReq.length_postToAll app app.componentThreads
  have queues := operation.threadReq_queues
  have twice : operation.threadReq.queues * app.componentThreads.length ≤
      2 * app.componentThreads.length := Nat.mul_le_mul_right _ queues.2
  exact ⟨reachable.counted (Counted.fanOut _ _ _ puppets) fits (by omega), reachable.flags⟩

/-- A jolt of an application already jolted posts nothing and never completes a loop: the
callback runs at once, with no reply counted, and an unset one throws `bad_function_call`. -/
theorem joltAllPuppetThreadsReq_of_jolted {app : PuppetApplication}
    (jolted : app.threadsHaveBeenJolted = true) (callbackFn : Bool) {r : LifetimeRequest}
    (reachable : LifetimeReachable (joltAllPuppetThreadsReq app callbackFn).1 r) :
    r.posted = [] ∧ r.handled = [] ∧ r.replies = 0 ∧ r.threadsHaveBeenJolted = true ∧
      r.callbacks = (if callbackFn then 1 else 0) ∧
      (joltAllPuppetThreadsReq app callbackFn).2 =
        if callbackFn then none else some badFunctionCallError := by
  have idle : (joltAllPuppetThreadsReq app callbackFn).1.posted = [] ∧
      (joltAllPuppetThreadsReq app callbackFn).1.replies = 0 := by
    cases callbackFn <;> simp [joltAllPuppetThreadsReq, jolted, calledAtOnce]
  rw [reachable.eq_start idle.1 idle.2]
  cases callbackFn <;> simp [joltAllPuppetThreadsReq, jolted, calledAtOnce]

/-- In every interleaving of the puppets' handlers and the caller's replies, the callback of a
lifetime operation runs at most once, and exactly when it is set and either the operation is a
jolt of an application already jolted or the replies run reach the number of puppets; once no
per-thread request threw and every handler and reply has run, a set callback has run. A repeated
jolt posts nothing, counts no reply, and throws `bad_function_call` when the callback is
unset. -/
theorem lifetime_callback_once (operation : LifetimeOperation) {app : PuppetApplication}
    (callbackFn : Bool) (puppets : 0 < app.componentThreads.length)
    (fits : app.componentThreads.length < 2 ^ 32) {r : LifetimeRequest}
    (reachable : LifetimeReachable (operation.call app callbackFn).1 r) :
    r.callbacks ≤ 1 ∧
      (r.callbacks = 1 ↔ callbackFn = true ∧
        (operation = .jolt ∧ app.threadsHaveBeenJolted = true ∨
          app.componentThreads.length ≤ r.processed)) ∧
      ((operation.call app callbackFn).2 = none → r.posted = [] → r.replies = 0 →
        r.callbacks = if callbackFn then 1 else 0) ∧
      (operation = .jolt → app.threadsHaveBeenJolted = true →
        r.posted = [] ∧ r.processed = 0 ∧
          (operation.call app callbackFn).2 =
            if callbackFn then none else some badFunctionCallError) := by
  by_cases repeated : operation = .jolt ∧ app.threadsHaveBeenJolted = true
  · obtain ⟨rfl, jolted⟩ := repeated
    obtain ⟨posted, handled, -, -, callbacks, threw⟩ :=
      joltAllPuppetThreadsReq_of_jolted jolted callbackFn reachable
    have processed : r.processed = 0 := by simp [LifetimeRequest.processed, handled]
    exact ⟨by split at callbacks <;> omega, by cases callbackFn <;> simp [callbacks, jolted],
      fun _ _ _ => callbacks, fun _ _ => ⟨posted, processed, threw⟩⟩
  have unjolted : operation = .jolt → app.threadsHaveBeenJolted = false := by simpa using repeated
  obtain ⟨h, callback, -⟩ := operation.counted callbackFn puppets fits unjolted reachable
  rw [h.callbacks, callback]
  refine ⟨by split <;> omega, by simp only [repeated, false_or]; split <;> simp_all,
    fun finished drained done => ?_, fun jolt jolted => absurd ⟨jolt, jolted⟩ repeated⟩
  rw [operation.call_eq_fanOut callbackFn puppets unjolted] at finished
  have posted := operation.threadReq.length_postToAll_of_none app _ finished
  have total := h.perm.length_eq
  have once := operation.threadReq_queues.1
  have all : app.componentThreads.length ≤ r.processed := by
    simp only [drained, List.nil_append] at total
    simp only [LifetimeRequest.processed, done, Nat.sub_zero, total, posted]
    exact Nat.le_mul_of_pos_left _ once
  simp [all]

/-- Two puppets, threads 1 and 2, of an application whose marionette thread is 0. -/
def twoPuppets : PuppetApplication := ⟨[1, 2], false, 0, true⟩

/-- `startAllPuppetThreadsReq` on `twoPuppets` once both handlers and both replies ran. -/
def startedTwoPuppets : LifetimeRequest :=
  ((((startAllPuppetThreadsReq twoPuppets true).1.handle 2).handle 1).reply).reply

/-- Both puppets of `twoPuppets` started, and the callback ran once. -/
theorem two_puppets_started_once :
    startedTwoPuppets.callbacks ≤ 1 ∧
      (startedTwoPuppets.callbacks = 1 ↔ true = true ∧
        (LifetimeOperation.start = .jolt ∧ twoPuppets.threadsHaveBeenJolted = true ∨
          twoPuppets.componentThreads.length ≤ startedTwoPuppets.processed)) ∧
      ((LifetimeOperation.start.call twoPuppets true).2 = none → startedTwoPuppets.posted = [] →
        startedTwoPuppets.replies = 0 → startedTwoPuppets.callbacks = if true then 1 else 0) ∧
      (LifetimeOperation.start = .jolt → twoPuppets.threadsHaveBeenJolted = true →
        startedTwoPuppets.posted = [] ∧ startedTwoPuppets.processed = 0 ∧
          (LifetimeOperation.start.call twoPuppets true).2 =
            if true then none else some badFunctionCallError) :=
  lifetime_callback_once .start true (by decide) (by decide)
    (.step (.step (.step (.step .start (.handle (by decide))) (.handle (by decide)))
      (.reply (by decide))) (.reply (by decide)))

/-- Except for `exitAllPuppetThreadsReq`, whose puppets each post a handler to two queues, the
callback of a lifetime operation runs only once every reply has run and either every puppet has
run its handler or the operation is a jolt of an application already jolted, which runs no
handler; a jolt marks the threads jolted exactly when they already were or its replies reach the
number of puppets. -/
theorem lifetime_callback_after_every_puppet (operation : LifetimeOperation)
    {app : PuppetApplication} (callbackFn : Bool) (puppets : 0 < app.componentThreads.length)
    (fits : app.componentThreads.length < 2 ^ 32) (single : operation ≠ .exit)
    {r : LifetimeRequest} (reachable : LifetimeReachable (operation.call app callbackFn).1 r) :
    (r.callbacks = 1 → r.posted = [] ∧ r.replies = 0 ∧
        (r.handled.Perm app.componentThreads ∨
          operation = .jolt ∧ app.threadsHaveBeenJolted = true ∧ r.handled = [])) ∧
      (operation = .jolt → (r.threadsHaveBeenJolted = true ↔
        app.threadsHaveBeenJolted = true ∨ app.componentThreads.length ≤ r.processed)) := by
  by_cases repeated : operation = .jolt ∧ app.threadsHaveBeenJolted = true
  · obtain ⟨rfl, jolted⟩ := repeated
    obtain ⟨posted, handled, replies, stillJolted, -⟩ :=
      joltAllPuppetThreadsReq_of_jolted jolted callbackFn reachable
    exact ⟨fun _ => ⟨posted, replies, .inr ⟨rfl, jolted, handled⟩⟩,
      fun _ => by simp [stillJolted, jolted]⟩
  have unjolted : operation = .jolt → app.threadsHaveBeenJolted = false := by simpa using repeated
  obtain ⟨h, -, jolting⟩ := operation.counted callbackFn puppets fits unjolted reachable
  have one : operation.threadReq.queues = 1 := by
    cases operation with
    | exit => exact absurd rfl single
    | _ => rfl
  refine ⟨fun called => ?_, fun jolt => ?_⟩
  · have handlers : List.Sublist (operation.threadReq.postToAll app app.componentThreads).1
        app.componentThreads := by
      have sublist := operation.threadReq.postToAll_sublist app app.componentThreads
      rwa [one, show List.replicate 1 = fun thread : ThreadId => [thread] from rfl,
        List.flatMap_singleton'] at sublist
    have total := h.perm.length_eq
    have replies := h.replies
    rw [h.callbacks] at called
    have all : app.componentThreads.length ≤ r.processed := by
      by_contra notYet
      simp [notYet] at called
    have bounded := handlers.length_le
    simp only [List.length_append] at total
    unfold LifetimeRequest.processed at all
    have drained : r.posted = [] := List.eq_nil_of_length_eq_zero (by omega)
    have perm := h.perm
    rw [drained, List.nil_append, handlers.eq_of_length (by omega)] at perm
    exact ⟨drained, by omega, .inl perm⟩
  · rw [h.threadsHaveBeenJolted, jolting, unjolted jolt, jolt]
    simp

/-- `joltAllPuppetThreadsReq` on `twoPuppets` after puppet 1's handler and its reply ran. -/
def halfJolted : LifetimeRequest :=
  (((joltAllPuppetThreadsReq twoPuppets true).1.handle 1).reply)

/-- Half of a jolt has replied, and the callback still waits. -/
theorem half_jolted_waits :
    (halfJolted.callbacks = 1 → halfJolted.posted = [] ∧ halfJolted.replies = 0 ∧
        (halfJolted.handled.Perm twoPuppets.componentThreads ∨
          LifetimeOperation.jolt = .jolt ∧ twoPuppets.threadsHaveBeenJolted = true ∧
            halfJolted.handled = [])) ∧
      (LifetimeOperation.jolt = .jolt → (halfJolted.threadsHaveBeenJolted = true ↔
        twoPuppets.threadsHaveBeenJolted = true ∨
          twoPuppets.componentThreads.length ≤ halfJolted.processed)) :=
  lifetime_callback_after_every_puppet .jolt true (by decide) (by decide) (by decide)
    (.step (.step .start (.handle (by decide))) (.reply (by decide)))

end Spinscale
