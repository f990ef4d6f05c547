import Spinscale.System.Step

/-!
# Scheduling of lockvokers

`awaken(forceAwaken)` exchanges the continuation's `isAwakeOrBeingAwakened` flag to true and
posts the lockvoker only if the flag was clear (or the wake is forced); a failed execution clears
the flag again with `allowAwakening()`. So the flag is a token: while it is set there is exactly
one copy of the lockvoker posted or about to be posted, or the lockvoker is executing; while it
is clear there is none, and nothing else will run the lockvoker until a wake sets it.

`Scheduling` states this together with the bookkeeping of which thread runs which continuation's
code and the LockSet's two flags, and shows it holds in every reachable state.
-/

namespace Spinscale

namespace Phase

/-- The continuation's code is on a thread's stack. -/
def Running : Phase → Prop
  | .asleep | .invoked | .released => False
  | _ => True

/-- The code runs on the lockvoker's target thread (all of it but `firstWake`'s registration). -/
def OnTarget : Phase → Prop
  | .registering _ => False
  | _ => True

/-- A wake may schedule the lockvoker: it is asleep, or its failed execution has already called
`allowAwakening()`. -/
def Wakeable : Phase → Prop
  | .asleep | .tracking _ => True
  | _ => False

/-- `firstWake` has not finished registering the LockSet. -/
def Registering : Phase → Prop
  | .registering _ => True
  | _ => False

/-- The LockSet is acquired: from the success of `tryAcquireOrBackOff` until `LockSet::release`
completes. -/
def Holding : Phase → Prop
  | .unregistering _ | .untracking | .invoked | .releasing _ => True
  | _ => False

/-- Two phases that every predicate above classifies alike. -/
structure Similar (phase phase' : Phase) : Prop where
  running : phase.Running ↔ phase'.Running
  onTarget : phase.OnTarget ↔ phase'.OnTarget
  wakeable : phase.Wakeable ↔ phase'.Wakeable
  registering : phase.Registering ↔ phase'.Registering
  holding : phase.Holding ↔ phase'.Holding

theorem Holding.onTarget {phase : Phase} (holding : phase.Holding) : phase.OnTarget := by
  cases phase <;> simp_all [Holding, OnTarget]

theorem Holding.not_wakeable {phase : Phase} (holding : phase.Holding) : ¬ phase.Wakeable := by
  cases phase <;> simp_all [Holding, Wakeable]

theorem Holding.not_registering {phase : Phase} (holding : phase.Holding) : ¬ phase.Registering := by
  cases phase <;> simp_all [Holding, Registering]

end Phase

namespace ComponentThread

/-- The number of copies of the continuation's lockvoker posted on the thread. -/
def queued (thread : ComponentThread) (c : ContinuationId) : Nat :=
  thread.ioService.count (.lockvoker c)

/-- The thread is completing a wake that will post the continuation's lockvoker whatever its flag
says: a forced exchange, or the post itself. -/
def Posts (thread : ComponentThread) (c : ContinuationId) : Prop :=
  thread.wake = some (.exchange c true) ∨ thread.wake = some (.post c)

/-- Two states of a thread that continuation `c` cannot tell apart: whether the thread runs its
code, how many copies of its lockvoker are queued there, and whether a wake there posts it. -/
structure Agree (thread thread' : ComponentThread) (c : ContinuationId) : Prop where
  running : thread'.running = some c ↔ thread.running = some c
  queued : thread'.queued c = thread.queued c
  posts : thread'.Posts c ↔ thread.Posts c

theorem Agree.self (thread : ComponentThread) (c : ContinuationId) : thread.Agree thread c :=
  ⟨Iff.rfl, rfl, Iff.rfl⟩

theorem Agree.trans {thread thread' thread'' : ComponentThread} {c : ContinuationId}
    (first : thread.Agree thread' c) (second : thread'.Agree thread'' c) :
    thread.Agree thread'' c :=
  ⟨second.running.trans first.running, second.queued.trans first.queued,
    second.posts.trans first.posts⟩

end ComponentThread

namespace SerializedAsynchronousContinuation

/-- What the continuation's flags say given whether its lockvoker is `scheduled`: the
`isAwakeOrBeingAwakened` token, and the LockSet's two flags, which follow the phase. -/
structure Consistent (k : SerializedAsynchronousContinuation) (scheduled : Prop) : Prop where
  awake : k.isAwakeOrBeingAwakened = true ↔ (k.phase.Wakeable → scheduled)
  wakeable : scheduled → k.phase.Wakeable
  registered : k.requiredLocks.registeredInQutexQueues = true ↔ ¬ k.phase.Registering
  acquired : k.requiredLocks.allLocksAcquired = true ↔ k.phase.Holding

/-- The flags stay consistent across a change of phase that keeps what they depend on. -/
theorem Consistent.withPhase {k : SerializedAsynchronousContinuation} {scheduled : Prop}
    (consistent : k.Consistent scheduled) (phase : Phase) (wakeable : phase.Wakeable ↔ k.phase.Wakeable)
    (registering : phase.Registering ↔ k.phase.Registering) (holding : phase.Holding ↔ k.phase.Holding) :
    ({ k with phase := phase } : SerializedAsynchronousContinuation).Consistent scheduled := by
  obtain ⟨awake, scheduledWakeable, registered, acquired⟩ := consistent
  refine ⟨?_, ?_, ?_, ?_⟩
  · simpa only [wakeable] using awake
  · simpa only [wakeable] using scheduledWakeable
  · simpa only [registering] using registered
  · simpa only [holding] using acquired

end SerializedAsynchronousContinuation

namespace Sys

/-- The continuation's lockvoker is posted, or about to be. -/
def Scheduled (s : Sys) (c : ContinuationId) : Prop :=
  (∃ thread, (s.threads thread).Posts c) ∨ ∃ thread, 0 < (s.threads thread).queued c

/-- Every thread looks the same from continuation `c` in both states. -/
def SameFootprint (s s' : Sys) (c : ContinuationId) : Prop :=
  ∀ thread, (s.threads thread).Agree (s'.threads thread) c

theorem SameFootprint.scheduled {s s' : Sys} {c : ContinuationId} (same : s.SameFootprint s' c) :
    s'.Scheduled c ↔ s.Scheduled c := by
  have posts := fun thread => (same thread).posts
  have queued := fun thread => (same thread).queued
  simp only [Scheduled, posts, queued]

theorem sameFootprint_of_threads {s s' : Sys} (threads : s'.threads = s.threads)
    (c : ContinuationId) : s.SameFootprint s' c := by
  intro thread
  rw [threads]
  exact .self _ _

/-- A step that replaces one thread's state by one that continuation `c` cannot tell apart. -/
theorem sameFootprint_of_update {s s' : Sys} {thread : ThreadId} {value : ComponentThread}
    {c : ContinuationId} (threads : s'.threads = Function.update s.threads thread value)
    (agree : (s.threads thread).Agree value c) : s.SameFootprint s' c := by
  intro t
  rw [threads, Function.update_apply]
  split_ifs with ht
  · subst ht
    exact agree
  · exact .self _ _

theorem queued_setThread (s : Sys) (thread t : ThreadId) (value : ComponentThread)
    (sameQueue : value.ioService = (s.threads thread).ioService) (c : ContinuationId) :
    ((s.setThread thread value).threads t).queued c = (s.threads t).queued c := by
  rw [setThread_threads_apply]
  split_ifs with ht
  · subst ht; simp only [ComponentThread.queued, sameQueue]
  · rfl

theorem posts_setThread (s : Sys) (thread t : ThreadId) (value : ComponentThread)
    (sameWake : value.wake = (s.threads thread).wake) (c : ContinuationId) :
    ((s.setThread thread value).threads t).Posts c ↔ (s.threads t).Posts c := by
  rw [setThread_threads_apply]
  split_ifs with ht
  · subst ht; simp only [ComponentThread.Posts, sameWake]
  · rfl

theorem scheduled_setThread (s : Sys) (thread : ThreadId) (value : ComponentThread)
    (sameQueue : value.ioService = (s.threads thread).ioService)
    (sameWake : value.wake = (s.threads thread).wake) (c : ContinuationId) :
    (s.setThread thread value).Scheduled c ↔ s.Scheduled c := by
  simp only [Scheduled, queued_setThread s thread _ value sameQueue,
    posts_setThread s thread _ value sameWake]

end Sys

/-- The scheduling invariant of one continuation in state `k`: its flags agree with its schedule,
its code runs on at most one thread (its target, once registered) exactly while its phase says
so, at most one copy of its lockvoker is queued (on its target), and a wake that posts it is its
only token. -/
structure Tracked (s : Sys) (c : ContinuationId) (k : SerializedAsynchronousContinuation) :
    Prop where
  consistent : k.Consistent (s.Scheduled c)
  runningOfPhase : k.phase.Running → ∃ thread, (s.threads thread).running = some c
  running : ∀ thread, (s.threads thread).running = some c →
    k.phase.Running ∧ (k.phase.OnTarget → thread = k.target)
  runningUnique : ∀ thread thread', (s.threads thread).running = some c →
    (s.threads thread').running = some c → thread = thread'
  queued : ∀ thread, 0 < (s.threads thread).queued c → thread = k.target
  queuedAtMostOne : ∀ thread, (s.threads thread).queued c ≤ 1
  postsUnique : ∀ thread thread', (s.threads thread).Posts c → (s.threads thread').Posts c →
    thread = thread'
  postsNotQueued : ∀ thread thread', (s.threads thread).Posts c →
    (s.threads thread').queued c = 0

/-- No thread runs, queues or posts a continuation that does not exist. -/
structure Untouched (s : Sys) (c : ContinuationId) : Prop where
  running : ∀ thread, (s.threads thread).running ≠ some c
  queued : ∀ thread, (s.threads thread).queued c = 0
  posts : ∀ thread, ¬ (s.threads thread).Posts c

/-- The scheduling invariant: identifiers are allocated in order, and every continuation's
footprint on the threads is what its state says. -/
structure Scheduling (s : Sys) : Prop where
  fresh : ∀ c, s.nextContinuation ≤ c → s.continuations c = none
  untouched : ∀ c, s.continuations c = none → Untouched s c
  tracked : ∀ c k, s.continuations c = some k → Tracked s c k

namespace Tracked

variable {s s' : Sys} {c : ContinuationId} {k k' : SerializedAsynchronousContinuation}

theorem congr (tracked : Tracked s c k) (same : s.SameFootprint s' c) : Tracked s' c k := by
  have running := fun thread => (same thread).running
  have queued := fun thread => (same thread).queued
  have posts := fun thread => (same thread).posts
  obtain ⟨h1, h2, h3, h4, h5, h6, h7, h8⟩ := tracked
  constructor <;> simp only [running, queued, posts, same.scheduled] <;> assumption

/-- A new state for the continuation that runs where the old one ran and agrees with the same
schedule. -/
theorem setState (tracked : Tracked s c k) (target : k'.target = k.target)
    (running : k'.phase.Running ↔ k.phase.Running) (onTarget : k'.phase.OnTarget → k.phase.OnTarget)
    (consistent : k'.Consistent (s.Scheduled c)) : Tracked s c k' where
  consistent := consistent
  runningOfPhase hRunning := tracked.runningOfPhase (running.mp hRunning)
  running thread hr :=
    let ⟨hRunning, hOn⟩ := tracked.running thread hr
    ⟨running.mpr hRunning, fun hOn' => target ▸ hOn (onTarget hOn')⟩
  runningUnique := tracked.runningUnique
  queued thread hq := target ▸ tracked.queued thread hq
  queuedAtMostOne := tracked.queuedAtMostOne
  postsUnique := tracked.postsUnique
  postsNotQueued := tracked.postsNotQueued

/-- A continuation whose phase is not wakeable is not scheduled, and its flag is set. -/
theorem unscheduled (tracked : Tracked s c k) (notWakeable : ¬ k.phase.Wakeable) :
    ¬ s.Scheduled c ∧ k.isAwakeOrBeingAwakened = true :=
  ⟨fun scheduled => notWakeable (tracked.consistent.wakeable scheduled),
    tracked.consistent.awake.mpr fun wakeable => absurd wakeable notWakeable⟩

/-- A continuation whose phase is not running runs on no thread. -/
theorem notRunning (tracked : Tracked s c k) (stopped : ¬ k.phase.Running) (thread : ThreadId) :
    (s.threads thread).running ≠ some c :=
  fun hr => stopped (tracked.running thread hr).1

/-- The invariant of a continuation whose code runs on exactly one thread. -/
theorem runningAt (thread : ThreadId)
    (runningIff : ∀ t, (s.threads t).running = some c ↔ t = thread) (running : k.phase.Running)
    (onTarget : k.phase.OnTarget → thread = k.target) (consistent : k.Consistent (s.Scheduled c))
    (queued : ∀ t, 0 < (s.threads t).queued c → t = k.target)
    (queuedAtMostOne : ∀ t, (s.threads t).queued c ≤ 1)
    (postsUnique : ∀ t t', (s.threads t).Posts c → (s.threads t').Posts c → t = t')
    (postsNotQueued : ∀ t t', (s.threads t).Posts c → (s.threads t').queued c = 0) :
    Tracked s c k where
  consistent := consistent
  runningOfPhase _ := ⟨thread, (runningIff thread).mpr rfl⟩
  running t hr := ⟨running, (runningIff t).mp hr ▸ onTarget⟩
  runningUnique t t' hr hr' := ((runningIff t).mp hr).trans ((runningIff t').mp hr').symm
  queued := queued
  queuedAtMostOne := queuedAtMostOne
  postsUnique := postsUnique
  postsNotQueued := postsNotQueued

/-- The invariant of a continuation whose code runs nowhere. -/
theorem notRunningAt (notRunning : ∀ t, (s.threads t).running ≠ some c)
    (stopped : ¬ k.phase.Running) (consistent : k.Consistent (s.Scheduled c))
    (queued : ∀ t, 0 < (s.threads t).queued c → t = k.target)
    (queuedAtMostOne : ∀ t, (s.threads t).queued c ≤ 1)
    (postsUnique : ∀ t t', (s.threads t).Posts c → (s.threads t').Posts c → t = t')
    (postsNotQueued : ∀ t t', (s.threads t).Posts c → (s.threads t').queued c = 0) :
    Tracked s c k where
  consistent := consistent
  runningOfPhase hRunning := absurd hRunning stopped
  running t hr := absurd hr (notRunning t)
  runningUnique t _ hr := absurd hr (notRunning t)
  queued := queued
  queuedAtMostOne := queuedAtMostOne
  postsUnique := postsUnique
  postsNotQueued := postsNotQueued

end Tracked

theorem Untouched.congr {s s' : Sys} {c : ContinuationId} (untouched : Untouched s c)
    (same : s.SameFootprint s' c) : Untouched s' c where
  running thread := by rw [Ne, (same thread).running]; exact untouched.running thread
  queued thread := by rw [(same thread).queued]; exact untouched.queued thread
  posts thread := by rw [(same thread).posts]; exact untouched.posts thread

theorem Untouched.unscheduled {s : Sys} {c : ContinuationId} (untouched : Untouched s c) :
    ¬ s.Scheduled c := by
  rintro (⟨thread, hp⟩ | ⟨thread, hq⟩)
  · exact untouched.posts thread hp
  · rw [untouched.queued thread] at hq
    exact Nat.lt_irrefl 0 hq

namespace Scheduling

/-- A fresh runtime has no continuation and nothing posted. -/
theorem initial (deadlockTimeout : Nat) : Scheduling (Sys.initial deadlockTimeout) where
  fresh _ _ := rfl
  untouched _ _ :=
    ⟨fun _ => by simp [Sys.initial, ComponentThread.idle], fun _ => rfl,
      fun _ => by simp [Sys.initial, ComponentThread.idle, ComponentThread.Posts]⟩
  tracked _ _ hk := by cases hk

/-- A step that changes no continuation and that no continuation can see on any thread. -/
theorem congr {s s' : Sys} (h : Scheduling s) (continuations : s'.continuations = s.continuations)
    (next : s'.nextContinuation = s.nextContinuation) (same : ∀ c, s.SameFootprint s' c) :
    Scheduling s' where
  fresh c hc := by rw [continuations]; exact h.fresh c (next ▸ hc)
  untouched c hc := (h.untouched c (continuations ▸ hc)).congr (same c)
  tracked c k hk := (h.tracked c k (continuations ▸ hk)).congr (same c)

/-- Every continuation was created before `nextContinuation`. -/
theorem below_next {s : Sys} (h : Scheduling s) {c : ContinuationId}
    {k : SerializedAsynchronousContinuation} (state : s.continuations c = some k) :
    c < s.nextContinuation := by
  by_contra hc
  rw [h.fresh c (Nat.le_of_not_lt hc)] at state
  cases state

/-- A step that acts on one continuation: every other continuation keeps its state and its
footprint, and the one acted on satisfies its invariant afterwards. -/
theorem replace {s s' : Sys} {c : ContinuationId} {k' : SerializedAsynchronousContinuation}
    (h : Scheduling s) (fresh : ∀ c', s'.nextContinuation ≤ c' → c' ≠ c ∧ s.nextContinuation ≤ c')
    (others : ∀ c', c' ≠ c → s'.continuations c' = s.continuations c' ∧ s.SameFootprint s' c')
    (state : s'.continuations c = some k') (tracked : Tracked s' c k') : Scheduling s' where
  fresh c' hc' := by
    obtain ⟨hne, hle⟩ := fresh c' hc'
    rw [(others c' hne).1]
    exact h.fresh c' hle
  untouched c' hc' := by
    have hne : c' ≠ c := by
      rintro rfl
      rw [state] at hc'
      cases hc'
    obtain ⟨hState, same⟩ := others c' hne
    exact (h.untouched c' (hState ▸ hc')).congr same
  tracked c' k'' hk := by
    by_cases hne : c' = c
    · subst hne
      cases state.symm.trans hk
      exact tracked
    · obtain ⟨hState, same⟩ := others c' hne
      exact (h.tracked c' k'' (hState ▸ hk)).congr same

/-- `replace` for a continuation that exists, with identifiers unchanged. -/
theorem replaceExisting {s s' : Sys} {c : ContinuationId}
    {k k' : SerializedAsynchronousContinuation} (h : Scheduling s) (old : s.continuations c = some k)
    (next : s'.nextContinuation = s.nextContinuation)
    (others : ∀ c', c' ≠ c → s'.continuations c' = s.continuations c' ∧ s.SameFootprint s' c')
    (state : s'.continuations c = some k') (tracked : Tracked s' c k') : Scheduling s' :=
  h.replace (fun _ hc' => ⟨((h.below_next old).trans_le (next ▸ hc')).ne', next ▸ hc'⟩) others
    state tracked

/-- Replacing a continuation's state by one that runs where it ran and agrees with its unchanged
schedule keeps the invariant. -/
theorem setContinuation {s : Sys} {c : ContinuationId} {k k' : SerializedAsynchronousContinuation}
    (h : Scheduling s) (state : s.continuations c = some k) (target : k'.target = k.target)
    (running : k'.phase.Running ↔ k.phase.Running) (onTarget : k'.phase.OnTarget → k.phase.OnTarget)
    (consistent : k'.Consistent (s.Scheduled c)) : Scheduling (s.setContinuation c k') :=
  h.replaceExisting state rfl
    (fun c' hc' => ⟨by simp [Function.update_noteq hc'], Sys.sameFootprint_of_threads rfl c'⟩)
    (by simp) (((h.tracked c k state).setState target running onTarget consistent).congr
      (Sys.sameFootprint_of_threads rfl c))

/-- A step that touches neither continuations nor threads: a qutex operation, the tracker, the
history variable, an abort, the clock. -/
theorem frame {s s' : Sys} (h : Scheduling s) (continuations : s'.continuations = s.continuations)
    (next : s'.nextContinuation = s.nextContinuation) (threads : s'.threads = s.threads) :
    Scheduling s' :=
  h.congr continuations next (Sys.sameFootprint_of_threads threads)

/-! Steps that touch no continuation and no thread. -/

theorem setQutex {s : Sys} (h : Scheduling s) (qutex : QutexId) (value : Qutex) :
    Scheduling (s.setQutex qutex value) :=
  h.frame rfl rfl rfl

theorem record {s : Sys} (h : Scheduling s) (event : Event) : Scheduling (s.record event) :=
  h.frame rfl rfl rfl

theorem abort {s : Sys} (h : Scheduling s) (what : String) : Scheduling (s.abort what) :=
  h.frame rfl rfl rfl

theorem setAcquisitionHistory {s : Sys} (h : Scheduling s) (history : AcquisitionHistory) :
    Scheduling (s.setAcquisitionHistory history) :=
  h.frame rfl rfl rfl

/-- A step that changes the state of a continuation within one class of phases. -/
theorem setPhase {s : Sys} {c : ContinuationId} {k : SerializedAsynchronousContinuation}
    {phase : Phase} (h : Scheduling s) (state : s.continuations c = some k)
    (similar : phase.Similar k.phase) :
    Scheduling (s.setContinuation c { k with phase := phase }) :=
  h.setContinuation state rfl similar.running similar.onTarget.mp
    ((h.tracked c k state).consistent.withPhase phase similar.wakeable similar.registering
      similar.holding)

/-- A qutex operation's unforced wake of a queue's front, started on a thread with no wake pending,
keeps the invariant. -/
theorem setWake {s : Sys} {thread : ThreadId} (h : Scheduling s)
    (noWake : (s.threads thread).wake = none) (front : Option ContinuationId) :
    Scheduling (s.setThread thread
      { s.threads thread with wake := front.map (Wake.exchange · false) }) :=
  h.congr rfl rfl fun _ => Sys.sameFootprint_of_update (Sys.setThread_threads _ _ _)
    ⟨Iff.rfl, rfl, by cases front <;> simp [ComponentThread.Posts, noWake]⟩

/-- Posting an original callback keeps the invariant. -/
theorem postCallback {s : Sys} (h : Scheduling s) (thread : ThreadId) (c : ContinuationId) :
    Scheduling (s.postTask thread (.callback c)) :=
  h.congr rfl rfl fun _ => Sys.sameFootprint_of_update (Sys.setThread_threads _ _ _)
    ⟨Iff.rfl, by simp [ComponentThread.queued], Iff.rfl⟩

/-- The continuation's code leaves the thread that executed it, in a phase that no thread runs. -/
theorem stop {s : Sys} {thread : ThreadId} {c : ContinuationId}
    {k k' : SerializedAsynchronousContinuation} (h : Scheduling s) (executes : s.Executes thread c k)
    (target : k'.target = k.target) (stopped : ¬ k'.phase.Running)
    (consistent : k'.Consistent (s.Scheduled c)) :
    Scheduling ((s.setContinuation c k').setThread thread
      { s.threads thread with running := none }) := by
  have tracked := h.tracked c k executes.state
  set value : ComponentThread := { s.threads thread with running := none }
  have queued := fun t => Sys.queued_setThread (s.setContinuation c k') thread t value rfl
  have posts := fun t => Sys.posts_setThread (s.setContinuation c k') thread t value rfl
  refine h.replaceExisting executes.state rfl (fun c' hc' => ⟨by simp [Function.update_noteq hc'],
      Sys.sameFootprint_of_update (Sys.setThread_threads _ _ _) ⟨by simp [value, executes.running, Ne.symm hc'], rfl, Iff.rfl⟩⟩)
    (by simp) (.notRunningAt ?_ stopped ?_ ?_ ?_ ?_ ?_)
  · intro t hr
    rw [Sys.setThread_threads_apply] at hr
    split_ifs at hr with ht
    exact ht (tracked.runningUnique t thread hr executes.running)
  · rw [Sys.scheduled_setThread (s.setContinuation c k') thread value rfl rfl]
    exact consistent
  · intro t hq
    rw [queued] at hq
    exact target ▸ tracked.queued t hq
  · intro t
    rw [queued]
    exact tracked.queuedAtMostOne t
  · intro t t'
    simp only [posts]
    exact tracked.postsUnique t t'
  · intro t t'
    simp only [posts, queued]
    exact tracked.postsNotQueued t t'

/-- `firstWake` ends its registration and starts its forced wake: the continuation is asleep, and
its one token is the wake. -/
theorem finishRegistration {s : Sys} {thread : ThreadId} {c : ContinuationId}
    {k : SerializedAsynchronousContinuation} {usage : Nat} (h : Scheduling s)
    (executes : s.Executes thread c k) (phase : k.phase = .registering usage) :
    Scheduling (s.finishRegistration thread c k) := by
  have tracked := h.tracked c k executes.state
  obtain ⟨unscheduled, awake⟩ := tracked.unscheduled (by simp [phase, Phase.Wakeable])
  have acquired := tracked.consistent.acquired
  rw [phase] at acquired
  unfold Sys.finishRegistration
  set value : ComponentThread :=
    { s.threads thread with running := none, wake := some (.exchange c true) }
  set k' : SerializedAsynchronousContinuation :=
    { k with
      requiredLocks := { k.requiredLocks with registeredInQutexQueues := true }
      phase := .asleep }
  have queued := fun t => Sys.queued_setThread (s.setContinuation c k') thread t value rfl
  have posts : ∀ t, (((s.setContinuation c k').setThread thread value).threads t).Posts c ↔
      t = thread := fun t => by
    rw [Sys.setThread_threads_apply]
    split_ifs with ht
    · simp [ht, value, ComponentThread.Posts]
    · exact ⟨fun hp => absurd (.inl ⟨t, hp⟩) unscheduled, fun hEq => absurd hEq ht⟩
  have state : ((s.setContinuation c k').setThread thread value).continuations c = some k' := by
    simp
  refine h.replaceExisting executes.state rfl (fun c' hc' => ⟨by simp [Function.update_noteq hc'],
      Sys.sameFootprint_of_update (Sys.setThread_threads _ _ _) ⟨by simp [value, executes.running, Ne.symm hc'], rfl,
        by simp [value, ComponentThread.Posts, executes.noWake, Ne.symm hc']⟩⟩)
    state (.notRunningAt ?_ (by simp [k', Phase.Running]) ⟨?_, fun _ => trivial,
      by simp [k', Phase.Registering], by simpa [k', Phase.Holding] using acquired⟩ ?_ ?_ ?_ ?_)
  · intro t hr
    rw [Sys.setThread_threads_apply] at hr
    split_ifs at hr with ht
    exact ht (tracked.runningUnique t thread hr executes.running)
  · simp only [k', awake, true_iff]
    exact fun _ => .inl ⟨thread, (posts thread).mpr rfl⟩
  · intro t hq
    rw [queued] at hq
    exact absurd (.inr ⟨t, hq⟩) unscheduled
  · intro t
    rw [queued]
    exact tracked.queuedAtMostOne t
  · intro t t' hp hp'
    rw [(posts t).mp hp, (posts t').mp hp']
  · intro _ t' _
    rw [queued]
    by_contra hq
    exact unscheduled (.inr ⟨t', Nat.pos_of_ne_zero hq⟩)

/-- An unforced wake that finds the flag clear sets it and takes the continuation's one token. -/
theorem addToken {s : Sys} {thread : ThreadId} {c : ContinuationId}
    {k : SerializedAsynchronousContinuation} (h : Scheduling s) (state : s.continuations c = some k)
    (unscheduled : ¬ s.Scheduled c) (wakeable : k.phase.Wakeable)
    (notPosting : ∀ c', ¬ (s.threads thread).Posts c') :
    Scheduling ((s.setContinuation c { k with isAwakeOrBeingAwakened := true }).setThread thread
      { s.threads thread with wake := some (.post c) }) := by
  have tracked := h.tracked c k state
  set value : ComponentThread := { s.threads thread with wake := some (.post c) }
  set k' : SerializedAsynchronousContinuation := { k with isAwakeOrBeingAwakened := true }
  have queued := fun t => Sys.queued_setThread (s.setContinuation c k') thread t value rfl
  have posts : ∀ t, (((s.setContinuation c k').setThread thread value).threads t).Posts c ↔
      t = thread := fun t => by
    rw [Sys.setThread_threads_apply]
    split_ifs with ht
    · simp [ht, value, ComponentThread.Posts]
    · exact ⟨fun hp => absurd (.inl ⟨t, hp⟩) unscheduled, fun hEq => absurd hEq ht⟩
  have running : ∀ t, (((s.setContinuation c k').setThread thread value).threads t).running =
      (s.threads t).running := fun t => by
    rw [Sys.setThread_threads_apply]
    split_ifs with ht <;> (try subst ht) <;> rfl
  have state' : ((s.setContinuation c k').setThread thread value).continuations c = some k' := by
    simp
  refine h.replaceExisting state rfl (fun c' hc' => ⟨by simp [Function.update_noteq hc'],
      Sys.sameFootprint_of_update (Sys.setThread_threads _ _ _) ⟨Iff.rfl, rfl, ⟨fun hp => ?_, fun hp => absurd hp (notPosting c')⟩⟩⟩)
    state' ⟨⟨?_, fun _ => wakeable, tracked.consistent.registered, tracked.consistent.acquired⟩,
      ?_, ?_, ?_, ?_, ?_, ?_, ?_⟩
  · simp [value, ComponentThread.Posts, Ne.symm hc'] at hp
  · simp only [k', true_iff]
    exact fun _ => .inl ⟨thread, (posts thread).mpr rfl⟩
  · simp only [running]
    exact tracked.runningOfPhase
  · intro t hr
    rw [running] at hr
    exact tracked.running t hr
  · intro t t'
    simp only [running]
    exact tracked.runningUnique t t'
  · intro t hq
    rw [queued] at hq
    exact absurd (.inr ⟨t, hq⟩) unscheduled
  · intro t
    rw [queued]
    exact tracked.queuedAtMostOne t
  · intro t t' hp hp'
    rw [(posts t).mp hp, (posts t').mp hp']
  · intro _ t' _
    rw [queued]
    by_contra hq
    exact unscheduled (.inr ⟨t', Nat.pos_of_ne_zero hq⟩)

/-- `awaken`'s exchange: a set flag ends an unforced wake and keeps a forced one's token; a clear
flag is set, and the wake takes the token. -/
theorem exchange {s : Sys} {thread : ThreadId} {c : ContinuationId}
    {k : SerializedAsynchronousContinuation} {forceAwaken : Bool} (h : Scheduling s)
    (wake : (s.threads thread).wake = some (.exchange c forceAwaken))
    (state : s.continuations c = some k) : Scheduling (s.exchangeStep thread c k forceAwaken) := by
  have consistent := (h.tracked c k state).consistent
  unfold Sys.exchangeStep
  by_cases flag : k.isAwakeOrBeingAwakened = true
  · have unchanged : { k with isAwakeOrBeingAwakened := true } = k := by
      cases k; cases flag; rfl
    rw [unchanged]
    refine h.congr ?_ rfl fun c' => Sys.sameFootprint_of_update (Sys.setThread_threads _ _ _) ⟨Iff.rfl, rfl, ?_⟩
    · funext c'
      rw [Sys.setThread_continuations, Sys.setContinuation_continuations, Function.update_apply]
      split_ifs with hc
      · rw [hc, state]
      · rfl
    · cases forceAwaken <;> simp [ComponentThread.Posts, wake, flag]
  · have unforced : forceAwaken = false := by
      cases forceAwaken
      · rfl
      · exact absurd (consistent.awake.mpr fun _ => .inl ⟨thread, .inl wake⟩) flag
    subst unforced
    have notScheduled : ¬ (k.phase.Wakeable → s.Scheduled c) :=
      fun hs => flag (consistent.awake.mpr hs)
    have wakeable : k.phase.Wakeable := Classical.not_not.mp fun hw => notScheduled (absurd · hw)
    simp only [Bool.not_eq_true] at flag
    simp only [flag, Bool.false_and, Bool.false_eq_true, if_false]
    exact h.addToken state (fun hs => notScheduled fun _ => hs) wakeable
      (fun c' => by simp [ComponentThread.Posts, wake])

/-- `awaken`'s post: the token becomes the posted lockvoker. -/
theorem post {s : Sys} {thread : ThreadId} {c : ContinuationId}
    {k : SerializedAsynchronousContinuation} (h : Scheduling s)
    (wake : (s.threads thread).wake = some (.post c)) (state : s.continuations c = some k) :
    Scheduling (s.postStep thread c k) := by
  have tracked := h.tracked c k state
  have token : (s.threads thread).Posts c := .inr wake
  have threads : ∀ t, (s.postStep thread c k).threads t =
      { ioService := (s.threads t).ioService ++ if t = k.target then [.lockvoker c] else []
        running := (s.threads t).running
        wake := if t = thread then none else (s.threads t).wake } := fun t => by
    simp only [Sys.postStep, Sys.postTask, Sys.record_threads, Sys.setThread_threads_apply]
    by_cases hTarget : t = k.target <;> by_cases hThread : t = thread <;>
      simp [hTarget, hThread] <;> simp_all
  have unqueued : ∀ t, (s.threads t).queued c = 0 := fun t => tracked.postsNotQueued thread t token
  have queued : ∀ t, ((s.postStep thread c k).threads t).queued c = if t = k.target then 1 else 0 :=
    fun t => by
      have := unqueued t
      by_cases ht : t = k.target <;> simp_all [threads, ComponentThread.queued]
  have posts : ∀ t, ¬ ((s.postStep thread c k).threads t).Posts c := fun t hp => by
    by_cases ht : t = thread
    · simp [threads, ht, ComponentThread.Posts] at hp
    · simp only [threads, ht, if_false] at hp
      exact ht (tracked.postsUnique t thread hp token)
  refine h.replaceExisting state rfl (fun c' hc' => ⟨rfl, fun t => ⟨by simp [threads], ?_, ?_⟩⟩)
    state ⟨?_, ?_, ?_, ?_, ?_, ?_, fun t _ hp => absurd hp (posts t), fun t _ hp => absurd hp (posts t)⟩
  · by_cases ht : t = k.target <;> simp [threads, ht, ComponentThread.queued, List.count_singleton', hc']
  · by_cases ht : t = thread
    · subst ht
      simp [threads, ComponentThread.Posts, wake, Ne.symm hc']
    · simp only [threads, ht, if_false]
      rfl
  · have scheduled : (s.postStep thread c k).Scheduled c ↔ s.Scheduled c :=
      ⟨fun _ => .inl ⟨thread, token⟩, fun _ => .inr ⟨k.target, by simp [queued]⟩⟩
    rw [scheduled]
    exact tracked.consistent
  · simpa [threads] using tracked.runningOfPhase
  · intro t hr
    exact tracked.running t (by simpa [threads] using hr)
  · intro t t' hr hr'
    exact tracked.runningUnique t t' (by simpa [threads] using hr) (by simpa [threads] using hr')
  · intro t hq
    by_contra ht
    simp [queued, ht] at hq
  · intro t
    rw [queued]
    split_ifs <;> simp

/-- A lockvoker at the head of an idle thread's queue is its continuation's token: the
continuation targets that thread, is asleep with its flag set, and its LockSet is registered and
not acquired, so `operator()`'s checks pass. -/
theorem dequeued {s : Sys} {thread : ThreadId} {c : ContinuationId} {rest : List Task}
    (h : Scheduling s) (idle : s.Idle thread)
    (queue : (s.threads thread).ioService = .lockvoker c :: rest) :
    ∃ k, s.continuations c = some k ∧ thread = k.target ∧ k.phase = .asleep ∧
      k.isAwakeOrBeingAwakened = true ∧ k.requiredLocks.registeredInQutexQueues = true ∧
      k.requiredLocks.allLocksAcquired = false := by
  have hq : 0 < (s.threads thread).queued c := by simp [ComponentThread.queued, queue]
  obtain ⟨k, state⟩ : ∃ k, s.continuations c = some k := by
    cases hk : s.continuations c with
    | none => exact absurd hq (by rw [(h.untouched c hk).queued thread]; exact Nat.lt_irrefl 0)
    | some k => exact ⟨k, rfl⟩
  have tracked := h.tracked c k state
  have hTarget := tracked.queued thread hq
  obtain ⟨awake, wakeable, registered, acquired⟩ := tracked.consistent
  have scheduled : s.Scheduled c := .inr ⟨thread, hq⟩
  have asleep : k.phase = .asleep := by
    have w := wakeable scheduled
    cases hPhase : k.phase with
    | asleep => rfl
    | tracking f =>
      obtain ⟨t, ht⟩ := tracked.runningOfPhase (by simp [hPhase, Phase.Running])
      rw [(tracked.running t ht).2 (by simp [hPhase, Phase.OnTarget]), ← hTarget, idle.1] at ht
      cases ht
    | _ => simp [hPhase, Phase.Wakeable] at w
  rw [asleep] at registered acquired
  exact ⟨k, state, hTarget, asleep, awake.mpr fun _ => scheduled,
    registered.mpr (by simp [Phase.Registering]), by simpa [Phase.Holding] using acquired⟩

/-- A continuation whose LockSet is acquired while its target thread runs nothing is between the
invocation of its body and `callOriginalCb`. -/
theorem invoked_of_idle {s : Sys} {c : ContinuationId} {k : SerializedAsynchronousContinuation}
    (h : Scheduling s) (state : s.continuations c = some k)
    (idle : (s.threads k.target).running = none) (holding : k.phase.Holding) :
    k.phase = .invoked := by
  have tracked := h.tracked c k state
  have stopped : ¬ k.phase.Running := fun hRunning => by
    obtain ⟨t, ht⟩ := tracked.runningOfPhase hRunning
    rw [(tracked.running t ht).2 holding.onTarget, idle] at ht
    cases ht
  cases hPhase : k.phase <;> simp_all [Phase.Holding, Phase.Running]

/-- An idle thread starts its head task. A posted lockvoker is its continuation's token, so the
continuation is asleep with its LockSet registered and not acquired: `operator()`'s checks pass,
and the token is spent. -/
theorem dequeue {s : Sys} {thread : ThreadId} {task : Task} {rest : List Task} (h : Scheduling s)
    (idle : s.Idle thread) (queue : (s.threads thread).ioService = task :: rest) :
    Scheduling (s.dequeueStep thread task rest) := by
  cases task with
  | callback c =>
    exact h.congr rfl rfl fun _ => Sys.sameFootprint_of_update (Sys.setThread_threads _ _ _)
      ⟨Iff.rfl, by simp [ComponentThread.queued, queue], Iff.rfl⟩
  | lockvoker c =>
    obtain ⟨k, state, hTarget, asleep, flag, reg, acq⟩ := h.dequeued idle queue
    have tracked := h.tracked c k state
    subst hTarget
    have hq : 0 < (s.threads k.target).queued c := by simp [ComponentThread.queued, queue]
    have hRest : rest.count (.lockvoker c) = 0 := by
      have := tracked.queuedAtMostOne k.target
      simp only [ComponentThread.queued, queue, List.count_cons_self] at this
      omega
    set value : ComponentThread := { ioService := rest, running := some c, wake := none }
    set k' : SerializedAsynchronousContinuation :=
      { k with
        phase := .acquiring 0
        gridlockLikely := decide (s.deadlockTimeout ≤ s.now - k.creationTimestamp) }
    have threads : ∀ t, ((s.setContinuation c k').setThread k.target value).threads t =
        if t = k.target then value else s.threads t := fun t => Sys.setThread_threads_apply _ _ _ _
    have unscheduled : ¬ ((s.setContinuation c k').setThread k.target value).Scheduled c := by
      rintro (⟨t, hp⟩ | ⟨t, hq'⟩) <;> rw [threads] at * <;> split_ifs at * with ht
      · simp [value, ComponentThread.Posts] at hp
      · exact absurd (tracked.postsNotQueued t k.target hp) hq.ne'
      · simp [value, ComponentThread.queued, hRest] at hq'
      · exact ht (tracked.queued t hq')
    have runningIff : ∀ t, (((s.setContinuation c k').setThread k.target value).threads t).running =
        some c ↔ t = k.target := fun t => by
      rw [threads]
      split_ifs with ht
      · simp [value, ht]
      · exact ⟨fun hr => absurd (tracked.running t hr).1 (by simp [asleep, Phase.Running]),
          fun hEq => absurd hEq ht⟩
    have started : Scheduling ((s.setContinuation c k').setThread k.target value) := by
      refine h.replaceExisting state rfl (fun c' hc' => ⟨by simp [Function.update_noteq hc'],
          Sys.sameFootprint_of_update (Sys.setThread_threads _ _ _) ⟨by simp [value, idle.1, Ne.symm hc'],
            by simp [value, ComponentThread.queued, queue, List.count_cons, Ne.symm hc'],
            by simp [value, ComponentThread.Posts, idle.2]⟩⟩)
        (Sys.setThread_setContinuation_self _ _ _ _ _) (.runningAt k.target runningIff
          (by simp [k', Phase.Running]) (fun _ => rfl)
          ⟨by simp [k', Phase.Wakeable, flag], fun hs => absurd hs unscheduled,
            by simp [k', reg, Phase.Registering], by simp [k', acq, Phase.Holding]⟩ ?_ ?_ ?_ ?_)
      · intro t hq'
        rw [threads] at hq'
        split_ifs at hq' with ht
        · exact ht
        · exact tracked.queued t hq'
      · intro t
        rw [threads]
        split_ifs
        · simp [value, ComponentThread.queued, hRest]
        · exact tracked.queuedAtMostOne t
      · intro t _ hp
        exact absurd (.inl ⟨t, hp⟩) unscheduled
      · intro t _ hp
        exact absurd (.inl ⟨t, hp⟩) unscheduled
    simp only [Sys.dequeueStep, Sys.setThread_continuations, state, Sys.startOperator,
      Sys.record_threads, ne_eq, not_true_eq_false, if_false, reg, acq, Bool.not_true,
      Bool.false_eq_true, Sys.setThread_threads_apply, if_true]
    refine started.congr rfl rfl fun c' => Sys.sameFootprint_of_threads ?_ c'
    funext t
    simp only [Sys.setThread_threads, Sys.setContinuation_threads, Sys.record_threads,
      Function.update_apply]
    split_ifs <;> simp [value, idle.2]

/-- Application code constructs a continuation: a fresh identifier, whose registration starts on
the constructing thread. -/
theorem construct {s : Sys} {thread : ThreadId} (spec : ContinuationSpec) (h : Scheduling s)
    (idle : s.Idle thread) : Scheduling (s.construct thread spec) := by
  have untouched := h.untouched s.nextContinuation (h.fresh _ le_rfl)
  unfold Sys.construct
  split
  · exact h.congr rfl rfl (Sys.sameFootprint_of_threads rfl)
  · set c := s.nextContinuation
    set value : ComponentThread := { s.threads thread with running := some c }
    refine h.replace (fun c' hc' => ⟨(Nat.lt_of_succ_le hc').ne', Nat.le_of_succ_le hc'⟩)
      (fun c' hc' => ⟨by simp [Function.update_noteq hc'],
        Sys.sameFootprint_of_update (Sys.setThread_threads _ _ _) ⟨by simp [value, idle.1, Ne.symm hc'], rfl, Iff.rfl⟩⟩)
      (Sys.setThread_setContinuation_self _ _ _ _ _)
      (.runningAt thread (fun t => ?_) (by simp [Phase.Running]) (fun hOn => by simp [Phase.OnTarget] at hOn)
        ⟨by simp [Phase.Wakeable], fun hs => ?_, by simp [Phase.Registering], by simp [Phase.Holding]⟩
        (fun t hq => ?_) (fun t => ?_) (fun t _ hp => ?_) (fun t _ hp => ?_))
    all_goals simp only [Sys.Scheduled, Sys.setThread_threads_apply, Sys.setContinuation_threads] at *
    · split_ifs with ht
      · simp [value, ht]
      · exact ⟨fun hr => absurd hr (untouched.running t), fun hEq => absurd hEq ht⟩
    · rcases hs with ⟨t, hp⟩ | ⟨t, hq⟩ <;> split_ifs at * with ht
      · exact untouched.posts thread hp
      · exact untouched.posts t hp
      · exact absurd (untouched.queued thread) hq.ne'
      · exact absurd (untouched.queued t) hq.ne'
    · split_ifs at hq
      · exact absurd (untouched.queued thread) hq.ne'
      · exact absurd (untouched.queued t) hq.ne'
    · split_ifs
      · exact (untouched.queued thread).trans_le (Nat.zero_le 1)
      · exact (untouched.queued t).trans_le (Nat.zero_le 1)
    all_goals split_ifs at hp
    all_goals first | exact absurd hp (untouched.posts thread) | exact absurd hp (untouched.posts t)

/-- `callOriginalCb` on the target thread: a LockSet that is acquired belongs to a continuation
whose body was invoked and whose code runs nowhere, and its release starts on the target. -/
theorem callOriginalCb {s : Sys} {c : ContinuationId} {k : SerializedAsynchronousContinuation}
    (h : Scheduling s) (state : s.continuations c = some k) (idle : s.Idle k.target) :
    Scheduling (s.callOriginalCb c k) := by
  unfold Sys.callOriginalCb
  split
  · exact h.congr rfl rfl (Sys.sameFootprint_of_threads rfl)
  split
  · exact h.congr rfl rfl (Sys.sameFootprint_of_threads rfl)
  rename_i hReg hAcq
  simp only [Bool.not_eq_true', Bool.not_eq_false] at hReg hAcq
  have tracked := h.tracked c k state
  have holding : k.phase.Holding := tracked.consistent.acquired.mp hAcq
  obtain ⟨unscheduled, awake⟩ := tracked.unscheduled holding.not_wakeable
  have notRunning : ∀ t, (s.threads t).running ≠ some c := fun t hr => by
    rw [(tracked.running t hr).2 holding.onTarget, idle.1] at hr
    cases hr
  set value : ComponentThread := { s.threads k.target with running := some c }
  set k' : SerializedAsynchronousContinuation := { k with phase := .releasing 0 }
  have queued := fun t => Sys.queued_setThread (s.setContinuation c k') k.target t value rfl
  have posts := fun t => Sys.posts_setThread (s.setContinuation c k') k.target t value rfl
  refine h.replaceExisting state rfl (fun c' hc' => ⟨by simp [Function.update_noteq hc'],
      Sys.sameFootprint_of_update (Sys.setThread_threads _ _ _) ⟨by simp [value, idle.1, Ne.symm hc'], rfl, Iff.rfl⟩⟩)
    (Sys.setThread_setContinuation_self _ _ _ _ _)
    (.runningAt k.target (fun t => ?_) (by simp [k', Phase.Running]) (fun _ => rfl)
      ⟨by simp [k', awake, Phase.Wakeable], fun hs => ?_, by simp [k', hReg, Phase.Registering],
        by simp [k', hAcq, Phase.Holding]⟩ (fun t hq => ?_) (fun t => ?_) (fun t t' => ?_)
      (fun t t' => ?_))
  · rw [Sys.setThread_threads_apply]
    split_ifs with ht
    · simp [value, ht]
    · exact ⟨fun hr => absurd hr (notRunning t), fun hEq => absurd hEq ht⟩
  · rw [Sys.scheduled_setThread (s.setContinuation c k') k.target value rfl rfl] at hs
    exact unscheduled hs
  · rw [queued] at hq
    exact tracked.queued t hq
  · rw [queued]
    exact tracked.queuedAtMostOne t
  · simp only [posts]
    exact tracked.postsUnique t t'
  · simp only [posts, queued]
    exact tracked.postsNotQueued t t'

/-- The body is invoked: the execution's code leaves its thread. -/
theorem invoke {s : Sys} {thread : ThreadId} {c : ContinuationId}
    {k : SerializedAsynchronousContinuation} (h : Scheduling s) (executes : s.Executes thread c k)
    (holding : k.phase.Holding) : Scheduling (s.invokeStep thread c k) := by
  have consistent : ({ k with phase := .invoked } : SerializedAsynchronousContinuation).Consistent
      (s.Scheduled c) :=
    (h.tracked c k executes.state).consistent.withPhase .invoked
      (iff_of_false (by simp [Phase.Wakeable]) holding.not_wakeable)
      (iff_of_false (by simp [Phase.Registering]) holding.not_registering)
      (iff_of_true (by simp [Phase.Holding]) holding)
  exact (h.stop executes (by rfl) (by simp [Phase.Running]) consistent).frame rfl rfl rfl

/-- Every step keeps the scheduling invariant. -/
theorem step {s s' : Sys} (h : Scheduling s) (step : Step s s') : Scheduling s' := by
  cases step with
  | register executes phase =>
    refine (h.setQutex _ _).setPhase executes.state ?_
    rw [phase]
    exact ⟨.rfl, .rfl, .rfl, .rfl, .rfl⟩
  | finishRegistration executes phase => exact h.finishRegistration executes phase
  | exchange _ wake state => exact h.exchange wake state
  | post _ wake state => exact h.post wake state
  | dequeue _ idle queue => exact h.dequeue idle queue
  | tryAcquire executes phase =>
    dsimp only [Sys.tryAcquireStep]
    split
    · exact ((h.setQutex _ _).record _).abort _
    all_goals
      refine (((h.setQutex _ _).setPhase executes.state ?_).record _)
      rw [phase]
      exact ⟨.rfl, .rfl, .rfl, .rfl, .rfl⟩
  | @acquiredAll thread c k next executes phase =>
    have tracked := h.tracked _ _ executes.state
    obtain ⟨unscheduled, awake⟩ := tracked.unscheduled (by simp [phase, Phase.Wakeable])
    have registered := tracked.consistent.registered
    rw [phase] at registered
    dsimp only [Sys.acquiredAllStep]
    have acquired : Scheduling (s.setContinuation c
        { k with
          requiredLocks := { k.requiredLocks with allLocksAcquired := true }
          phase := .unregistering 0 }) :=
      h.setContinuation executes.state rfl (by simp [phase, Phase.Running])
        (fun _ => by simp [phase, Phase.OnTarget])
        ⟨by simp [awake, Phase.Wakeable], fun hs => absurd hs unscheduled,
          by simpa [Phase.Registering] using registered, by simp [Phase.Holding]⟩
    split
    · exact acquired.record _
    · exact (acquired.record _).abort _
  | backoff executes phase =>
    dsimp only [Sys.backoffStep]
    split
    · exact ((h.setQutex _ _).record _).abort _
    · refine (((h.setQutex _ _).record _).setPhase executes.state ?_).setWake executes.noWake _
      rw [phase]
      exact ⟨.rfl, .rfl, .rfl, .rfl, .rfl⟩
  | finishBackoff executes phase =>
    refine h.setPhase executes.state ?_
    rw [phase]
    exact ⟨.rfl, .rfl, .rfl, .rfl, .rfl⟩
  | allowAwakening executes phase =>
    have tracked := h.tracked _ _ executes.state
    obtain ⟨unscheduled, -⟩ := tracked.unscheduled (by simp [phase, Phase.Wakeable])
    have registered := tracked.consistent.registered
    have acquired := tracked.consistent.acquired
    rw [phase] at registered acquired
    dsimp only [Sys.allowAwakeningStep]
    split
    · rename_i gl
      simp only [gl, if_true]
      exact h.setContinuation executes.state (by rfl) (by simp [phase, Phase.Running])
        (fun _ => by simp [phase, Phase.OnTarget])
        ⟨by simp [Phase.Wakeable, unscheduled], fun hs => absurd hs unscheduled,
          by simpa [Phase.Registering] using registered, by simpa [Phase.Holding] using acquired⟩
    · rename_i gl
      simp only [gl, if_false, Bool.false_eq_true]
      exact h.stop executes (by rfl) (by simp [Phase.Running])
        ⟨by simp [Phase.Wakeable, unscheduled], fun _ => trivial,
          by simpa [Phase.Registering] using registered, by simpa [Phase.Holding] using acquired⟩
  | track executes phase =>
    have consistent := (h.tracked _ _ executes.state).consistent.withPhase .asleep
      (by simp [phase, Phase.Wakeable]) (by simp [phase, Phase.Registering])
      (by simp [phase, Phase.Holding])
    exact (h.setAcquisitionHistory _).stop (executes.congr rfl rfl rfl) (by rfl)
      (by simp [Phase.Running]) consistent
  | unregister executes phase =>
    refine (h.setQutex _ _).setPhase executes.state ?_
    rw [phase]
    exact ⟨.rfl, .rfl, .rfl, .rfl, .rfl⟩
  | finishUnregistration executes phase =>
    unfold Sys.finishUnregistration
    split
    · refine h.setPhase executes.state ?_
      rw [phase]
      exact ⟨.rfl, .rfl, .rfl, .rfl, .rfl⟩
    · exact h.invoke executes (by simp [phase, Phase.Holding])
  | untrack executes phase =>
    exact (h.setAcquisitionHistory _).invoke (executes.congr rfl rfl rfl)
      (by simp [phase, Phase.Holding])
  | release executes phase =>
    unfold Sys.releaseStep
    split
    · refine h.setPhase executes.state ?_
      rw [phase]
      exact ⟨.rfl, .rfl, .rfl, .rfl, .rfl⟩
    · dsimp only
      split
      · exact ((h.setQutex _ _).record _).abort _
      · refine (((h.setQutex _ _).record _).setPhase executes.state ?_).setWake executes.noWake _
        rw [phase]
        exact ⟨.rfl, .rfl, .rfl, .rfl, .rfl⟩
  | finishRelease executes phase =>
    have tracked := h.tracked _ _ executes.state
    obtain ⟨unscheduled, awake⟩ := tracked.unscheduled (by simp [phase, Phase.Wakeable])
    have registered := tracked.consistent.registered
    rw [phase] at registered
    refine Sys.postedCallOriginalCb_cases _ _ _ (fun _ => Scheduling.postCallback ?stopped _ _)
      ?stopped
    exact h.stop executes (by rfl) (by simp [Phase.Running])
      ⟨by simp [awake, Phase.Wakeable], fun hs => absurd hs unscheduled,
        by simpa [Phase.Registering] using registered, by simp [Phase.Holding]⟩
  | construct spec _ idle => exact h.construct spec idle
  | callOriginalCb _ state idle => exact h.callOriginalCb state idle
  | releaseQutexEarly qutex _ state idle =>
    unfold Sys.releaseQutexEarly
    split
    · exact h.abort _
    · split
      · exact h.abort _
      · split
        · exact h
        · dsimp only
          split
          · exact ((h.setQutex _ _).record _).abort _
          · have consistent := (h.tracked _ _ state).consistent
            refine (((h.setQutex _ _).record _).setContinuation state ?_ ?_ ?_ ?_).setWake idle.2 _
            · rfl
            · exact Iff.rfl
            · exact id
            · exact ⟨consistent.awake, consistent.wakeable, consistent.registered,
                consistent.acquired⟩
  | tick _ => exact h.frame rfl rfl rfl

end Scheduling

/-- Every reachable state satisfies the scheduling invariant. -/
theorem Reachable.scheduling {s : Sys} (reachable : Reachable s) : Scheduling s := by
  induction reachable with
  | initial deadlockTimeout => exact .initial deadlockTimeout
  | step _ step invariant => exact invariant.step step

/-- No lockvoker is ever duplicated: in every reachable state a continuation's code runs on at
most one thread, at most one copy of its lockvoker is queued across all threads, and none is
queued while a wake that will post it is under way. -/
theorem lockvoker_never_duplicated {s : Sys} (reachable : Reachable s) (c : ContinuationId) :
    (∀ thread thread', (s.threads thread).running = some c →
      (s.threads thread').running = some c → thread = thread') ∧
    (∀ thread thread', 0 < (s.threads thread).queued c → 0 < (s.threads thread').queued c →
      thread = thread' ∧ (s.threads thread).queued c = 1) ∧
    (∀ thread thread', (s.threads thread).Posts c → (s.threads thread').queued c = 0) := by
  have scheduling := reachable.scheduling
  cases state : s.continuations c with
  | none =>
    have untouched := scheduling.untouched c state
    refine ⟨fun thread _ running => absurd running (untouched.running thread),
      fun thread _ queued => ?_, fun thread _ posts => absurd posts (untouched.posts thread)⟩
    rw [untouched.queued thread] at queued
    cases queued
  | some k =>
    have tracked := scheduling.tracked c k state
    refine ⟨tracked.runningUnique, fun thread thread' queued queued' => ?_, tracked.postsNotQueued⟩
    have atMostOne := tracked.queuedAtMostOne thread
    exact ⟨(tracked.queued thread queued).trans (tracked.queued thread' queued').symm, by omega⟩

/-- A continuation on thread 0 that registers on qutex 0; its lockvoker is then posted. -/
def postedLockvoker : List Action :=
  [.construct 0 (.onThread 0 [0]), .execute 0, .execute 0, .execute 0, .execute 0]

/-- No copy of `postedLockvoker`'s lockvoker is duplicated. -/
theorem posted_lockvoker_not_duplicated :
    let s := (Sys.initial 100).run postedLockvoker
    (∀ thread thread', (s.threads thread).running = some 0 →
      (s.threads thread').running = some 0 → thread = thread') ∧
    (∀ thread thread', 0 < (s.threads thread).queued 0 → 0 < (s.threads thread').queued 0 →
      thread = thread' ∧ (s.threads thread).queued 0 = 1) ∧
    (∀ thread thread', (s.threads thread).Posts 0 → (s.threads thread').queued 0 = 0) :=
  lockvoker_never_duplicated ((Reachable.initial 100).run postedLockvoker) 0

end Spinscale
