import Spinscale.System.State

/-!
# A qutex under its spinlock

`Qutex.lean` models every qutex operation as one atomic step, and the runtime model builds on
that. In the code each operation is `lock.acquire()`, a body that reads and writes the qutex's
fields, and `lock.release()`. `SpinLock::acquire` loops on `compare_exchange_strong(false, true)`
(a failed exchange changes nothing), and `SpinLock::release` is `locked.store(false)`. The one
exception is `release()` on an unowned qutex, which throws with the spinlock still held.

This module runs any number of threads calling operations on one qutex at that grain, with
`locked` as the spinlock's word. The body of a call is one read of the fields, where it computes
its result, and a later write of the fields it computed. Other threads may take steps between the
two. `spinLock_linearizes` shows that every interleaving is linearizable at the writes:
- at most one thread is between its exchange and its `store(false)`;
- the qutex's fields are those of the atomic operations replayed in the order of the writes;
- each call returns what its atomic operation returns at its turn;
- the word is set exactly while a thread holds it, or after a `release()` threw.
-/

namespace Spinscale

/-- Apply a function to the value an operation returned. -/
def Outcome.map {α β : Type} (f : α → β) : Outcome α → Outcome β
  | .returned value => .returned (f value)
  | .threw what => .threw what

/-- A call of a qutex operation, with its arguments. -/
inductive QutexCall where
  | registerInQueue (lockvoker : Lockvoker)
  | unregisterFromQueue (lockvoker : Lockvoker)
  | tryAcquire (trying : ContinuationId) (nRequiredLocks : Nat)
  | backoff (failedAcquirer : ContinuationId) (nRequiredLocks : Nat)
  | release
  deriving DecidableEq, Repr

/-- What a call returns: nothing (the iterator `registerInQueue` returns is the node itself),
whether `tryAcquire` acquired, or whom `backoff` and `release` awaken. -/
inductive QutexReply where
  | done
  | acquired (success : Bool)
  | awaken (front : Option ContinuationId)
  deriving DecidableEq, Repr

namespace QutexCall

/-- The call as one atomic step of `Qutex.lean`. -/
def apply : QutexCall → Qutex → Qutex × Outcome QutexReply
  | .registerInQueue lockvoker, qutex => (qutex.registerInQueue lockvoker, .returned .done)
  | .unregisterFromQueue lockvoker, qutex => (qutex.unregisterFromQueue lockvoker, .returned .done)
  | .tryAcquire trying nRequiredLocks, qutex =>
    let result := qutex.tryAcquire trying nRequiredLocks
    (result.1, result.2.map .acquired)
  | .backoff failedAcquirer nRequiredLocks, qutex =>
    let result := qutex.backoff failedAcquirer nRequiredLocks
    (result.1, result.2.map .awaken)
  | .release, qutex =>
    let result := qutex.release
    (result.1, result.2.map .awaken)

/-- Does the call end without `lock.release()`? Only the throw of `release()` does. -/
def keepsLock : QutexCall → Outcome QutexReply → Bool
  | .release, .threw _ => true
  | _, _ => false

/-- The bodies never read the spinlock's word, and only the throw of `release()` sets it. -/
theorem apply_setLocked (call : QutexCall) (qutex : Qutex) (locked : Bool) :
    call.apply { qutex with locked := locked } =
      ({ (call.apply qutex).1 with locked := locked || call.keepsLock (call.apply qutex).2 },
        (call.apply qutex).2) := by
  cases call with
  | registerInQueue | unregisterFromQueue => simp [apply, keepsLock, Qutex.registerInQueue,
      Qutex.unregisterFromQueue]
  | tryAcquire trying nRequiredLocks =>
    simp only [apply, Qutex.tryAcquire, Qutex.acquiredBy]
    split_ifs <;> simp [keepsLock, Outcome.map]
  | backoff failedAcquirer nRequiredLocks =>
    simp only [apply, Qutex.backoff, Qutex.rotatedAndFreed]
    split
    · simp [keepsLock, Outcome.map]
    · split_ifs
      · simp [keepsLock, Outcome.map]
      · cases Qutex.wakeAfterBackoff _ _ _ <;> simp [keepsLock, Outcome.map]
  | release =>
    simp only [apply, Qutex.release]
    split_ifs
    · simp [keepsLock, Outcome.map]
    · split <;> simp [keepsLock, Outcome.map]

/-- The word after a call is the word before it, or set by a call that keeps the lock. -/
theorem apply_locked (call : QutexCall) (qutex : Qutex) :
    (call.apply qutex).1.locked = (qutex.locked || call.keepsLock (call.apply qutex).2) := by
  exact congrArg (fun result => result.1.locked) (apply_setLocked call qutex qutex.locked)

/-- The qutex after the calls of `calls` as atomic steps, in order. -/
def runAll (qutex : Qutex) (calls : List QutexCall) : Qutex :=
  calls.foldl (fun qutex call => (call.apply qutex).1) qutex

@[simp] theorem runAll_nil (qutex : Qutex) : runAll qutex [] = qutex := rfl

theorem runAll_append_singleton (qutex : Qutex) (calls : List QutexCall) (call : QutexCall) :
    runAll qutex (calls ++ [call]) = (call.apply (runAll qutex calls)).1 := by
  simp [runAll, List.foldl_append]

end QutexCall

/-- `history` is a sequential history of the atomic operations from `qutex`: each call returns
what its atomic operation returns on the qutex the calls before it left. -/
def Sequential : Qutex → List (QutexCall × Outcome QutexReply) → Prop
  | _, [] => True
  | qutex, (call, outcome) :: rest =>
    (call.apply qutex).2 = outcome ∧ Sequential (call.apply qutex).1 rest

/-- The qutex a history leaves. -/
def historyQutex (qutex : Qutex) (history : List (QutexCall × Outcome QutexReply)) : Qutex :=
  QutexCall.runAll qutex (history.map Prod.fst)

theorem Sequential.append {qutex : Qutex} {history : List (QutexCall × Outcome QutexReply)}
    (sequential : Sequential qutex history) (call : QutexCall) :
    Sequential qutex (history ++ [(call, (call.apply (historyQutex qutex history)).2)]) := by
  induction history generalizing qutex with
  | nil => exact ⟨rfl, trivial⟩
  | cons entry rest inductionHypothesis =>
    obtain ⟨returned, sequential⟩ := sequential
    exact ⟨returned, inductionHypothesis sequential⟩

theorem historyQutex_append (qutex : Qutex) (history : List (QutexCall × Outcome QutexReply))
    (entry : QutexCall × Outcome QutexReply) :
    historyQutex qutex (history ++ [entry]) = (entry.1.apply (historyQutex qutex history)).1 := by
  simp [historyQutex, QutexCall.runAll_append_singleton]

/-- The word a history leaves: set before it, or set by a call that keeps the lock. -/
theorem historyQutex_locked {qutex : Qutex} {history : List (QutexCall × Outcome QutexReply)}
    (sequential : Sequential qutex history) :
    (historyQutex qutex history).locked =
      (qutex.locked || history.any fun entry => entry.1.keepsLock entry.2) := by
  induction history generalizing qutex with
  | nil => simp [historyQutex]
  | cons entry rest inductionHypothesis =>
    obtain ⟨call, outcome⟩ := entry
    obtain ⟨returned, sequential⟩ := sequential
    have step := inductionHypothesis sequential
    simp only [historyQutex, List.map_cons, QutexCall.runAll, List.foldl_cons] at step ⊢
    rw [step, QutexCall.apply_locked, returned, List.any_cons, Bool.or_assoc]

/-! ## Threads at the grain of the spinlock -/

/-- Where a thread is in its current call of a qutex operation. -/
inductive Pc where
  /-- Between calls. -/
  | idle
  /-- Returned from `call` with `outcome`, or thrown. -/
  | returned (call : QutexCall) (outcome : Outcome QutexReply)
  /-- In `SpinLock::acquire`'s loop of `compare_exchange_strong`. -/
  | spinning (call : QutexCall)
  /-- The exchange succeeded; the body has not read the qutex yet. -/
  | holding (call : QutexCall)
  /-- The body read the qutex and computed the fields and the outcome of `result`. -/
  | computed (call : QutexCall) (result : Qutex × Outcome QutexReply)
  /-- The body wrote the fields; `lock.release()` is next. -/
  | written (call : QutexCall) (outcome : Outcome QutexReply)
  deriving DecidableEq, Repr

namespace Pc

/-- Between a successful exchange and the `store(false)`. -/
def Holds : Pc → Prop
  | .holding _ | .computed .. | .written .. => True
  | _ => False

/-- Free to start a call. -/
def Ready : Pc → Prop
  | .idle | .returned .. => True
  | _ => False

end Pc

/-- Threads calling operations on one qutex. `log` is a history variable: the calls in the order
their bodies wrote the qutex, with what they return. -/
structure SpinSys where
  qutex : Qutex
  pcs : ThreadId → Pc
  log : List (QutexCall × Outcome QutexReply)

namespace SpinSys

/-- Move one thread to `pc`. -/
@[simps qutex log]
def setPc (s : SpinSys) (thread : ThreadId) (pc : Pc) : SpinSys :=
  { s with pcs := fun thread' => if thread' = thread then pc else s.pcs thread' }

@[simp] theorem setPc_pcs (s : SpinSys) (thread thread' : ThreadId) (pc : Pc) :
    (s.setPc thread pc).pcs thread' = if thread' = thread then pc else s.pcs thread' := rfl

/-- Set the spinlock's word. -/
@[simps pcs log]
def setLocked (s : SpinSys) (locked : Bool) : SpinSys :=
  { s with qutex := { s.qutex with locked := locked } }

@[simp] theorem setLocked_qutex (s : SpinSys) (locked : Bool) :
    (s.setLocked locked).qutex = { s.qutex with locked := locked } := rfl

/-- The body's write of the fields it computed, and the entry of the history variable. -/
@[simps pcs]
def write (s : SpinSys) (call : QutexCall) (result : Qutex × Outcome QutexReply) : SpinSys :=
  { s with qutex := result.1, log := s.log ++ [(call, result.2)] }

@[simp] theorem write_qutex (s : SpinSys) (call : QutexCall) (result : Qutex × Outcome QutexReply) :
    (s.write call result).qutex = result.1 := rfl

@[simp] theorem write_log (s : SpinSys) (call : QutexCall) (result : Qutex × Outcome QutexReply) :
    (s.write call result).log = s.log ++ [(call, result.2)] := rfl

end SpinSys

/-- The atomic steps of the threads. A failed exchange changes nothing and is left out. -/
inductive SpinStep : SpinSys → SpinSys → Prop
  /-- A thread calls an operation and enters `SpinLock::acquire`. -/
  | call {s thread} (call : QutexCall) (ready : (s.pcs thread).Ready) :
      SpinStep s (s.setPc thread (.spinning call))
  /-- `compare_exchange_strong(false, true)` succeeds. -/
  | exchange {s thread call} (spinning : s.pcs thread = .spinning call)
      (free : s.qutex.locked = false) :
      SpinStep s ((s.setLocked true).setPc thread (.holding call))
  /-- The body reads the qutex and computes its result. -/
  | read {s thread call} (holding : s.pcs thread = .holding call) :
      SpinStep s (s.setPc thread (.computed call (call.apply s.qutex)))
  /-- The body writes the fields it computed. -/
  | write {s thread call result} (computed : s.pcs thread = .computed call result) :
      SpinStep s ((s.write call result).setPc thread (.written call result.2))
  /-- `locked.store(false)`, which the throw of `release()` skips; the call returns. -/
  | store {s thread call outcome} (written : s.pcs thread = .written call outcome) :
      SpinStep s ((s.setLocked (call.keepsLock outcome)).setPc thread (.returned call outcome))

/-- The states that threads calling operations on a qutex, fresh or with its spinlock free, can
reach. -/
inductive SpinReachable (start : Qutex) : SpinSys → Prop
  | initial (free : start.locked = false) : SpinReachable start ⟨start, fun _ => .idle, []⟩
  | step {s s'} (reachable : SpinReachable start s) (step : SpinStep s s') : SpinReachable start s'

/-! ## The interpreter -/

/-- What a scheduler can do next. -/
inductive SpinAction where
  /-- The thread calls an operation. -/
  | call (thread : ThreadId) (call : QutexCall)
  /-- The thread takes the next step of its call. -/
  | step (thread : ThreadId)
  deriving DecidableEq, Repr

namespace SpinSys

/-- Perform one action; one that is not enabled, a failed exchange included, changes nothing. -/
def next (s : SpinSys) : SpinAction → SpinSys
  | .call thread call =>
    match s.pcs thread with
    | .idle | .returned .. => s.setPc thread (.spinning call)
    | _ => s
  | .step thread =>
    match s.pcs thread with
    | .spinning call => if s.qutex.locked then s else (s.setLocked true).setPc thread (.holding call)
    | .holding call => s.setPc thread (.computed call (call.apply s.qutex))
    | .computed call result => (s.write call result).setPc thread (.written call result.2)
    | .written call outcome =>
      (s.setLocked (call.keepsLock outcome)).setPc thread (.returned call outcome)
    | _ => s

/-- Run a schedule. -/
def run (s : SpinSys) (actions : List SpinAction) : SpinSys :=
  actions.foldl next s

theorem next_step (s : SpinSys) (action : SpinAction) :
    s.next action = s ∨ SpinStep s (s.next action) := by
  cases action with
  | call thread call =>
    dsimp only [next]
    split
    · exact .inr (.call call (by rename_i idle; simp [idle, Pc.Ready]))
    · exact .inr (.call call (by rename_i returned; simp [returned, Pc.Ready]))
    · exact .inl rfl
  | step thread =>
    dsimp only [next]
    split
    · split
      · exact .inl rfl
      · rename_i spinning locked
        exact .inr (.exchange spinning (Bool.not_eq_true _ ▸ locked))
    · exact .inr (.read ‹_›)
    · exact .inr (.write ‹_›)
    · exact .inr (.store ‹_›)
    · exact .inl rfl

end SpinSys

/-- The interpreter's next state is reachable. -/
theorem SpinReachable.next {start : Qutex} {s : SpinSys} (reachable : SpinReachable start s)
    (action : SpinAction) : SpinReachable start (s.next action) := by
  rcases s.next_step action with unchanged | step
  · rw [unchanged]
    exact reachable
  · exact .step reachable step

/-- Every run of the interpreter from a reachable state stays reachable. -/
theorem SpinReachable.run {start : Qutex} {s : SpinSys} (reachable : SpinReachable start s)
    (actions : List SpinAction) : SpinReachable start (s.run actions) := by
  induction actions generalizing s with
  | nil => exact reachable
  | cons action rest inductionHypothesis => exact inductionHypothesis (reachable.next action)

/-! ## Linearizability -/

namespace Pc

/-- What a thread's program counter says of the qutex and of the history from `start`. -/
def Agrees (start : Qutex) (s : SpinSys) : Pc → Prop
  | .idle | .spinning _ => True
  | .returned call outcome => (call, outcome) ∈ s.log
  | .holding _ => (historyQutex start s.log).locked = false
  | .computed call result =>
    (historyQutex start s.log).locked = false ∧ result = call.apply s.qutex
  | .written call outcome =>
    s.log.getLast? = some (call, outcome) ∧
      (historyQutex start s.log).locked = call.keepsLock outcome

/-- A thread without the spinlock agrees with every later state whose history extends. -/
theorem Agrees.of_not_holds {start : Qutex} {s s' : SpinSys} {pc : Pc}
    (agrees : pc.Agrees start s) (notHolds : ¬ pc.Holds) (grows : ∃ more, s'.log = s.log ++ more) :
    pc.Agrees start s' := by
  obtain ⟨more, log⟩ := grows
  cases pc <;> simp_all [Agrees, Holds]

end Pc

/-- The fields of a qutex that agree with `replayed` apart from the word are `replayed`'s. -/
theorem Qutex.eq_setLocked {qutex replayed : Qutex}
    (fields : { qutex with locked := replayed.locked } = replayed) :
    qutex = { replayed with locked := qutex.locked } := by
  rw [← fields]

/-- The invariant of the threads: the spinlock excludes, the history is sequential, the qutex is
the history's apart from the word, and the word is set while a thread holds it or since a call
kept it. -/
structure Linearized (start : Qutex) (s : SpinSys) : Prop where
  exclusive : ∀ thread thread', (s.pcs thread).Holds → (s.pcs thread').Holds → thread = thread'
  sequential : Sequential start s.log
  fields : { s.qutex with locked := (historyQutex start s.log).locked } = historyQutex start s.log
  word : s.qutex.locked = true ↔
    (historyQutex start s.log).locked = true ∨ ∃ thread, (s.pcs thread).Holds
  agrees : ∀ thread, (s.pcs thread).Agrees start s

namespace Linearized

variable {start : Qutex} {s : SpinSys}

theorem initial (free : start.locked = false) : Linearized start ⟨start, fun _ => .idle, []⟩ where
  exclusive _ _ holds := absurd holds id
  sequential := trivial
  fields := rfl
  word := by simp [historyQutex, free, Pc.Holds]
  agrees _ := trivial

/-- The other threads of a state with a holder do not hold the spinlock. -/
theorem others {thread : ThreadId} (h : Linearized start s) (holds : (s.pcs thread).Holds)
    {other : ThreadId} (distinct : other ≠ thread) : ¬ (s.pcs other).Holds :=
  fun holdsOther => distinct (h.exclusive other thread holdsOther holds)

/-- Moving one thread to a program counter that agrees with the state and holds the spinlock
exactly when the old one did keeps the invariant. -/
theorem setPc {thread : ThreadId} {pc : Pc} (h : Linearized start s)
    (same : pc.Holds ↔ (s.pcs thread).Holds) (agrees : pc.Agrees start s) :
    Linearized start (s.setPc thread pc) := by
  have holds : ∀ other, ((s.setPc thread pc).pcs other).Holds ↔ (s.pcs other).Holds :=
    fun other => by by_cases equal : other = thread <;> simp [equal, same]
  refine ⟨fun t t' ht ht' => h.exclusive t t' ((holds t).mp ht) ((holds t').mp ht'), h.sequential,
    h.fields, by simpa only [SpinSys.setPc_qutex, SpinSys.setPc_log, holds] using h.word,
    fun other => ?_⟩
  by_cases equal : other = thread
  · simpa [equal] using agrees
  · simpa [equal] using h.agrees other

/-- A call and the failed exchanges of its loop take no lock. -/
theorem call {thread : ThreadId} (h : Linearized start s) (call : QutexCall)
    (ready : (s.pcs thread).Ready) : Linearized start (s.setPc thread (.spinning call)) := by
  have notHolds : ¬ (s.pcs thread).Holds := by
    revert ready
    cases s.pcs thread <;> simp [Pc.Ready, Pc.Holds]
  exact h.setPc (iff_of_false id notHolds) trivial

/-- A successful exchange finds no holder and no kept lock. -/
theorem exchange {thread : ThreadId} {call : QutexCall} (h : Linearized start s)
    (free : s.qutex.locked = false) :
    Linearized start ((s.setLocked true).setPc thread (.holding call)) := by
  have unheld := h.word.not.mp (by simp [free])
  simp only [not_or, not_exists, Bool.not_eq_true] at unheld
  obtain ⟨clear, noHolder⟩ := unheld
  refine ⟨fun t t' ht ht' => ?_, h.sequential, h.fields,
    iff_of_true rfl (.inr ⟨thread, by simp [Pc.Holds]⟩), fun other => ?_⟩
  · by_cases same : t = thread <;> by_cases same' : t' = thread <;>
      simp_all [Pc.Holds]
  · by_cases same : other = thread
    · simpa [same, Pc.Agrees] using clear
    · simpa [same] using (h.agrees other).of_not_holds (noHolder other) ⟨[], by simp⟩

/-- The body's read takes its snapshot under the spinlock. -/
theorem read {thread : ThreadId} {call : QutexCall} (h : Linearized start s)
    (holding : s.pcs thread = .holding call) :
    Linearized start (s.setPc thread (.computed call (call.apply s.qutex))) := by
  have clear := h.agrees thread
  rw [holding] at clear
  exact h.setPc (by simp [holding, Pc.Holds]) ⟨clear, rfl⟩

/-- The write is the linearization point: the qutex becomes the atomic operation's result on the
history's qutex, and the history grows by the call and its atomic outcome. -/
theorem write {thread : ThreadId} {call : QutexCall} {result : Qutex × Outcome QutexReply}
    (h : Linearized start s) (computed : s.pcs thread = .computed call result) :
    Linearized start ((s.write call result).setPc thread (.written call result.2)) := by
  have agrees := h.agrees thread
  rw [computed] at agrees
  obtain ⟨clear, rfl⟩ := agrees
  have holds : (s.pcs thread).Holds := by simp [computed, Pc.Holds]
  have locked : s.qutex.locked = true := h.word.mpr (.inr ⟨thread, holds⟩)
  have snapshot : call.apply s.qutex =
      ({ (call.apply (historyQutex start s.log)).1 with locked := true },
        (call.apply (historyQutex start s.log)).2) := by
    rw [Qutex.eq_setLocked h.fields, locked, QutexCall.apply_setLocked, Bool.true_or]
  have history : historyQutex start (s.log ++ [(call, (call.apply s.qutex).2)]) =
      (call.apply (historyQutex start s.log)).1 := by
    rw [historyQutex_append, snapshot]
  have holds' : ∀ other,
      (((s.write call (call.apply s.qutex)).setPc thread (.written call (call.apply s.qutex).2)).pcs
        other).Holds ↔ (s.pcs other).Holds :=
    fun other => by by_cases same : other = thread <;> simp [same, computed, Pc.Holds]
  refine ⟨fun t t' ht ht' => h.exclusive t t' ((holds' t).mp ht) ((holds' t').mp ht'), ?_, ?_,
    iff_of_true (by simp [snapshot]) (.inr ⟨thread, by simp [Pc.Holds]⟩), fun other => ?_⟩
  · simpa [snapshot] using h.sequential.append call
  · simp only [SpinSys.setPc_qutex, SpinSys.setPc_log, SpinSys.write_qutex, SpinSys.write_log,
      history]
    rw [snapshot]
  · by_cases same : other = thread
    · subst same
      simp only [SpinSys.setPc_pcs, if_true, Pc.Agrees]
      refine ⟨by simp, ?_⟩
      simp only [SpinSys.setPc_log, SpinSys.write_log, history]
      rw [QutexCall.apply_locked, clear, Bool.false_or, snapshot]
    · simpa [same] using (h.agrees other).of_not_holds (h.others holds same) ⟨_, rfl⟩

/-- `store(false)` frees the spinlock, unless the call keeps it. -/
theorem store {thread : ThreadId} {call : QutexCall} {outcome : Outcome QutexReply}
    (h : Linearized start s) (written : s.pcs thread = .written call outcome) :
    Linearized start ((s.setLocked (call.keepsLock outcome)).setPc thread (.returned call outcome)) := by
  have agrees := h.agrees thread
  rw [written] at agrees
  obtain ⟨last, kept⟩ := agrees
  have holds : (s.pcs thread).Holds := by simp [written, Pc.Holds]
  have noHolder : ∀ other,
      ¬ ((s.setLocked (call.keepsLock outcome)).setPc thread (.returned call outcome) |>.pcs other).Holds :=
    fun other => by
      by_cases same : other = thread
      · simp [same, Pc.Holds]
      · simpa [same] using h.others holds same
  refine ⟨fun t _ ht _ => absurd ht (noHolder t), h.sequential, h.fields, ?_, fun other => ?_⟩
  · simp only [SpinSys.setPc_qutex, SpinSys.setLocked_qutex, SpinSys.setPc_log,
      SpinSys.setLocked_log, kept, noHolder, exists_false, or_false]
  · by_cases same : other = thread
    · simpa [same, Pc.Agrees] using List.mem_of_getLast?_eq_some last
    · simpa [same] using (h.agrees other).of_not_holds (h.others holds same) ⟨[], by simp⟩

theorem step {s' : SpinSys} (h : Linearized start s) (step : SpinStep s s') : Linearized start s' := by
  cases step with
  | call call ready => exact h.call call ready
  | exchange _ free => exact h.exchange free
  | read holding => exact h.read holding
  | write computed => exact h.write computed
  | store written => exact h.store written

end Linearized

/-- A reachable state was reached from a free qutex. -/
theorem SpinReachable.free {start : Qutex} {s : SpinSys} (reachable : SpinReachable start s) :
    start.locked = false := by
  induction reachable with
  | initial free => exact free
  | step _ _ inductionHypothesis => exact inductionHypothesis

/-- The linearization invariant holds in every reachable state. -/
theorem SpinReachable.linearized {start : Qutex} {s : SpinSys} (reachable : SpinReachable start s) :
    Linearized start s := by
  induction reachable with
  | initial free => exact .initial free
  | step _ step inductionHypothesis => exact inductionHypothesis.step step

/-- Every interleaving of threads calling operations on a qutex, at the grain of its spinlock, is
linearizable at the bodies' writes: at most one thread holds the spinlock; the calls in the order
of their writes form a sequential history of the atomic operations of `Qutex.lean`, and each call
that returned returned its entry's outcome; the qutex's fields are those the history leaves; and
the spinlock's word is set exactly while a thread holds it or once a `release()` has thrown. -/
theorem spinLock_linearizes {start : Qutex} {s : SpinSys} (reachable : SpinReachable start s) :
    (∀ thread thread', (s.pcs thread).Holds → (s.pcs thread').Holds → thread = thread') ∧
      Sequential start s.log ∧
      (∀ thread call outcome, s.pcs thread = .returned call outcome → (call, outcome) ∈ s.log) ∧
      { s.qutex with locked := false } = { historyQutex start s.log with locked := false } ∧
      (s.qutex.locked = true ↔
        (∃ thread, (s.pcs thread).Holds) ∨ ∃ entry ∈ s.log, entry.1.keepsLock entry.2 = true) := by
  have h := reachable.linearized
  refine ⟨h.exclusive, h.sequential, fun thread call outcome returned => ?_, ?_, ?_⟩
  · have agrees := h.agrees thread
    rwa [returned] at agrees
  · rw [← h.fields]
  · rw [h.word, historyQutex_locked h.sequential, reachable.free, Bool.false_or, List.any_eq_true,
      or_comm]

/-- Two threads register on a fresh qutex; thread 1 spins while thread 0 holds the spinlock. -/
def twoRegistrations : List SpinAction :=
  [.call 0 (.registerInQueue ⟨0, 0⟩), .call 1 (.registerInQueue ⟨1, 0⟩), .step 0, .step 1,
    .step 0, .step 0, .step 1, .step 0, .step 1, .step 1, .step 1, .step 1]

/-- `twoRegistrations` linearizes. -/
theorem two_registrations_linearize :
    let s := (⟨Qutex.empty, fun _ => .idle, []⟩ : SpinSys).run twoRegistrations
    (∀ thread thread', (s.pcs thread).Holds → (s.pcs thread').Holds → thread = thread') ∧
      Sequential Qutex.empty s.log ∧
      (∀ thread call outcome, s.pcs thread = .returned call outcome → (call, outcome) ∈ s.log) ∧
      { s.qutex with locked := false } = { historyQutex Qutex.empty s.log with locked := false } ∧
      (s.qutex.locked = true ↔
        (∃ thread, (s.pcs thread).Holds) ∨ ∃ entry ∈ s.log, entry.1.keepsLock entry.2 = true) :=
  spinLock_linearizes ((SpinReachable.initial rfl : SpinReachable Qutex.empty _).run _)

end Spinscale
