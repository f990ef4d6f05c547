import Mathlib.Data.Int.CardIntervalMod
import Spinscale.Lifetime

/-!
# Pinning the puppet threads to CPUs

`PuppetApplication::distributeAndPinThreadsAcrossCpus` asks `ComponentThread::getAvailableCpuCount`
for the number of online CPUs and pins the `threadIndex`-th puppet thread to CPU
`threadIndex % cpuCount` through `PuppetThread::pinToCpu`, which asks `pthread_setaffinity_np`
and throws when the system refuses. What the system answers is a `CpuSystem`: the CPU count
`sysconf(_SC_NPROCESSORS_ONLN)` returns, the result of each affinity call, and `strerror`'s text.
A throw leaves the threads pinned before it pinned.

`distributeAndPinThreadsAcrossCpus_balanced` shows that on any positive CPU count the loop pins
the threads of `cpuAssignment`, the round-robin assignment, in order up to the first one the
system refuses, and throws the refusal for that one: `pinToCpu` never rejects a CPU it is given
as invalid. The assignment spreads the threads evenly: CPU `cpu` gets `n / cpuCount` threads, one
more when `cpu < n % cpuCount`.
-/

namespace Spinscale

/-- What the system answers: `sysconf(_SC_NPROCESSORS_ONLN)`, the result of
`pthread_setaffinity_np` for a thread and a CPU, and `strerror` of an error number. -/
structure CpuSystem where
  nprocessorsOnln : Int
  setaffinity : ThreadId → Int → Int
  strerror : Int → String

/-- The system pins `pin.1` to CPU `pin.2`. -/
def CpuSystem.accepts (system : CpuSystem) (pin : ThreadId × Int) : Bool :=
  system.setaffinity pin.1 pin.2 == 0

/-- `ComponentThread::getAvailableCpuCount()`, given what `sysconf(_SC_NPROCESSORS_ONLN)`
returns. -/
def getAvailableCpuCount (nprocessorsOnln : Int) : Except String Int :=
  if nprocessorsOnln ≤ 0 then .error "getAvailableCpuCount: Failed to determine CPU count"
  else .ok nprocessorsOnln

/-- What `pinToCpu` throws when `pthread_setaffinity_np` refuses CPU `cpuId` for `thread`. -/
def pinToCpuFailedError (system : CpuSystem) (thread : ThreadId) (cpuId : Int) : String :=
  "pinToCpu: Failed to pin thread to CPU " ++ toString cpuId ++ ": " ++
    system.strerror (system.setaffinity thread cpuId)

/-- `PuppetThread::pinToCpu(cpuId)` on `thread`: the `pinnedCpuId` it sets. -/
def pinToCpu (system : CpuSystem) (thread : ThreadId) (cpuId : Int) : Except String Int :=
  if cpuId < 0 then .error ("pinToCpu: Invalid CPU ID: " ++ toString cpuId)
  else if system.setaffinity thread cpuId ≠ 0 then
    .error (pinToCpuFailedError system thread cpuId)
  else .ok cpuId

/-- The loop of `distributeAndPinThreadsAcrossCpus` from `threadIndex` on: each thread pinned,
with its CPU, until a `pinToCpu` throws, and what it throws. C++'s `%` truncates, as `Int.tmod`
does. -/
def pinEachFrom (system : CpuSystem) (cpuCount : Int) :
    Int → List ThreadId → List (ThreadId × Int) × Option String
  | _, [] => ([], none)
  | threadIndex, thread :: threads =>
    match pinToCpu system thread (threadIndex.tmod cpuCount) with
    | .error what => ([], some what)
    | .ok pinnedCpuId =>
      let pinned := pinEachFrom system cpuCount (threadIndex + 1) threads
      ((thread, pinnedCpuId) :: pinned.1, pinned.2)

namespace PuppetApplication

/-- `distributeAndPinThreadsAcrossCpus()`: the puppet threads pinned, each with its
`pinnedCpuId`, and what it throws. -/
def distributeAndPinThreadsAcrossCpus (app : PuppetApplication) (system : CpuSystem) :
    List (ThreadId × Int) × Option String :=
  match getAvailableCpuCount system.nprocessorsOnln with
  | .error what => ([], some what)
  | .ok cpuCount => pinEachFrom system cpuCount 0 app.componentThreads

/-- The round-robin assignment: the `index`-th puppet thread on CPU `index % cpuCount`. -/
def cpuAssignment (app : PuppetApplication) (cpuCount : Nat) : List (ThreadId × Int) :=
  app.componentThreads.zip
    ((List.range app.componentThreads.length).map fun index : Nat => (index : Int) % cpuCount)

end PuppetApplication

/-- On a CPU id that is not negative, `pinToCpu` pins exactly when the system accepts. -/
theorem pinToCpu_of_nonneg (system : CpuSystem) (thread : ThreadId) {cpuId : Int}
    (valid : 0 ≤ cpuId) :
    pinToCpu system thread cpuId =
      if system.accepts (thread, cpuId) then .ok cpuId
      else .error (pinToCpuFailedError system thread cpuId) := by
  simp only [pinToCpu, Int.not_lt.mpr valid, if_false, CpuSystem.accepts, beq_iff_eq]
  split <;> simp_all

/-- From a nonnegative index, the loop pins the threads in turn to consecutive CPUs modulo the
count until the first one the system refuses, and throws that refusal. -/
theorem pinEachFrom_eq (system : CpuSystem) (cpuCount : Nat) (positive : 0 < cpuCount)
    (threadIndex : Nat) (threads : List ThreadId) :
    let assigned := threads.zip ((List.range' threadIndex threads.length).map
      fun index : Nat => (index : Int) % cpuCount)
    pinEachFrom system cpuCount threadIndex threads =
      (assigned.takeWhile system.accepts, (assigned.find? (!system.accepts ·)).map
        fun pin => pinToCpuFailedError system pin.1 pin.2) := by
  induction threads generalizing threadIndex with
  | nil => rfl
  | cons thread threads ih =>
    have cpu : (threadIndex : Int).tmod cpuCount = (threadIndex : Int) % cpuCount :=
      Int.tmod_eq_emod (Int.natCast_nonneg _) (Int.natCast_nonneg _)
    have valid : 0 ≤ (threadIndex : Int) % cpuCount := Int.emod_nonneg _ (by omega)
    have next := ih (threadIndex + 1)
    simp only [Nat.cast_add, Nat.cast_one] at next
    rw [pinEachFrom, cpu, pinToCpu_of_nonneg system thread valid]
    by_cases accepted : system.accepts (thread, (threadIndex : Int) % cpuCount) <;>
      simp [accepted, next, List.range'_succ]

/-- On any positive CPU count the loop pins the threads of the round-robin assignment in order
up to the first one the system refuses, and throws that refusal: it never throws an invalid CPU
id. The assignment pins every puppet thread, in order, to a CPU below the count, and spreads them
evenly: CPU `cpu` gets `n / cpuCount` of the `n` threads, and one more when
`cpu < n % cpuCount`. -/
theorem distributeAndPinThreadsAcrossCpus_balanced (app : PuppetApplication) (system : CpuSystem)
    {cpuCount : Nat} (online : system.nprocessorsOnln = cpuCount) (positive : 0 < cpuCount) :
    app.distributeAndPinThreadsAcrossCpus system =
        ((app.cpuAssignment cpuCount).takeWhile system.accepts,
          ((app.cpuAssignment cpuCount).find? (!system.accepts ·)).map
            fun pin => pinToCpuFailedError system pin.1 pin.2) ∧
      (app.cpuAssignment cpuCount).map Prod.fst = app.componentThreads ∧
      (∀ pin ∈ app.cpuAssignment cpuCount, 0 ≤ pin.2 ∧ pin.2 < cpuCount) ∧
      ∀ cpu < cpuCount, (app.cpuAssignment cpuCount).countP (·.2 == (cpu : Int)) =
        app.componentThreads.length / cpuCount +
          if cpu < app.componentThreads.length % cpuCount then 1 else 0 := by
  have counted : getAvailableCpuCount system.nprocessorsOnln = .ok cpuCount := by
    rw [online]
    exact if_neg (by omega)
  have lengths : app.componentThreads.length ≤
      ((List.range app.componentThreads.length).map fun index : Nat =>
        (index : Int) % cpuCount).length := by simp
  refine ⟨?_, List.map_fst_zip _ _ lengths, fun pin member => ?_, fun cpu below => ?_⟩
  · rw [PuppetApplication.distributeAndPinThreadsAcrossCpus, counted]
    exact (pinEachFrom_eq system cpuCount positive 0 _).trans
      (by rw [PuppetApplication.cpuAssignment, List.range_eq_range'])
  · obtain ⟨index, -, found⟩ := List.mem_map.mp (List.of_mem_zip member).2
    rw [← found]
    exact ⟨Int.emod_nonneg _ (by omega), Int.emod_lt_of_pos _ (by omega)⟩
  · have residues := Nat.count_modEq_card app.componentThreads.length positive cpu
    rw [Nat.mod_eq_of_lt below] at residues
    rw [← residues, PuppetApplication.cpuAssignment,
      ← Function.comp_def (· == (cpu : Int)) Prod.snd, ← List.countP_map, List.map_snd_zip _ _ (by simp), List.countP_map, Nat.count]
    refine List.countP_congr fun index _ => ?_
    simp only [Function.comp_apply, beq_iff_eq, decide_eq_true_eq, Nat.ModEq,
      Nat.mod_eq_of_lt below]
    norm_cast

/-- Three puppet threads, 1 to 3. -/
def threePuppets : PuppetApplication := ⟨[1, 2, 3], false, 0, true⟩

/-- Two CPUs on which the system refuses to pin thread 3. -/
def refusesThreadThree : CpuSystem :=
  ⟨2, fun thread _ => if thread = 3 then 22 else 0, fun _ => "Invalid argument"⟩

example : threePuppets.distributeAndPinThreadsAcrossCpus ⟨2, fun _ _ => 0, fun _ => ""⟩ =
    ([(1, 0), (2, 1), (3, 0)], none) := rfl

example : threePuppets.distributeAndPinThreadsAcrossCpus refusesThreadThree =
    ([(1, 0), (2, 1)], some "pinToCpu: Failed to pin thread to CPU 0: Invalid argument") := rfl

example : threePuppets.distributeAndPinThreadsAcrossCpus ⟨0, fun _ _ => 0, fun _ => ""⟩ =
    ([], some "getAvailableCpuCount: Failed to determine CPU count") := rfl

/-- Three puppet threads on two CPUs, the third of which the system refuses. -/
theorem three_puppets_on_two_cpus :
    threePuppets.distributeAndPinThreadsAcrossCpus refusesThreadThree =
        ((threePuppets.cpuAssignment 2).takeWhile refusesThreadThree.accepts,
          ((threePuppets.cpuAssignment 2).find? (!refusesThreadThree.accepts ·)).map
            fun pin => pinToCpuFailedError refusesThreadThree pin.1 pin.2) ∧
      (threePuppets.cpuAssignment 2).map Prod.fst = threePuppets.componentThreads ∧
      (∀ pin ∈ threePuppets.cpuAssignment 2, 0 ≤ pin.2 ∧ pin.2 < (2 : Nat)) ∧
      ∀ cpu < (2 : Nat), (threePuppets.cpuAssignment 2).countP (·.2 == (cpu : Int)) =
        threePuppets.componentThreads.length / 2 +
          if cpu < threePuppets.componentThreads.length % 2 then 1 else 0 :=
  distributeAndPinThreadsAcrossCpus_balanced threePuppets refusesThreadThree rfl (by decide)

end Spinscale
