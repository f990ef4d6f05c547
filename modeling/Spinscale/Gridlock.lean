import Spinscale.Tracker
import Spinscale.DependencyGraph.FindCycles

/-!
# Gridlock detection over the tracker

`completelyTraceContinuationHistoryForGridlockOn` builds a `DependencyGraph` from the acquisition
history tracker (`generateGraph`), reports whether it has a cycle, and prints the dependencies of
every cycle `findCycles` returns. An edge goes from a key to another key whose held list contains
the first one's wanted lock: the lock recorded when the first one entered the tracker, which
`addIfNotExists` never updates.

`generateGraph` computes each node's set at once; `generateGraphByCalls` makes the source's
`addNode` and `addEdge` calls, and builds the same graph up to the iteration order of each set
(`generateGraphByCalls_eq`), so the contract of the searches holds for it (`generateGraph_built`).
`completelyTrace_iff` states what the report means: with distinct keys, the complete trace returns
true exactly when the recorded entries form a dependency cycle (`Depends`). The printed
dependencies of a cycle end with a pair of its first node with itself, which is no edge
(`gridlock_report_closing_pair`).
-/

namespace Spinscale

namespace AcquisitionHistory

/-- The nodes `generateGraph` makes `continuation`'s entry depend on: every other key whose held
list contains its wanted lock, or none when its own held list is null. -/
def dependencies (history : AcquisitionHistory)
    (entry : ContinuationId × AcquisitionHistoryEntry) : List ContinuationId :=
  match entry.2.heldLocks with
  | none => []
  | some _ =>
    history.filterMap fun other =>
      if entry.1 = other.1 then none
      else
        match other.2.heldLocks with
        | none => none
        | some otherHeldLocks =>
          if otherHeldLocks.contains entry.2.wantedLock then some other.1 else none

/-- `QutexAcquisitionHistoryTracker::generateGraph()`: a node for every key (first pass), then the
edges of every entry (second pass). -/
def generateGraph (history : AcquisitionHistory) : DependencyGraph :=
  history.map fun entry => (entry.1, history.dependencies entry)

/-- `generateGraph` as the source runs it, call by call: `addNode` for every key (first pass), then
`addEdge` from every key to each key its entry depends on (second pass), both in iteration order.
It is `generateGraph` up to the iteration order of each set (`generateGraphByCalls_eq`). -/
def generateGraphByCalls (history : AcquisitionHistory) : DependencyGraph :=
  history.foldl
    (fun graph entry => (history.dependencies entry).foldl
      (fun graph other => DependencyGraph.addEdge graph entry.1 other) graph)
    (history.keys.foldl DependencyGraph.addNode [])

/-- `completelyTraceContinuationHistoryForGridlockOn(firstFailedQutex)`: whether the graph of the
map has a cycle. `firstFailedQutex` is unused, as in the source. -/
def completelyTraceContinuationHistoryForGridlockOn (history : AcquisitionHistory)
    (_firstFailedQutex : QutexId) : Bool :=
  history.generateGraph.hasCycles

/-- The `(from, to)` pairs the report loop of `completelyTraceContinuationHistoryForGridlockOn`
passes to `printContinuationDependency` for one cycle: `(cycle[j], cycle[j + 1])` for
`j < cycle.size() - 1`, then `(cycle[cycle.size() - 1], cycle[0])`. For an empty cycle the bound
`cycle.size() - 1` wraps around before the `empty()` check; `findCycles` records none, and the
model prints nothing for one. -/
def printedDependencies (cycle : List ContinuationId) : List (ContinuationId × ContinuationId) :=
  match cycle.getLast?, cycle.head? with
  | some last, some first => cycle.zip cycle.tail ++ [(last, first)]
  | _, _ => []

/-- The dependencies the confirmed-gridlock report prints, cycle by cycle, for every cycle
`findCycles` returns; nothing when `hasCycles` finds no cycle. -/
def gridlockReport (history : AcquisitionHistory) : List (List (ContinuationId × ContinuationId)) :=
  if history.generateGraph.hasCycles then
    history.generateGraph.findCycles.map printedDependencies
  else []

/-- The gridlock branch of a failed `operator()` execution that sampled `gridlockLikely`: enter the
continuation (an existing entry is kept), run the heuristic trace, and the complete trace only when
the heuristic one found something. The new map and the two verdicts. -/
def gridlockBranch (history : AcquisitionHistory) (continuation : ContinuationId)
    (firstFailedQutex : QutexId) (heldLocks : List QutexId) : AcquisitionHistory × Bool × Bool :=
  let history := history.addIfNotExists continuation firstFailedQutex heldLocks
  let heuristic := history.heuristicallyTraceContinuationHistoryForGridlockOn firstFailedQutex
    continuation
  (history, heuristic,
    heuristic && history.completelyTraceContinuationHistoryForGridlockOn firstFailedQutex)

/-- The dependency the tracker records: `continuation`'s entry has a held list, and its wanted
lock is in the held list of `other`, another key. -/
def Depends (history : AcquisitionHistory) (continuation other : ContinuationId) : Prop :=
  continuation ≠ other ∧ ∃ entry otherEntry otherHeldLocks,
    history.lookup continuation = some entry ∧ entry.heldLocks.isSome ∧
    history.lookup other = some otherEntry ∧ otherEntry.heldLocks = some otherHeldLocks ∧
    entry.wantedLock ∈ otherHeldLocks

theorem lookup_of_mem {history : AcquisitionHistory} (nodup : history.keys.Nodup)
    {continuation : ContinuationId} {entry : AcquisitionHistoryEntry}
    (member : (continuation, entry) ∈ history) : history.lookup continuation = some entry := by
  induction history with
  | nil => cases member
  | cons head history ih =>
    obtain ⟨key, value⟩ := head
    simp only [keys, List.map_cons, List.nodup_cons] at nodup
    rcases List.mem_cons.mp member with same | member
    · simp only [Prod.mk.injEq] at same
      obtain ⟨rfl, rfl⟩ := same
      simp
    · have inRest : continuation ∈ history.map (·.1) := List.mem_map_of_mem (·.1) member
      have other : continuation ≠ key := fun same => nodup.1 (same ▸ inRest)
      simp only [List.lookup_cons, beq_false_of_ne other]
      exact ih nodup.2 member

theorem mem_of_lookup {history : AcquisitionHistory} {continuation : ContinuationId}
    {entry : AcquisitionHistoryEntry} (found : history.lookup continuation = some entry) :
    (continuation, entry) ∈ history := by
  induction history with
  | nil => cases found
  | cons head history ih =>
    obtain ⟨key, value⟩ := head
    by_cases same : continuation = key
    · subst same
      simp only [List.lookup_cons_self, Option.some.injEq] at found
      exact found ▸ List.mem_cons_self _ _
    · simp only [List.lookup_cons, beq_false_of_ne same] at found
      exact List.mem_cons_of_mem _ (ih found)

/-- `generateGraph` gives each key of the tracker the dependencies of its entry. -/
theorem lookup_generateGraph (history : AcquisitionHistory) (continuation : ContinuationId) :
    history.generateGraph.lookup continuation =
      (history.lookup continuation).map fun entry => history.dependencies (continuation, entry) := by
  unfold generateGraph
  generalize history.dependencies = dependencies
  induction history with
  | nil => rfl
  | cons head rest ih =>
    obtain ⟨key, value⟩ := head
    by_cases same : continuation = key
    · subst same
      simp
    · simp only [List.map_cons, List.lookup_cons, beq_false_of_ne same]
      exact ih

/-! ## `generateGraph` call by call -/

/-- A node depends only on keys, each at most once. -/
theorem dependencies_sublist (history : AcquisitionHistory)
    (entry : ContinuationId × AcquisitionHistoryEntry) :
    (history.dependencies entry).Sublist history.keys := by
  unfold dependencies
  split
  · exact List.nil_sublist _
  · generalize history = others
    induction others with
    | nil => exact List.Sublist.slnil
    | cons other others ih =>
      rw [List.filterMap_cons]
      split
      · exact ih.cons _
      · rename_i key found
        have named : key = other.1 := by
          split_ifs at found
          split at found
          · cases found
          · split_ifs at found
            exact (Option.some.inj found).symm
        exact named ▸ ih.cons₂ _

/-- What the second pass does to one node's set: each entry with its key inserts the keys it
depends on. -/
def insertDependencies (history : AcquisitionHistory)
    (node : ContinuationId × List ContinuationId)
    (entry : ContinuationId × AcquisitionHistoryEntry) : ContinuationId × List ContinuationId :=
  if node.1 = entry.1 then
    (node.1, (history.dependencies entry).foldl (fun set target => set.insert target) node.2)
  else node

/-- The second pass over some entries inserts into each node's set what they depend on. -/
theorem foldl_addEdge_dependencies (history : AcquisitionHistory) :
    ∀ (entries : AcquisitionHistory) (graph : DependencyGraph), (∀ entry ∈ entries, entry ∈ history) →
      graph.nodes = history.keys →
      entries.foldl (fun graph entry => (history.dependencies entry).foldl
          (fun graph other => DependencyGraph.addEdge graph entry.1 other) graph) graph =
        graph.map fun node => entries.foldl (history.insertDependencies) node
  | [], graph, _, _ => by simp
  | entry :: entries, graph, members, keys => by
    have sourceMem : entry.1 ∈ graph.nodes :=
      keys ▸ List.mem_map_of_mem _ (members entry (List.mem_cons_self _ _))
    have targetsMem : ∀ target ∈ history.dependencies entry, target ∈ graph.nodes :=
      fun _ member => keys ▸ (dependencies_sublist history entry).subset member
    have sameNodes : DependencyGraph.nodes (graph.map fun node =>
        history.insertDependencies node entry) = history.keys := by
      rw [← keys]
      simp only [DependencyGraph.nodes, List.map_map]
      congr 1
      funext node
      simp only [Function.comp_apply, insertDependencies]
      split_ifs <;> rfl
    rw [List.foldl_cons, DependencyGraph.foldl_addEdge _ _ _ sourceMem targetsMem]
    have step : (graph.map fun node : ContinuationId × List ContinuationId =>
        if node.1 = entry.1 then
          (node.1, (history.dependencies entry).foldl (fun set target => set.insert target) node.2)
        else node) = graph.map fun node => history.insertDependencies node entry := rfl
    rw [step, foldl_addEdge_dependencies history entries _
      (fun entry' member => members entry' (List.mem_cons_of_mem _ member)) sameNodes, List.map_map]
    rfl

/-- A node's set after the second pass over entries with distinct keys: the keys its own entry
depends on, inserted in turn. -/
theorem foldl_insertDependencies (history : AcquisitionHistory) :
    ∀ (entries : AcquisitionHistory), entries.keys.Nodup →
      ∀ (node : ContinuationId × List ContinuationId),
        entries.foldl history.insertDependencies node =
          (node.1, match entries.lookup node.1 with
            | some entry => (history.dependencies (node.1, entry)).foldl
                (fun set target => set.insert target) node.2
            | none => node.2)
  | [], _, node => rfl
  | (key, entry) :: entries, distinct, node => by
    simp only [keys, List.map_cons, List.nodup_cons] at distinct
    rw [List.foldl_cons, insertDependencies]
    dsimp only
    by_cases isKey : node.1 = key
    · have absent : entries.lookup node.1 = none := by
        cases found : entries.lookup node.1 with
        | none => rfl
        | some _ =>
          have listed := List.mem_map_of_mem (fun entry : ContinuationId × AcquisitionHistoryEntry =>
            entry.1) (mem_of_lookup found)
          exact absurd (isKey ▸ listed) distinct.1
      rw [if_pos isKey, foldl_insertDependencies history entries distinct.2, absent, isKey,
        List.lookup_cons_self]
    · rw [if_neg isKey, foldl_insertDependencies history entries distinct.2,
        List.lookup_cons, beq_false_of_ne isKey]

/-- With distinct keys, the calls of the source build `generateGraph` with each set listed in
reverse. -/
theorem generateGraphByCalls_eq {history : AcquisitionHistory} (nodup : history.keys.Nodup) :
    history.generateGraphByCalls =
      history.map fun entry => (entry.1, (history.dependencies entry).reverse) := by
  have firstPass : history.keys.foldl DependencyGraph.addNode [] =
      history.map fun entry => (entry.1, []) := by
    rw [DependencyGraph.foldl_addNode _ _ nodup fun _ _ => List.not_mem_nil _, List.nil_append,
      keys, List.map_map]
    rfl
  have nodes : DependencyGraph.nodes (history.map fun entry => (entry.1, [])) = history.keys := by
    simp [DependencyGraph.nodes, keys]
  rw [generateGraphByCalls, firstPass,
    foldl_addEdge_dependencies history history _ (fun _ member => member) nodes, List.map_map]
  refine List.map_congr_left fun entry member => ?_
  rw [Function.comp_apply, foldl_insertDependencies history history nodup,
    lookup_of_mem nodup member]
  dsimp only
  rw [DependencyGraph.foldl_insert _ _
      ((dependencies_sublist history entry).nodup nodup) fun _ _ => List.not_mem_nil _,
    List.append_nil]

example : generateGraphByCalls [(0, ⟨0, some [1]⟩), (1, ⟨1, some [0]⟩), (2, ⟨1, some [0]⟩)] =
    [(0, [2, 1]), (1, [0]), (2, [0])] := by
  decide

/-- The tracker's graph is a graph that `addNode` and `addEdge` build, so the contract of the
searches holds for it. -/
theorem generateGraph_built {history : AcquisitionHistory} (nodup : history.keys.Nodup) :
    history.generateGraph.Built := by
  have calls : history.generateGraphByCalls.Built := by
    refine List.foldlRecOn (motive := DependencyGraph.Built) _ _ _ ?_ fun graph built entry _ =>
      List.foldlRecOn (motive := DependencyGraph.Built) _ _ _ built
        fun graph' built' other _ => .addEdge _ _ built'
    exact List.foldlRecOn (motive := DependencyGraph.Built) _ _ _ .empty
      fun graph built node _ => .addNode node built
  rw [generateGraphByCalls_eq nodup] at calls
  exact DependencyGraph.Built.reorderEach [] calls
    (List.forall₂_map_left_iff.mpr (List.forall₂_map_right_iff.mpr
      (List.forall₂_same.mpr fun _ _ => ⟨rfl, List.reverse_perm _⟩)))

/-- With distinct keys, the graph's edges are the recorded dependencies. -/
theorem edge_generateGraph_iff {history : AcquisitionHistory} (nodup : history.keys.Nodup)
    (continuation other : ContinuationId) :
    history.generateGraph.Edge continuation other ↔ history.Depends continuation other := by
  simp only [DependencyGraph.Edge, DependencyGraph.adjacent, lookup_generateGraph]
  constructor
  · intro edge
    cases found : history.lookup continuation with
    | none => simp [found] at edge
    | some entry =>
      simp only [found, Option.map_some', Option.getD_some, dependencies] at edge
      split at edge
      · cases edge
      · rename_i heldLocks held
        obtain ⟨⟨key, otherEntry⟩, member, named⟩ := List.mem_filterMap.mp edge
        dsimp only at named
        split_ifs at named with same
        split at named
        · cases named
        · rename_i otherHeldLocks otherHeld
          split_ifs at named with wanted
          cases named
          exact ⟨same, entry, otherEntry, otherHeldLocks, found, by simp [held],
            lookup_of_mem nodup member, otherHeld, List.elem_iff.mp wanted⟩
  · rintro ⟨same, entry, otherEntry, otherHeldLocks, found, held, otherFound, otherHeld, wanted⟩
    obtain ⟨heldLocks, held⟩ := Option.isSome_iff_exists.mp held
    simp only [found, Option.map_some', Option.getD_some, dependencies, held]
    refine List.mem_filterMap.mpr ⟨(other, otherEntry), mem_of_lookup otherFound, ?_⟩
    simp [same, otherHeld, wanted]

/-- With distinct keys, the complete trace reports a gridlock exactly when the recorded entries
form a dependency cycle. -/
theorem completelyTrace_iff {history : AcquisitionHistory} (nodup : history.keys.Nodup)
    (firstFailedQutex : QutexId) :
    history.completelyTraceContinuationHistoryForGridlockOn firstFailedQutex = true ↔
      ∃ continuation, Relation.TransGen history.Depends continuation continuation := by
  have edges : history.generateGraph.Edge = history.Depends :=
    funext₂ fun continuation other => propext (edge_generateGraph_iff nodup continuation other)
  unfold completelyTraceContinuationHistoryForGridlockOn
  rw [DependencyGraph.hasCycles_iff _ fun _ other edge => ?_, edges]
  obtain ⟨-, -, otherEntry, -, -, -, otherFound, -⟩ := edges ▸ edge
  simp only [DependencyGraph.nodes, generateGraph, List.map_map]
  exact List.mem_map_of_mem _ (mem_of_lookup otherFound)

/-- With distinct keys and a held list in every entry, the graph has the tracker's keys as its
nodes and an edge from a key to another key whose held list contains the first one's wanted lock;
it has no self-loop, so each cycle the complete trace reports passes through two keys or more. -/
theorem complete_trace_decides_cycles (history : AcquisitionHistory) (nodup : history.keys.Nodup)
    (held : ∀ entry ∈ history, entry.2.heldLocks.isSome) (firstFailedQutex : QutexId) :
    history.generateGraph.nodes = history.keys ∧
    (∀ continuation other, history.generateGraph.Edge continuation other ↔
      continuation ≠ other ∧ ∃ entry otherEntry otherHeldLocks,
        (continuation, entry) ∈ history ∧ (other, otherEntry) ∈ history ∧
        otherEntry.heldLocks = some otherHeldLocks ∧ entry.wantedLock ∈ otherHeldLocks) ∧
    (history.completelyTraceContinuationHistoryForGridlockOn firstFailedQutex = true ↔
      ∃ continuation, Relation.TransGen history.generateGraph.Edge continuation continuation) ∧
    ∀ continuation, ¬ history.generateGraph.Edge continuation continuation := by
  have edges : history.generateGraph.Edge = history.Depends :=
    funext₂ fun continuation other => propext (edge_generateGraph_iff nodup continuation other)
  refine ⟨by simp [DependencyGraph.nodes, generateGraph, keys], fun continuation other => ?_,
    by rw [completelyTrace_iff nodup, edges], fun continuation edge => ?_⟩
  · rw [edges]
    constructor
    · rintro ⟨different, entry, otherEntry, otherHeldLocks, found, -, otherFound, otherHeld,
        wanted⟩
      exact ⟨different, entry, otherEntry, otherHeldLocks, mem_of_lookup found,
        mem_of_lookup otherFound, otherHeld, wanted⟩
    · rintro ⟨different, entry, otherEntry, otherHeldLocks, member, otherMember, otherHeld,
        wanted⟩
      exact ⟨different, entry, otherEntry, otherHeldLocks, lookup_of_mem nodup member,
        held _ member, lookup_of_mem nodup otherMember, otherHeld, wanted⟩
  · exact (edges ▸ edge).1 rfl

/-- Continuations 0 and 1 each want the lock the other holds. -/
theorem complete_trace_two_cycle :
    completelyTraceContinuationHistoryForGridlockOn
        [(0, ⟨0, some [1]⟩), (1, ⟨1, some [0]⟩)] 0 = true ∧
      ∃ continuation, Relation.TransGen
        (generateGraph [(0, ⟨0, some [1]⟩), (1, ⟨1, some [0]⟩)]).Edge continuation continuation :=
  have decides := complete_trace_decides_cycles [(0, ⟨0, some [1]⟩), (1, ⟨1, some [0]⟩)]
    (by decide) (by decide) 0
  ⟨by decide, decides.2.2.1.mp (by decide)⟩

/-! ## The confirmed-gridlock report -/

/-- Consecutive nodes of a chain are related. -/
theorem chain'_zip_tail {relation : ContinuationId → ContinuationId → Prop} :
    ∀ {nodes : List ContinuationId}, nodes.Chain' relation →
      ∀ pair ∈ nodes.zip nodes.tail, relation pair.1 pair.2
  | [], _, _, member => absurd member (List.not_mem_nil _)
  | [_], _, _, member => absurd member (List.not_mem_nil _)
  | first :: second :: rest, chain, pair, member => by
    obtain ⟨related, chain⟩ := List.chain_cons.mp chain
    rcases List.mem_cons.mp member with rfl | member
    · exact related
    · exact chain'_zip_tail (show (second :: rest).Chain' relation from chain) pair member

/-- The report prints, for each cycle `[v0, …, vk]` with `vk = v0`, its consecutive edges and then
the pair `(vk, v0) = (v0, v0)`, which is no edge of the graph. -/
theorem gridlock_report_closing_pair :
    (∀ history : AcquisitionHistory, history.keys.Nodup → ∀ printed ∈ history.gridlockReport,
      ∃ first rest, first :: rest ++ [first] ∈ history.generateGraph.findCycles ∧
        printed = (first :: rest ++ [first]).zip (rest ++ [first]) ++ [(first, first)] ∧
        (∀ pair ∈ (first :: rest ++ [first]).zip (rest ++ [first]),
          history.generateGraph.Edge pair.1 pair.2) ∧
        ¬ history.generateGraph.Edge first first) ∧
    gridlockReport [(0, ⟨0, some [1]⟩), (1, ⟨1, some [0]⟩)] = [[(0, 1), (1, 0), (0, 0)]] := by
  refine ⟨fun history nodup printed reported => ?_, by decide⟩
  unfold gridlockReport at reported
  split_ifs at reported with found
  · obtain ⟨cycle, member, rfl⟩ := List.mem_map.mp reported
    obtain ⟨first, rest, rfl, -, chain⟩ := DependencyGraph.findCyclesFrom_isCycle _ _
      (fun _ member => absurd member (List.not_mem_nil _)) cycle member
    refine ⟨first, rest, member, ?_, chain'_zip_tail chain, fun edge =>
      ((edge_generateGraph_iff nodup first first).mp edge).1 rfl⟩
    simp [printedDependencies, List.getLast?_cons, List.getLast?_append]
  · exact absurd reported (List.not_mem_nil _)

end AcquisitionHistory

end Spinscale
