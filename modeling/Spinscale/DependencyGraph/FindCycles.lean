import Mathlib.Data.List.Chain
import Spinscale.DependencyGraph

/-!
# Building the graph, and `findCycles`

`addNode` and `addEdge` build the adjacency list; `Built` is every graph they build, listed in
any iteration order of the `unordered_map` and of each `unordered_set`. `findCycles` runs the
searches of `hasCycles` from every node without stopping early and returns every cycle recorded.

`dependencyGraph_cycle_detection` is the contract of the searches on a built graph: the fuel of a
search never runs out and no node is expanded twice, `hasCycles` decides whether the graph has a
cycle, `findCycles` finds one exactly when `hasCycles` reports one, and every cycle it records is
a simple cycle of the graph closed by its first node (`IsCycle`). A recorded cycle is the path
from the first occurrence of the node closing it, and the path is always a duplicate-free chain
of edges: the recursion stack in the order of pushing (`Route`).
-/

namespace Spinscale

namespace DependencyGraph

/-- `DependencyGraph::addNode(node)`: `adjacencyList[node]` creates an empty set for a new
node. -/
def addNode (graph : DependencyGraph) (node : ContinuationId) : DependencyGraph :=
  if node ∈ graph.nodes then graph else graph ++ [(node, [])]

/-- `DependencyGraph::addEdge(source, target)`: add both nodes, then insert `target` into the set
of `source`. -/
def addEdge (graph : DependencyGraph) (source target : ContinuationId) : DependencyGraph :=
  ((graph.addNode source).addNode target).map fun entry =>
    if entry.1 = source then (entry.1, entry.2.insert target) else entry

/-- The graphs that `addNode` and `addEdge` calls build, in every iteration order of the map and
of its sets. -/
inductive Built : DependencyGraph → Prop
  | empty : Built []
  | addNode {graph : DependencyGraph} (node : ContinuationId) :
      Built graph → Built (graph.addNode node)
  | addEdge {graph : DependencyGraph} (source target : ContinuationId) :
      Built graph → Built (graph.addEdge source target)
  | reorder {graph graph' : DependencyGraph} : Built graph → graph.Perm graph' → Built graph'
  | reorderTargets {before after : DependencyGraph} {node : ContinuationId}
      {targets targets' : List ContinuationId} :
      Built (before ++ (node, targets) :: after) → targets.Perm targets' →
      Built (before ++ (node, targets') :: after)

/-- Every node a node depends on is a node of the graph. -/
def WellFormed (graph : DependencyGraph) : Prop :=
  ∀ entry ∈ graph, ∀ target ∈ entry.2, target ∈ graph.nodes

/-- `cycle` is `[v0, …, vk]` with `k ≥ 1` and `vk = v0`, where `v0 … v(k-1)` are distinct and
each node depends on the next. -/
def IsCycle (graph : DependencyGraph) (cycle : List ContinuationId) : Prop :=
  ∃ first rest, cycle = first :: rest ++ [first] ∧ (first :: rest).Nodup ∧
    cycle.Chain' graph.Edge

/-- The loop of `findCycles` over `nodes`: search from each node not yet visited, collecting the
cycles every search records. -/
def findCyclesFrom (graph : DependencyGraph) : List ContinuationId → Search → Search
  | [], search => search
  | node :: rest, search =>
    if node ∈ search.1 then graph.findCyclesFrom rest search
    else graph.findCyclesFrom rest
      (graph.dfsCycleDetection graph.length node search.1 [] [] search.2)

/-- `DependencyGraph::findCycles()`. -/
def findCycles (graph : DependencyGraph) : List (List ContinuationId) :=
  (graph.findCyclesFrom graph.nodes ([], [])).2

/-! ## Built graphs are well formed -/

theorem mem_nodes_addNode {graph : DependencyGraph} {node x : ContinuationId} :
    x ∈ (graph.addNode node).nodes ↔ x = node ∨ x ∈ graph.nodes := by
  unfold addNode
  split_ifs with present
  · exact ⟨Or.inr, fun member => member.elim (· ▸ present) id⟩
  · simp [nodes, or_comm]

theorem nodes_addEdge (graph : DependencyGraph) (source target : ContinuationId) :
    (graph.addEdge source target).nodes = ((graph.addNode source).addNode target).nodes := by
  simp only [addEdge, nodes, List.map_map]
  congr 1
  funext entry
  simp only [Function.comp_apply]
  split_ifs <;> rfl

theorem WellFormed.addNode {graph : DependencyGraph} (wellFormed : graph.WellFormed)
    (node : ContinuationId) : (graph.addNode node).WellFormed := by
  intro entry member target listed
  refine mem_nodes_addNode.mpr (.inr ?_)
  unfold DependencyGraph.addNode at member
  split_ifs at member
  · exact wellFormed entry member target listed
  · rcases List.mem_append.mp member with member | new
    · exact wellFormed entry member target listed
    · rw [List.mem_singleton.mp new] at listed
      cases listed

theorem WellFormed.addEdge {graph : DependencyGraph} (wellFormed : graph.WellFormed)
    (source target : ContinuationId) : (graph.addEdge source target).WellFormed := by
  have added := (wellFormed.addNode source).addNode target
  intro entry member target' listed
  rw [nodes_addEdge]
  obtain ⟨original, present, rfl⟩ := List.mem_map.mp member
  split_ifs at listed
  · rcases List.mem_insert_iff.mp listed with rfl | listed
    · exact mem_nodes_addNode.mpr (.inl rfl)
    · exact added original present target' listed
  · exact added original present target' listed

theorem WellFormed.reorder {graph graph' : DependencyGraph} (wellFormed : graph.WellFormed)
    (perm : graph.Perm graph') : graph'.WellFormed := fun entry member target listed =>
  ((perm.map (·.1)).mem_iff).mp (wellFormed entry (perm.mem_iff.mpr member) target listed)

theorem WellFormed.reorderTargets {before after : DependencyGraph} {node : ContinuationId}
    {targets targets' : List ContinuationId}
    (wellFormed : WellFormed (before ++ (node, targets) :: after)) (perm : targets.Perm targets') :
    WellFormed (before ++ (node, targets') :: after) := by
  intro entry member target listed
  have sameNodes : nodes (before ++ (node, targets') :: after) =
      nodes (before ++ (node, targets) :: after) := by
    simp [nodes]
  rw [sameNodes]
  rcases List.mem_append.mp member with member | member
  · exact wellFormed entry (List.mem_append_left _ member) target listed
  · rcases List.mem_cons.mp member with rfl | member
    · exact wellFormed _ (List.mem_append_right _ (List.mem_cons_self _ _)) target
        (perm.mem_iff.mpr listed)
    · exact wellFormed entry (List.mem_append_right _ (List.mem_cons_of_mem _ member)) target
        listed

/-- A graph built by `addNode` and `addEdge` is well formed. -/
theorem Built.wellFormed {graph : DependencyGraph} (built : Built graph) : graph.WellFormed := by
  induction built with
  | empty => exact fun _ member => absurd member (List.not_mem_nil _)
  | addNode node _ wellFormed => exact wellFormed.addNode node
  | addEdge source target _ wellFormed => exact wellFormed.addEdge source target
  | reorder _ perm wellFormed => exact wellFormed.reorder perm
  | reorderTargets _ perm wellFormed => exact wellFormed.reorderTargets perm

/-- In a well-formed graph every node a node depends on is a node. -/
theorem WellFormed.targets {graph : DependencyGraph} (wellFormed : graph.WellFormed) :
    ∀ x y, graph.Edge x y → y ∈ graph.nodes := fun _ _ edge =>
  let ⟨_, member, listed⟩ := mem_of_edge edge
  wellFormed _ member _ listed

/-! ## What a sequence of calls builds -/

theorem addNode_of_mem {graph : DependencyGraph} {node : ContinuationId}
    (present : node ∈ graph.nodes) : graph.addNode node = graph :=
  if_pos present

/-- `addNode` of distinct new nodes appends each with an empty set. -/
theorem foldl_addNode :
    ∀ (keys : List ContinuationId) (graph : DependencyGraph), keys.Nodup →
      (∀ key ∈ keys, key ∉ graph.nodes) → keys.foldl addNode graph = graph ++ keys.map (·, [])
  | [], graph, _, _ => (List.append_nil graph).symm
  | key :: keys, graph, distinct, fresh => by
    obtain ⟨notLater, distinct⟩ := List.nodup_cons.mp distinct
    have fresh' : ∀ key' ∈ keys, key' ∉ (graph ++ [(key, [])]).nodes := by
      intro key' later present
      simp only [nodes, List.map_append, List.map_cons, List.map_nil, List.mem_append,
        List.mem_singleton] at present
      rcases present with present | rfl
      · exact fresh key' (List.mem_cons_of_mem _ later) present
      · exact notLater later
    rw [List.foldl_cons, addNode, if_neg (fresh key (List.mem_cons_self _ _)),
      foldl_addNode keys _ distinct fresh']
    simp

/-- `addEdge` between two nodes of the graph inserts the target into the source's set. -/
theorem addEdge_of_mem {graph : DependencyGraph} {source target : ContinuationId}
    (sourceMem : source ∈ graph.nodes) (targetMem : target ∈ graph.nodes) :
    graph.addEdge source target = graph.map fun entry =>
      if entry.1 = source then (entry.1, entry.2.insert target) else entry := by
  rw [addEdge, addNode_of_mem sourceMem, addNode_of_mem targetMem]

/-- `addEdge` from a node to each of some nodes, in turn, inserts them into its set in turn. -/
theorem foldl_addEdge (source : ContinuationId) :
    ∀ (targets : List ContinuationId) (graph : DependencyGraph), source ∈ graph.nodes →
      (∀ target ∈ targets, target ∈ graph.nodes) →
      targets.foldl (fun graph target => graph.addEdge source target) graph =
        graph.map fun entry =>
          if entry.1 = source then (entry.1, targets.foldl (fun set target => set.insert target) entry.2)
          else entry
  | [], graph, _, _ => by simp
  | target :: targets, graph, sourceMem, targetsMem => by
    have sameNodes : nodes (graph.map fun entry : ContinuationId × List ContinuationId =>
        if entry.1 = source then (entry.1, entry.2.insert target) else entry) = graph.nodes := by
      simp only [nodes, List.map_map]
      congr 1
      funext entry
      simp only [Function.comp_apply]
      split_ifs <;> rfl
    rw [List.foldl_cons, addEdge_of_mem sourceMem (targetsMem _ (List.mem_cons_self _ _)),
      foldl_addEdge source targets _ (sameNodes ▸ sourceMem)
        fun target' member => sameNodes ▸ targetsMem _ (List.mem_cons_of_mem _ member),
      List.map_map]
    congr 1
    funext entry
    by_cases isSource : entry.1 = source <;> simp [isSource]

/-- Inserting distinct new targets one by one puts each in front of the ones before. -/
theorem foldl_insert :
    ∀ (targets targets' : List ContinuationId), targets.Nodup → (∀ t ∈ targets, t ∉ targets') →
      targets.foldl (fun set target => set.insert target) targets' = targets.reverse ++ targets'
  | [], _, _, _ => rfl
  | target :: targets, targets', distinct, fresh => by
    obtain ⟨notLater, distinct⟩ := List.nodup_cons.mp distinct
    rw [List.foldl_cons, List.insert_of_not_mem (fresh _ (List.mem_cons_self _ _)),
      foldl_insert targets _ distinct fun t later member => (List.mem_cons.mp member).elim
        (fun (same : t = target) => notLater (same ▸ later)) (fresh t (List.mem_cons_of_mem _ later)),
      List.reverse_cons, List.append_assoc, List.singleton_append]

/-- Reordering the set of every node, one after another, keeps a graph built. -/
theorem Built.reorderEach :
    ∀ (before : DependencyGraph) {rest rest' : DependencyGraph}, Built (before ++ rest) →
      List.Forall₂ (fun entry entry' => entry.1 = entry'.1 ∧ entry.2.Perm entry'.2) rest rest' →
      Built (before ++ rest')
  | _, _, _, built, .nil => built
  | before, entry :: rest, entry' :: rest', built, .cons ⟨sameKey, perm⟩ others => by
    have reordered : Built (before ++ entry' :: rest) := by
      obtain ⟨key, targets⟩ := entry
      obtain ⟨key', targets'⟩ := entry'
      subst sameKey
      exact built.reorderTargets perm
    have regrouped := List.append_cons before entry' rest ▸ reordered
    exact List.append_cons before entry' rest' ▸ Built.reorderEach _ regrouped others

/-- A simple cycle is a cycle of the dependency relation. -/
theorem IsCycle.transGen {graph : DependencyGraph} {cycle : List ContinuationId}
    (isCycle : graph.IsCycle cycle) : ∃ node, Relation.TransGen graph.Edge node node := by
  obtain ⟨first, rest, rfl, -, chain⟩ := isCycle
  cases rest with
  | nil => exact ⟨first, .single (List.chain'_pair.mp chain)⟩
  | cons second more =>
    obtain ⟨edge, chain⟩ := List.chain_cons.mp chain
    exact ⟨first, .head' edge (List.relationReflTransGen_of_exists_chain _ chain (by simp))⟩

/-! ## Every recorded cycle is a simple cycle -/

section Route

variable {graph : DependencyGraph}

/-- The path of a search of `node`: the recursion stack in the order of pushing, and with `node`
appended a duplicate-free chain of edges. -/
structure Route (graph : DependencyGraph) (node : ContinuationId)
    (recursionStack path : List ContinuationId) : Prop where
  reversed : path = recursionStack.reverse
  chain : (path ++ [node]).Chain' graph.Edge
  nodup : (path ++ [node]).Nodup

/-- The route of a search that `findCycles` or `hasCycles` starts. -/
theorem Route.start (node : ContinuationId) : Route graph node [] [] :=
  ⟨rfl, List.chain'_singleton _, List.nodup_singleton _⟩

theorem Route.mem_path {node x : ContinuationId} {recursionStack path : List ContinuationId}
    (route : Route graph node recursionStack path) :
    x ∈ path ++ [node] ↔ x ∈ node :: recursionStack := by
  rw [route.reversed, ← List.reverse_cons, List.mem_reverse]

/-- The search of a successor of `node` off the recursion stack extends the route by `node`. -/
theorem Route.push {node adjacent : ContinuationId} {recursionStack path : List ContinuationId}
    (route : Route graph node recursionStack path) (edge : graph.Edge node adjacent)
    (offStack : adjacent ∉ node :: recursionStack) :
    Route graph adjacent (node :: recursionStack) (path ++ [node]) where
  reversed := by rw [route.reversed, List.reverse_cons]
  chain := List.chain'_append.mpr ⟨route.chain, List.chain'_singleton _, fun x last y first => by
    simp at last first
    subst last first
    exact edge⟩
  nodup := List.nodup_append.mpr ⟨route.nodup, List.nodup_singleton _,
    List.disjoint_singleton.mpr fun onPath => offStack (route.mem_path.mp onPath)⟩

/-- The cycle recorded when `node` depends on `adjacent`, a node on the recursion stack, is the
path from `adjacent` closed by `adjacent`: a simple cycle. -/
theorem Route.isCycle {node adjacent : ContinuationId} {recursionStack path : List ContinuationId}
    (route : Route graph node recursionStack path) (edge : graph.Edge node adjacent)
    {cycleStart : List ContinuationId}
    (found : (path ++ [node]).dropWhile (· != adjacent) = cycleStart) (nonempty : cycleStart ≠ []) :
    graph.IsCycle (cycleStart ++ [adjacent]) := by
  obtain ⟨first, rest, rfl⟩ := List.exists_cons_of_ne_nil nonempty
  have isFirst : first = adjacent := by
    have head := List.head_dropWhile_not (· != adjacent) (path ++ [node]) (found ▸ nonempty)
    simpa [found] using head
  subst isFirst
  have suffix : first :: rest <:+ path ++ [node] := found ▸ List.dropWhile_suffix _
  obtain ⟨before, split⟩ := id suffix
  have last : (first :: rest).getLast? = some node := by
    have := congrArg List.getLast? split
    rw [List.getLast?_append, List.getLast?_append, List.getLast?_singleton] at this
    simpa using this
  refine ⟨first, rest, rfl, route.nodup.sublist suffix.sublist,
    List.chain'_append.mpr ⟨route.chain.suffix suffix, List.chain'_singleton _, ?_⟩⟩
  intro x isLast y isHead
  rw [last, Option.mem_some_iff] at isLast
  rw [List.head?_cons, Option.mem_some_iff] at isHead
  exact isLast ▸ isHead ▸ edge

/-- Every cycle a search records is a simple cycle. -/
theorem dfsCycleDetection_isCycle :
    ∀ fuel node visited recursionStack path cycles, Route graph node recursionStack path →
      (∀ cycle ∈ cycles, graph.IsCycle cycle) →
      ∀ cycle ∈ (graph.dfsCycleDetection fuel node visited recursionStack path cycles).2,
        graph.IsCycle cycle
  | 0, _, _, _, _, _, _, recorded => recorded
  | fuel + 1, node, visited, recursionStack, path, cycles, route, recorded => by
    refine List.foldlRecOn (motive := fun search : Search => ∀ cycle ∈ search.2, graph.IsCycle cycle)
      _ _ _ recorded fun search recorded' adjacent edge => ?_
    unfold visitAdjacent
    split_ifs with onStack visitedAdjacent
    · split
      · exact recorded'
      · rename_i nonempty
        intro cycle member
        rcases List.mem_append.mp member with old | new
        · exact recorded' cycle old
        · rw [List.mem_singleton.mp new]
          exact route.isCycle edge rfl nonempty
    · exact recorded'
    · exact dfsCycleDetection_isCycle fuel adjacent _ _ _ _ (route.push edge onStack) recorded'

end Route

/-! ## `findCycles` against `hasCycles` -/

section FindCycles

variable {graph : DependencyGraph}

/-- `findCycles`' outer loop records only cycles. -/
theorem findCyclesFrom_isCycle :
    ∀ (pending : List ContinuationId) (search : Search), (∀ cycle ∈ search.2, graph.IsCycle cycle) →
      ∀ cycle ∈ (graph.findCyclesFrom pending search).2, graph.IsCycle cycle
  | [], _, recorded => recorded
  | node :: rest, search, recorded => by
    unfold findCyclesFrom
    split_ifs
    · exact findCyclesFrom_isCycle rest search recorded
    · exact findCyclesFrom_isCycle rest _
        (dfsCycleDetection_isCycle _ _ _ _ _ _ (.start node) recorded)

/-- `findCycles`' outer loop only adds to what it has visited and found. -/
theorem findCyclesFrom_grows :
    ∀ (pending : List ContinuationId) (search : Search),
      Grows search (graph.findCyclesFrom pending search)
  | [], search => .refl search
  | node :: rest, search => by
    unfold findCyclesFrom
    split_ifs
    · exact findCyclesFrom_grows rest search
    · exact (dfsCycleDetection_grows graph _ _ _ _ _ _).trans (findCyclesFrom_grows rest _)

/-- Until a search records a cycle, the loop of `findCycles` makes the searches of `hasCycles`;
so when it records none, `hasCycles` reports none. -/
theorem hasCyclesFrom_of_findCyclesFrom :
    ∀ (pending visited : List ContinuationId), (graph.findCyclesFrom pending (visited, [])).2 = [] →
      graph.hasCyclesFrom pending visited = false
  | [], _, _ => rfl
  | node :: rest, visited, empty => by
    unfold findCyclesFrom at empty
    unfold hasCyclesFrom
    dsimp only at empty ⊢
    split_ifs at empty ⊢ with visitedNode found
    · exact hasCyclesFrom_of_findCyclesFrom rest visited empty
    · rw [show graph.dfsCycleDetection graph.length node visited [] [] [] =
          ((graph.dfsCycleDetection graph.length node visited [] [] []).1, []) from
        Prod.ext rfl (List.isEmpty_iff.mp found)] at empty
      exact hasCyclesFrom_of_findCyclesFrom rest _ empty
    · have recorded : (graph.dfsCycleDetection graph.length node visited [] [] []).2 <+:
          (graph.findCyclesFrom rest (graph.dfsCycleDetection graph.length node visited [] [] [])).2 :=
        (findCyclesFrom_grows rest _).cycles
      rw [empty, List.prefix_nil] at recorded
      simp [recorded] at found

end FindCycles

/-! ## The contract of the searches -/

/-- For every graph built by `addNode` and `addEdge`: the search from an unvisited node needs no
more fuel than the graph's size and expands each node once, `hasCycles` reports exactly the
graphs with a cycle, `findCycles` reports one exactly then, and every cycle it reports is one. -/
theorem dependencyGraph_cycle_detection (graph : DependencyGraph) (built : graph.Built) :
    (∀ node ∈ graph.nodes, ∀ visited, node ∉ visited → ∀ cycles extra,
      graph.dfsCycleDetection (graph.length + extra) node visited [] [] cycles =
          graph.dfsCycleDetection graph.length node visited [] [] cycles ∧
        ∃ expanded, (graph.dfsCycleDetection graph.length node visited [] [] cycles).1 =
          expanded ++ visited ∧ expanded.Nodup ∧ expanded.Disjoint visited) ∧
    (graph.hasCycles = true ↔ ∃ node, Relation.TransGen graph.Edge node node) ∧
    (graph.findCycles ≠ [] ↔ graph.hasCycles = true) ∧
    ∀ cycle ∈ graph.findCycles, graph.IsCycle cycle := by
  have targets := built.wellFormed.targets
  have recorded : ∀ cycle ∈ graph.findCycles, graph.IsCycle cycle :=
    findCyclesFrom_isCycle _ _ fun _ member => absurd member (List.not_mem_nil _)
  refine ⟨fun node member visited fresh cycles extra => ⟨?_, dfsCycleDetection_expands _ _ _ _ _ _
    fresh⟩, hasCycles_iff graph targets, ⟨fun found => ?_, fun reported empty => ?_⟩, recorded⟩
  · -- A search that `findCycles` or `hasCycles` starts has the fuel it needs.
    exact dfsCycleDetection_fuel_add targets _ _ _ _ _ _ _
      { node_mem := member
        fresh := fresh
        stackVisited := fun _ onStack => absurd onStack (List.not_mem_nil _)
        nodup := List.nodup_nil
        stackNodes := fun _ onStack => absurd onStack (List.not_mem_nil _)
        enough := by simp [nodes] }
  · obtain ⟨cycle, member⟩ := List.exists_mem_of_ne_nil _ found
    exact (hasCycles_iff graph targets).mpr (recorded cycle member).transGen
  · rw [hasCycles, hasCyclesFrom_of_findCyclesFrom _ _ empty] at reported
    cases reported

/-- The graph of `addEdge(1, 2)` then `addEdge(2, 1)`. -/
theorem two_node_cycle_found :
    (addEdge (addEdge [] 1 2) 2 1).findCycles = [[1, 2, 1]] ∧
      (addEdge (addEdge [] 1 2) 2 1).IsCycle [1, 2, 1] :=
  ⟨by decide, (dependencyGraph_cycle_detection _ (.addEdge 2 1 (.addEdge 1 2 .empty))).2.2.2 _
    (by decide)⟩

end DependencyGraph

end Spinscale
