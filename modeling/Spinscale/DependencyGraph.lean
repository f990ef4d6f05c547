import Mathlib.Logic.Relation
import Mathlib.Data.List.Basic
import Mathlib.Data.List.Nodup
import Spinscale.Qutex

/-!
# The dependency graph of the gridlock detector

`DependencyGraph` (`dependencyGraph.h` and `puppetApplication.cpp`) maps each continuation to the
set of continuations it waits for. `hasCycles` runs `dfsCycleDetection` from every node that is
not visited yet and stops as soon as one search has recorded a cycle.

The search's `visited` and `recursionStack` sets and its `path` vector are lists here: only
membership in the sets is tested, and the cycle recorded starts at the first occurrence of the
node on the path (`std::find`). The recursion has a fuel argument, which `hasCycles` sets to the
number of nodes; it is never exhausted, since every nested call is on a node that is not on the
recursion stack.

`hasCycles_iff` is the specification of the search: it reports a cycle exactly when one exists.
A reported cycle is real because every node on the recursion stack reaches the node being searched
(`dfsCycleDetection_sound`). Conversely a search that records nothing leaves every node it
finished `Closed`: the nodes it depends on are finished too, and it lies on no cycle
(`dfsCycleDetection_closed`); once every node is finished the graph is acyclic.
-/

namespace Spinscale

/-- `DependencyGraph::AdjacencyList`: each node with the nodes it depends on, in iteration
order. -/
abbrev DependencyGraph := List (ContinuationId × List ContinuationId)

namespace DependencyGraph

/-- The nodes, in iteration order. -/
def nodes (graph : DependencyGraph) : List ContinuationId :=
  graph.map (·.1)

/-- The set `adjacencyList.find(node)` finds, or none when the node is absent. -/
def adjacent (graph : DependencyGraph) (node : ContinuationId) : List ContinuationId :=
  (graph.lookup node).getD []

/-- `node` depends on `target`. -/
def Edge (graph : DependencyGraph) (node target : ContinuationId) : Prop :=
  target ∈ graph.adjacent node

/-- What a search carries from one iteration to the next: the visited nodes and the cycles
recorded. -/
abbrev Search := List ContinuationId × List (List ContinuationId)

/-- One iteration of `dfsCycleDetection`'s loop over the nodes adjacent to `node`. The recursion
stack is `node :: recursionStack` and `path` ends in `node`. A node on the recursion stack closes a
cycle, recorded from its first occurrence on the path and closed by itself; a node not yet visited
is searched by `recurse`. -/
def visitAdjacent (recurse : ContinuationId → Search → Search) (node : ContinuationId)
    (recursionStack path : List ContinuationId) (search : Search) (adjacent : ContinuationId) :
    Search :=
  if adjacent ∈ node :: recursionStack then
    match path.dropWhile (· != adjacent) with
    | [] => search
    | cycleStart => (search.1, search.2 ++ [cycleStart ++ [adjacent]])
  else if adjacent ∈ search.1 then search
  else recurse adjacent search

/-- `dfsCycleDetection(node, visited, recursionStack, path, cycles)`: mark the node visited and
push it on the recursion stack and the path, visit the adjacent nodes, then pop it again (the
callee's copies of the stack and the path are discarded). -/
def dfsCycleDetection (graph : DependencyGraph) :
    Nat → ContinuationId → List ContinuationId → List ContinuationId → List ContinuationId →
      List (List ContinuationId) → Search
  | 0, _, visited, _, _, cycles => (visited, cycles)
  | fuel + 1, node, visited, recursionStack, path, cycles =>
    (graph.adjacent node).foldl
      (visitAdjacent
        (fun adjacent search => dfsCycleDetection graph fuel adjacent search.1
          (node :: recursionStack) (path ++ [node]) search.2)
        node recursionStack (path ++ [node]))
      (node :: visited, cycles)

/-- The loop of `hasCycles` over `nodes`: search from each node not yet visited, and stop at the
first search that records a cycle. -/
def hasCyclesFrom (graph : DependencyGraph) : List ContinuationId → List ContinuationId → Bool
  | [], _ => false
  | node :: rest, visited =>
    if node ∈ visited then hasCyclesFrom graph rest visited
    else
      let search := graph.dfsCycleDetection graph.length node visited [] [] []
      if search.2.isEmpty then hasCyclesFrom graph rest search.1 else true

/-- `DependencyGraph::hasCycles()`. -/
def hasCycles (graph : DependencyGraph) : Bool :=
  graph.hasCyclesFrom graph.nodes []

/-- An edge comes from an entry of the graph that lists its target. -/
theorem mem_of_edge {graph : DependencyGraph} {node target : ContinuationId}
    (edge : graph.Edge node target) : ∃ targets, (node, targets) ∈ graph ∧ target ∈ targets := by
  induction graph with
  | nil => simp [Edge, adjacent] at edge
  | cons entry graph ih =>
    obtain ⟨key, targets⟩ := entry
    by_cases isKey : node = key
    · subst isKey
      simp only [Edge, adjacent, List.lookup_cons_self, Option.getD_some] at edge
      exact ⟨targets, List.mem_cons_self _ _, edge⟩
    · simp only [Edge, adjacent, List.lookup_cons, beq_false_of_ne isKey] at edge
      obtain ⟨targets', member, listed⟩ := ih edge
      exact ⟨targets', List.mem_cons_of_mem _ member, listed⟩

theorem mem_nodes_of_edge {graph : DependencyGraph} {node target : ContinuationId}
    (edge : graph.Edge node target) : node ∈ graph.nodes :=
  let ⟨_, member, _⟩ := mem_of_edge edge
  List.mem_map_of_mem _ member

/-! ## What every search keeps -/

/-- A search step loses no visited node and no recorded cycle. -/
structure Grows (before after : Search) : Prop where
  visited : before.1 ⊆ after.1
  cycles : before.2 <+: after.2

theorem Grows.refl (search : Search) : Grows search search :=
  ⟨List.Subset.refl _, List.prefix_refl _⟩

theorem Grows.trans {first second third : Search} (grows : Grows first second)
    (grows' : Grows second third) : Grows first third :=
  ⟨grows.visited.trans grows'.visited, grows.cycles.trans grows'.cycles⟩

theorem visitAdjacent_grows {recurse : ContinuationId → Search → Search}
    (grows : ∀ adjacent search, Grows search (recurse adjacent search)) (node : ContinuationId)
    (recursionStack path : List ContinuationId) (search : Search) (adjacent : ContinuationId) :
    Grows search (visitAdjacent recurse node recursionStack path search adjacent) := by
  unfold visitAdjacent
  split_ifs
  · split
    · exact .refl _
    · exact ⟨List.Subset.refl _, List.prefix_append _ _⟩
  · exact .refl _
  · exact grows _ _

theorem foldl_grows {step : Search → ContinuationId → Search}
    (grows : ∀ search adjacent, Grows search (step search adjacent))
    (adjacents : List ContinuationId) (search : Search) : Grows search (adjacents.foldl step search) := by
  induction adjacents generalizing search with
  | nil => exact .refl _
  | cons adjacent adjacents ih => exact (grows search adjacent).trans (ih _)

/-- The search only adds to what it has visited and found. -/
theorem dfsCycleDetection_grows (graph : DependencyGraph) :
    ∀ fuel node visited recursionStack path cycles,
      Grows (visited, cycles) (graph.dfsCycleDetection fuel node visited recursionStack path cycles)
  | 0, _, _, _, _, _ => .refl _
  | fuel + 1, node, visited, _, _, cycles =>
    (show Grows (visited, cycles) (node :: visited, cycles) from
      ⟨List.subset_cons_self _ _, List.prefix_refl _⟩).trans
      (foldl_grows (visitAdjacent_grows
        (fun _ _ => dfsCycleDetection_grows graph fuel _ _ _ _ _) _ _ _) _ _)

theorem mem_dfsCycleDetection (graph : DependencyGraph) {fuel : Nat} (pos : 0 < fuel)
    (node : ContinuationId) (visited recursionStack path : List ContinuationId)
    (cycles : List (List ContinuationId)) :
    node ∈ (graph.dfsCycleDetection fuel node visited recursionStack path cycles).1 := by
  cases fuel with
  | zero => exact absurd pos (Nat.lt_irrefl 0)
  | succ fuel =>
    exact (foldl_grows (visitAdjacent_grows
      (fun _ _ => dfsCycleDetection_grows graph fuel _ _ _ _ _) _ _ _) _ _).visited
      (List.mem_cons_self _ _)

/-! ## The fuel never runs out, and no node is expanded twice -/

section Budget

variable {graph : DependencyGraph}

/-- Where a search of `node` may start for its fuel to last: `node` is a fresh node of the graph,
the recursion stack is a duplicate-free part of the visited nodes and of the graph's nodes, and
the fuel covers every node not on the stack. -/
structure Budget (graph : DependencyGraph) (fuel : Nat) (node : ContinuationId)
    (visited recursionStack : List ContinuationId) : Prop where
  node_mem : node ∈ graph.nodes
  fresh : node ∉ visited
  stackVisited : ∀ x ∈ recursionStack, x ∈ visited
  nodup : recursionStack.Nodup
  stackNodes : ∀ x ∈ recursionStack, x ∈ graph.nodes
  enough : graph.nodes.length ≤ fuel + recursionStack.length

/-- A fresh node of the graph is not on the recursion stack, so the fuel is not exhausted. -/
theorem Budget.fuel_pos {fuel : Nat} {node : ContinuationId}
    {visited recursionStack : List ContinuationId}
    (budget : Budget graph fuel node visited recursionStack) : 0 < fuel := by
  have offStack : node ∉ recursionStack := fun onStack =>
    budget.fresh (budget.stackVisited _ onStack)
  have subperm := List.subperm_of_subset (List.nodup_cons.mpr ⟨offStack, budget.nodup⟩)
    (List.cons_subset.mpr ⟨budget.node_mem, budget.stackNodes⟩)
  have bound := subperm.length_le
  have := budget.enough
  simp only [List.length_cons] at bound
  omega

/-- The search of a fresh successor of `node`, from a state that has visited `node`, has the fuel
left for it. -/
theorem Budget.push (targets : ∀ x y, graph.Edge x y → y ∈ graph.nodes) {fuel : Nat}
    {node adjacent : ContinuationId} {visited recursionStack visited' : List ContinuationId}
    (budget : Budget graph (fuel + 1) node visited recursionStack)
    (edge : graph.Edge node adjacent) (fresh : adjacent ∉ visited')
    (grown : node :: visited ⊆ visited') :
    Budget graph fuel adjacent visited' (node :: recursionStack) where
  node_mem := targets _ _ edge
  fresh := fresh
  stackVisited x member :=
    grown (List.mem_cons.mpr ((List.mem_cons.mp member).imp id (budget.stackVisited x)))
  nodup :=
    List.nodup_cons.mpr ⟨fun onStack => budget.fresh (budget.stackVisited _ onStack), budget.nodup⟩
  stackNodes := List.forall_mem_cons.mpr ⟨budget.node_mem, budget.stackNodes⟩
  enough := by simpa [Nat.add_assoc, Nat.add_comm 1] using budget.enough

/-- Two loops over the same list agree when their steps agree on every state an invariant
admits, and the invariant is kept. -/
theorem foldl_congr_of_invariant {α β : Type} {step step' : β → α → β} (kept : β → Prop) :
    ∀ (items : List α) (init : β), kept init →
      (∀ state item, item ∈ items → kept state →
        step state item = step' state item ∧ kept (step state item)) →
      items.foldl step init = items.foldl step' init
  | [], _, _, _ => rfl
  | item :: items, init, holds, agree => by
    obtain ⟨same, holds'⟩ := agree init item (List.mem_cons_self _ _) holds
    rw [List.foldl_cons, List.foldl_cons, ← same]
    exact foldl_congr_of_invariant kept items _ holds' fun state item' member =>
      agree state item' (List.mem_cons_of_mem _ member)

/-- With the fuel a `Budget` asks for, more fuel gives the same search: the fuel never runs
out. -/
theorem dfsCycleDetection_fuel_add (targets : ∀ x y, graph.Edge x y → y ∈ graph.nodes) :
    ∀ fuel extra node visited recursionStack path cycles,
      Budget graph fuel node visited recursionStack →
      graph.dfsCycleDetection (fuel + extra) node visited recursionStack path cycles =
        graph.dfsCycleDetection fuel node visited recursionStack path cycles
  | 0, _, _, _, _, _, _, budget => absurd budget.fuel_pos (Nat.lt_irrefl 0)
  | fuel + 1, extra, node, visited, recursionStack, path, cycles, budget => by
    rw [Nat.add_right_comm, dfsCycleDetection, dfsCycleDetection]
    refine foldl_congr_of_invariant (fun search : Search => node :: visited ⊆ search.1) _ _
      (List.Subset.refl _) fun search adjacent edge grown => ⟨?_, ?_⟩
    · unfold visitAdjacent
      split_ifs with onStack visitedAdjacent
      · rfl
      · rfl
      · exact dfsCycleDetection_fuel_add targets fuel extra adjacent _ _ _ _
          (budget.push targets edge visitedAdjacent grown)
    · exact grown.trans (visitAdjacent_grows
        (fun _ _ => dfsCycleDetection_grows graph _ _ _ _ _ _) _ _ _ _ _).visited

/-- A search expands only nodes not yet visited, each once: the visited nodes grow by a
duplicate-free list of new nodes. -/
theorem dfsCycleDetection_expands :
    ∀ fuel node visited recursionStack path cycles, node ∉ visited →
      ∃ expanded, (graph.dfsCycleDetection fuel node visited recursionStack path cycles).1 =
        expanded ++ visited ∧ expanded.Nodup ∧ expanded.Disjoint visited
  | 0, _, _, _, _, _, _ => ⟨[], rfl, List.nodup_nil, List.disjoint_nil_left _⟩
  | fuel + 1, node, visited, recursionStack, path, cycles, fresh => by
    refine List.foldlRecOn (motive := fun search : Search => ∃ expanded,
        search.1 = expanded ++ visited ∧ expanded.Nodup ∧ expanded.Disjoint visited) _ _ _
      ⟨[node], rfl, List.nodup_singleton _, List.singleton_disjoint.mpr fresh⟩
      fun search ⟨expanded, split, distinct, disjoint⟩ adjacent _ => ?_
    unfold visitAdjacent
    split_ifs with onStack visitedAdjacent
    · split
      · exact ⟨expanded, split, distinct, disjoint⟩
      · exact ⟨expanded, split, distinct, disjoint⟩
    · exact ⟨expanded, split, distinct, disjoint⟩
    · obtain ⟨expanded', split', distinct', disjoint'⟩ :=
        dfsCycleDetection_expands fuel adjacent search.1 (node :: recursionStack) (path ++ [node])
          search.2 visitedAdjacent
      rw [split] at disjoint'
      refine ⟨expanded' ++ expanded, split'.trans (by rw [split, List.append_assoc]),
        List.nodup_append.mpr ⟨distinct', distinct, List.disjoint_append_right.mp disjoint' |>.1⟩,
        List.disjoint_append_left.mpr ⟨List.disjoint_append_right.mp disjoint' |>.2, disjoint⟩⟩

end Budget

/-! ## A reported cycle is a cycle -/

section Sound

variable {graph : DependencyGraph}

/-- Recorded cycles witness a cycle of the graph. -/
def Sound (graph : DependencyGraph) (cycles : List (List ContinuationId)) : Prop :=
  cycles ≠ [] → ∃ node, Relation.TransGen graph.Edge node node

theorem visitAdjacent_sound {recurse : ContinuationId → Search → Search}
    {adjacent : ContinuationId}
    (recursive : ∀ search, Sound graph search.2 → Sound graph (recurse adjacent search).2)
    {node : ContinuationId} {recursionStack path : List ContinuationId}
    (reaches : ∀ x ∈ node :: recursionStack, Relation.ReflTransGen graph.Edge x node)
    (edge : graph.Edge node adjacent) {search : Search} (sound : Sound graph search.2) :
    Sound graph (visitAdjacent recurse node recursionStack path search adjacent).2 := by
  unfold visitAdjacent
  split_ifs with onStack
  · split
    · exact sound
    · exact fun _ => ⟨adjacent, .tail' (reaches adjacent onStack) edge⟩
  · exact sound
  · exact recursive search sound

/-- Every node on the recursion stack reaches the node searched, so a back edge closes a cycle. -/
theorem dfsCycleDetection_sound :
    ∀ fuel node visited recursionStack path cycles,
      (∀ x ∈ node :: recursionStack, Relation.ReflTransGen graph.Edge x node) →
      Sound graph cycles →
      Sound graph (graph.dfsCycleDetection fuel node visited recursionStack path cycles).2
  | 0, _, _, _, _, _, _, sound => sound
  | fuel + 1, node, visited, recursionStack, path, cycles, reaches, sound => by
    refine List.foldlRecOn (motive := fun search : Search => Sound graph search.2) _ _ _ sound
      fun search sound' adjacent edge => visitAdjacent_sound (fun search' sound'' =>
        dfsCycleDetection_sound fuel adjacent _ _ _ _ (fun x member => ?_) sound'') reaches edge
        sound'
    rcases List.mem_cons.mp member with rfl | onStack
    · exact .refl
    · exact (reaches x onStack).tail edge

end Sound

/-! ## A search that records nothing leaves an acyclic, closed set of finished nodes -/

section Complete

variable {graph : DependencyGraph}

/-- Every visited node off the recursion stack is finished: the nodes it depends on are finished
too, and it lies on no cycle. -/
def Closed (graph : DependencyGraph) (visited recursionStack : List ContinuationId) : Prop :=
  ∀ x ∈ visited, x ∉ recursionStack →
    (∀ y, graph.Edge x y → y ∈ visited ∧ y ∉ recursionStack) ∧
      ¬ Relation.TransGen graph.Edge x x

/-- What a finished node reaches is finished. -/
theorem Closed.reaches {visited recursionStack : List ContinuationId}
    (closed : graph.Closed visited recursionStack) {x y : ContinuationId} (visitedX : x ∈ visited)
    (offStack : x ∉ recursionStack) (reach : Relation.ReflTransGen graph.Edge x y) :
    y ∈ visited ∧ y ∉ recursionStack := by
  induction reach with
  | refl => exact ⟨visitedX, offStack⟩
  | tail _ edge ih => exact (closed _ ih.1 ih.2).1 _ edge

/-- Where a search of `node` starts: it has the fuel it needs, the recursion stack lies on the
path, and the finished nodes are closed. -/
structure Entry (graph : DependencyGraph) (fuel : Nat) (node : ContinuationId)
    (visited recursionStack path : List ContinuationId)
    extends Budget graph fuel node visited recursionStack : Prop where
  stackOnPath : ∀ x ∈ recursionStack, x ∈ path
  closed : graph.Closed visited recursionStack

/-- The stack with `node` pushed lies on the path with `node` appended. -/
theorem Entry.mem_path {fuel : Nat} {node x : ContinuationId}
    {visited recursionStack path : List ContinuationId}
    (entry : Entry graph fuel node visited recursionStack path)
    (member : x ∈ node :: recursionStack) :
    x ∈ path ++ [node] := by
  rcases List.mem_cons.mp member with rfl | onStack
  · exact List.mem_append_right _ (List.mem_singleton_self _)
  · exact List.mem_append_left _ (entry.stackOnPath _ onStack)

/-- The search of a fresh successor of `node`, from a state that has visited `node` and whose
finished nodes are closed, starts where `Entry` asks. -/
theorem Entry.push (targets : ∀ x y, graph.Edge x y → y ∈ graph.nodes) {fuel : Nat}
    {node adjacent : ContinuationId} {visited recursionStack path visited' : List ContinuationId}
    (entry : Entry graph (fuel + 1) node visited recursionStack path)
    (edge : graph.Edge node adjacent) (fresh : adjacent ∉ visited')
    (grown : node :: visited ⊆ visited')
    (closed : graph.Closed visited' (node :: recursionStack)) :
    Entry graph fuel adjacent visited' (node :: recursionStack) (path ++ [node]) :=
  { entry.toBudget.push targets edge fresh grown with
    stackOnPath := fun _ => entry.mem_path
    closed := closed }

/-- Pushing a fresh node keeps the finished nodes closed. -/
theorem Closed.push {visited recursionStack : List ContinuationId} {node : ContinuationId}
    (closed : graph.Closed visited recursionStack) (fresh : node ∉ visited) :
    graph.Closed (node :: visited) (node :: recursionStack) := by
  intro x member offStack
  have visitedX : x ∈ visited := (List.mem_cons.mp member).resolve_left fun isNode =>
    offStack (isNode ▸ List.mem_cons_self _ _)
  obtain ⟨successors, acyclic⟩ :=
    closed x visitedX fun onStack => offStack (List.mem_cons_of_mem _ onStack)
  refine ⟨fun y edge => ⟨List.mem_cons_of_mem _ (successors y edge).1, fun onStack => ?_⟩,
    acyclic⟩
  rcases List.mem_cons.mp onStack with rfl | onStack
  · exact fresh (successors _ edge).1
  · exact (successors y edge).2 onStack

/-- Popping `node` once every node it depends on is finished: it is finished, and on no cycle. -/
theorem Closed.pop {visited recursionStack : List ContinuationId} {node : ContinuationId}
    (closed : graph.Closed visited (node :: recursionStack))
    (finished : ∀ y, graph.Edge node y → y ∈ visited ∧ y ∉ node :: recursionStack) :
    graph.Closed visited recursionStack := by
  intro x member offStack
  by_cases isNode : x = node
  · subst isNode
    refine ⟨fun y edge => ?_, fun cycle => ?_⟩
    · obtain ⟨visitedY, offStackY⟩ := finished y edge
      exact ⟨visitedY, fun onStack => offStackY (List.mem_cons_of_mem _ onStack)⟩
    · obtain ⟨y, edge, reach⟩ := Relation.TransGen.head'_iff.mp cycle
      obtain ⟨visitedY, offStackY⟩ := finished y edge
      exact (closed.reaches visitedY offStackY reach).2 (List.mem_cons_self _ _)
  · obtain ⟨successors, acyclic⟩ := closed x member fun onStack =>
      (List.mem_cons.mp onStack).elim isNode offStack
    exact ⟨fun y edge => ⟨(successors y edge).1,
      fun onStack => (successors y edge).2 (List.mem_cons_of_mem _ onStack)⟩, acyclic⟩

/-- The nodes a search finishes form a closed set, given the nodes it depends on are nodes. -/
theorem dfsCycleDetection_closed (targets : ∀ x y, graph.Edge x y → y ∈ graph.nodes) :
    ∀ fuel node visited recursionStack path,
      Entry graph fuel node visited recursionStack path →
      (graph.dfsCycleDetection fuel node visited recursionStack path []).2 = [] →
      graph.Closed (graph.dfsCycleDetection fuel node visited recursionStack path []).1
        recursionStack
  | 0, _, _, _, _, entry, _ => absurd entry.fuel_pos (Nat.lt_irrefl 0)
  | fuel + 1, node, visited, recursionStack, path, entry, empty => by
    set step := visitAdjacent (fun adjacent search => graph.dfsCycleDetection fuel adjacent
      search.1 (node :: recursionStack) (path ++ [node]) search.2) node recursionStack
      (path ++ [node])
    have stepGrows : ∀ search adjacent, Grows search (step search adjacent) :=
      visitAdjacent_grows (fun _ _ => dfsCycleDetection_grows graph fuel _ _ _ _ _) _ _ _
    -- The invariant of the loop: the stack is visited and the finished nodes are closed.
    let Holds := fun search : Search =>
      node :: visited ⊆ search.1 ∧ graph.Closed search.1 (node :: recursionStack)
    have visit : ∀ search adjacent, graph.Edge node adjacent → search.2 = [] → Holds search →
        (step search adjacent).2 = [] →
        Holds (step search adjacent) ∧ adjacent ∈ (step search adjacent).1 ∧
          adjacent ∉ node :: recursionStack := by
      intro search adjacent edge noCycles holds stepEmpty
      simp only [step, visitAdjacent] at stepEmpty ⊢
      split_ifs at stepEmpty ⊢ with onStack visited'
      · split at stepEmpty
        · rename_i dropped
          have := List.dropWhile_eq_nil_iff.mp dropped adjacent (entry.mem_path onStack)
          simp at this
        · simp at stepEmpty
      · exact ⟨holds, visited', onStack⟩
      · rw [noCycles] at stepEmpty ⊢
        have entry' := entry.push targets edge visited' holds.1 holds.2
        exact ⟨⟨holds.1.trans (dfsCycleDetection_grows graph fuel _ _ _ _ []).visited,
            dfsCycleDetection_closed targets fuel _ _ _ _ entry' stepEmpty⟩,
          mem_dfsCycleDetection graph entry'.fuel_pos _ _ _ _ _, onStack⟩
    have fold : ∀ (adjacents : List ContinuationId) (search : Search),
        (∀ adjacent ∈ adjacents, graph.Edge node adjacent) → search.2 = [] → Holds search →
        (adjacents.foldl step search).2 = [] →
        Holds (adjacents.foldl step search) ∧ ∀ adjacent ∈ adjacents,
          adjacent ∈ (adjacents.foldl step search).1 ∧ adjacent ∉ node :: recursionStack := by
      intro adjacents
      induction adjacents with
      | nil =>
        exact fun search _ _ holds _ => ⟨holds, fun _ member => absurd member (List.not_mem_nil _)⟩
      | cons adjacent adjacents ih =>
        intro search edges noCycles holds foldEmpty
        have later := foldl_grows stepGrows adjacents (step search adjacent)
        have stepEmpty : (step search adjacent).2 = [] :=
          List.prefix_nil.mp (foldEmpty ▸ later.cycles)
        obtain ⟨holds', visited', offStack'⟩ :=
          visit search adjacent (edges _ (List.mem_cons_self _ _)) noCycles holds stepEmpty
        obtain ⟨holdsAll, finished⟩ :=
          ih _ (fun _ member => edges _ (List.mem_cons_of_mem _ member)) stepEmpty holds' foldEmpty
        refine ⟨holdsAll, fun adjacent' member => ?_⟩
        rcases List.mem_cons.mp member with rfl | member
        · exact ⟨later.visited visited', offStack'⟩
        · exact finished adjacent' member
    obtain ⟨⟨-, closed⟩, finished⟩ := fold _ _ (fun _ edge => edge) rfl
      ⟨List.Subset.refl _, entry.closed.push entry.fresh⟩ empty
    exact closed.pop finished

/-- A search from each node in turn that records no cycle finishes every node, on no cycle. -/
theorem hasCyclesFrom_acyclic (targets : ∀ x y, graph.Edge x y → y ∈ graph.nodes) :
    ∀ (pending visited : List ContinuationId), (∀ x ∈ pending, x ∈ graph.nodes) →
      graph.Closed visited [] → graph.hasCyclesFrom pending visited = false →
      ∀ x ∈ pending, ¬ Relation.TransGen graph.Edge x x
  | [], _, _, _, _ => fun _ member => absurd member (List.not_mem_nil _)
  | node :: rest, visited, mem, closed, noCycle => by
    have restMem := fun x member => mem x (List.mem_cons_of_mem node member)
    unfold hasCyclesFrom at noCycle
    dsimp only at noCycle
    split_ifs at noCycle with visitedNode found
    · intro x member
      rcases List.mem_cons.mp member with rfl | member
      · exact (closed x visitedNode (List.not_mem_nil _)).2
      · exact hasCyclesFrom_acyclic targets rest visited restMem closed noCycle x member
    · have entry : Entry graph graph.length node visited [] [] :=
        { node_mem := mem node (List.mem_cons_self _ _)
          fresh := visitedNode
          stackVisited := fun _ member => absurd member (List.not_mem_nil _)
          stackOnPath := fun _ member => absurd member (List.not_mem_nil _)
          nodup := List.nodup_nil
          stackNodes := fun _ member => absurd member (List.not_mem_nil _)
          enough := by simp [nodes]
          closed := closed }
      have closed' := dfsCycleDetection_closed targets _ _ _ _ _ entry (List.isEmpty_iff.mp found)
      intro x member
      rcases List.mem_cons.mp member with rfl | member
      · exact (closed' x (mem_dfsCycleDetection graph entry.fuel_pos _ _ _ _ _)
          (List.not_mem_nil _)).2
      · exact hasCyclesFrom_acyclic targets rest _ restMem closed' noCycle x member

end Complete

/-- A search from each node in turn reports a cycle only when there is one. -/
theorem hasCyclesFrom_sound {graph : DependencyGraph} :
    ∀ (pending visited : List ContinuationId), graph.hasCyclesFrom pending visited = true →
      ∃ node, Relation.TransGen graph.Edge node node
  | [], _, found => absurd found (by simp [hasCyclesFrom])
  | node :: rest, visited, found => by
    unfold hasCyclesFrom at found
    dsimp only at found
    split_ifs at found with visitedNode empty
    · exact hasCyclesFrom_sound rest visited found
    · exact hasCyclesFrom_sound rest _ found
    · exact dfsCycleDetection_sound graph.length node visited [] [] []
        (fun x member => by rw [List.mem_singleton.mp member]) (fun nonempty => absurd rfl nonempty)
        (by simpa using empty)

/-- `hasCycles` reports a cycle exactly when the graph has one, given every node it depends on is
a node of the graph. -/
theorem hasCycles_iff (graph : DependencyGraph)
    (targets : ∀ x y, graph.Edge x y → y ∈ graph.nodes) :
    graph.hasCycles = true ↔ ∃ node, Relation.TransGen graph.Edge node node := by
  refine ⟨hasCyclesFrom_sound _ _, fun ⟨node, cycle⟩ => ?_⟩
  by_contra noCycle
  obtain ⟨_, edge, -⟩ := Relation.TransGen.head'_iff.mp cycle
  exact hasCyclesFrom_acyclic targets _ _ (fun _ member => member)
    (fun _ member => absurd member (List.not_mem_nil _)) (by simpa using noCycle) node
    (mem_nodes_of_edge edge) cycle

end DependencyGraph

end Spinscale
