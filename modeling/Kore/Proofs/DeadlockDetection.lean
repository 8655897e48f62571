import Kore.Deadlock.Detector

/-! The detector finds a deadlock just when the waits have a cycle. What it reports is the
whole path of its search from the client where it started, and that path need not be a
cycle: the search may have entered one on the way. -/

namespace Kore.Proofs.DeadlockDetection
open Foundation Foundation.DepthFirst Deadlock List DeadlockDetector Iteration Finmap

variable {graph : List WaitEdge} {client start target : Bytes} {path : List Bytes} {resources : List String}

def WaitsFor (graph : List WaitEdge) (waiter holder : Bytes) : Prop := ∃ edge ∈ graph, edge.waiter = waiter ∧ edge.holder = holder

def waits (graph : List WaitEdge) (client : Bytes) : List (Bytes × String) :=
  (graph.filter (·.waiter = client)).map fun edge => (edge.holder, edge.resource)

theorem mem_waits {holder : Bytes} {resource : String} :
    (holder, resource) ∈ waits graph client ↔ ∃ edge ∈ graph, edge.waiter = client ∧ edge.holder = holder ∧ edge.resource = resource := by
  simp [waits, and_assoc]

theorem edge_waits : Edge (waits graph) = WaitsFor graph := by
  funext waiter holder
  apply propext
  constructor
  · intro ⟨resource, member⟩
    obtain ⟨edge, inside, sameWaiter, sameHolder, _⟩ := mem_waits.mp member
    exact ⟨edge, inside, sameWaiter, sameHolder⟩
  · intro ⟨edge, inside, sameWaiter, sameHolder⟩
    exact ⟨edge.resource, mem_waits.mpr ⟨edge, inside, sameWaiter, sameHolder, rfl⟩⟩

private theorem lookup_foldl_addEdge (graph : List WaitEdge) (adjacency : Adjacency) (client : Bytes) :
    (((graph.foldl addEdge adjacency).lookup client).getD [] = (adjacency.lookup client).getD [] ++ waits graph client) ∧
      (client ∈ graph.foldl addEdge adjacency ↔ client ∈ adjacency ∨ ∃ edge ∈ graph, edge.waiter = client) := by
  induction graph generalizing adjacency with
  | nil =>
    refine ⟨(append_nil _).symm, ⟨.inl, ?_⟩⟩
    intro either
    exact either.elim id fun ⟨_, missing, _⟩ => absurd missing not_mem_nil
  | cons edge graph ih =>
    obtain ⟨lists, members⟩ := ih (addEdge adjacency edge)
    rw [foldl_cons, lists, members]
    by_cases same : edge.waiter = client
    · constructor
      · rw [addEdge, same, lookup_insert, Option.getD_some, waits, waits, filter_cons_of_pos (by simpa using same),
          map_cons, append_assoc]
        rfl
      · rw [addEdge, mem_insert]
        simp [same]
    · constructor
      · rw [addEdge, lookup_insert_of_ne _ (Ne.symm same), waits, waits, filter_cons_of_neg (by simpa using same)]
      · rw [addEdge, mem_insert]
        simp [same, Ne.symm same]

theorem neighbors_adjacencyOf (graph : List WaitEdge) : neighbors (adjacencyOf graph) = waits graph := by
  funext client
  exact (lookup_foldl_addEdge graph ∅ client).1

theorem mem_adjacencyOf :
    client ∈ adjacencyOf graph ↔ ∃ edge ∈ graph, edge.waiter = client :=
  (lookup_foldl_addEdge graph ∅ client).2.trans (or_iff_right (notMem_empty))

private theorem source_of_waits (some : waits graph client ≠ []) :
    client ∈ (graph.map WaitEdge.waiter).toFinset := by
  obtain ⟨⟨holder, resource⟩, member⟩ := exists_mem_of_ne_nil _ some
  obtain ⟨edge, inside, same, _⟩ := mem_waits.mp member
  exact mem_toFinset.mpr (mem_map.mpr ⟨edge, inside, same⟩)

/-- A walk that the search stops with: it follows the first waits towards a cycle up to the first client met again. -/
structure Stopped (graph : List WaitEdge) (start : Bytes) (path : List Bytes) (resources : List String) (target : Bytes) : Prop where
  walk : Walk (Foremost (waits graph)) start path resources target
  distinct : path.Nodup
  met : target ∈ path

theorem Stopped.reachesCycle
    (stopped : Stopped graph start path resources target) : ReachesCycle (waits graph) start :=
  stopped.walk.reachesCycle (fun _ _ label taken => ⟨label, taken.edge⟩) stopped.met

private theorem findCycleDfs_spec :
    (∃ path resources target, findCycleDfs (graph.length + 1) start (adjacencyOf graph) = some (some (path, resources)) ∧
        Stopped graph start path resources target) ∨
      findCycleDfs (graph.length + 1) start (adjacencyOf graph) = some none ∧ ¬ ReachesCycle (waits graph) start := by
  have few : (graph.map WaitEdge.waiter).toFinset.card < graph.length + 1 := by
    apply Nat.lt_succ_of_le
    exact (toFinset_card_le _).trans_eq (length_map _)
  unfold findCycleDfs dfsVisit
  rw [neighbors_adjacencyOf]
  rcases visit_start (fun _ some => source_of_waits some) few start with ⟨found, target, stops, distinct, met, walk⟩ | ⟨after, ends, none⟩
  · refine .inl ⟨found.path, found.labels, target, ?_, walk, distinct, met⟩
    have first : found.path.findIdx? (· == start) = some 0 := by
      obtain ⟨rest, shape⟩ := walk.exists_tail
      rw [shape, findIdx?_cons, if_pos (beq_self_eq_true start)]
    simp [stops, first]
  · exact .inr ⟨by simp only [ends], none⟩

private theorem firstCycle_spec (clients : List Bytes) :
    (∃ front start back path resources target, clients = front ++ start :: back ∧
        (∀ client ∈ front, ¬ ReachesCycle (waits graph) client) ∧ Stopped graph start path resources target ∧
        firstCycle (graph.length + 1) (adjacencyOf graph) clients = some (.deadlock path resources)) ∨
      (∀ client ∈ clients, ¬ ReachesCycle (waits graph) client) ∧
        firstCycle (graph.length + 1) (adjacencyOf graph) clients = some .noDeadlock := by
  induction clients with
  | nil => exact .inr ⟨fun _ missing => absurd missing not_mem_nil, rfl⟩
  | cons client clients ih =>
    rcases findCycleDfs_spec with ⟨path, resources, target, found, stopped⟩ | ⟨ended, none⟩
    · refine .inl ⟨[], client, clients, path, resources, target, rfl, fun _ missing => absurd missing not_mem_nil, stopped, ?_⟩
      rw [firstCycle, found]
    · have passed : ∀ {front}, (∀ earlier ∈ front, ¬ ReachesCycle (waits graph) earlier) →
          ∀ earlier ∈ client :: front, ¬ ReachesCycle (waits graph) earlier := by
        intro front none' earlier member
        rcases mem_cons.mp member with rfl | later
        · exact none
        · exact none' earlier later
      rcases ih with ⟨front, start, back, path, resources, target, shape, quiet, stopped, found⟩ | ⟨quiet, found⟩
      · refine .inl ⟨client :: front, start, back, path, resources, target, by rw [shape]; rfl, passed quiet, stopped, ?_⟩
        rw [firstCycle, ended]
        exact found
      · refine .inr ⟨passed quiet, ?_⟩
        rw [firstCycle, ended]
        exact found

variable (allClients : Iteration Bytes (List (Bytes × String))) (graph : List WaitEdge)

/-- What the detector reports is the walk of the first client, in the order of the walk over the clients, that can reach a cycle. -/
theorem detectFromGraph_spec :
    (∃ front start back path resources target, allClients.keys (adjacencyOf graph) = front ++ start :: back ∧
        (∀ client ∈ front, ¬ ReachesCycle (waits graph) client) ∧ Stopped graph start path resources target ∧
        detectFromGraph allClients graph = some (.deadlock path resources)) ∨
      (∀ client, ¬ ReachesCycle (waits graph) client) ∧ detectFromGraph allClients graph = some .noDeadlock := by
  rcases firstCycle_spec (allClients.keys (adjacencyOf graph)) with found | ⟨quiet, found⟩
  · exact .inl found
  · refine .inr ⟨?_, found⟩
    intro client ⟨other, _, cycle⟩
    -- A client on a cycle waits, so the search was started from it.
    obtain ⟨holder, resource, member⟩ := cycle.exists_edge
    obtain ⟨edge, inside, same, _⟩ := mem_waits.mp member
    exact quiet other ((allClients.mem_keys _ _).mpr (mem_adjacencyOf.mpr ⟨edge, inside, same⟩)) ⟨other, .refl, cycle⟩

/-- A deadlock is reported just when some client waits, directly or not, for itself. -/
theorem reports_iff_onCycle :
    (∃ cycle resources, detectFromGraph allClients graph = some (.deadlock cycle resources)) ↔ ∃ client, OnCycle (waits graph) client := by
  rcases detectFromGraph_spec allClients graph with ⟨_, start, _, path, resources, _, _, _, stopped, found⟩ | ⟨quiet, found⟩
  · obtain ⟨other, _, cycle⟩ := stopped.reachesCycle
    exact ⟨fun _ => ⟨other, cycle⟩, fun _ => ⟨path, resources, found⟩⟩
  · refine ⟨fun ⟨_, _, reported⟩ => ?_, fun ⟨client, cycle⟩ => absurd ⟨client, .refl, cycle⟩ (quiet client)⟩
    rw [found] at reported
    cases reported

/-- The detector always answers, and it answers that there is no deadlock just when no client waits, directly or not, for itself. -/
theorem no_deadlock_iff_acyclic :
    (∃ status, detectFromGraph allClients graph = some status) ∧
      (detectFromGraph allClients graph = some .noDeadlock ↔ ∀ client, ¬ Relation.TransGen (WaitsFor graph) client client) := by
  have cycles := reports_iff_onCycle allClients graph
  unfold OnCycle at cycles
  rw [edge_waits] at cycles
  rcases detectFromGraph_spec allClients graph with ⟨_, _, _, path, resources, _, _, _, _, found⟩ | ⟨quiet, found⟩
  · refine ⟨⟨_, found⟩, ?_⟩
    obtain ⟨client, cycle⟩ := cycles.mp ⟨path, resources, found⟩
    rw [found]
    refine ⟨fun answer => ?_, fun acyclic => absurd cycle (acyclic client)⟩
    cases answer
  · refine ⟨⟨_, found⟩, fun _ client cycle => ?_, fun _ => found⟩
    obtain ⟨_, _, reported⟩ := cycles.mpr ⟨client, cycle⟩
    rw [found] at reported
    cases reported

section Reports

variable (heldWalk : Iteration String LockInfo)

/-- Whatever deadlock is reported: each of its clients waits for the next one and the last for the first, on the resource
at its place; a victim chosen from it lies on a cycle, and giving up the victim's locks breaks the reported one. -/
def ReportsCycles (detector : DeadlockDetector) : Prop :=
  ∀ cycle resources, detectFromGraph allClients detector.waitGraph = some (.deadlock cycle resources) →
    Circuit (waits detector.waitGraph) cycle resources ∧
      ∀ victim, detector.resolveDeadlock heldWalk cycle = some victim →
        OnCycle (waits detector.waitGraph) victim ∧
          ∀ names, ¬ Circuit (waits (detector.releaseClientLocks heldWalk victim).2.waitGraph) cycle names

/-- From the first client that can reach a cycle, follow at each client its first wait on a client that can reach one. When
a client is met again, the last client of that walk also waits for the first one, on the resource of its step. -/
def ComesBack : Prop :=
  ∀ front start back, allClients.keys (adjacencyOf graph) = front ++ start :: back →
    (∀ client ∈ front, ¬ ReachesCycle (waits graph) client) → ReachesCycle (waits graph) start →
    ∃ path resources target last resource, Stopped graph start path resources target ∧ path.getLast? = some last ∧
      resources.getLast? = some resource ∧ (start, resource) ∈ waits graph last

variable {allClients graph}

theorem Stopped.unique {target' : Bytes} {path' : List Bytes} {resources' : List String}
    (one : Stopped graph start path resources target) (other : Stopped graph start path' resources' target') :
    path = path' ∧ resources = resources' :=
  one.walk.first_return_unique Foremost.unique one.distinct one.met other.walk other.distinct other.met

/-- The path that the search stops with is a cycle just when its last client waits for its first one. -/
private theorem Stopped.circuit_iff
    (stopped : Stopped graph start path resources target) :
    Circuit (waits graph) path resources ↔
      ∃ last resource, path.getLast? = some last ∧ resources.getLast? = some resource ∧ (start, resource) ∈ waits graph last := by
  constructor
  · intro ⟨first, walk⟩
    have same : first = start := by
      obtain ⟨rest, shape⟩ := walk.exists_tail
      obtain ⟨rest', shape'⟩ := stopped.walk.exists_tail
      exact (cons_eq_cons.mp (shape.symm.trans shape')).1
    obtain ⟨last, resource, lastClient, lastResource, edge⟩ := walk.exists_last
    exact ⟨last, resource, lastClient, lastResource, same ▸ edge⟩
  · intro ⟨last, resource, lastClient, lastResource, edge⟩
    exact ⟨start, (stopped.walk.mono fun _ _ _ taken => taken.edge).redirect lastClient lastResource edge⟩

private theorem best_mem {prefers : DeadlockDetector.Candidate → DeadlockDetector.Candidate → Bool}
    {candidates : List DeadlockDetector.Candidate} {chosen : DeadlockDetector.Candidate}
    (found : best prefers candidates = some chosen) : chosen ∈ candidates := by
  have fold : ∀ (rest : List DeadlockDetector.Candidate) (first : DeadlockDetector.Candidate),
      rest.foldl (fun chosen next => if prefers next chosen then next else chosen) first ∈ first :: rest := by
    intro rest
    induction rest with
    | nil => exact fun first => mem_singleton_self first
    | cons next rest ih =>
      intro first
      rw [foldl_cons]
      rcases mem_cons.mp (ih (if prefers next first then next else first)) with same | later
      · rw [same]
        split
        · exact mem_cons_of_mem _ mem_cons_self
        · exact mem_cons_self
      · exact mem_cons_of_mem _ (mem_cons_of_mem _ later)
  cases candidates with
  | nil => cases found
  | cons first rest =>
    cases found
    exact fold rest first

theorem resolveDeadlock_mem {heldWalk : Iteration String LockInfo} {cycle : List Bytes} {detector : DeadlockDetector} {victim : Bytes}
    (resolved : detector.resolveDeadlock heldWalk cycle = some victim) : victim ∈ cycle := by
  unfold resolveDeadlock at resolved
  split at resolved
  next => cases resolved
  next =>
    obtain ⟨chosen, found, rfl⟩ := Option.map_eq_some_iff.mp resolved
    have member : chosen ∈ cycle.filterMap
        (candidate ((heldWalk.entries detector.heldLocks).map Prod.snd)) := by
      revert found
      cases detector.victimStrategy <;> exact best_mem
    obtain ⟨client, inside, about⟩ := mem_filterMap.mp member
    unfold candidate at about
    split at about
    · cases about
    · cases about
      exact inside

theorem waits_releaseClientLocks (detector : DeadlockDetector) (victim : Bytes) :
    waits (detector.releaseClientLocks heldWalk victim).2.waitGraph victim = [] := by
  apply eq_nil_iff_forall_not_mem.mpr
  intro ⟨holder, resource⟩ member
  obtain ⟨edge, inside, same, _⟩ := mem_waits.mp member
  have kept := (mem_filter.mp inside).2
  simp [same] at kept

/-- Reports are cycles just when the search comes back to the client where it started. -/
theorem reports_cycles_iff_comes_back (heldWalk : Iteration String LockInfo) (detector : DeadlockDetector) :
    ReportsCycles allClients heldWalk detector ↔ ComesBack allClients detector.waitGraph := by
  constructor
  · intro real front start back shape quiet reaches
    rcases detectFromGraph_spec allClients detector.waitGraph with
      ⟨front', start', back', path, resources, target, shape', quiet', stopped, found⟩ | ⟨none, _⟩
    · have same : start = start' := eq_of_first (shape.symm.trans shape') quiet reaches quiet' stopped.reachesCycle
      subst same
      obtain ⟨last, resource, lastClient, lastResource, edge⟩ := stopped.circuit_iff.mp (real path resources found).1
      exact ⟨path, resources, target, last, resource, stopped, lastClient, lastResource, edge⟩
    · exact absurd reaches (none start)
  · intro returns cycle resources reported
    rcases detectFromGraph_spec allClients detector.waitGraph with
      ⟨front, start, back, path, names, target, shape, quiet, stopped, found⟩ | ⟨_, found⟩
    · rw [found] at reported
      cases reported
      obtain ⟨path', names', target', last, resource, stopped', lastClient, lastResource, edge⟩ :=
        returns front start back shape quiet stopped.reachesCycle
      obtain ⟨rfl, rfl⟩ := stopped.unique stopped'
      have circuit := stopped.circuit_iff.mpr ⟨last, resource, lastClient, lastResource, edge⟩
      refine ⟨circuit, ?_⟩
      intro victim resolved
      have member := resolveDeadlock_mem resolved
      refine ⟨circuit.onCycle member, ?_⟩
      intro other remaining
      obtain ⟨holder, name, wait⟩ := (remaining.onCycle member).exists_edge
      rw [waits_releaseClientLocks] at wait
      exact absurd wait not_mem_nil
    · rw [found] at reported
      cases reported

/-- The first client waits for one of two others that wait for each other. It got its lock last. -/
private noncomputable def tailed : DeadlockDetector :=
  let walk := preferring []
  (((((DeadlockDetector.new 30000 true .youngest).recordLockAcquired walk 0 "accounts" (ascii "b") 10000).recordLockAcquired
    walk 1 "billing" (ascii "c") 10000).recordLockAcquired walk 2 "cart" (ascii "a") 10000).recordLockWait
    3 "accounts" (ascii "a") 10000).recordLockWait 4 "billing" (ascii "b") 10000 |>.recordLockWait 5 "accounts" (ascii "c") 10000

/-- The report starts with a client that nobody waits for. That client is made the victim, and the cycle stays. -/
theorem tail_reported_as_cycle :
    detectFromGraph (preferring [ascii "a", ascii "b", ascii "c"]) tailed.waitGraph =
        some (.deadlock [ascii "a", ascii "b", ascii "c"] ["accounts", "billing", "accounts"]) ∧
      tailed.resolveDeadlock (preferring ["accounts", "billing", "cart"]) [ascii "a", ascii "b", ascii "c"] = some (ascii "a") ∧
      detectFromGraph (preferring [ascii "a", ascii "b", ascii "c"])
          (tailed.releaseClientLocks (preferring ["accounts", "billing", "cart"]) (ascii "a")).2.waitGraph =
        some (.deadlock [ascii "b", ascii "c"] ["billing", "accounts"]) ∧
      ¬ ReportsCycles (preferring [ascii "a", ascii "b", ascii "c"])
        (preferring ["accounts", "billing", "cart"]) tailed := by
  have reported : detectFromGraph (preferring [ascii "a", ascii "b", ascii "c"]) tailed.waitGraph =
      some (.deadlock [ascii "a", ascii "b", ascii "c"] ["accounts", "billing", "accounts"]) := by decide +kernel
  have last : (ascii "a", "accounts") ∉ waits tailed.waitGraph (ascii "c") := by decide +kernel
  refine ⟨reported, by decide +kernel, by decide +kernel, fun real => ?_⟩
  obtain ⟨start, walk⟩ := (real _ _ reported).1
  cases walk with
  | step _ rest =>
    cases rest with
    | step _ rest =>
      cases rest with
      | last taken => exact last taken
      | step _ rest => cases rest

end Reports

end Kore.Proofs.DeadlockDetection
