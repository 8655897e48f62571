import Mathlib.Data.Finset.Card

/-! Depth-first search for a cycle in a directed graph whose edges carry labels and are
given by successor lists. The search stops at the first edge back into the path it is on.
What it has left behind without stopping cannot reach a cycle, so the path it stops with
follows, from every node, the first edge towards a cycle. -/

namespace Kore.Foundation.DepthFirst
open List
variable {V L : Type} (successors : V → List (V × L))
variable {node target : V} {label : L}

def Edge (source target : V) : Prop := ∃ label, (target, label) ∈ successors source

def OnCycle (node : V) : Prop := Relation.TransGen (Edge successors) node node

def ReachesCycle (node : V) : Prop := ∃ other, Relation.ReflTransGen (Edge successors) node other ∧ OnCycle successors other

def Settled (node : V) : Prop := Acc (fun target source => Edge successors source target) node

/-- A walk along `step` that visits `path` and takes from its last node a step to `target`. -/
inductive Walk (step : V → V → L → Prop) : V → List V → List L → V → Prop where
  | last {source target : V} {label : L} (taken : step source target label) : Walk step source [source] [label] target
  | step {source next target : V} {label : L} {path : List V} {labels : List L} (taken : step source next label)
      (rest : Walk step next path labels target) : Walk step source (source :: path) (label :: labels) target

/-- A closed walk: every node has an edge to the next one, and the last to the first. -/
def Circuit (path : List V) (labels : List L) : Prop :=
  ∃ start, Walk (fun source target label => (target, label) ∈ successors source) start path labels start

/-- The first edge of a node, in the order of its successors, towards a cycle. -/
def Foremost (source target : V) (label : L) : Prop :=
  ∃ front back, successors source = front ++ (target, label) :: back ∧
    (∀ passed ∈ front, ¬ ReachesCycle successors passed.1) ∧ ReachesCycle successors target

structure Search (V L : Type) where
  visited : Finset V
  recStack : Finset V
  path : List V
  labels : List L

section
variable [DecidableEq V]

def tryEach (visit : V → Search V L → Option (Bool × Search V L)) : List (V × L) → Search V L → Option (Bool × Search V L)
  | [], search => some (false, search)
  | (neighbor, label) :: rest, search =>
    if neighbor ∉ search.visited then
      match visit neighbor { search with labels := search.labels ++ [label] } with
      | none => none
      | some (true, found) => some (true, found)
      | some (false, after) => tryEach visit rest { after with labels := after.labels.dropLast }
    else if neighbor ∈ search.recStack then some (true, { search with labels := search.labels ++ [label] })
    else tryEach visit rest search

/-- The search below one node. The first argument bounds the depth of the recursion; there is no
result only when it is too small. -/
def visit : Nat → V → Search V L → Option (Bool × Search V L)
  | 0, _, _ => none
  | depth + 1, node, search =>
    match tryEach (visit depth) (successors node)
      { search with
        visited := insert node search.visited
        recStack := insert node search.recStack
        path := search.path ++ [node] } with
    | none => none
    | some (true, found) => some (true, found)
    | some (false, after) => some (false, { after with recStack := after.recStack.erase node, path := after.path.dropLast })

end

variable {successors}

theorem OnCycle.exists_edge (cycle : OnCycle successors node) : ∃ next, Edge successors node next := by
  obtain ⟨next, edge, _⟩ := Relation.TransGen.head'_iff.mp cycle
  exact ⟨next, edge⟩

theorem Settled.not_reachesCycle (settled : Settled successors node) : ¬ ReachesCycle successors node := by
  -- A reached cycle can be followed forever: the successor on the way reaches one too.
  induction settled with
  | intro node _ ih =>
    intro reaches
    obtain ⟨other, there, cycle⟩ := reaches
    rcases Relation.ReflTransGen.cases_head there with rfl | ⟨next, edge, further⟩
    · obtain ⟨next, edge, back⟩ := Relation.TransGen.head'_iff.mp cycle
      exact ih next edge ⟨node, back, cycle⟩
    · exact ih next edge ⟨other, further, cycle⟩

namespace Walk
variable {step : V → V → L → Prop} {start target : V} {path : List V} {labels : List L}

theorem mono {looser : V → V → L → Prop} (implies : ∀ source target label, step source target label → looser source target label)
    (walk : Walk step start path labels target) : Walk looser start path labels target := by
  induction walk with
  | last taken => exact .last (implies _ _ _ taken)
  | step taken _ ih => exact .step (implies _ _ _ taken) ih

section
variable (walk : Walk step start path labels target)
include walk

theorem exists_tail : ∃ rest, path = start :: rest := by
  cases walk <;> exact ⟨_, rfl⟩

theorem exists_last : ∃ last label, path.getLast? = some last ∧ labels.getLast? = some label ∧ step last target label := by
  induction walk with
  | last taken => exact ⟨_, _, rfl, rfl, taken⟩
  | step _ rest ih =>
    obtain ⟨last, label, lastNode, lastLabel, taken⟩ := ih
    refine ⟨last, label, ?_, ?_, taken⟩
    · rw [getLast?_cons, lastNode]
      rfl
    · rw [getLast?_cons, lastLabel]
      rfl

/-- Where the last step leads may be changed to any other end of a step with the same label. -/
theorem redirect {other last : V} (lastNode : path.getLast? = some last)
    (lastLabel : labels.getLast? = some label) (taken : step last other label) : Walk step start path labels other := by
  induction walk with
  | last _ =>
    cases lastNode
    cases lastLabel
    exact .last taken
  | step first rest ih =>
    obtain ⟨_, _, hasLast, hasLabel, _⟩ := rest.exists_last
    rw [getLast?_cons, hasLast] at lastNode
    rw [getLast?_cons, hasLabel] at lastLabel
    exact .step first (ih (hasLast.trans lastNode) (hasLabel.trans lastLabel))

end

section
variable (unique : ∀ source first firstLabel second secondLabel, step source first firstLabel → step source second secondLabel →
    first = second ∧ firstLabel = secondLabel)
  (walk : Walk step start path labels target)
include unique walk

variable {path' : List V} {labels' : List L}

/-- Of two walks with the same start along deterministic steps one goes on where the other stops. -/
theorem compare {target' : V} (walk' : Walk step start path' labels' target') :
    (path = path' ∧ labels = labels') ∨ (∃ rest, path' = path ++ target :: rest) ∨ ∃ rest, path = path' ++ target' :: rest := by
  induction walk generalizing path' labels' with
  | last taken =>
    cases walk' with
    | last taken' => exact .inl ⟨rfl, by rw [(unique _ _ _ _ _ taken taken').2]⟩
    | step taken' rest' =>
      rw [(unique _ _ _ _ _ taken taken').1]
      cases rest' <;> exact .inr (.inl ⟨_, rfl⟩)
  | step taken rest ih =>
    cases walk' with
    | last taken' =>
      rw [← (unique _ _ _ _ _ taken taken').1]
      cases rest <;> exact .inr (.inr ⟨_, rfl⟩)
    | step taken' rest' =>
      obtain ⟨rfl, rfl⟩ := unique _ _ _ _ _ taken taken'
      rcases ih rest' with ⟨rfl, rfl⟩ | ⟨more, rfl⟩ | ⟨more, rfl⟩
      · exact .inl ⟨rfl, rfl⟩
      · exact .inr (.inl ⟨more, rfl⟩)
      · exact .inr (.inr ⟨more, rfl⟩)

/-- A walk along deterministic steps that stops at the first node met again is the only one. -/
theorem first_return_unique (distinct : path.Nodup) (met : target ∈ path) {target' : V}
    (walk' : Walk step start path' labels' target') (distinct' : path'.Nodup)
    (met' : target' ∈ path') : path = path' ∧ labels = labels' := by
  rcases compare unique walk walk' with same | ⟨rest, rfl⟩ | ⟨rest, rfl⟩
  · exact same
  · exact absurd mem_cons_self (disjoint_of_nodup_append distinct' met)
  · exact absurd mem_cons_self (disjoint_of_nodup_append distinct met')

end

variable (edges : ∀ source target label, step source target label → Edge successors source target)
include edges

section
variable (walk : Walk step start path labels target)
include walk

theorem transGen : Relation.TransGen (Edge successors) start target := by
  induction walk with
  | last taken => exact .single (edges _ _ _ taken)
  | step taken _ ih => exact .head (edges _ _ _ taken) ih

theorem through (member : node ∈ path) :
    Relation.ReflTransGen (Edge successors) start node ∧ Relation.TransGen (Edge successors) node target := by
  induction walk with
  | last taken =>
    rw [mem_singleton.mp member]
    exact ⟨.refl, .single (edges _ _ _ taken)⟩
  | step taken rest ih =>
    rcases mem_cons.mp member with rfl | later
    · exact ⟨.refl, .head (edges _ _ _ taken) (rest.transGen edges)⟩
    · obtain ⟨there, further⟩ := ih later
      exact ⟨.head (edges _ _ _ taken) there, further⟩

theorem reachesCycle (met : target ∈ path) : ReachesCycle successors start := by
  obtain ⟨there, back⟩ := walk.through edges met
  exact ⟨target, there, back⟩

end

end Walk

theorem Circuit.onCycle {path : List V} {labels : List L} (circuit : Circuit successors path labels)
    (member : node ∈ path) : OnCycle successors node := by
  obtain ⟨start, walk⟩ := circuit
  obtain ⟨there, back⟩ := walk.through (fun _ _ label taken => ⟨label, taken⟩) member
  exact back.trans_left there

theorem Foremost.edge {source : V} (foremost : Foremost successors source target label) :
    (target, label) ∈ successors source := by
  obtain ⟨front, back, shape, _, _⟩ := foremost
  rw [shape]
  exact mem_append_right _ mem_cons_self

theorem eq_of_first {α : Type} {holds : α → Prop} {front back front' back' : List α} {first first' : α}
    (shape : front ++ first :: back = front' ++ first' :: back') (passed : ∀ earlier ∈ front, ¬ holds earlier) (here : holds first)
    (passed' : ∀ earlier ∈ front', ¬ holds earlier) (here' : holds first') : first = first' := by
  -- Neither member lies in the part before the other.
  rcases append_eq_append_iff.mp shape with ⟨more, longer, split⟩ | ⟨more, longer, split⟩
  · cases more with
    | nil => exact (cons_eq_cons.mp split).1
    | cons head rest =>
      cases (cons_eq_cons.mp split).1
      exact absurd here (passed' _ (longer ▸ mem_append_right _ mem_cons_self))
  · cases more with
    | nil => exact (cons_eq_cons.mp split).1.symm
    | cons head rest =>
      cases (cons_eq_cons.mp split).1
      exact absurd here' (passed _ (longer ▸ mem_append_right _ mem_cons_self))

theorem Foremost.unique (source first : V) (firstLabel : L) (second : V) (secondLabel : L)
    (one : Foremost successors source first firstLabel) (other : Foremost successors source second secondLabel) :
    first = second ∧ firstLabel = secondLabel := by
  obtain ⟨front, back, shape, passed, reaches⟩ := one
  obtain ⟨front', back', shape', passed', reaches'⟩ := other
  have same := @eq_of_first _ (fun edge : V × L => ReachesCycle successors edge.1) _ _ _ _ _ _ (shape.symm.trans shape') passed
    reaches passed' reaches'
  exact Prod.mk.injEq .. ▸ same

/-- The first edge of a node, in the order of its successors, that does not lead to a settled node. -/
private def Unsettled (successors : V → List (V × L)) (source target : V) (label : L) : Prop :=
  ∃ front back, successors source = front ++ (target, label) :: back ∧ ∀ passed ∈ front, Settled successors passed.1

private theorem Unsettled.edge {source : V} (unsettled : Unsettled successors source target label) :
    Edge successors source target := by
  obtain ⟨front, back, shape, _⟩ := unsettled
  exact ⟨label, shape ▸ mem_append_right _ mem_cons_self⟩

/-- When a walk over first unsettled edges has met a cycle, its edges were the first ones towards a cycle. -/
private theorem foremost_of_unsettled {start : V} {path : List V} {labels : List L}
    (walk : Walk (Unsettled successors) start path labels target) (reaches : ReachesCycle successors target) :
    Walk (Foremost successors) start path labels target := by
  have sharpen : ∀ {source target label}, Unsettled successors source target label → ReachesCycle successors target →
      Foremost successors source target label := by
    intro source target label ⟨front, back, shape, passed⟩ reaches
    exact ⟨front, back, shape, fun earlier member => (passed earlier member).not_reachesCycle, reaches⟩
  induction walk with
  | last taken => exact .last (sharpen taken reaches)
  | step taken rest ih =>
    obtain ⟨other, there, cycle⟩ := reaches
    have onTheWay := (rest.transGen fun _ _ _ taken => taken.edge).to_reflTransGen.trans there
    exact .step (sharpen taken ⟨other, onTheWay, cycle⟩) (ih ⟨other, there, cycle⟩)

section
variable [DecidableEq V]

/-- What holds of the search between two steps. -/
private structure Sound (successors : V → List (V × L)) (search : Search V L) : Prop where
  stack : ∀ node, node ∈ search.recStack ↔ node ∈ search.path
  distinct : search.path.Nodup
  seen : ∀ node ∈ search.path, node ∈ search.visited
  settled : ∀ node ∈ search.visited, node ∉ search.path → Settled successors node

/-- What a part of the search that starts with `search` may return: it stops with a walk from `node` that
visits `trail` and returns to the path, or it ends where it has started. -/
private def Returns (successors : V → List (V × L)) (search : Search V L) (stops : List V → List L → V → Prop)
    (ends : Search V L → Prop) : Option (Bool × Search V L) → Prop
  | none => False
  | some (true, found) => ∃ trail labels target, found.path = search.path ++ trail ∧ found.labels = search.labels ++ labels ∧
      found.path.Nodup ∧ target ∈ found.path ∧ stops trail labels target
  | some (false, after) => Sound successors after ∧ after.path = search.path ∧ after.labels = search.labels ∧
      search.visited ⊆ after.visited ∧ ends after

variable {sources : Finset V} {depth : Nat}

private theorem tryEach_returns
    (visits : ∀ neighbor search, Sound successors search → neighbor ∉ search.visited → (sources \ search.visited).card < depth →
      Returns successors search (fun trail labels target => Walk (Unsettled successors) neighbor trail labels target)
        (fun after => neighbor ∈ after.visited) (visit successors depth neighbor search))
    {base : List V} (passed rest : List (V × L)) (shape : successors node = passed ++ rest)
    (before : ∀ earlier ∈ passed, Settled successors earlier.1) {search : Search V L} (sound : Sound successors search)
    (top : search.path = base ++ [node]) (enough : (sources \ search.visited).card < depth) :
    Returns successors search (fun trail labels target => Walk (Unsettled successors) node (node :: trail) labels target)
      (fun _ => ∀ later ∈ rest, Settled successors later.1) (tryEach (visit successors depth) rest search) := by
  induction rest generalizing passed search with
  | nil => exact ⟨sound, rfl, rfl, fun _ member => member, fun _ missing => absurd missing not_mem_nil⟩
  | cons head rest ih =>
    obtain ⟨neighbor, label⟩ := head
    have here : Unsettled successors node neighbor label := ⟨passed, rest, shape, before⟩
    -- Once the edge is passed its end is settled, and the loop goes on behind it.
    have onward : ∀ next : Search V L, Sound successors next → next.path = search.path → next.labels = search.labels →
        search.visited ⊆ next.visited → Settled successors neighbor →
        Returns successors search (fun trail labels target => Walk (Unsettled successors) node (node :: trail) labels target)
          (fun _ => ∀ later ∈ (neighbor, label) :: rest, Settled successors later.1) (tryEach (visit successors depth) rest next) := by
      intro next sound' samePath sameLabels grown settled
      have less : (sources \ next.visited).card < depth :=
        lt_of_le_of_lt (Finset.card_le_card (Finset.sdiff_subset_sdiff (Finset.Subset.refl _) grown)) enough
      have further := ih (passed ++ [(neighbor, label)]) (by rw [shape, append_assoc]; rfl)
        (fun earlier member => (mem_append.mp member).elim (before earlier)
          fun last => mem_singleton.mp last ▸ settled) sound' (samePath.trans top) less
      revert further
      generalize tryEach (visit successors depth) rest next = result
      intro further
      match result with
      | none => exact further
      | some (true, found) =>
        rw [Returns, samePath, sameLabels] at further
        exact further
      | some (false, after) =>
        obtain ⟨sound, path, labels, more, ended⟩ := further
        refine ⟨sound, path.trans samePath, labels.trans sameLabels, grown.trans more, ?_⟩
        exact forall_mem_cons.mpr ⟨settled, ended⟩
    rw [tryEach]
    split
    next fresh =>
      have below := visits neighbor { search with labels := search.labels ++ [label] }
        ⟨sound.stack, sound.distinct, sound.seen, sound.settled⟩ fresh enough
      revert below
      generalize visit successors depth neighbor { search with labels := search.labels ++ [label] } = result
      intro below
      match result with
      | none => exact below
      | some (true, found) =>
        obtain ⟨trail, labels, target, path, named, distinct, met, walk⟩ := below
        exact ⟨trail, label :: labels, target, path, by rw [named, append_assoc]; rfl, distinct, met, .step here walk⟩
      | some (false, after) =>
        obtain ⟨sound', path, labels, grown, visited⟩ := below
        have settled : Settled successors neighbor :=
          sound'.settled neighbor visited fun member => fresh (sound.seen neighbor (path ▸ member))
        exact onward { after with labels := after.labels.dropLast } ⟨sound'.stack, sound'.distinct, sound'.seen, sound'.settled⟩
          path (by rw [labels, dropLast_concat]) grown settled
    next known =>
      split
      next onStack =>
        exact ⟨[], [label], neighbor, (append_nil _).symm, rfl, sound.distinct, (sound.stack neighbor).mp onStack, .last here⟩
      next offStack =>
        exact onward search sound rfl rfl (Finset.Subset.refl _)
          (sound.settled neighbor (not_not.mp known) fun member => offStack ((sound.stack neighbor).mpr member))

section
variable (finite : ∀ node, successors node ≠ [] → node ∈ sources)
include finite

private theorem visit_returns (node : V) (search : Search V L)
    (sound : Sound successors search) (fresh : node ∉ search.visited) (enough : (sources \ search.visited).card < depth) :
    Returns successors search (fun trail labels target => Walk (Unsettled successors) node trail labels target)
      (fun after => node ∈ after.visited) (visit successors depth node search) := by
  induction depth generalizing node search with
  | zero => exact absurd enough (Nat.not_lt_zero _)
  | succ depth ih =>
    have offPath : node ∉ search.path := fun member => fresh (sound.seen node member)
    rw [visit]
    generalize entering : Search.mk (insert node search.visited) (insert node search.recStack) (search.path ++ [node]) search.labels
      = entered
    have inside : Sound successors entered := by
      subst entering
      refine ⟨?_, ?_, ?_, ?_⟩
      · intro other
        rw [Finset.mem_insert, sound.stack, mem_append, mem_singleton, or_comm]
      · exact nodup_append.mpr ⟨sound.distinct, nodup_singleton _, by
          intro first member second last
          rw [mem_singleton.mp last]
          exact fun same => offPath (same ▸ member)⟩
      · intro other member
        rcases mem_append.mp member with older | last
        · exact Finset.mem_insert_of_mem (sound.seen other older)
        · exact mem_singleton.mp last ▸ Finset.mem_insert_self _ _
      · intro other member outside
        rcases Finset.mem_insert.mp member with rfl | older
        · exact absurd (mem_append_right _ (mem_singleton_self _)) outside
        · exact sound.settled other older fun within => outside (mem_append_left _ within)
    have top : entered.path = search.path ++ [node] := by rw [← entering]
    have noted : node ∈ entered.visited := by
      rw [← entering]
      exact Finset.mem_insert_self _ _
    have grown : search.visited ⊆ entered.visited := by
      rw [← entering]
      exact Finset.subset_insert _ _
    have sameLabels : entered.labels = search.labels := by rw [← entering]
    -- A node without successors needs no depth below it; any other uses up one of the sources.
    have loop : Returns successors entered (fun trail labels target => Walk (Unsettled successors) node (node :: trail) labels target)
        (fun _ => ∀ later ∈ successors node, Settled successors later.1) (tryEach (visit successors depth) (successors node) entered) := by
      by_cases leaf : successors node = []
      · rw [leaf]
        exact ⟨inside, rfl, rfl, Finset.Subset.refl _, fun _ missing => absurd missing not_mem_nil⟩
      · have fewer : (sources \ entered.visited).card < (sources \ search.visited).card := by
          apply Finset.card_lt_card
          refine ⟨Finset.sdiff_subset_sdiff (Finset.Subset.refl _) grown, fun back => ?_⟩
          exact (Finset.mem_sdiff.mp (back (Finset.mem_sdiff.mpr ⟨finite node leaf, fresh⟩))).2 noted
        exact tryEach_returns (fun neighbor search sound fresh enough => ih neighbor search sound fresh enough) [] (successors node) rfl
          (fun _ missing => absurd missing not_mem_nil) inside top (by omega)
    revert loop
    generalize tryEach (visit successors depth) (successors node) entered = result
    intro loop
    match result with
    | none => exact loop
    | some (true, found) =>
      obtain ⟨trail, labels, target, path, named, distinct, met, walk⟩ := loop
      exact ⟨node :: trail, labels, target, by rw [path, top, append_assoc]; rfl, by rw [named, sameLabels], distinct, met, walk⟩
    | some (false, after) =>
      obtain ⟨sound', path, labels, more, ended⟩ := loop
      have samePath : after.path.dropLast = search.path := by rw [path, top, dropLast_concat]
      have settled : Settled successors node := Acc.intro node fun target edge => ended _ edge.choose_spec
      refine ⟨⟨?_, ?_, ?_, ?_⟩, samePath, labels.trans sameLabels, grown.trans more, more noted⟩
      · intro other
        rw [samePath, Finset.mem_erase, sound'.stack, path, top, mem_append, mem_singleton]
        exact ⟨fun ⟨different, either⟩ => either.resolve_right different,
          fun member => ⟨fun same => offPath (same ▸ member), .inl member⟩⟩
      · exact samePath ▸ sound.distinct
      · intro other member
        exact more (grown (sound.seen other (samePath ▸ member)))
      · intro other member outside
        by_cases same : other = node
        · exact same ▸ settled
        · refine sound'.settled other member fun within => outside ?_
          rw [path, top] at within
          rw [samePath]
          exact (mem_append.mp within).resolve_right fun last => same (mem_singleton.mp last)

/-- The search from one node. With a depth above the number of nodes that have successors it returns; it
stops with the walk that follows from every node the first edge towards a cycle, up to the first node met
again, or no cycle can be reached. -/
theorem visit_start (enough : sources.card < depth) (start : V) :
    (∃ found target, visit successors depth start ⟨∅, ∅, [], []⟩ = some (true, found) ∧ found.path.Nodup ∧ target ∈ found.path ∧
        Walk (Foremost successors) start found.path found.labels target) ∨
      ∃ after, visit successors depth start ⟨∅, ∅, [], []⟩ = some (false, after) ∧ ¬ ReachesCycle successors start := by
  have sound : Sound successors (⟨∅, ∅, [], []⟩ : Search V L) :=
    ⟨fun _ => ⟨fun member => absurd member (Finset.notMem_empty _), fun member => absurd member not_mem_nil⟩, nodup_nil,
      fun _ member => absurd member not_mem_nil, fun _ member => absurd member (Finset.notMem_empty _)⟩
  have returned := visit_returns finite start ⟨∅, ∅, [], []⟩ sound (Finset.notMem_empty _)
    (lt_of_le_of_lt (Finset.card_le_card Finset.sdiff_subset) enough)
  revert returned
  generalize visit successors depth start ⟨∅, ∅, [], []⟩ = result
  intro returned
  match result with
  | none => exact returned.elim
  | some (true, found) =>
    obtain ⟨trail, labels, target, path, named, distinct, met, walk⟩ := returned
    rw [nil_append] at path named
    subst trail labels
    refine .inl ⟨found, target, rfl, distinct, met, foremost_of_unsettled walk ?_⟩
    exact ⟨target, .refl, (walk.through (fun _ _ _ taken => taken.edge) met).2⟩
  | some (false, after) =>
    obtain ⟨sound', path, _, _, visited⟩ := returned
    have settled := sound'.settled start visited fun member => absurd (path ▸ member) not_mem_nil
    exact .inr ⟨after, rfl, settled.not_reachesCycle⟩

end

end

end Kore.Foundation.DepthFirst
