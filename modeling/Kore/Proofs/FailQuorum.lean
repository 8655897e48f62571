import Kore.Cluster.Operations

/-! Who is marked as failed. A node that is marked no longer votes on the suspects that are looked at after it. -/

namespace Kore.Proofs.FailQuorum
open Cluster Cluster List

variable (cluster : Cluster) (failed : List String) (id : String)

def ownVote : Nat := if (cluster.nodes.get id).any fun node => node.pfail || node.fail then 1 else 0

/-- The votes against a node once the nodes of `failed` have been marked. -/
def votesWithout : Nat :=
  ownVote cluster id + cluster.failReports.countP fun report =>
    report.1 ∉ failed && report.1 != id && ((cluster.nodes.get report.1).any fun node => node.master && !node.fail) && report.2.contains id

def elects : Bool := ((cluster.nodes.get id).any fun node => !node.fail) && decide (cluster.failQuorumSize ≤ votesWithout cluster failed id)

def marks (candidates : List String) : List String :=
  candidates.foldl (fun failed id => if elects cluster failed id then failed ++ [id] else failed) failed

structure Marked (after : Cluster) : Prop where
  reports : after.failReports = cluster.failReports
  nodes : ∀ id, after.nodes.get id = (cluster.nodes.get id).map fun node =>
    if node.id ∈ failed then { node with pfail := false, fail := true } else node

variable {cluster failed id} {after : Cluster} {more candidates : List String} {other : String}

/-- Votes are only lost. -/
private theorem elects_mono (fewer : ∀ other ∈ failed, other ≠ id → other ∈ more) (elected : elects cluster more id) :
    elects cluster failed id := by
  unfold elects at *
  rw [Bool.and_eq_true, decide_eq_true_eq] at *
  refine ⟨elected.1, elected.2.trans (Nat.add_le_add_left (countP_mono_left fun report _ counts => ?_) _)⟩
  simp only [Bool.and_eq_true, decide_eq_true_eq, bne_iff_ne] at counts ⊢
  exact ⟨⟨⟨fun gone => counts.1.1.1 (fewer _ gone counts.1.1.2), counts.1.1.2⟩, counts.1.2⟩, counts.2⟩

private theorem mem_marks_one : other ∈ marks cluster failed [id] ↔ other ∈ failed ∨ other = id ∧ elects cluster failed id := by
  unfold marks
  simp only [foldl_cons, foldl_nil]
  split
  next elected => simp [elected]
  next refused => simp [refused]

/-- A node is marked if it has a quorum when its turn comes. -/
private theorem mem_marks : other ∈ marks cluster failed candidates ↔
    other ∈ failed ∨ ∃ early late, candidates = early ++ other :: late ∧ elects cluster (marks cluster failed early) other := by
  induction candidates generalizing failed with
  | nil => simp [marks]
  | cons id candidates ih =>
    have first : other ∈ marks cluster failed (id :: candidates) ↔ _ := @ih (marks cluster failed [id])
    rw [first, mem_marks_one, or_assoc]
    refine or_congr_right ?_
    constructor
    · rintro (⟨rfl, elected⟩ | ⟨early, late, rfl, elected⟩)
      · exact ⟨[], candidates, rfl, elected⟩
      · exact ⟨id :: early, late, rfl, elected⟩
    · rintro ⟨early, late, same, elected⟩
      cases early with
      | nil =>
        cases same
        exact .inl ⟨rfl, elected⟩
      | cons head early =>
        cases same
        exact .inr ⟨early, late, rfl, elected⟩

private theorem of_mem_marks (member : other ∈ marks cluster [] candidates) :
    other ∈ candidates ∧ elects cluster [] other := by
  rcases mem_marks.mp member with missing | ⟨early, late, rfl, elected⟩
  · cases missing
  · exact ⟨by simp, elects_mono (by simp) elected⟩

private theorem Marked.votes (marked : Marked cluster failed after) (fresh : id ∉ failed) :
    after.failVotes id = votesWithout cluster failed id := by
  have named {id node} (found : cluster.nodes.get id = some node) : node.id = id := (NodeTable.get_eq_some.mp found).2
  unfold failVotes votesWithout ownVote
  rw [marked.reports, marked.nodes]
  congr 1
  · cases found : cluster.nodes.get id with
    | none => rfl
    | some node => simp [named found, fresh]
  · refine countP_congr fun report _ => ?_
    rw [marked.nodes]
    cases found : cluster.nodes.get report.1 with
    | none => simp
    | some node => by_cases gone : report.1 ∈ failed <;> simp [named found, gone]

private theorem Marked.step (marked : Marked cluster failed after) (fresh : id ∉ failed) : ∃ next,
    escalateCandidate cluster.failQuorumSize (after, failed) id = (next, marks cluster failed [id]) ∧
      Marked cluster (marks cluster failed [id]) next := by
  unfold escalateCandidate marks elects
  simp only [foldl_cons, foldl_nil]
  rw [marked.votes fresh]
  cases found : cluster.nodes.get id with
  | none => simpa [marked.nodes, found] using marked
  | some node =>
    have named : node.id = id := (NodeTable.get_eq_some.mp found).2
    simp only [marked.nodes, found, Option.map_some, named, fresh, if_false, Option.any_some]
    split
    · refine ⟨_, rfl, marked.reports, fun other => ?_⟩
      rw [NodeTable.get_modify, marked.nodes, Option.map_map]
      refine congrArg (Option.map · _) (funext fun node => ?_)
      by_cases this : node.id = id
      · simp [this, fresh]
      · by_cases gone : node.id ∈ failed <;> simp [this, gone]
    · exact ⟨after, rfl, marked⟩

private theorem Marked.run (marked : Marked cluster failed after) (fresh : ∀ id ∈ candidates, id ∉ failed) (distinct : candidates.Nodup) :
    (candidates.foldl (escalateCandidate cluster.failQuorumSize) (after, failed)).2 = marks cluster failed candidates := by
  induction candidates generalizing failed after with
  | nil => rfl
  | cons id candidates ih =>
    obtain ⟨other, distinct⟩ := nodup_cons.mp distinct
    obtain ⟨next, same, kept⟩ := @Marked.step cluster failed id after marked (fresh id mem_cons_self)
    rw [foldl_cons, same]
    refine ih kept (fun last member again => ?_) distinct
    rcases mem_marks_one.mp again with old | ⟨rfl, -⟩
    · exact fresh last (mem_cons_of_mem _ member) old
    · exact other member

private theorem suspects_nodup : cluster.suspects.Nodup := (nodup_dedup _).filter _

private theorem mem_listed {order : List String} : id ∈ listed order cluster.suspects ↔ id ∈ cluster.suspects := by
  by_cases named : id ∈ order <;> simp [listed, named]

private theorem listed_perm {order : List String} (same : order.Perm cluster.suspects) : listed order cluster.suspects = order := by
  unfold listed
  rw [(same.nodup_iff.mpr suspects_nodup).dedup, filter_eq_self.mpr, filter_eq_nil_iff.mpr, append_nil]
  · simp [same.mem_iff]
  · simp [same.mem_iff]

private theorem escalateFails_marks (order : List String) :
    (cluster.escalateFails order).2 = marks cluster [] (listed order cluster.suspects) := by
  refine Marked.run ⟨rfl, by simp⟩ (by simp) (nodup_append'.mpr ⟨(nodup_dedup _).filter _, suspects_nodup.filter _, fun id early late => ?_⟩)
  simp only [mem_filter, mem_dedup, decide_eq_true_eq] at early late
  exact late.2 early.1

/-- The other live masters whose report names the node. -/
def reporters (cluster : Cluster) (id : String) : List ClusterNode :=
  cluster.nodes.entries.filter fun node =>
    node.master && !node.fail && node.id != id && cluster.failReports.any fun report => report.1 == node.id && report.2.contains id

private theorem votes_le (keyed : (cluster.failReports.map (·.1)).Nodup) :
    votesWithout cluster [] id ≤ ownVote cluster id + (reporters cluster id).length := by
  refine Nat.add_le_add_left ?_ _
  rw [countP_eq_length_filter, ← length_map (·.1), ← length_map ClusterNode.id]
  refine (Nodup.subperm ((filter_sublist.map _).nodup keyed) fun reporter member => ?_).length_le
  obtain ⟨report, counted, rfl⟩ := mem_map.mp member
  simp only [mem_filter, Bool.and_eq_true, Option.any_eq_true] at counted
  obtain ⟨listed, ⟨⟨-, other⟩, node, found, live⟩, names⟩ := counted
  obtain ⟨known, same⟩ := NodeTable.get_eq_some.mp found
  refine mem_map.mpr ⟨node, mem_filter.mpr ⟨known, ?_⟩, same⟩
  simp only [Bool.and_eq_true, any_eq_true, same]
  exact ⟨⟨live, other⟩, report, listed, by simp, names⟩

/-- Of at least three live masters more than half have reported a node that is marked, where this node counts as one whatever it is. -/
theorem marked_by_quorum (cluster : Cluster) (keyed : (cluster.failReports.map (·.1)).Nodup) (masters : 3 ≤ cluster.masterCount)
    (order : List String) (id : String) (marked : id ∈ (cluster.escalateFails order).2) :
    cluster.masterCount / 2 + 1 ≤ ownVote cluster id + (reporters cluster id).length := by
  rw [escalateFails_marks] at marked
  have enough := of_decide_eq_true (Bool.and_eq_true_iff.mp (of_mem_marks marked).2).2
  rw [failQuorumSize, if_neg (by omega)] at enough
  exact enough.trans (votes_le keyed)

/-- A replica and three masters, two of which it suspects and which suspect each other. -/
def suspicious : Cluster :=
  { singleNode "10.0.0.1" 7000 "r" with
    nodes :=
      { entries := ["r", "a", "b", "c"].map fun id => ⟨id, "10.0.0.1", 7000, id = "r", id ≠ "r", none, id = "b" || id = "c", false⟩
        distinct := by decide }
    failReports := [("b", ["c"]), ("c", ["b"])] }

theorem replica_votes : suspicious.masterCount = 3 ∧ "b" ∈ (suspicious.escalateFails ["b", "c"]).2 ∧
    (suspicious.nodes.get suspicious.myId).all (·.master) = false ∧ (reporters suspicious "b").length = 1 := by
  decide +kernel

theorem suspicious_quorum : suspicious.masterCount / 2 + 1 ≤ ownVote suspicious "b" + (reporters suspicious "b").length :=
  marked_by_quorum suspicious (by decide +kernel) (by decide +kernel) ["b", "c"] "b" (by decide +kernel)

/-- The suspects with a quorum before anybody is marked. -/
def quorate (cluster : Cluster) : List String := cluster.suspects.filter (elects cluster [])

/-- The order is of no account just when no quorum needs the report of another node that has a quorum against it. -/
theorem order_free_iff (cluster : Cluster) :
    (∀ first second id, id ∈ (cluster.escalateFails first).2 ↔ id ∈ (cluster.escalateFails second).2) ↔
      ∀ id ∈ quorate cluster, elects cluster (quorate cluster) id = true := by
  simp only [escalateFails_marks]
  constructor
  · intro free id inside
    obtain ⟨suspect, -⟩ := mem_filter.mp inside
    have last : (cluster.suspects.erase id ++ [id]).Perm cluster.suspects := perm_append_comm.trans (perm_cons_erase suspect).symm
    -- everybody who has a quorum would be marked first
    have always (other : String) (member : other ∈ quorate cluster) :
        other ∈ marks cluster (marks cluster [] (cluster.suspects.erase id)) [id] := by
      obtain ⟨suspect, elected⟩ := mem_filter.mp member
      have marked := (free (other :: cluster.suspects.erase other) (cluster.suspects.erase id ++ [id]) other).mp
      rw [listed_perm (perm_cons_erase suspect).symm, listed_perm last] at marked
      have both := marked (mem_marks.mpr (.inr ⟨[], _, rfl, elected⟩))
      rwa [marks, foldl_append] at both
    rcases mem_marks_one.mp (always id inside) with early | ⟨-, elected⟩
    · exact absurd (of_mem_marks early).1 suspects_nodup.not_mem_erase
    · refine elects_mono (fun other member different => ?_) elected
      rcases mem_marks_one.mp (always other member) with early | ⟨same, -⟩
      · exact early
      · exact absurd same different
  · intro robust first second id
    have whole (order : List String) :
        id ∈ marks cluster [] (listed order cluster.suspects) ↔ id ∈ quorate cluster := by
      refine ⟨fun member => ?_, fun inside => ?_⟩
      · exact mem_filter.mpr ⟨mem_listed.mp (of_mem_marks member).1, (of_mem_marks member).2⟩
      · obtain ⟨early, late, same⟩ := append_of_mem (mem_listed.mpr (mem_filter.mp inside).1)
        refine mem_marks.mpr (.inr ⟨early, late, same, elects_mono (fun other gone _ => ?_) (robust id inside)⟩)
        obtain ⟨member, elected⟩ := of_mem_marks gone
        exact mem_filter.mpr ⟨mem_listed.mp (same ▸ mem_append_left _ member), elected⟩
    rw [whole, whole]

theorem order_matters : (suspicious.escalateFails ["b", "c"]).2 = ["b"] ∧ (suspicious.escalateFails ["c", "b"]).2 = ["c"] := by
  decide +kernel

end Kore.Proofs.FailQuorum
