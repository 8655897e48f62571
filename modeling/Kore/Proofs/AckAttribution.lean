import Kore.Persistence.ReplicaAcks

/-! Whether the recorded offsets are ones that the replicas themselves have acknowledged. -/

namespace Kore.Proofs.AckAttribution
open Foundation Persistence ReplicaAcks ReplicationManager List

variable (feeds : List AckedFeed)

def Owned : Prop := ∀ feed ∈ feeds, feed.ackOffset ≤ feed.reported

/-- An acknowledgement moves the offset of no feed but that of the link that it came over. -/
def Attributed : Event → Prop
  | .ack channel host port offset =>
    Forall₂ (fun early late => early.channel ≠ channel → late.ackOffset = early.ackOffset) feeds (noteReplicaAck host port offset feeds)
  | _ => True

/-- No feed of another link that is behind the acknowledgement goes by its address. -/
def Apart : Event → Prop
  | .ack channel host port offset => ∀ feed ∈ feeds, feed.channel ≠ channel → raises host port feeds feed = true → offset ≤ feed.ackOffset
  | _ => True

private theorem attributed_eq : Attributed = Apart := by
  ext feeds event
  cases event with
  | register feed | drop place => rfl
  | ack channel host port offset =>
    simp only [Attributed, noteReplicaAck, forall₂_map_right_iff, forall₂_same]
    refine forall₃_congr fun feed _ _ => ?_
    split
    next raised => simp [raised]
    next kept => simp [kept]

private theorem owned_step (event : Event) (owned : Owned feeds) (apart : Apart feeds event) : Owned (step feeds event) := by
  cases event with
  | register feed => exact forall_mem_append.mpr ⟨owned, forall_mem_singleton.mpr le_rfl⟩
  | drop place => exact fun feed member => owned feed ((eraseIdx_sublist _ _).subset member)
  | ack channel host port offset =>
    simp only [Owned, step, noteReplicaAck, forall_mem_map]
    intro feed member
    have own := owned feed member
    have foreign := apart feed member
    by_cases same : feed.channel = channel <;> by_cases raised : raises host port feeds feed = true <;> simp_all
    omega

/-- Throughout a run every acknowledgement is the one replica's, and so no more replicas are counted than have acknowledged the offset,
just when each keeps apart from the feeds of other links. -/
theorem acks_attributed_iff (events : List Event) :
    (Guarded step Attributed [] events ∧ ∀ offset,
        countReplicasAcked offset (run step [] events) ≤ (run step [] events).countP (offset ≤ ·.reported)) ↔
      Guarded step Apart [] events := by
  rw [attributed_eq]
  refine and_iff_left_of_imp fun guarded offset => ?_
  have owned := guarded.invariant owned_step (forall_mem_nil _)
  refine countP_mono_left fun feed member reached => ?_
  simp only [decide_eq_true_eq] at reached ⊢
  exact reached.trans (owned feed member)

/-- Two replicas that announce the same address: one acknowledges, and both count. -/
theorem both_counted :
    let feeds := run step [] [.register ⟨0, "127.0.0.1", some 6379⟩, .register ⟨1, "127.0.0.1", some 6379⟩,
      .ack 0 "127.0.0.1" (some 6379) 5]
    countReplicasAcked 5 feeds = 2 ∧ feeds.map (·.reported) = [5, 0] := by
  simp [run, step, noteReplicaAck, raises, matchesAck, hostsEqual, eqIgnoreAsciiCase, countReplicasAcked]

end Kore.Proofs.AckAttribution
