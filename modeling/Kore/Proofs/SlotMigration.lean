import Kore.Cluster.Redirect
import Kore.Commands.KeyAccess
import Kore.Proofs.Repetition

/-! A slot on its way from one node to another. A client that follows the answers of the
two gates runs its command on one of them; the keys that the command names may be on the
other. The gates cannot tell when a command names keys on both, and they do not see every key. -/

namespace Kore.Proofs.SlotMigration
open Foundation Protocol Cache Commands Cluster ClusterMember ClusterState List

variable {member : ClusterMember} {flag asking write : Bool} {keys : List Bytes}

inductive Side where
  | source | destination
  deriving DecidableEq

def Side.other : Side → Side
  | source => destination
  | destination => source

/-- The two ends of a migration. No key of the slot is on both. -/
structure Migration (slot : Nat) where
  source : ClusterMember
  destination : ClusterMember
  owned : source.state.ownsSlot slot = true
  migrating : source.state.migrating.lookup slot = some destination.state.myId
  importing : destination.state.isImporting slot = true
  unowned : destination.state.ownsSlot slot = false
  apart : destination.state.myId ≠ source.state.myId
  exclusive : ∀ key, keyHashSlot key = slot → source.holds key = true → destination.holds key = false

namespace Migration

def node {slot : Nat} (migration : Migration slot) : Side → ClusterMember
  | .source => migration.source
  | .destination => migration.destination

end Migration

section
variable {slot : Nat} (migration : Migration slot) (readonly : Side → Bool) (name : Bytes) (args : List RespValue)

/-- The nodes to which a client gets that follows the answers, and whether it has said `ASKING`. -/
inductive Reached : Side → Bool → Prop where
  | start (side : Side) : Reached side false
  | moved {side next : Side} {asking : Bool} {target : RedirectTarget} (before : Reached side asking)
      (answer : (migration.node side).route (readonly side) name args asking = .moved target)
      (there : target.nodeId = (migration.node next).state.myId) : Reached next false
  | asked {side next : Side} {asking : Bool} {target : RedirectTarget} (before : Reached side asking)
      (answer : (migration.node side).route (readonly side) name args asking = .ask target)
      (there : target.nodeId = (migration.node next).state.myId) : Reached next true

variable (F : Type) [Double F]

/-- The command never runs on one node while a key that it names is only on the other. -/
def NeverStranded : Prop :=
  ∀ side asking, Reached migration readonly name args side asking →
    (migration.node side).checkClusterRedirect (readonly side) name args asking = none →
    ∀ key ∈ argumentKeys F name args, (migration.node side).holds key = false → (migration.node side.other).holds key = false

/-- The source runs the command itself: it holds all keys that the gate looks at, or does not know where to send the client. -/
def SourceServes : Prop :=
  migration.source.isDown (isWrite name args) = false ∧
    ((∀ key ∈ requestKeys name args, migration.source.holds key = true) ∨ migration.source.state.askTarget slot = none)

/-- The source sends the client to the destination, because a key that the gate looks at is missing. -/
def SourceAsks : Prop :=
  migration.source.isDown (isWrite name args) = false ∧
    (∃ key ∈ requestKeys name args, migration.source.holds key = false) ∧ migration.source.state.askTarget slot ≠ none

/-- A destination that replicates the owner of the slot serves reads of connections that allow it. -/
def ReplicaServes : Prop :=
  migration.destination.isDown (isWrite name args) = false ∧ readonly .destination = true ∧ isWrite name args = false ∧
    migration.destination.state.canServeReadonly slot = true

def Absent (member : ClusterMember) (keys : List Bytes) : Prop := ∀ key ∈ keys, member.holds key = false

/-- The command is refused by every gate; or none of its keys exists; or the gate sees keys of
the slot, none of the named keys is on the destination if the source holds all that it sees, and
none is on the source otherwise. -/
def Routable : Prop :=
  (name = ascii "SELECT" ∨ name = ascii "MOVE") ∨
  (Absent migration.source (argumentKeys F name args) ∧ Absent migration.destination (argumentKeys F name args)) ∨
  (requestKeys name args ≠ [] ∧ (∀ key ∈ requestKeys name args, keyHashSlot key = slot) ∧
    (SourceServes migration name args → Absent migration.destination (argumentKeys F name args)) ∧
    (SourceAsks migration name args ∨ ReplicaServes migration readonly name args →
      Absent migration.source (argumentKeys F name args)))

end

variable {slot : Nat} {migration : Migration slot} {readonly : Side → Bool} {name : Bytes} {args : List RespValue} {F : Type} [Double F]

/-! ### The gates -/

theorem served_iff :
    member.checkClusterRedirect flag name args asking = none ↔ member.route flag name args asking = .serve := by
  unfold checkClusterRedirect
  cases member.route flag name args asking <;> simp [Verdict.denial]

theorem route_refused (database : name = ascii "SELECT" ∨ name = ascii "MOVE") :
    member.route flag name args asking = .refuse (.databaseInCluster name) := if_pos database

theorem route_unseen (allowed : ¬ (name = ascii "SELECT" ∨ name = ascii "MOVE"))
    (unseen : requestKeys name args = []) : member.route flag name args asking = .serve := by
  rw [route, if_neg allowed, unseen]

theorem route_seen (allowed : ¬ (name = ascii "SELECT" ∨ name = ascii "MOVE"))
    (seen : requestKeys name args ≠ []) (within : ∀ key ∈ requestKeys name args, keyHashSlot key = slot) :
    member.route flag name args asking = member.routeSlot flag (isWrite name args) asking slot (requestKeys name args) := by
  rw [route, if_neg allowed]
  cases keys : requestKeys name args with
  | nil => exact absurd keys seen
  | cons key rest =>
    rw [keys] at within
    have here := within key mem_cons_self
    have agree : rest.any (fun other => keyHashSlot other ≠ keyHashSlot key) = false := by
      rw [any_eq_false]
      intro other member
      simp [within other (mem_cons_of_mem _ member), here]
    dsimp only
    rw [agree, here]
    rfl

/-- The gate of the source, for a client that has not said `ASKING`. -/
theorem source_route : migration.source.routeSlot flag write false slot keys =
      if migration.source.isDown write then .refuse .clusterDown
      else if keys.any fun key => !migration.source.holds key then
        match migration.source.state.askTarget slot with
        | some target => .ask target
        | none => .serve
      else .serve := by
  have migrates : migration.source.state.isMigrating slot = true := by
    rw [isMigrating, migration.migrating]
    rfl
  cases target : migration.source.state.askTarget slot <;>
    simp only [routeSlot, migration.owned, migrates, target, Bool.false_and, Bool.not_false, Bool.and_true,
      Bool.not_true, Bool.true_and, Bool.false_eq_true, if_false]

theorem destination_route_asking : migration.destination.routeSlot flag write true slot keys = .serve := by
  simp only [routeSlot, migration.importing, Bool.and_self, Bool.not_true, Bool.and_false, Bool.false_eq_true,
    if_false, if_true]

theorem destination_route : migration.destination.routeSlot flag write false slot keys =
      if migration.destination.isDown write then .refuse .clusterDown
      else if flag && !write && migration.destination.state.canServeReadonly slot then .serve
      else match migration.destination.state.movedTarget slot with
        | some target => .moved target
        | none => .refuse (.notServed slot) := by
  cases target : migration.destination.state.movedTarget slot <;>
    simp only [routeSlot, migration.unowned, target, Bool.false_and, Bool.not_false, Bool.and_true,
      Bool.false_eq_true, if_false, if_true]

theorem askTarget_nodeId {target : RedirectTarget} (found : migration.source.state.askTarget slot = some target) :
    target.nodeId = migration.destination.state.myId := by
  rw [askTarget, migration.migrating, Option.bind_some] at found
  obtain ⟨node, known, rfl⟩ := Option.map_eq_some_iff.mp found
  exact (NodeTable.get_eq_some.mp known).2

/-! ### Following the answers -/

private theorem source_serves
    (served : migration.source.routeSlot flag write false slot keys = .serve) :
    migration.source.isDown write = false ∧
      ((∀ key ∈ keys, migration.source.holds key = true) ∨ migration.source.state.askTarget slot = none) := by
  rw [source_route] at served
  split at served
  next => cases served
  next up =>
    refine ⟨by simpa using up, ?_⟩
    split at served
    next =>
      split at served
      next => cases served
      next unknown => exact .inr unknown
    next complete => exact .inl (by simpa using complete)

private theorem source_asks {target : RedirectTarget}
    (sent : migration.source.routeSlot flag write false slot keys = .ask target) :
    migration.source.isDown write = false ∧ (∃ key ∈ keys, migration.source.holds key = false) ∧
      migration.source.state.askTarget slot = some target := by
  rw [source_route] at sent
  split at sent
  next => cases sent
  next up =>
    refine ⟨by simpa using up, ?_⟩
    split at sent
    next missing =>
      split at sent
      next known =>
        cases sent
        exact ⟨by simpa using missing, known⟩
      next => cases sent
    next => cases sent

private theorem destination_answer :
    (migration.destination.routeSlot flag write false slot keys = .serve →
      migration.destination.isDown write = false ∧ flag = true ∧ write = false ∧
        migration.destination.state.canServeReadonly slot = true) ∧
    ∀ target, migration.destination.routeSlot flag write false slot keys ≠ .ask target := by
  rw [destination_route]
  split
  next => exact ⟨nofun, nofun⟩
  next up =>
    split
    next replica =>
      refine ⟨fun _ => ⟨by simpa using up, ?_⟩, nofun⟩
      simpa [and_assoc] using replica
    next => split <;> exact ⟨nofun, nofun⟩

/-- A client gets to say `ASKING` to the destination only, and only after the source has sent it there. -/
private theorem asking_at_destination (allowed : ¬ (name = ascii "SELECT" ∨ name = ascii "MOVE"))
    (seen : requestKeys name args ≠ []) (within : ∀ key ∈ requestKeys name args, keyHashSlot key = slot) {side : Side}
    (reached : Reached migration readonly name args side asking) :
    asking = true → side = .destination ∧ SourceAsks migration name args := by
  induction reached with
  | start | moved => exact nofun
  | @asked side next asking target _ answer there ih =>
    intro _
    rw [route_seen allowed seen within] at answer
    cases side with
    | source =>
      cases asking with
      | true => cases (ih rfl).1
      | false =>
        obtain ⟨up, missing, known⟩ := source_asks answer
        refine ⟨?_, up, missing, by rw [known]; exact nofun⟩
        cases next with
        | source => exact absurd ((askTarget_nodeId known).symm.trans there) migration.apart
        | destination => rfl
    | destination =>
      cases asking with
      | true =>
        rw [Migration.node, destination_route_asking] at answer
        cases answer
      | false => exact absurd answer (destination_answer.2 target)

theorem neverStranded_of_routable (routable : Routable migration readonly name args F) :
    NeverStranded migration readonly name args F := by
  intro side asking reached served key named missing
  rw [served_iff] at served
  rcases routable with database | ⟨fromSource, fromDestination⟩ | ⟨seen, within, onSource, onDestination⟩
  · rw [route_refused database] at served
    cases served
  · cases side with
    | source => exact fromDestination key named
    | destination => exact fromSource key named
  · have allowed : ¬ (name = ascii "SELECT" ∨ name = ascii "MOVE") := by
      intro database
      rw [route_refused database] at served
      cases served
    have asked := asking_at_destination allowed seen within reached
    rw [route_seen allowed seen within] at served
    cases side with
    | source =>
      cases asking with
      | true => cases (asked rfl).1
      | false => exact onSource (source_serves served) key named
    | destination =>
      cases asking with
      | true => exact onDestination (.inl (asked rfl).2) key named
      | false => exact onDestination (.inr (destination_answer.1 served)) key named

theorem routable_of_neverStranded (named : ∀ key ∈ argumentKeys F name args, keyHashSlot key = slot)
    (within : ∀ key ∈ requestKeys name args, keyHashSlot key = slot) (safe : NeverStranded migration readonly name args F) :
    Routable migration readonly name args F := by
  by_cases allowed : name = ascii "SELECT" ∨ name = ascii "MOVE"
  · exact .inl allowed
  right
  -- a node that serves the command has no business with keys of the other one
  have apart : ∀ side asking, Reached migration readonly name args side asking →
      (migration.node side).route (readonly side) name args asking = .serve →
      Absent (migration.node side.other) (argumentKeys F name args) := by
    intro side asking reached served key member
    by_contra there
    have there : (migration.node side.other).holds key = true := by simpa using there
    have here : (migration.node side).holds key = false := by
      cases side with
      | source =>
        by_contra held
        have none := migration.exclusive key (named key member) (by simpa [Migration.node] using held)
        exact absurd (there.symm.trans none) (by decide)
      | destination => exact migration.exclusive key (named key member) there
    exact absurd (there.symm.trans (safe side asking reached (served_iff.mpr served) key member here)) (by decide)
  by_cases seen : requestKeys name args = []
  · left
    exact ⟨apart .destination false (.start _) (route_unseen allowed seen), apart .source false (.start _) (route_unseen allowed seen)⟩
  · refine .inr ⟨seen, within, ?_, ?_⟩
    · rintro ⟨up, serves⟩
      apply apart .source false (.start _)
      rw [route_seen allowed seen within, Migration.node, source_route, if_neg (by simpa using up)]
      split
      next missing =>
        rcases serves with complete | unknown
        · obtain ⟨key, member, gone⟩ := any_eq_true.mp missing
          rw [complete key member] at gone
          cases gone
        · rw [unknown]
      next => rfl
    · rintro (⟨up, ⟨key, member, gone⟩, known⟩ | ⟨up, flag, read, replica⟩)
      · obtain ⟨target, found⟩ := Option.ne_none_iff_exists'.mp known
        have sent : (migration.node .source).route (readonly .source) name args false = .ask target := by
          rw [route_seen allowed seen within, Migration.node, source_route, if_neg (by simpa using up),
            if_pos (any_eq_true.mpr ⟨key, member, by rw [gone]; rfl⟩), found]
        apply apart .destination true (.asked (.start .source) sent (askTarget_nodeId found))
        rw [route_seen allowed seen within]
        exact destination_route_asking
      · apply apart .destination false (.start _)
        rw [route_seen allowed seen within, Migration.node, destination_route, if_neg (by simpa using up), flag, read, replica]
        rfl

/-- For every slot in migration and every command whose keys are in it: if the keys lie as
`Routable` says, the command never runs on one node while a key that it names is only on the
other; and that is needed, unless the gate takes a word of the command for a key of another slot. -/
theorem migration_routing_iff (named : ∀ key ∈ argumentKeys F name args, keyHashSlot key = slot) :
    (Routable migration readonly name args F → NeverStranded migration readonly name args F) ∧
      ((∀ key ∈ requestKeys name args, keyHashSlot key = slot) →
        NeverStranded migration readonly name args F → Routable migration readonly name args F) :=
  ⟨neverStranded_of_routable, routable_of_neverStranded named⟩

/-! Two nodes, of which the first hands its slots to the second. -/

def firstNode : ClusterNode := ⟨"s", "10.0.0.1", 7000, true, true, none, false, false⟩

def secondNode : ClusterNode := ⟨"d", "10.0.0.2", 7000, false, true, none, false, false⟩

def nodePair : NodeTable := ⟨[firstNode, secondNode], by decide⟩

def tagSlot : Nat := keyHashSlot (ascii "\x7bt\x7da")

def memberOf (myId : String) (migrating importing : List (Nat × String)) (keys : List Bytes) : ClusterMember where
  state := ⟨myId, Vector.replicate slotCount "s", Vector.replicate slotCount 1, migrating, importing, [], nodePair, 1⟩
  requireFullCoverage := false
  allowReadsWhenDown := false
  holds := keys.contains

theorem memberOf_ownsSlot (myId : String) (migrating importing : List (Nat × String)) :
    (memberOf myId migrating importing keys).state.ownsSlot tagSlot = ("s" == myId) := by
  have inside : tagSlot < slotCount := by decide +kernel
  simp [memberOf, ownsSlot, inside]

/-- The key `a` of the tag is still on the source; `moved` are the keys that are on the destination. -/
def tagMigration (kept moved : List Bytes) (exclusive : ∀ key ∈ kept, moved.contains key = false) : Migration tagSlot where
  source := memberOf "s" [(tagSlot, "d")] [] kept
  destination := memberOf "d" [] [(tagSlot, "s")] moved
  owned := memberOf_ownsSlot ..
  migrating := by simp [memberOf]
  importing := by simp [memberOf, isImporting]
  unowned := memberOf_ownsSlot ..
  apart := by
    change "d" ≠ "s"
    decide
  exclusive key _ held := exclusive key (contains_iff_mem.mp held)

def tagKeys : List RespValue := [bulkWord "\x7bt\x7da", bulkWord "\x7bt\x7db"]

/-- One key of the command is on each side. -/
def splitMigration : Migration tagSlot := tagMigration [ascii "\x7bt\x7da"] [ascii "\x7bt\x7db"] (by decide)

theorem split_command_stranded : ¬ NeverStranded splitMigration (fun _ => false) (ascii "DEL") tagKeys Int := by
  intro safe
  have firstHeld : splitMigration.source.holds (ascii "\x7bt\x7da") = true := by decide +kernel
  have secondMissing : splitMigration.source.holds (ascii "\x7bt\x7db") = false := by decide +kernel
  have firstNamed : ascii "\x7bt\x7da" ∈ argumentKeys Int (ascii "DEL") tagKeys := by decide +kernel
  have secondSeen : ascii "\x7bt\x7db" ∈ requestKeys (ascii "DEL") tagKeys := by decide +kernel
  have known : splitMigration.source.state.askTarget tagSlot ≠ none := Option.isSome_iff_ne_none.mp (by decide +kernel)
  rcases routable_of_neverStranded (by decide +kernel) (by decide +kernel) safe with database | ⟨nowhere, _⟩ | ⟨_, _, _, onDestination⟩
  · revert database
    decide
  · exact absurd (firstHeld.symm.trans (nowhere _ firstNamed)) (by decide)
  · have gone := onDestination (.inl ⟨rfl, ⟨_, secondSeen, secondMissing⟩, known⟩) _ firstNamed
    exact absurd (firstHeld.symm.trans gone) (by decide)

theorem whole_command_routed :
    NeverStranded (tagMigration [ascii "\x7bt\x7da", ascii "\x7bt\x7db"] [] (by decide)) (fun _ => false) (ascii "DEL") tagKeys
      Int := by
  refine (migration_routing_iff (by decide +kernel)).1 (.inr (.inr ⟨by decide +kernel, by decide +kernel, fun _ _ _ => rfl, ?_⟩))
  rintro (⟨_, ⟨key, member, gone⟩, _⟩ | ⟨_, flag, _⟩)
  · have held : ∀ key ∈ requestKeys (ascii "DEL") tagKeys, [ascii "\x7bt\x7da", ascii "\x7bt\x7db"].contains key = true := by
      decide +kernel
    exact absurd ((held key member).symm.trans gone) (by decide)
  · cases flag

end Kore.Proofs.SlotMigration
