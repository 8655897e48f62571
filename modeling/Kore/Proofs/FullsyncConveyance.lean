import Kore.Persistence.Fullsync
import Mathlib.Data.Fintype.Basic

/-! When every write reaches every newly attached replica exactly once. The gate keeps
publications out of the time between snapshot and registration, if resyncs come one at a
time; what it does not order is the change to the keyspace and the decision to publish. -/

namespace Kore.Proofs.FullsyncConveyance
open Foundation Persistence Fullsync Function List

variable {W R : Type} [DecidableEq W] [DecidableEq R]
variable {state : Fullsync W R} {write : W} {sync : R} {move : GateMove W R}

def Settled (stage : WriteStage) : Prop := stage = .published ∨ stage = .skipped

def Pending (stage : WriteStage) : Prop := stage = .publishing ∨ stage = .appended true ∨ stage = .appended false

/-- The snapshot has been begun, and the feed is not counted yet. -/
def InGap (stage : SyncStage) : Prop := stage = .scanning ∨ stage = .scanned ∨ stage = .pushed

/-- The resync has a snapshot and still holds the gate. -/
def Taking (stage : SyncStage) : Prop := InGap stage ∨ stage = .registered

/-- Every settled write is either in the snapshot of a replica or once on its feed. -/
def ExactlyOnce (state : Fullsync W R) : Prop :=
  ∀ sync ∈ state.replicas, ∀ write, Settled (state.write write) →
    state.snapshot sync write = true ∧ write ∉ state.feed sync ∨ state.snapshot sync write = false ∧ (state.feed sync).count write = 1

/-- Resyncs come one at a time; none begins its snapshot while a write is about to be published; no write decides to be published that a
snapshot has already; and no write decides not to be published while a replica that misses it is being attached. -/
def Orderly (state : Fullsync W R) : FullsyncEvent W R → Prop
  | .raise _ => ∀ other, state.gate.hold other = .free
  | .scan _ => ∀ write, ¬ Pending (state.write write)
  | .test write =>
    if state.needsStreamPublish then
      state.write write = .testing 0 → ∀ sync, Taking (state.sync sync) ∨ sync ∈ state.replicas → state.snapshot sync write = false
    else ∀ sync, InGap (state.sync sync) → state.snapshot sync write = true
  | _ => True

section decidable
variable [Fintype W] [Fintype R]

instance (stage : WriteStage) : Decidable (Settled stage) := inferInstanceAs (Decidable (_ ∨ _))
instance (stage : WriteStage) : Decidable (Pending stage) := inferInstanceAs (Decidable (_ ∨ _ ∨ _))
instance (stage : SyncStage) : Decidable (InGap stage) := inferInstanceAs (Decidable (_ ∨ _ ∨ _))
instance (stage : SyncStage) : Decidable (Taking stage) := inferInstanceAs (Decidable (_ ∨ _))

instance (state : Fullsync W R) : Decidable (ExactlyOnce state) :=
  inferInstanceAs (Decidable (∀ sync ∈ state.replicas, ∀ _, _ → _ ∨ _))

instance (state : Fullsync W R) : (event : FullsyncEvent W R) → Decidable (Orderly state event)
  | .raise _ => inferInstanceAs (Decidable (∀ _, _ = _))
  | .scan _ => inferInstanceAs (Decidable (∀ _, ¬ _))
  | .test write =>
    inferInstanceAs (Decidable (if state.needsStreamPublish then
      state.write write = .testing 0 → ∀ sync, Taking (state.sync sync) ∨ sync ∈ state.replicas → state.snapshot sync write = false
      else ∀ sync, InGap (state.sync sync) → state.snapshot sync write = true))
  | .apply _ _ | .approach _ | .announce _ | .recheck _ | .retreat _ | .append _ | .fanout _ _ | .exit _ => isTrue trivial
  | .drain _ | .scanned _ _ | .push _ | .count _ | .lower _ => isTrue trivial

end decidable

/-- The gate knows where everybody is. -/
structure Linked (state : Fullsync W R) : Prop where
  sound : state.gate.Sound
  outside : ∀ write, ¬ Pending (state.write write) → state.write write ≠ .published → state.gate.entry write = .outside
  inside : ∀ write fanout, state.write write = .appended fanout → state.gate.entry write = .inside
  alone : ∀ sync, Taking (state.sync sync) ∨ state.sync sync = .aborted → state.gate.hold sync = .alone
  free : ∀ sync, state.sync sync = .idle → state.gate.hold sync = .free

/-- The counter of replicas is right, but for a feed that is just being registered. -/
structure Listed (state : Fullsync W R) : Prop where
  members : ∀ sync ∈ state.replicas, state.sync sync = .pushed ∨ state.sync sync = .registered ∨ state.sync sync = .attached
  fresh : ∀ sync, state.sync sync = .pushed ∨ state.sync sync = .registered → sync ∈ state.replicas
  nodup : state.replicas.Nodup
  counted : (∀ sync, state.sync sync ≠ .pushed) → state.connectedReplicas = state.replicas.length
  uncounted : ∀ sync, state.sync sync = .pushed → state.connectedReplicas + 1 = state.replicas.length
  unsent : ∀ write, state.write write = .appended false → state.replicas = []

structure Conveyed (state : Fullsync W R) : Prop where
  taken : ∀ sync write, Taking (state.sync sync) → Settled (state.write write) → state.snapshot sync write = true
  unsent : ∀ sync write, Taking (state.sync sync) ∨ sync ∈ state.replicas → state.snapshot sync write = true → ¬ Pending (state.write write)
  empty : ∀ sync, state.sync sync ≠ .attached → state.feed sync = []
  once : ∀ sync ∈ state.replicas, (state.feed sync).Nodup
  sent : ∀ sync ∈ state.replicas, ∀ write ∈ state.feed sync, Settled (state.write write) ∧ state.snapshot sync write = false
  arrived : ∀ sync ∈ state.replicas, state.sync sync = .attached → ∀ write, Settled (state.write write) →
    state.snapshot sync write = true ∨ write ∈ state.feed sync

structure Kept (state : Fullsync W R) : Prop where
  linked : Linked state
  listed : Listed state
  conveyed : Conveyed state

omit [DecidableEq W] [DecidableEq R] in
theorem start_kept : Kept (start : Fullsync W R) := by
  refine ⟨⟨Gate.opened_sound, ?_, ?_, ?_, ?_⟩, ⟨?_, ?_, ?_, ?_, ?_, ?_⟩, ⟨?_, ?_, ?_, ?_, ?_, ?_⟩⟩
  all_goals simp [start, Gate.opened, Taking, InGap, Settled, Pending]

omit [DecidableEq R] in
theorem Kept.exactlyOnce (kept : Kept state) : ExactlyOnce state := by
  intro sync member write settled
  have missing (snapped : state.snapshot sync write) : write ∉ state.feed sync := by
    intro sent
    have unsnapped := (kept.conveyed.sent sync member write sent).2
    rw [snapped] at unsnapped
    cases unsnapped
  have reached : state.snapshot sync write = true ∨ write ∈ state.feed sync := by
    rcases kept.listed.members sync member with pushed | registered | attached
    · exact .inl (kept.conveyed.taken sync write (.inl (.inr (.inr pushed))) settled)
    · exact .inl (kept.conveyed.taken sync write (.inr registered) settled)
    · exact kept.conveyed.arrived sync member attached write settled
  cases snapped : state.snapshot sync write with
  | true => exact .inl ⟨rfl, missing snapped⟩
  | false =>
    rw [snapped] at reached
    have sent := reached.resolve_left Bool.false_ne_true
    exact .inr ⟨rfl, count_eq_one_of_mem (kept.conveyed.once sync member) sent⟩

section moves
variable {state : Fullsync W R}

omit [DecidableEq W] [DecidableEq R] in
/-- While a write is inside the gate no resync is between its snapshot and its release. -/
theorem Linked.quiet (linked : Linked state) (within : state.gate.entry write = .inside) (sync : R) : ¬ Taking (state.sync sync) :=
  fun taking => linked.sound.apart sync write (linked.alone sync (.inl taking)) within

omit [DecidableEq W] [DecidableEq R] in
theorem Linked.only (linked : Linked state) {one other : R} (first : Taking (state.sync one)) (second : Taking (state.sync other)) :
    one = other := by
  apply linked.sound.single
  · rw [linked.alone one (.inl first)]
    exact Hold.noConfusion
  · rw [linked.alone other (.inl second)]
    exact Hold.noConfusion

variable (kept : Kept state)
include kept

omit [DecidableEq W] [DecidableEq R] in
theorem Kept.replicas_attached (within : state.gate.entry write = .inside)
    (member : sync ∈ state.replicas) : state.sync sync = .attached := by
  have quiet := kept.linked.quiet within sync
  rcases kept.listed.members sync member with pushed | registered | attached
  · exact absurd (.inl (.inr (.inr pushed))) quiet
  · exact absurd (.inr registered) quiet
  · exact attached

omit [DecidableEq W] [DecidableEq R] in
theorem Kept.all_counted (within : state.gate.entry write = .inside) :
    state.connectedReplicas = state.replicas.length :=
  kept.listed.counted fun sync pushed => kept.linked.quiet within sync (.inl (.inr (.inr pushed)))

omit [DecidableEq W] [DecidableEq R] in
/-- While nobody is counted, the only feed there can be is one that is just being registered. -/
theorem Kept.uncounted_pushed (nobody : state.connectedReplicas = 0) (member : sync ∈ state.replicas) :
    state.sync sync = .pushed := by
  by_cases some : ∃ other, state.sync other = .pushed
  · obtain ⟨other, pushed⟩ := some
    have total := kept.listed.uncounted other pushed
    rw [nobody] at total
    obtain ⟨only, single⟩ := length_eq_one_iff.mp total.symm
    have first := kept.listed.fresh other (.inl pushed)
    rw [single, mem_singleton] at first member
    rw [member, ← first]
    exact pushed
  · have none := kept.listed.counted fun other pushed => some ⟨other, pushed⟩
    rw [nobody] at none
    rw [eq_nil_of_length_eq_zero none.symm] at member
    cases member

/-- Nothing but the gate changes, and it keeps its record of everybody whose stage says where they are. -/
theorem Kept.moveGate (due : state.gate.OneAtATime move)
    (outside : ∀ write, ¬ Pending (state.write write) → state.write write ≠ .published → state.gate.entry write = .outside →
      (state.gate.move move).entry write = .outside)
    (inside : ∀ write fanout, state.write write = .appended fanout → state.gate.entry write = .inside →
      (state.gate.move move).entry write = .inside)
    (holds : ∀ sync, Taking (state.sync sync) ∨ state.sync sync = .aborted ∨ state.sync sync = .idle →
      state.gate.hold sync ≠ .raised → (state.gate.move move).hold sync = state.gate.hold sync) : Kept (state.moveGate move) := by
  obtain ⟨linked, listed, conveyed⟩ := kept
  refine ⟨⟨linked.sound.move due, fun write notPending unpublished => ?_, fun write fanout appended => ?_, fun sync taking => ?_,
      fun sync idle => ?_⟩,
    ⟨listed.members, listed.fresh, listed.nodup, listed.counted, listed.uncounted, listed.unsent⟩,
    ⟨conveyed.taken, conveyed.unsent, conveyed.empty, conveyed.once, conveyed.sent, conveyed.arrived⟩⟩
  · exact outside write notPending unpublished (linked.outside write notPending unpublished)
  · exact inside write fanout appended (linked.inside write fanout appended)
  · have held := linked.alone sync taking
    exact (holds sync (taking.imp_right .inl) (by rw [held]; exact Hold.noConfusion)).trans held
  · have unheld := linked.free sync idle
    exact (holds sync (.inr (.inr idle)) (by rw [unheld]; exact Hold.noConfusion)).trans unheld

theorem Kept.passing (write : W)
    (passing : move = .approach write ∨ move = .announce write ∨ move = .recheck write ∨ move = .retreat write) :
    Kept (state.moveGate move) := by
  obtain ⟨holds, entries⟩ := state.gate.move_passing write passing
  apply kept.moveGate
  · rcases passing with rfl | rfl | rfl | rfl <;> trivial
  · exact fun other _ _ => (entries other).1
  · exact fun other _ _ => (entries other).2
  · exact fun sync _ _ => congrFun holds sync

theorem Kept.crossing (write : W) (crossing : move = .arrive write ∨ move = .leave write)
    (stage : state.write write = .publishing ∨ state.write write = .published) : Kept (state.moveGate move) := by
  obtain ⟨holds, entries⟩ := state.gate.move_crossing write crossing
  apply kept.moveGate
  · rcases crossing with rfl | rfl <;> trivial
  · intro other notPending unpublished
    rw [entries other]
    · exact id
    · rintro rfl
      exact stage.elim (fun publishing => notPending (.inl publishing)) unpublished
  · intro other fanout appended
    rw [entries other]
    · exact id
    · rintro rfl
      rw [appended] at stage
      simp at stage
  · exact fun sync _ _ => congrFun holds sync

theorem Kept.drain (sync : R) : Kept (state.moveGate (.drain sync)) := by
  have entries := (state.gate.move_holder sync (.inr (.inl rfl))).1
  apply kept.moveGate (show state.gate.OneAtATime (.drain sync) from trivial)
  · exact fun write _ _ => (congrFun entries write).trans
  · exact fun write _ _ => (congrFun entries write).trans
  · intro other _ settled
    rw [Gate.move]
    split
    next raised =>
      apply update_of_ne
      intro same
      exact settled (same ▸ raised.1)
    next => rfl

/-- The stage of the resync says nothing about the gate, so that it may raise the flag and lower it. -/
theorem Kept.holding
    (held : move = .raise sync ∨ move = .drain sync ∨ move = .lower sync) (due : state.gate.OneAtATime move)
    (between : ¬ Taking (state.sync sync) ∧ state.sync sync ≠ .aborted ∧ state.sync sync ≠ .idle) : Kept (state.moveGate move) := by
  obtain ⟨entries, holds⟩ := state.gate.move_holder sync held
  apply kept.moveGate due
  · exact fun write _ _ => (congrFun entries write).trans
  · exact fun write _ _ => (congrFun entries write).trans
  · intro other stage _
    apply holds
    rintro rfl
    exact stage.elim between.1 fun rest => rest.elim between.2.1 between.2.2

structure Fits (state : Fullsync W R) (write : W) (stage : WriteStage) : Prop where
  outside : ¬ Pending stage → stage ≠ .published → state.gate.entry write = .outside
  inside : ∀ fanout, stage = .appended fanout → state.gate.entry write = .inside
  unlisted : stage = .appended false → state.replicas = []
  taken : Settled stage → ∀ sync, Taking (state.sync sync) → state.snapshot sync write = true
  unsent : Pending stage → ∀ sync, Taking (state.sync sync) ∨ sync ∈ state.replicas → state.snapshot sync write = false
  sent : ∀ sync ∈ state.replicas, write ∈ state.feed sync → Settled stage
  arrived : Settled stage → ∀ sync ∈ state.replicas, state.sync sync = .attached → state.snapshot sync write = true ∨ write ∈ state.feed sync

omit [DecidableEq R] in
theorem Kept.setWrite {stage : WriteStage} (fits : Fits state write stage) :
    Kept (state.setWrite write stage) := by
  rcases kept with ⟨⟨⟩, ⟨⟩, ⟨⟩⟩
  obtain ⟨outsideHere, insideHere, unlistedHere, takenHere, unsentHere, sentHere, arrivedHere⟩ := fits
  constructor <;> constructor
  all_goals
    simp only [Fullsync.setWrite, update_apply]
    grind

/-- What the next stage of a resync has to respect, if nothing else changes. -/
structure SyncFits (state : Fullsync W R) (sync : R) (stage : SyncStage) : Prop where
  alone : Taking stage ∨ stage = .aborted → state.gate.hold sync = .alone
  free : stage = .idle → state.gate.hold sync = .free
  members : sync ∈ state.replicas → stage = .pushed ∨ stage = .registered ∨ stage = .attached
  fresh : stage = .pushed ∨ stage = .registered → sync ∈ state.replicas
  unpushed : stage ≠ .pushed ∧ state.sync sync ≠ .pushed
  taken : Taking stage → Taking (state.sync sync)
  empty : stage ≠ .attached → state.sync sync ≠ .attached
  arrived : sync ∈ state.replicas → stage = .attached → ∀ write, Settled (state.write write) →
    state.snapshot sync write = true ∨ write ∈ state.feed sync

omit [DecidableEq W] in
theorem Kept.setSync {stage : SyncStage} (fits : SyncFits state sync stage) :
    Kept (state.setSync sync stage) := by
  rcases kept with ⟨⟨⟩, ⟨⟩, ⟨⟩⟩
  obtain ⟨aloneHere, freeHere, membersHere, freshHere, unpushed, takenHere, emptyHere, arrivedHere⟩ := fits
  constructor <;> constructor
  all_goals
    simp only [Fullsync.setSync, update_apply]
    grind

end moves

namespace Kept
variable {state : Fullsync W R} (kept : Kept state)
include kept

omit [DecidableEq R] in
theorem applyWrite (tests : Nat) (seen : R → Bool) (idle : state.write write = .idle) :
    Kept (state.applyWrite tests write seen) := by
  rcases kept with ⟨⟨⟩, ⟨⟩, ⟨⟩⟩
  constructor <;> constructor
  all_goals
    simp only [Fullsync.applyWrite, Fullsync.setWrite, update_apply, Settled, Pending, Taking, InGap] at *
    grind

omit [DecidableEq R] in
/-- A test that fails: whoever is attached is counted, so that nobody is. -/
theorem skip {more : Nat} (testing : state.write write = .testing more)
    (needless : state.needsStreamPublish = false) (snapped : ∀ sync, InGap (state.sync sync) → state.snapshot sync write) :
    Kept (state.setWrite write .skipped) := by
  have nobody : state.connectedReplicas = 0 := by
    simp only [needsStreamPublish, Bool.or_eq_false_iff, decide_eq_false_iff_not] at needless
    omega
  have pushed (sync : R) (member : sync ∈ state.replicas) := kept.uncounted_pushed nobody member
  apply kept.setWrite
  refine ⟨fun _ _ => ?_, nofun, nofun, fun _ sync taking => ?_, ?_, fun _ _ _ => .inr rfl, ?_⟩
  · apply kept.linked.outside
    · simp [testing, Pending]
    · simp [testing]
  · rcases taking with gap | registered
    · exact snapped sync gap
    · cases registered.symm.trans (pushed sync (kept.listed.fresh sync (.inr registered)))
  · simp [Pending]
  · intro _ sync member attached
    cases attached.symm.trans (pushed sync member)

theorem pass (testing : state.write write = .testing 0)
    (unsnapped : ∀ sync, Taking (state.sync sync) ∨ sync ∈ state.replicas → state.snapshot sync write = false) :
    Kept ((state.setWrite write .publishing).moveGate (.arrive write)) := by
  have unsettled : ¬ Settled (state.write write) := by simp [testing, Settled]
  apply crossing _ write (.inl rfl) (.inl (update_self write _ _))
  apply kept.setWrite
  refine ⟨fun wrong => absurd (.inl rfl) wrong, nofun, nofun, ?_, fun _ => unsnapped, ?_, ?_⟩
  · simp [Settled]
  · intro sync member sent
    exact absurd (kept.conveyed.sent sync member write sent).1 unsettled
  · simp [Settled]

omit [DecidableEq R] in
theorem retest {more less : Nat} (testing : state.write write = .testing more) :
    Kept (state.setWrite write (.testing less)) := by
  have unsettled : ¬ Settled (state.write write) := by simp [testing, Settled]
  apply kept.setWrite
  refine ⟨fun _ _ => ?_, nofun, nofun, ?_, ?_, ?_, ?_⟩
  · apply kept.linked.outside
    · simp [testing, Pending]
    · simp [testing]
  · simp [Settled]
  · simp [Pending]
  · intro sync member sent
    exact absurd (kept.conveyed.sent sync member write sent).1 unsettled
  · simp [Settled]

omit [DecidableEq R] in
theorem append (publishing : state.write write = .publishing) (within : state.gate.entry write = .inside) :
    Kept { state.setWrite write (.appended (decide (state.connectedReplicas ≠ 0))) with streamHistory := true } := by
  have unsettled : ¬ Settled (state.write write) := by simp [publishing, Settled]
  have next : Kept (state.setWrite write (.appended (decide (state.connectedReplicas ≠ 0)))) := by
    apply kept.setWrite
    refine ⟨fun wrong => ?_, fun _ _ => within, fun uncounted => ?_, ?_, fun _ sync taking => ?_, fun sync member sent => ?_, ?_⟩
    · cases decide (state.connectedReplicas ≠ 0) <;> simp [Pending] at wrong
    · rw [WriteStage.appended.injEq, decide_eq_false_iff_not, not_not, kept.all_counted within] at uncounted
      exact eq_nil_of_length_eq_zero uncounted
    · simp [Settled]
    · by_contra snapped
      exact kept.conveyed.unsent sync write taking (Bool.eq_true_of_not_eq_false snapped) (.inl publishing)
    · exact absurd (kept.conveyed.sent sync member write sent).1 unsettled
    · simp [Settled]
  rcases next with ⟨⟨⟩, ⟨⟩, ⟨⟩⟩
  constructor <;> constructor <;> assumption

/-- The resyncs hold the gate no longer when a write is fanned out, so that every feed is that of an attached replica. -/
theorem fanout (refused : R → Bool) (appended : state.write write = .appended true) :
    Kept ((state.fanoutToReplicas write refused).setWrite write .published) := by
  have within := kept.linked.inside write true appended
  have quiet := kept.linked.quiet within
  have attached (sync : R) (member : sync ∈ state.replicas) := kept.replicas_attached within member
  have counted := kept.all_counted within
  have pending : Pending (state.write write) := .inr (.inl appended)
  have unsnapped (sync : R) (member : sync ∈ state.replicas) : state.snapshot sync write = false := by
    by_contra snapped
    exact kept.conveyed.unsent sync write (.inr member) (Bool.eq_true_of_not_eq_false snapped) pending
  have unmentioned (sync : R) (member : sync ∈ state.replicas) : write ∉ state.feed sync := by
    intro sent
    have settled := (kept.conveyed.sent sync member write sent).1
    simp [appended, Settled] at settled
  rcases kept with ⟨⟨⟩, ⟨⟩, ⟨⟩⟩
  rw [fanoutToReplicas]
  split
  next none =>
    have nobody := eq_nil_of_length_eq_zero (counted.symm.trans none)
    constructor <;> constructor
    all_goals
      simp only [Fullsync.setWrite, update_apply, Settled, Pending] at *
      grind
  next =>
    have sublist : (state.replicas.filter fun sync => !refused sync).Sublist state.replicas := filter_sublist
    have subset := sublist.subset
    constructor <;> constructor
    all_goals
      simp only [Fullsync.setWrite, update_apply, Settled, Pending, Taking, InGap] at *
      grind

omit [DecidableEq R] in
theorem dropped (appended : state.write write = .appended false) :
    Kept (state.setWrite write .published) := by
  have within := kept.linked.inside write false appended
  have nobody := kept.listed.unsent write appended
  apply kept.setWrite
  refine ⟨fun _ wrong => absurd rfl wrong, nofun, nofun, fun _ sync taking => absurd taking (kept.linked.quiet within sync), ?_,
    fun _ _ _ => .inl rfl, ?_⟩
  · simp [Pending]
  · simp [nobody]

omit [DecidableEq W] in
theorem scan (begun : state.sync sync = .begun) (held : state.gate.hold sync = .alone)
    (unpublished : ∀ write, ¬ Pending (state.write write)) :
    Kept { state.setSync sync .scanning with
      snapshot := update state.snapshot sync fun write => decide (state.write write ≠ .idle) } := by
  rcases kept with ⟨⟨⟩, ⟨⟩, ⟨⟩⟩
  constructor <;> constructor
  all_goals
    simp only [Fullsync.setSync, update_apply, ite_apply, Settled, Pending, Taking, InGap] at *
    grind

theorem push (scanned : state.sync sync = .scanned) :
    Kept { state.setSync sync .pushed with replicas := state.replicas ++ [sync] } := by
  have taking : Taking (state.sync sync) := .inl (.inr (.inl scanned))
  have only (other : R) (second : Taking (state.sync other)) : other = sync := kept.linked.only second taking
  have unappended (write : W) (fanout : Bool) (appended : state.write write = .appended fanout) : False :=
    kept.linked.quiet (kept.linked.inside write fanout appended) sync taking
  rcases kept with ⟨⟨⟩, ⟨⟩, ⟨⟩⟩
  constructor <;> constructor
  all_goals
    simp only [Fullsync.setSync, update_apply, Settled, Pending, Taking, InGap] at *
    grind

omit [DecidableEq W] in
theorem count (pushed : state.sync sync = .pushed) :
    Kept { state.setSync sync .registered with connectedReplicas := state.connectedReplicas + 1 } := by
  have taking : Taking (state.sync sync) := .inl (.inr (.inr pushed))
  have only (other : R) (second : Taking (state.sync other)) : other = sync := kept.linked.only second taking
  rcases kept with ⟨⟨⟩, ⟨⟩, ⟨⟩⟩
  constructor <;> constructor
  all_goals
    simp only [Fullsync.setSync, update_apply, Settled, Pending, Taking, InGap] at *
    grind

theorem raise (idle : state.sync sync = .idle) (due : ∀ other, state.gate.hold other = .free) :
    Kept ((state.setSync sync .begun).moveGate (.raise sync)) := by
  refine holding (kept.setSync ?_) (.inl rfl) due ?_
  · refine ⟨?_, nofun, fun member => ?_, nofun, ?_, ?_, fun _ => ?_, nofun⟩
    · simp [Taking, InGap]
    · simpa [idle] using kept.listed.members sync member
    · simp [idle]
    · simp [Taking, InGap]
    · simp [idle]
  · simp [Fullsync.setSync, Taking, InGap]

omit [DecidableEq W] in
theorem scanned (scanning : state.sync sync = .scanning) (saved : Bool) :
    Kept (state.setSync sync (if saved then .scanned else .aborted)) := by
  have taking : Taking (state.sync sync) := .inl (.inl scanning)
  have missing : sync ∉ state.replicas := fun member => by simpa [scanning] using kept.listed.members sync member
  have held := kept.linked.alone sync (.inl taking)
  apply kept.setSync
  cases saved with
  | true | false =>
    exact ⟨fun _ => held, nofun, fun member => absurd member missing, nofun, by simp [scanning], fun _ => taking, by simp [scanning], nofun⟩

theorem attach (registered : state.sync sync = .registered) :
    Kept ((state.setSync sync .attached).moveGate (.lower sync)) := by
  apply holding _ (.inr (.inr rfl)) trivial
  · simp [Fullsync.setSync, Taking, InGap]
  · apply kept.setSync
    refine ⟨?_, nofun, fun _ => .inr (.inr rfl), nofun, ?_, ?_, fun wrong => absurd rfl wrong, fun _ _ write settled => ?_⟩
    · simp [Taking, InGap]
    · simp [registered]
    · simp [Taking, InGap]
    · exact .inl (kept.conveyed.taken sync write (.inr registered) settled)

theorem fail (aborted : state.sync sync = .aborted) :
    Kept ((state.setSync sync .failed).moveGate (.lower sync)) := by
  apply holding _ (.inr (.inr rfl)) trivial
  · simp [Fullsync.setSync, Taking, InGap]
  · apply kept.setSync
    refine ⟨?_, nofun, fun member => ?_, nofun, ?_, ?_, ?_, nofun⟩
    · simp [Taking, InGap]
    · simpa [aborted] using kept.listed.members sync member
    · simp [aborted]
    · simp [Taking, InGap]
    · simp [aborted]

end Kept

theorem Kept.test (kept : Kept state) (write : W) (orderly : Orderly state (.test write)) (tests : Nat) :
    Kept (step tests state (.test write)) := by
  rw [step]
  split
  next more testing =>
    cases need : state.needsStreamPublish with
    | false =>
      rw [Orderly, need] at orderly
      rw [testWrite.eq_def, need]
      exact kept.skip testing need orderly
    | true =>
      rw [Orderly, need] at orderly
      rw [testWrite.eq_def, need]
      cases more with
      | zero => exact kept.pass testing (orderly testing)
      | succ more => exact kept.retest testing
  next => exact kept

theorem Kept.step (tests : Nat) {event : FullsyncEvent W R} (kept : Kept state) (orderly : Orderly state event) :
    Kept (step tests state event) := by
  cases event with
  | apply write seen =>
    rw [Fullsync.step]
    split
    next idle => exact kept.applyWrite tests seen idle
    next => exact kept
  | test write => exact kept.test write orderly tests
  | approach write => exact kept.passing write (.inl rfl)
  | announce write => exact kept.passing write (.inr (.inl rfl))
  | recheck write => exact kept.passing write (.inr (.inr (.inl rfl)))
  | retreat write => exact kept.passing write (.inr (.inr (.inr rfl)))
  | append write =>
    rw [Fullsync.step]
    split
    next ready => exact kept.append ready.1 ready.2
    next => exact kept
  | fanout write refused =>
    rw [Fullsync.step]
    split
    next appended => exact kept.fanout refused appended
    next appended => exact kept.dropped appended
    next => exact kept
  | exit write =>
    rw [Fullsync.step]
    split
    next published => exact kept.crossing write (.inr rfl) (.inr published)
    next => exact kept
  | raise sync =>
    rw [Fullsync.step]
    split
    next idle => exact kept.raise idle orderly
    next => exact kept
  | drain sync => exact kept.drain sync
  | scan sync =>
    rw [Fullsync.step]
    split
    next ready => exact kept.scan ready.1 ready.2 orderly
    next => exact kept
  | scanned sync saved =>
    rw [Fullsync.step]
    split
    next scanning => exact kept.scanned scanning saved
    next => exact kept
  | push sync =>
    rw [Fullsync.step]
    split
    next scanned => exact kept.push scanned
    next => exact kept
  | count sync =>
    rw [Fullsync.step]
    split
    next pushed => exact kept.count pushed
    next => exact kept
  | lower sync =>
    rw [Fullsync.step]
    split
    next registered => exact kept.attach registered
    next aborted => exact kept.fail aborted
    next => exact kept

/-- In every orderly run each replica has each settled write either in its snapshot or once on its feed. -/
theorem conveyed_exactly_once (tests : Nat) {events : List (FullsyncEvent W R)} (orderly : Guarded (step tests) Orderly start events) :
    ExactlyOnce (run (step tests) start events) :=
  (orderly.invariant (fun _ _ => Kept.step tests) start_kept).exactlyOnce

/-- The steps of a full resync that nobody disturbs. -/
def resync (sync : R) : List (FullsyncEvent W R) :=
  [.raise sync, .drain sync, .scan sync, .scanned sync true, .push sync, .count sync, .lower sync]

def publication (write : W) : List (FullsyncEvent W R) :=
  [.approach write, .announce write, .recheck write, .append write, .fanout write fun _ => false, .exit write]

def tested (appendonly : Bool) (write : W) : List (FullsyncEvent W R) := replicate (publishTests appendonly) (.test write)

/-- One write before the resync, which nobody needs, and one after it. -/
def orderlyEvents : List (FullsyncEvent Bool Unit) :=
  [.apply false fun _ => false] ++ tested true false ++ resync () ++ [.apply true fun _ => false] ++ tested true true ++ publication true

theorem orderly_writes_conveyed :
    Guarded (step (publishTests true)) Orderly start orderlyEvents ∧
      (run (step (publishTests true)) start orderlyEvents).replicas = [()] ∧
      (run (step (publishTests true)) start orderlyEvents).write = (fun write => if write then .published else .skipped) ∧
      ExactlyOnce (run (step (publishTests true)) start orderlyEvents) :=
  have orderly : Guarded (step (publishTests true)) Orderly start orderlyEvents := by decide +kernel
  ⟨orderly, by decide +kernel, by decide +kernel, conveyed_exactly_once (publishTests true) orderly⟩

/-- A write is made after the snapshot has been taken, and is not needed while the feed is not counted. -/
def missedEvents : List (FullsyncEvent Unit Bool) :=
  [.raise false, .drain false, .scan false, .scanned false true, .apply () fun _ => false] ++ tested false () ++
    [.push false, .count false, .lower false]

/-- A write is made and found to be needed by a first replica; a second one is attached before it is published. -/
def doubledEvents : List (FullsyncEvent Unit Bool) :=
  resync false ++ [.apply () fun _ => false] ++ tested false () ++ resync true ++ publication ()

/-- The second of two resyncs ends while the first has taken its snapshot, and opens the gate to a write. -/
def overlappingEvents : List (FullsyncEvent Unit Bool) :=
  [.raise false, .drain false, .scan false, .scanned false true] ++ resync true ++ [.apply () fun _ => false] ++ tested false () ++
    publication () ++ [.push false, .count false, .lower false]

/-- A replica whose resync is over, with what it has of the only write. -/
def conveyance (events : List (FullsyncEvent Unit Bool)) (sync : Bool) : SyncStage × WriteStage × Bool × List Unit :=
  let final := run (step (publishTests false)) start events
  (final.sync sync, final.write (), final.snapshot sync (), final.feed sync)

theorem missed_and_doubled_writes :
    conveyance missedEvents false = (.attached, .skipped, false, []) ∧
      conveyance doubledEvents true = (.attached, .published, true, [()]) ∧
      conveyance overlappingEvents false = (.attached, .published, false, []) ∧
      ¬ ExactlyOnce (run (step (publishTests false)) start missedEvents) ∧
      ¬ ExactlyOnce (run (step (publishTests false)) start doubledEvents) ∧
      ¬ ExactlyOnce (run (step (publishTests false)) start overlappingEvents) := by
  decide +kernel

/-- Resyncs come one at a time, whatever else they and the writes do. -/
def InTurn (state : Fullsync W R) : FullsyncEvent W R → Prop
  | .raise _ => ∀ other, state.gate.hold other = .free
  | _ => True

private theorem gate_sound (tests : Nat) (state : Fullsync W R) (event : FullsyncEvent W R) (sound : state.gate.Sound)
    (turn : InTurn state event) : (step tests state event).gate.Sound := by
  cases event <;> simp only [Fullsync.step, testWrite, fanoutToReplicas]
  all_goals
    repeat' split
  all_goals first
    | exact sound
    | simp only [moveGate, setWrite, setSync]
      first
      | exact sound.move trivial
      | exact sound.move turn

/-- A resync that has the gate to itself shares it neither with a publication nor with another resync. -/
theorem snapshot_undisturbed (tests : Nat) {events : List (FullsyncEvent W R)} (turns : Guarded (step tests) InTurn start events)
    (sync : R) (held : (run (step tests) start events).gate.hold sync = .alone) :
    (∀ write, (run (step tests) start events).gate.entry write ≠ .inside) ∧
      ∀ other, other ≠ sync → (run (step tests) start events).gate.hold other = .free := by
  have sound := turns.invariant (gate_sound tests) Gate.opened_sound
  refine ⟨fun write => sound.apart sync write held, fun other different => ?_⟩
  by_contra busy
  exact different (sound.single other sync busy (by rw [held]; nofun))

instance [Fintype R] (state : Fullsync W R) : (event : FullsyncEvent W R) → Decidable (InTurn state event)
  | .raise _ => inferInstanceAs (Decidable (∀ _, _ = _))
  | .apply _ _ | .test _ | .approach _ | .announce _ | .recheck _ | .retreat _ | .append _ | .fanout _ _ | .exit _ => isTrue trivial
  | .drain _ | .scan _ | .scanned _ _ | .push _ | .count _ | .lower _ => isTrue trivial

/-- A second resync raises the flag while one write is inside the gate and another one is about to
enter. The one leaves and the other retreats before the resync has the gate to itself. -/
def crowdedEvents : List (FullsyncEvent Bool Bool) :=
  resync false ++ [.apply false fun _ => false, .apply true fun _ => false] ++ tested true false ++ tested true true ++
    [.approach false, .announce false, .recheck false, .approach true, .raise true, .announce true, .recheck true, .drain true] ++
    [.append false, .fanout false fun _ => false, .exit false, .drain true, .retreat true, .drain true, .approach true]

theorem drained_gate_undisturbed :
    let final := run (step (publishTests true)) start crowdedEvents
    final.gate.hold true = .alone ∧ final.write = (fun write => if write then .publishing else .published) ∧
      (∀ write, final.gate.entry write ≠ .inside) ∧ ∀ other, other ≠ true → final.gate.hold other = .free :=
  have turns : Guarded (step (publishTests true)) InTurn start crowdedEvents := by decide +kernel
  have alone : (run (step (publishTests true)) start crowdedEvents).gate.hold true = .alone := by decide +kernel
  ⟨alone, by decide +kernel, snapshot_undisturbed (publishTests true) turns true alone⟩

end Kore.Proofs.FullsyncConveyance
