import Kore.Foundation.Epochs
import Kore.Foundation.Runs
import Kore.Sentinel.State

/-! What hellos make of the address of a master. The address with the greater config epoch
is meant to win. The stored epoch is not raised by a hello that confirms the address, so a
later hello with a smaller epoch can still take the address away. -/

namespace Kore.Proofs.HelloConvergence
open Foundation Foundation.Epochs Sentinel Sentinel.SentinelState HelloMsg Option List Prod

variable {name : Bytes} {sentinel : SentinelState}

def address (master : MasterInfo) : Bytes × Nat := (master.ip, master.port)

def helloAddress (msg : HelloMsg) : Bytes × Nat := (msg.masterIp, msg.masterPort)

def view (name : Bytes) (sentinel : SentinelState) : Option ((Bytes × Nat) × Nat) :=
  (sentinel.master name).map fun master => (address master, master.failoverEpoch)

/-- A hello about the master that another sentinel can have sent. -/
structure Valid (myId name : Bytes) (msg : HelloMsg) : Prop where
  about : msg.masterName = name
  other : msg.runid ≠ myId
  port : msg.sentinelPort ≠ 0
  named : 8 ≤ msg.runid.length

def hear (sentinel : SentinelState) (arrival : Nat × HelloMsg) : SentinelState := (sentinel.applyHello arrival.1 arrival.2).1

private theorem master_onMaster (change : MasterInfo → MasterInfo) :
    (sentinel.onMaster name change).master name = (sentinel.master name).map change := by
  unfold onMaster master FiniteMap.update
  split
  next master present => rw [Finmap.lookup_insert, present, map_some]
  next missing => rw [missing, map_none]

private theorem master_informed (msg : HelloMsg) :
    ((sentinel.addPeer msg.runid msg.sentinelIp msg.sentinelPort).bumpEpoch msg.currentEpoch).master name = sentinel.master name := by
  unfold bumpEpoch addPeer master
  split <;> split <;> rfl

private theorem master_switchMaster {known : MasterInfo}
    (present : sentinel.master name = some known) (now : Nat) (ip : Bytes) (port : Nat) :
    ∃ switched, (sentinel.switchMaster now name ip port).master name = some switched ∧ address switched = (ip, port) := by
  unfold switchMaster
  rw [present]
  refine ⟨_, (master_onMaster _).trans (congrArg _ present), rfl⟩

theorem view_hear {held : (Bytes × Nat) × Nat} (known : view name sentinel = some held)
    {arrival : Nat × HelloMsg} (valid : Valid sentinel.myId name arrival.2) :
    view name (hear sentinel arrival) = some (adopt helloAddress masterConfigEpoch held arrival.2) := by
  obtain ⟨now, msg⟩ := arrival
  obtain ⟨rfl, other, port, named⟩ := valid
  obtain ⟨master, present, rfl⟩ := map_eq_some_iff.mp known
  have informed := (master_informed msg).trans present
  unfold hear applyHello
  dsimp only
  rw [if_neg other, if_neg (by simpa [port] using named), informed]
  dsimp only
  have guard : (decide (master.failoverEpoch < msg.masterConfigEpoch) && (msg.masterIp ≠ master.ip || msg.masterPort ≠ master.port)) = true ↔
      master.failoverEpoch < msg.masterConfigEpoch ∧ helloAddress msg ≠ address master := by
    simp only [Bool.and_eq_true, Bool.or_eq_true, decide_eq_true_eq, helloAddress, address, ne_eq, Prod.mk.injEq, not_and_or]
  unfold adopt
  split
  next taken =>
    obtain ⟨switched, found, same⟩ := master_switchMaster informed now msg.masterIp msg.masterPort
    rw [if_pos (guard.mp taken), view, master_onMaster, found, map_some, map_some]
    exact congrArg (fun place => some (place, msg.masterConfigEpoch)) same
  next refused => rw [if_neg (fun taken => refused (guard.mpr taken)), view, informed, map_some]

private theorem myId_hear (arrival : Nat × HelloMsg) : (hear sentinel arrival).myId = sentinel.myId := by
  have bump : ∀ (epoch : Nat) (sentinel : SentinelState), (sentinel.bumpEpoch epoch).myId = sentinel.myId := by
    intro epoch sentinel
    unfold bumpEpoch
    split <;> rfl
  have add : ∀ (id ip : Bytes) (port : Nat) (sentinel : SentinelState), (sentinel.addPeer id ip port).myId = sentinel.myId := by
    intro id ip port sentinel
    unfold addPeer
    split <;> rfl
  unfold hear applyHello
  dsimp only
  split
  · rfl
  · split
    · rfl
    · split
      · exact (bump _ _).trans (add _ _ _ _)
      · split
        next present _ =>
          unfold switchMaster
          rw [present]
          exact (bump _ _).trans (add _ _ _ _)
        next => exact (bump _ _).trans (add _ _ _ _)

theorem view_run {held : (Bytes × Nat) × Nat} (known : view name sentinel = some held)
    (arrivals : List (Nat × HelloMsg)) (valid : ∀ arrival ∈ arrivals, Valid sentinel.myId name arrival.2) :
    view name (run hear sentinel arrivals) =
      some ((arrivals.map snd).foldl (adopt helloAddress masterConfigEpoch) held) := by
  induction arrivals generalizing sentinel held with
  | nil => exact known
  | cons arrival arrivals ih =>
    apply ih (view_hear known (valid arrival mem_cons_self))
    intro later member
    rw [myId_hear]
    exact valid later (mem_cons_of_mem _ member)

/-- In whatever order and however often the messages come, the sentinel ends with one address, and
that one has the greatest config epoch. -/
def Converges (name : Bytes) (sentinel : SentinelState) (start : (Bytes × Nat) × Nat) (messages : List HelloMsg) : Prop :=
  ∃ top, Greatest helloAddress masterConfigEpoch start messages top ∧
    ∀ arrivals : List (Nat × HelloMsg), (∀ msg, msg ∈ arrivals.map snd ↔ msg ∈ messages) →
      ∃ epoch, view name (run hear sentinel arrivals) = some (top.1, epoch)

/-- No other address has a config epoch above one that the winning address has, from the stored epoch on. -/
def NoneBetween (start : (Bytes × Nat) × Nat) (messages : List HelloMsg) : Prop :=
  ∀ top, Greatest helloAddress masterConfigEpoch start messages top →
    Unbroken helloAddress masterConfigEpoch start messages top

theorem converges_iff_none_between {name : Bytes} {sentinel : SentinelState} {start : (Bytes × Nat) × Nat} {messages : List HelloMsg}
    (known : view name sentinel = some start) (valid : ∀ msg ∈ messages, Valid sentinel.myId name msg)
    (distinct : Distinct helloAddress masterConfigEpoch messages) :
    Converges name sentinel start messages ↔ NoneBetween start messages := by
  constructor
  · intro ⟨top, greatest, converges⟩ other greatest'
    by_contra broken
    obtain ⟨⟨msg, member, above⟩, order, same, stray⟩ := strays broken
    have plain : (order.map fun msg => ((0 : Nat), msg)).map Prod.snd = order := by
      rw [List.map_map]
      exact List.map_id order
    obtain ⟨epoch, final⟩ := converges (order.map fun msg => (0, msg)) (by rw [plain]; exact same)
    rw [view_run known _ fun arrival member => ?_, plain] at final
    · have ends := some.inj final
      rw [greatest.unique distinct greatest' member above] at stray
      exact stray (by rw [ends])
    · obtain ⟨msg, inside, rfl⟩ := List.mem_map.mp member
      exact valid msg ((same msg).mp inside)
  · intro between
    -- On a tie at the top the stored address is the one that stays.
    obtain ⟨top, greatest, tie⟩ : ∃ top, Greatest helloAddress masterConfigEpoch start messages top ∧ (top.2 = start.2 → top = start) := by
      obtain ⟨top, greatest⟩ := @greatest_exists _ _ helloAddress masterConfigEpoch start messages
      by_cases tied : top.2 = start.2
      · exact ⟨start, ⟨.inl rfl, fun other carried => tied ▸ greatest.most other carried⟩, fun _ => rfl⟩
      · exact ⟨top, greatest, fun same => absurd same tied⟩
    refine ⟨top, greatest, fun arrivals same => ?_⟩
    have settled := settles distinct greatest tie (between top greatest) same
    rw [view_run known arrivals fun arrival member => valid _ ((same _).mp (List.mem_map_of_mem member))]
    exact ⟨(List.foldl _ start _).2, congrArg some (Prod.ext settled rfl)⟩

section

private def watching : SentinelState where
  myId := ascii "sentinel-a"
  masters := Finmap.singleton (ascii "mymaster")
    { name := ascii "mymaster", ip := ascii "10.0.0.1", port := 6379, quorum := 2, downAfterMs := 30000, sDown := false, oDown := false,
      downVotes := 0, lastOk := 0, replicas := [], failoverEpoch := 0, leaderRunid := [], leaderEpoch := 0, electionStartedAt := none }
  peers := ∅
  currentEpoch := 0

private def hello (ip : String) (epoch : Nat) : HelloMsg :=
  ⟨ascii "10.0.1.1", 26379, ascii "sentinel-b", epoch, ascii "mymaster", ascii ip, 6379, epoch⟩

private theorem hello_valid (ip : String) (epoch : Nat) : Valid watching.myId (ascii "mymaster") (hello ip epoch) := by
  refine ⟨rfl, ?_, ?_, ?_⟩
  · show ascii "sentinel-b" ≠ ascii "sentinel-a"
    decide
  · show (26379 : Nat) ≠ 0
    decide
  · show 8 ≤ (ascii "sentinel-b").length
    decide

/-- The stored address is confirmed with epoch 5, and then lost to another one with epoch 3. -/
theorem confirmed_address_lost :
    Distinct helloAddress masterConfigEpoch [hello "10.0.0.1" 5, hello "10.0.0.2" 3] ∧
      view (ascii "mymaster") (run hear watching [(0, hello "10.0.0.1" 5), (1, hello "10.0.0.2" 3)]) =
        some ((ascii "10.0.0.2", 6379), 3) ∧
      ¬ Converges (ascii "mymaster") watching ((ascii "10.0.0.1", 6379), 0) [hello "10.0.0.1" 5, hello "10.0.0.2" 3] := by
  have lost : view (ascii "mymaster") (run hear watching [(0, hello "10.0.0.1" 5), (1, hello "10.0.0.2" 3)]) =
      some ((ascii "10.0.0.2", 6379), 3) := by decide +kernel
  refine ⟨by unfold Distinct; decide +kernel, lost, fun ⟨top, greatest, converges⟩ => ?_⟩
  obtain ⟨inside, most⟩ := greatest.mem
  obtain ⟨epoch, final⟩ := converges [(0, hello "10.0.0.1" 5), (1, hello "10.0.0.2" 3)] (fun _ => Iff.rfl)
  have moved : (ascii "10.0.0.2", 6379) = top.1 := congrArg Prod.fst (some.inj (lost.symm.trans final))
  clear converges final greatest lost
  revert top
  decide +kernel

/-- A message ties with the stored address, and two addresses are announced after it. -/
private def announced : List HelloMsg := [hello "10.0.0.2" 0, hello "10.0.0.3" 5, hello "10.0.0.2" 3]

theorem new_address_converges :
    Converges (ascii "mymaster") watching ((ascii "10.0.0.1", 6379), 0) announced := by
  have valid : ∀ msg ∈ announced, Valid watching.myId (ascii "mymaster") msg := by
    simp only [announced, forall_mem_cons]
    exact ⟨hello_valid _ _, hello_valid _ _, hello_valid _ _, forall_mem_nil _⟩
  apply (converges_iff_none_between (by decide +kernel) valid (by unfold Distinct; decide +kernel)).mpr
  intro top greatest
  obtain ⟨inside, most⟩ := greatest.mem
  clear greatest valid
  simp only [Unbroken, carried_iff_mem, Within]
  revert top
  decide +kernel

end

end Kore.Proofs.HelloConvergence
