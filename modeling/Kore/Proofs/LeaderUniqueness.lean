import Mathlib.Data.Fintype.Card
import Kore.Foundation.Runs
import Kore.Sentinel.Election

/-! Votes and leaders. A sentinel votes in an epoch above that of the vote it has, but a
successful probe and the election timeout take the vote away, and a campaign counts its own
vote whether it was granted or not. Where votes are granted only in epochs that were new to
the sentinel when it read its own, and no vote is taken away while another one in its epoch
is under way, a sentinel votes once in every epoch, and majorities have a voter in common. -/

namespace Kore.Proofs.LeaderUniqueness
open Foundation Sentinel Sentinel.SentinelState Sentinel.Electorate List Electorate Function Bool Finmap

def Monitors (name : Bytes) (sentinel : SentinelState) (master : MasterInfo) : Prop :=
  sentinel.masters = singleton name master ∧ master.name = name

/-- The epoch of the vote that a sentinel has. -/
def standing (name : Bytes) (sentinel : SentinelState) : Nat := ((sentinel.master name).map MasterInfo.leaderEpoch).getD 0

/-- A section that leaves the vote alone; the epoch does not fall. -/
structure Keeps (name : Bytes) (before after : SentinelState) (old new : MasterInfo) : Prop where
  id : after.myId = before.myId
  epoch : before.currentEpoch ≤ after.currentEpoch
  monitors : Monitors name after new
  leader : new.leaderRunid = old.leaderRunid
  leaderEpoch : new.leaderEpoch = old.leaderEpoch

structure Clears (name : Bytes) (before after : SentinelState) (new : MasterInfo) : Prop where
  id : after.myId = before.myId
  epoch : after.currentEpoch = before.currentEpoch
  monitors : Monitors name after new
  leader : new.leaderRunid = []
  leaderEpoch : new.leaderEpoch = 0

structure Votes (name : Bytes) (before after : SentinelState) (new : MasterInfo) (epoch : Nat) (candidate : Bytes) : Prop where
  id : after.myId = before.myId
  current : after.currentEpoch = before.currentEpoch
  monitors : Monitors name after new
  leader : new.leaderRunid = candidate
  leaderEpoch : new.leaderEpoch = epoch

variable {candidate : Bytes}

section Sentinels
variable {name : Bytes} {sentinel : SentinelState} {master : MasterInfo} {now : Nat}

section
variable (monitors : Monitors name sentinel master)
include monitors

private theorem Monitors.lookup : sentinel.master name = some master := by
  rw [SentinelState.master, monitors.1, lookup_singleton_eq]

private theorem Monitors.unique {other : MasterInfo} (monitors' : Monitors name sentinel other) :
    master = other := Option.some.inj (monitors.lookup.symm.trans monitors'.lookup)

private theorem Monitors.standing_eq : standing name sentinel = master.leaderEpoch := by
  rw [standing, monitors.lookup]
  rfl

variable {change : MasterInfo → MasterInfo}

private theorem Monitors.changed
    (named : (change master).name = master.name) : Monitors name (sentinel.onMaster name change) (change master) := by
  refine ⟨?_, named.trans monitors.2⟩
  have present := monitors.lookup
  unfold SentinelState.master at present
  unfold SentinelState.onMaster FiniteMap.update
  rw [present]
  rw [monitors.1]
  exact insert_singleton_eq

private theorem Keeps.refl : Keeps name sentinel sentinel master master :=
  ⟨rfl, le_rfl, monitors, rfl, rfl⟩

theorem noteOk_clears (now : Nat) (replicas : Option (List ReplicaInfo)) :
    ∃ new, Clears name sentinel (sentinel.noteOk now name replicas) new :=
  ⟨_, rfl, rfl, monitors.changed rfl, rfl, rfl⟩

theorem clearElectionVote_clears : ∃ new, Clears name sentinel (sentinel.clearElectionVote name) new :=
  ⟨_, rfl, rfl, monitors.changed rfl, rfl, rfl⟩

theorem maybeSdown_keeps (now : Nat) :
    ∃ new, Keeps name sentinel (sentinel.maybeSdown now name) master new := by
  refine ⟨_, rfl, le_rfl, monitors.changed ?_, ?_, ?_⟩ <;> split <;> rfl

theorem electionExpired_keeps (timeout now : Nat) :
    ∃ stamped, Keeps name sentinel (sentinel.electionExpired timeout now name).1 master stamped := by
  unfold electionExpired
  rw [monitors.lookup]
  dsimp only
  split
  · exact ⟨master, .refl monitors⟩
  · split
    · exact ⟨master, .refl monitors⟩
    · exact ⟨_, rfl, le_rfl, monitors.changed rfl, rfl, rfl⟩

/-- The section of a vote that looks at the vote there is. -/
theorem casting_spec (epoch : Nat) (raised : Bool) :
    (master.leaderEpoch < epoch ∧ ∃ after new, sentinel.voteLeader now name epoch candidate (.casting raised) =
        (after, .inr (candidate, epoch)) ∧ Votes name sentinel after new epoch candidate) ∨
      epoch ≤ master.leaderEpoch ∧ sentinel.voteLeader now name epoch candidate (.casting raised) =
        (sentinel, .inr (master.leaderRunid, master.leaderEpoch)) := by
  unfold voteLeader
  rw [monitors.lookup]
  dsimp only
  split
  next above => exact .inl ⟨above, _, _, rfl, rfl, rfl, monitors.changed rfl, rfl, rfl⟩
  next below => exact .inr ⟨not_lt.mp below, rfl⟩

/-- The only master is the one that is found. -/
theorem find_monitored (walk : Iteration Bytes MasterInfo) {wanted : MasterInfo → Bool} {found : MasterInfo}
    (search : ((walk.entries sentinel.masters).map Prod.snd).find? wanted = some found) : found = master := by
  obtain ⟨⟨key, value⟩, listed, rfl⟩ := mem_map.mp (mem_of_find?_eq_some search)
  have present := Iteration.mem_entries.mp listed
  rw [monitors.1] at present
  have place := Finmap.lookup_eq_some_iff.mp present
  simp only [Finmap.singleton, AList.toFinmap_entries, AList.singleton_entries, Multiset.coe_singleton, Multiset.mem_singleton,
    Sigma.mk.injEq] at place
  exact eq_of_heq place.2

end

end Sentinels

section Elections
variable {count : Nat}

/-- The call has found its epoch above that of the sentinel. -/
def claims : VoteStage → Bool
  | .reading => false
  | .raising => true
  | .casting raised => raised

def answerClaims : AnswerStage → Bool
  | .voting _ stage => claims stage
  | _ => false

/-- The epoch in which a campaign of one sentinel is about to get a vote of another one that is new to that one. -/
def claimed (campaigner voter : Fin count) : Campaign count → Option Nat
  | .voting epoch master _ => if campaigner = voter && master.leaderEpoch ≠ epoch then some epoch else none
  | .awaiting epoch _ _ peer _ stage => if peer = voter && answerClaims stage then some epoch else none
  | _ => none

def requested (voter : Fin count) (request : Request count) : Option Nat :=
  if request.sentinel = voter && answerClaims request.stage then some request.question.epoch else none

/-- The epochs in which votes of a sentinel are under way that were new to it when it was asked. -/
def underway (electorate : Electorate count) (i : Fin count) : List Nat :=
  electorate.requests.filterMap (requested i) ++ (finRange count).filterMap fun j => claimed j i (electorate.campaigns j)

/-- What is voted in the epoch still stands, or a vote above it. -/
def Fresh (name : Bytes) (electorate : Electorate count) (i : Fin count) (epoch : Nat) : Prop :=
  ∀ candidate, (i, epoch, candidate) ∈ electorate.granted → epoch ≤ standing name (electorate.sentinels i)

/-- What holds of an answer: a vote is cast after the sentinel has reached its epoch, and an answer that names a candidate
names a vote that was granted. -/
def Answers (name : Bytes) (electorate : Electorate count) (i : Fin count) (epoch : Nat) (runid : Bytes) : AnswerStage → Prop
  | .finding => True
  | .looking called => called = name
  | .voting called stage => called = name ∧ isCandidate runid = true ∧
      ∀ raised, stage = .casting raised → epoch ≤ (electorate.sentinels i).currentEpoch
  | .answered _ leader voted => isCandidate leader = true → (i, voted, leader) ∈ electorate.granted

/-- Every vote counted has been granted, by sentinels that are not asked again. -/
def Tallied (electorate : Electorate count) (i : Fin count) (epoch votes : Nat) (left : List (Fin count)) : Prop :=
  left.Nodup ∧ ∃ voters : Finset (Fin count), voters.card = votes ∧
    ∀ voter ∈ voters, (voter, epoch, (electorate.sentinels i).myId) ∈ electorate.granted ∧ voter ∉ left

def Recorded (electorate : Electorate count) (i : Fin count) (master : MasterInfo) : Prop :=
  master.leaderEpoch = 0 ∨ (i, master.leaderEpoch, master.leaderRunid) ∈ electorate.granted

/-- What holds of a campaign. Its own vote never raises the epoch, which has been reached when it is chosen. -/
def Backed (name : Bytes) (electorate : Electorate count) (i : Fin count) : Campaign count → Prop
  | .timing master | .opening master => Recorded electorate i master
  | .voting epoch master stage => epoch ≤ (electorate.sentinels i).currentEpoch ∧ claims stage = false ∧
      (master.leaderEpoch = epoch → (i, epoch, master.leaderRunid) ∈ electorate.granted ∧
        (count ≤ 1 ∨ master.leaderRunid = (electorate.sentinels i).myId))
  | .asking epoch votes _ left => Tallied electorate i epoch votes left
  | .awaiting epoch votes _ peer left stage => Tallied electorate i epoch votes (peer :: left) ∧
      Answers name electorate peer epoch (electorate.sentinels i).myId stage
  | _ => True

/-- The invariant of an orderly election. -/
structure Orderly (name : Bytes) (electorate : Electorate count) : Prop where
  candidates : ∀ i, isCandidate (electorate.sentinels i).myId = true
  distinct : ∀ i j, (electorate.sentinels i).myId = (electorate.sentinels j).myId → i = j
  monitors : ∀ i, ∃ master, Monitors name (electorate.sentinels i) master ∧ (master.leaderRunid = [] → master.leaderEpoch = 0) ∧
    (master.leaderRunid ≠ [] → (i, master.leaderEpoch, master.leaderRunid) ∈ electorate.granted)
  reached : ∀ i epoch candidate, (i, epoch, candidate) ∈ electorate.granted → epoch ≤ (electorate.sentinels i).currentEpoch
  unique : ∀ i epoch one other, (i, epoch, one) ∈ electorate.granted → (i, epoch, other) ∈ electorate.granted → one = other
  fresh : ∀ i, ∀ epoch ∈ underway electorate i, Fresh name electorate i epoch
  requests : ∀ request ∈ electorate.requests,
    Answers name electorate request.sentinel request.question.epoch request.question.runid request.stage
  campaigns : ∀ i, Backed name electorate i (electorate.campaigns i)
  elected : ∀ i epoch, (i, epoch) ∈ electorate.elected → count ≤ 1 ∨ ∃ voters : Finset (Fin count), count < 2 * voters.card ∧
    ∀ voter ∈ voters, (voter, epoch, (electorate.sentinels i).myId) ∈ electorate.granted

/-- No sentinel has voted for two candidates in one epoch, and no two sentinels have won the same epoch. -/
def Unambiguous (electorate : Electorate count) : Prop :=
  (∀ i epoch one other, (i, epoch, one) ∈ electorate.granted → (i, epoch, other) ∈ electorate.granted → one = other) ∧
    ∀ i j epoch, (i, epoch) ∈ electorate.elected → (j, epoch) ∈ electorate.elected → i = j

variable {name : Bytes} {electorate : Electorate count} {i : Fin count} {after : SentinelState} {old new : MasterInfo}

/-- Two majorities have a voter in common, and it has voted once. -/
theorem Orderly.unambiguous (orderly : Orderly name electorate) : Unambiguous electorate := by
  refine ⟨orderly.unique, ?_⟩
  intro i j epoch won won'
  rcases orderly.elected i epoch won with alone | ⟨voters, majority, votes⟩
  · exact Fin.ext (by omega)
  · rcases orderly.elected j epoch won' with alone | ⟨voters', majority', votes'⟩
    · exact Fin.ext (by omega)
    · have overlap : (voters ∩ voters').Nonempty := by
        apply Finset.inter_nonempty_of_card_lt_card_add_card (Finset.subset_univ voters) (Finset.subset_univ voters')
        rw [Finset.card_univ, Fintype.card_fin]
        omega
      obtain ⟨voter, member⟩ := overlap
      obtain ⟨one, other⟩ := Finset.mem_inter.mp member
      exact orderly.distinct i j (orderly.unique voter epoch _ _ (votes voter one) (votes' voter other))

private theorem mem_underway {epoch : Nat} : epoch ∈ underway electorate i ↔
    (∃ request ∈ electorate.requests, requested i request = some epoch) ∨ ∃ j, claimed j i (electorate.campaigns j) = some epoch := by
  simp [underway]

section Growth

/-- Sentinels keep their ids, epochs do not fall, and no vote is forgotten. -/
structure Grows (before after : Electorate count) : Prop where
  ids : ∀ i, (after.sentinels i).myId = (before.sentinels i).myId
  epochs : ∀ i, (before.sentinels i).currentEpoch ≤ (after.sentinels i).currentEpoch
  granted : ∀ vote ∈ before.granted, vote ∈ after.granted

variable {before after : Electorate count} (grows : Grows before after)
include grows

private theorem Answers.mono {epoch : Nat} {runid : Bytes} {stage : AnswerStage} (answers : Answers name before i epoch runid stage) :
    Answers name after i epoch runid stage := by
  cases stage with
  | finding => trivial
  | looking called => exact answers
  | voting called stage =>
    exact ⟨answers.1, answers.2.1, fun raised casting => (answers.2.2 raised casting).trans (grows.epochs i)⟩
  | answered down leader voted => exact fun named => grows.granted _ (answers named)

private theorem Tallied.mono {epoch votes : Nat} {left : List (Fin count)} (tallied : Tallied before i epoch votes left) :
    Tallied after i epoch votes left := by
  obtain ⟨distinct, voters, counted, granted⟩ := tallied
  refine ⟨distinct, voters, counted, fun voter member => ⟨?_, (granted voter member).2⟩⟩
  rw [grows.ids]
  exact grows.granted _ (granted voter member).1

private theorem Recorded.mono {master : MasterInfo} (recorded : Recorded before i master) : Recorded after i master :=
  recorded.imp_right (grows.granted _)

private theorem Backed.mono {campaign : Campaign count} (backed : Backed name before i campaign) : Backed name after i campaign := by
  cases campaign with
  | idle | expiring | clearing | refreshing => trivial
  | timing master | opening master => exact Recorded.mono grows backed
  | voting epoch master stage =>
    obtain ⟨reached, quiet, reused⟩ := backed
    refine ⟨reached.trans (grows.epochs i), quiet, fun same => ⟨grows.granted _ (reused same).1, ?_⟩⟩
    rw [grows.ids]
    exact (reused same).2
  | asking epoch votes master left => exact Tallied.mono grows backed
  | awaiting epoch votes master peer left stage =>
    refine ⟨backed.1.mono grows, ?_⟩
    rw [grows.ids]
    exact backed.2.mono grows

end Growth

private theorem become_self : (electorate.become name i after).sentinels i = after := update_self _ _ _

variable {runid : Bytes}

private theorem candidate_ne_nil (valid : isCandidate runid) : runid ≠ [] := by
  rintro rfl
  exact absurd valid (by decide)

section
variable (orderly : Orderly name electorate) (monitors : Monitors name (electorate.sentinels i) old)
include orderly monitors

private theorem Orderly.vote_of_monitors (named : old.leaderRunid ≠ []) : (i, old.leaderEpoch, old.leaderRunid) ∈ electorate.granted := by
  obtain ⟨stored, monitors', _, granted⟩ := orderly.monitors i
  have same : stored = old := monitors'.unique monitors
  subst same
  exact granted named

private theorem Orderly.blank_of_monitors (blank : old.leaderRunid = []) : old.leaderEpoch = 0 := by
  obtain ⟨stored, monitors', zero, _⟩ := orderly.monitors i
  have same : stored = old := monitors'.unique monitors
  subst same
  exact zero blank

/-- A sentinel comes into another state: with the vote it had, without one, or with a new one in an epoch that it has reached
and in which it has voted for nobody else. -/
private theorem Orderly.become (id : after.myId = (electorate.sentinels i).myId)
    (later : (electorate.sentinels i).currentEpoch ≤ after.currentEpoch) (monitors' : Monitors name after new)
    (blank : new.leaderRunid = [] → new.leaderEpoch = 0)
    (kept : ¬ old.leaderEpoch < new.leaderEpoch → new.leaderRunid ≠ [] → (i, new.leaderEpoch, new.leaderRunid) ∈ electorate.granted)
    (voted : old.leaderEpoch < new.leaderEpoch → new.leaderEpoch ≤ after.currentEpoch ∧
      ∀ candidate, (i, new.leaderEpoch, candidate) ∈ electorate.granted → candidate = new.leaderRunid)
    (spared : old.leaderEpoch ≤ new.leaderEpoch ∨ ∀ epoch ∈ underway electorate i, old.leaderEpoch < epoch) :
    Grows electorate (electorate.become name i after) ∧ Orderly name (electorate.become name i after) := by
  set next := electorate.become name i after with become
  have votes : next.granted =
      (if old.leaderEpoch < new.leaderEpoch then [(i, new.leaderEpoch, new.leaderRunid)] else []) ++ electorate.granted := by
    rw [become, Electorate.become, newVote, monitors.lookup, monitors'.lookup]
  have origin : ∀ vote ∈ next.granted, vote ∈ electorate.granted ∨
      old.leaderEpoch < new.leaderEpoch ∧ vote = (i, new.leaderEpoch, new.leaderRunid) := by
    intro vote member
    rw [votes] at member
    rcases mem_append.mp member with added | before
    · split at added
      next above => exact .inr ⟨above, mem_singleton.mp added⟩
      next => exact absurd added not_mem_nil
    · exact .inl before
  have self : next.sentinels i = after := become_self
  have others : ∀ {j}, j ≠ i → next.sentinels j = electorate.sentinels j :=
    fun different => update_of_ne different _ _
  have grows : Grows electorate next := by
    refine ⟨fun j => ?_, fun j => ?_, fun vote member => votes ▸ mem_append_right _ member⟩
    · by_cases same : j = i
      · rw [same, self, id]
      · rw [others same]
    · by_cases same : j = i
      · rw [same, self]
        exact later
      · rw [others same]
  refine ⟨grows, fun j => (grows.ids j).symm ▸ orderly.candidates j,
    fun j k same => orderly.distinct j k ((grows.ids j).symm.trans (same.trans (grows.ids k))), ?_, ?_, ?_, ?_, ?_, ?_, ?_⟩
  · intro j
    by_cases same : j = i
    · subst same
      rw [self]
      refine ⟨new, monitors', blank, fun named => ?_⟩
      by_cases above : old.leaderEpoch < new.leaderEpoch
      · rw [votes, if_pos above]
        exact mem_append_left _ (mem_singleton_self _)
      · exact grows.granted _ (kept above named)
    · rw [others same]
      obtain ⟨master, facts, none, stored⟩ := orderly.monitors j
      exact ⟨master, facts, none, fun named => grows.granted _ (stored named)⟩
  · intro j epoch candidate member
    rcases origin _ member with before | ⟨above, same⟩
    · exact (orderly.reached j epoch candidate before).trans (grows.epochs j)
    · cases same
      rw [self]
      exact (voted above).1
  · intro j epoch one other member member'
    rcases origin _ member with before | ⟨above, same⟩
    · rcases origin _ member' with before' | ⟨above, same⟩
      · exact orderly.unique j epoch one other before before'
      · cases same
        exact (voted above).2 one before
    · cases same
      rcases origin _ member' with before' | ⟨_, same⟩
      · exact ((voted above).2 other before').symm
      · cases same
        rfl
  · intro j epoch claimed candidate member
    have fresh : Fresh name electorate j epoch := orderly.fresh j epoch claimed
    by_cases same : j = i
    · subst same
      rw [self, monitors'.standing_eq]
      rcases origin _ member with before | ⟨_, same⟩
      · have stands := fresh candidate before
        rw [monitors.standing_eq] at stands
        rcases spared with higher | apart
        · exact stands.trans higher
        · exact absurd (apart epoch claimed) (not_lt.mpr stands)
      · cases same
        exact le_rfl
    · rw [others same]
      rcases origin _ member with before | ⟨_, same'⟩
      · exact fresh candidate before
      · cases same'
        exact absurd rfl same
  · intro request member
    exact (orderly.requests request member).mono grows
  · intro j
    exact (orderly.campaigns j).mono grows
  · intro j epoch member
    rcases orderly.elected j epoch member with few | ⟨voters, majority, backed⟩
    · exact .inl few
    · refine .inr ⟨voters, majority, fun voter inside => ?_⟩
      rw [grows.ids]
      exact grows.granted _ (backed voter inside)

private theorem Orderly.keeps (keeps : Keeps name (electorate.sentinels i) after old new) :
    Grows electorate (electorate.become name i after) ∧ Orderly name (electorate.become name i after) := by
  refine orderly.become monitors keeps.id keeps.epoch keeps.monitors ?_ ?_
    (fun above => absurd keeps.leaderEpoch.le (not_le.mpr above)) (.inl keeps.leaderEpoch.ge)
  · intro none
    rw [keeps.leaderEpoch]
    exact orderly.blank_of_monitors monitors (keeps.leader ▸ none)
  · intro _ named
    rw [keeps.leader, keeps.leaderEpoch]
    exact orderly.vote_of_monitors monitors (keeps.leader ▸ named)

private theorem Orderly.clears (clears : Clears name (electorate.sentinels i) after new)
    (spared : ∀ epoch ∈ underway electorate i, old.leaderEpoch < epoch) :
    Grows electorate (electorate.become name i after) ∧ Orderly name (electorate.become name i after) := by
  refine orderly.become monitors clears.id clears.epoch.ge clears.monitors (fun _ => clears.leaderEpoch)
    (fun _ named => absurd clears.leader named) (fun above => ?_) (.inr spared)
  rw [clears.leaderEpoch] at above
  exact absurd above (Nat.not_lt_zero _)

private theorem Orderly.votes {epoch : Nat} (valid : isCandidate candidate)
    (votes : Votes name (electorate.sentinels i) after new epoch candidate) (above : old.leaderEpoch < epoch)
    (reached : epoch ≤ (electorate.sentinels i).currentEpoch)
    (alone : ∀ other, (i, epoch, other) ∈ electorate.granted → other = candidate) :
    Grows electorate (electorate.become name i after) ∧ Orderly name (electorate.become name i after) := by
  have named : new.leaderRunid ≠ [] := by
    rw [votes.leader]
    exact candidate_ne_nil valid
  have higher : old.leaderEpoch < new.leaderEpoch := votes.leaderEpoch.symm ▸ above
  refine orderly.become monitors votes.id votes.current.ge votes.monitors (fun none => absurd none named)
    (fun stays => absurd higher stays) (fun _ => ⟨?_, ?_⟩) (.inl higher.le)
  · rw [votes.leaderEpoch, votes.current]
    exact reached
  · intro other member
    rw [votes.leader]
    exact alone other (votes.leaderEpoch ▸ member)

end

section
variable (orderly : Orderly name electorate)
include orderly

private theorem Orderly.setCampaign {campaign : Campaign count} (backed : Backed name electorate i campaign)
    (fresh : ∀ voter epoch, claimed i voter campaign = some epoch → Fresh name electorate voter epoch) :
    Orderly name (electorate.setCampaign i campaign) := by
  refine ⟨orderly.candidates, orderly.distinct, orderly.monitors, orderly.reached, orderly.unique, ?_, ?_, ?_, orderly.elected⟩
  · intro voter epoch member
    rcases mem_underway.mp member with asked | ⟨j, claim⟩
    · exact orderly.fresh voter epoch (mem_underway.mpr (.inl asked))
    · replace claim : claimed j voter (update electorate.campaigns i campaign j) = some epoch := claim
      by_cases same : j = i
      · subst same
        rw [update_self] at claim
        exact fresh voter epoch claim
      · rw [update_of_ne same] at claim
        exact orderly.fresh voter epoch (mem_underway.mpr (.inr ⟨j, claim⟩))
  · intro request member
    exact (orderly.requests request member).mono ⟨fun _ => rfl, fun _ => le_rfl, fun _ => id⟩
  · intro j
    have same' : Grows electorate (electorate.setCampaign i campaign) := ⟨fun _ => rfl, fun _ => le_rfl, fun _ => id⟩
    by_cases same : j = i
    · subst same
      show Backed _ _ j (update electorate.campaigns j campaign j)
      rw [update_self]
      exact backed.mono same'
    · show Backed _ _ j (update electorate.campaigns i campaign j)
      rw [update_of_ne same]
      exact (orderly.campaigns j).mono same'

private theorem Orderly.setRequests {requests : List (Request count)}
    (answers : ∀ request ∈ requests, Answers name electorate request.sentinel request.question.epoch request.question.runid request.stage)
    (fresh : ∀ request ∈ requests, answerClaims request.stage = true → Fresh name electorate request.sentinel request.question.epoch) :
    Orderly name { electorate with requests } := by
  refine ⟨orderly.candidates, orderly.distinct, orderly.monitors, orderly.reached, orderly.unique, ?_, ?_, ?_, orderly.elected⟩
  · intro voter epoch member
    rcases mem_underway.mp member with ⟨request, listed, claim⟩ | running
    · unfold requested at claim
      split at claim
      next both =>
        simp only [and_eq_true, decide_eq_true_eq] at both
        obtain ⟨rfl, claiming⟩ := both
        cases claim
        exact fresh request listed claiming
      next => cases claim
    · exact orderly.fresh voter epoch (mem_underway.mpr (.inr running))
  · intro request member
    exact (answers request member).mono ⟨fun _ => rfl, fun _ => le_rfl, fun _ => id⟩
  · intro j
    exact (orderly.campaigns j).mono ⟨fun _ => rfl, fun _ => le_rfl, fun _ => id⟩

private theorem Orderly.fresh_request {request : Request count} (listed : request ∈ electorate.requests)
    (claiming : answerClaims request.stage = true) : Fresh name electorate request.sentinel request.question.epoch := by
  refine orderly.fresh _ _ (mem_underway.mpr (.inl ⟨request, listed, ?_⟩))
  simp [requested, claiming]

private theorem Orderly.win (i : Fin count) (epoch : Nat) (won : count ≤ 1 ∨ ∃ voters : Finset (Fin count), count < 2 * voters.card ∧
    ∀ voter ∈ voters, (voter, epoch, (electorate.sentinels i).myId) ∈ electorate.granted) : Orderly name (electorate.win i epoch) := by
  refine ⟨orderly.candidates, orderly.distinct, orderly.monitors, orderly.reached, orderly.unique, orderly.fresh, ?_, ?_, ?_⟩
  · intro request member
    exact (orderly.requests request member).mono ⟨fun _ => rfl, fun _ => le_rfl, fun _ => id⟩
  · intro j
    exact (orderly.campaigns j).mono ⟨fun _ => rfl, fun _ => le_rfl, fun _ => id⟩
  · intro j other member
    rcases mem_cons.mp member with same | before
    · cases same
      exact won
    · exact orderly.elected j other before

end

/-- A vote may be granted: the epoch was new to the sentinel, or it is voting as before. -/
def Entitled (name : Bytes) (electorate : Electorate count) (i : Fin count) (epoch : Nat) (candidate : Bytes) : Prop :=
  standing name (electorate.sentinels i) < epoch → Fresh name electorate i epoch ∨ (i, epoch, candidate) ∈ electorate.granted

/-- How a section of a vote ends in the electorate that it leaves: it goes on, or it answers with a vote that was granted,
which is the new one if the epoch was above that of the vote before. -/
def Proceeds (name : Bytes) (before after : Electorate count) (i : Fin count) (epoch : Nat) (candidate : Bytes) :
    VoteStage ⊕ (Bytes × Nat) → Prop
  | .inl next => (∀ raised, next = .casting raised → epoch ≤ (after.sentinels i).currentEpoch) ∧
      (claims next = true → Fresh name after i epoch)
  | .inr (leader, voted) => (isCandidate leader = true → (i, voted, leader) ∈ after.granted) ∧
      (standing name (before.sentinels i) < epoch → leader = candidate ∧ voted = epoch)

section
variable (orderly : Orderly name electorate)
include orderly

/-- One section of a vote. The epoch is raised by a call that claims it and does not fall. -/
private theorem Orderly.voteLeader {epoch now : Nat} {stage : VoteStage} (valid : isCandidate candidate)
    (reached : ∀ raised, stage = .casting raised → epoch ≤ (electorate.sentinels i).currentEpoch)
    (fresh : claims stage = true → epoch ∈ underway electorate i)
    (raises : stage = .raising → (electorate.sentinels i).currentEpoch ≤ epoch)
    (entitled : ∀ raised, stage = .casting raised → Entitled name electorate i epoch candidate)
    {next : VoteStage ⊕ (Bytes × Nat)} (moved : (electorate.sentinels i).voteLeader now name epoch candidate stage = (after, next)) :
    Grows electorate (electorate.become name i after) ∧ Orderly name (electorate.become name i after) ∧
      Proceeds name electorate (electorate.become name i after) i epoch candidate next := by
  obtain ⟨old, monitors, _⟩ := orderly.monitors i
  cases stage with
  | reading =>
    unfold SentinelState.voteLeader at moved
    simp only [valid, Bool.not_true, Bool.false_eq_true, if_false] at moved
    split at moved
    next below =>
      cases moved
      obtain ⟨grows, kept⟩ := orderly.keeps monitors (.refl monitors)
      refine ⟨grows, kept, ⟨fun _ casting => VoteStage.noConfusion casting, fun _ candidate member => ?_⟩⟩
      have past := kept.reached i epoch candidate member
      rw [become_self] at past
      omega
    next above =>
      cases moved
      obtain ⟨grows, kept⟩ := orderly.keeps monitors (.refl monitors)
      refine ⟨grows, kept, ⟨fun _ _ => ?_, fun claiming => absurd claiming false_ne_true⟩⟩
      rw [become_self]
      exact not_lt.mp above
  | raising =>
    cases moved
    have keeps : Keeps name (electorate.sentinels i) { electorate.sentinels i with currentEpoch := epoch } old old :=
      ⟨rfl, raises rfl, monitors, rfl, rfl⟩
    obtain ⟨grows, kept⟩ := orderly.keeps monitors keeps
    refine ⟨grows, kept, ⟨fun _ _ => ?_, fun _ => kept.fresh i epoch (fresh rfl)⟩⟩
    rw [become_self]
  | casting raised =>
    rcases casting_spec monitors epoch raised with ⟨above, voted, new, answer, votes⟩ | ⟨below, answer⟩
    · rw [answer] at moved
      cases moved
      have higher : standing name (electorate.sentinels i) < epoch := monitors.standing_eq ▸ above
      have alone : ∀ other, (i, epoch, other) ∈ electorate.granted → other = candidate := by
        intro other member
        rcases entitled raised rfl higher with new | before
        · exact absurd (new other member) (not_le.mpr higher)
        · exact orderly.unique i epoch other candidate member before
      obtain ⟨grows, kept⟩ := orderly.votes monitors valid votes above (reached raised rfl) alone
      refine ⟨grows, kept, ⟨fun _ => ?_, fun _ => ⟨rfl, rfl⟩⟩⟩
      have granted := kept.vote_of_monitors (by rw [become_self]; exact votes.monitors) (votes.leader.symm ▸ candidate_ne_nil valid)
      rw [votes.leader, votes.leaderEpoch] at granted
      exact granted
    · rw [answer] at moved
      cases moved
      obtain ⟨grows, kept⟩ := orderly.keeps monitors (.refl monitors)
      refine ⟨grows, kept, ⟨fun named => ?_, fun above => ?_⟩⟩
      · exact grows.granted _ (orderly.vote_of_monitors monitors (candidate_ne_nil named))
      · rw [monitors.standing_eq] at above
        omega

end

variable (walk : Iteration Bytes MasterInfo) (timeout : Nat)

/-- A vote is granted to a request only if its epoch was new to the sentinel, and the epoch of the sentinel does not fall. -/
def inTurn (name : Bytes) (sentinel : SentinelState) (epoch : Nat) : AnswerStage → Bool
  | .voting _ .raising => sentinel.currentEpoch ≤ epoch
  | .voting _ (.casting raised) => raised || epoch ≤ standing name sentinel
  | _ => true

/-- No vote is taken away while one in its epoch or below is under way that was new to the sentinel when it was asked. -/
def spares (name : Bytes) (electorate : Electorate count) (i : Fin count) : Bool :=
  (underway electorate i).all fun epoch => standing name (electorate.sentinels i) < epoch

/-- Votes are granted to requests in turn and not taken away meanwhile; a campaign that has opened a new epoch is not overtaken
before its own vote, and a sole sentinel that takes over the epoch of a vote for another candidate finds one standing there;
the epoch does not overflow. -/
def allowed (name : Bytes) (electorate : Electorate count) : ElectionEvent count → Bool
  | .probe i _ => spares name electorate i
  | .answer index =>
    match electorate.requests[index]? with
    | some request => inTurn name (electorate.sentinels request.sentinel) request.question.epoch request.stage
    | none => true
  | .campaign i =>
    match electorate.campaigns i with
    | .clearing => spares name electorate i
    | .opening _ => (electorate.sentinels i).currentEpoch + 1 < 2 ^ 64
    | .voting epoch master (.casting _) =>
      if master.leaderEpoch ≠ epoch then count ≤ 1 || standing name (electorate.sentinels i) < epoch
      else master.leaderRunid = (electorate.sentinels i).myId || epoch ≤ standing name (electorate.sentinels i)
    | .awaiting epoch _ _ peer _ stage => inTurn name (electorate.sentinels peer) epoch stage
    | _ => true
  | _ => true

section
variable (orderly : Orderly name electorate)
include orderly

/-- One section of an answer: it stays sound, and claims its epoch only where that is new. -/
private theorem Orderly.isMasterDownByAddr (now : Nat) {question : Question} {stage next : AnswerStage}
    (answers : Answers name electorate i question.epoch question.runid stage)
    (claimed : answerClaims stage = true → question.epoch ∈ underway electorate i)
    (turn : inTurn name (electorate.sentinels i) question.epoch stage)
    (moved : (electorate.sentinels i).isMasterDownByAddr now walk question stage = (after, next)) :
    Grows electorate (electorate.become name i after) ∧ Orderly name (electorate.become name i after) ∧
      Answers name (electorate.become name i after) i question.epoch question.runid next ∧
      (answerClaims next = true → Fresh name (electorate.become name i after) i question.epoch) := by
  obtain ⟨old, monitors, _⟩ := orderly.monitors i
  have stays := orderly.keeps monitors (.refl monitors)
  cases stage with
  | finding =>
    unfold SentinelState.isMasterDownByAddr at moved
    dsimp only at moved
    split at moved
    next =>
      cases moved
      exact ⟨stays.1, stays.2, fun named => absurd named (by decide), fun claiming => absurd claiming false_ne_true⟩
    next found search =>
      cases moved
      refine ⟨stays.1, stays.2, ?_, fun claiming => absurd claiming false_ne_true⟩
      rw [find_monitored monitors walk search]
      exact monitors.2
  | looking called =>
    obtain rfl : called = name := answers
    unfold SentinelState.isMasterDownByAddr at moved
    dsimp only at moved
    rw [monitors.lookup] at moved
    dsimp only at moved
    split at moved
    next =>
      cases moved
      exact ⟨stays.1, stays.2, fun named => absurd named (by decide), fun claiming => absurd claiming false_ne_true⟩
    next =>
      split at moved
      next valid =>
        cases moved
        exact ⟨stays.1, stays.2, ⟨rfl, valid, fun _ casting => VoteStage.noConfusion casting⟩, fun claiming => absurd claiming false_ne_true⟩
      next =>
        split at moved
        next named =>
          cases moved
          exact ⟨stays.1, stays.2, fun _ => stays.1.granted _ (orderly.vote_of_monitors monitors named),
            fun claiming => absurd claiming false_ne_true⟩
        next =>
          cases moved
          exact ⟨stays.1, stays.2, fun named => absurd named (by decide), fun claiming => absurd claiming false_ne_true⟩
  | voting called stage =>
    obtain ⟨rfl, valid, reached⟩ := answers
    unfold SentinelState.isMasterDownByAddr at moved
    dsimp only at moved
    have raises : stage = .raising → (electorate.sentinels i).currentEpoch ≤ question.epoch := by
      rintro rfl
      exact of_decide_eq_true turn
    have entitled : ∀ raised, stage = .casting raised → Entitled called electorate i question.epoch question.runid := by
      rintro raised rfl above
      unfold inTurn at turn
      rcases Bool.or_eq_true_iff.mp turn with claiming | below
      · exact .inl (orderly.fresh i _ (claimed claiming))
      · exact absurd (of_decide_eq_true below) (not_le.mpr above)
    split at moved
    next voted further cast =>
      cases moved
      obtain ⟨grows, kept, reached', fresh⟩ := orderly.voteLeader valid reached claimed raises entitled cast
      exact ⟨grows, kept, ⟨rfl, valid, reached'⟩, fresh⟩
    next voted leader epoch cast =>
      cases moved
      obtain ⟨grows, kept, granted, _⟩ := orderly.voteLeader valid reached claimed raises entitled cast
      exact ⟨grows, kept, granted, fun claiming => absurd claiming false_ne_true⟩
  | answered down leader epoch =>
    cases moved
    exact ⟨stays.1, stays.2, fun named => stays.1.granted _ (answers named), fun claiming => absurd claiming false_ne_true⟩

end

private theorem mem_peersOf {i j : Fin count} : j ∈ peersOf i ↔ j ≠ i := by
  simp [peersOf]

private theorem claimed_voting {voter : Fin count} {epoch claim : Nat} {master : MasterInfo} {stage : VoteStage}
    (claiming : claimed i voter (.voting epoch master stage) = some claim) : i = voter ∧ master.leaderEpoch ≠ epoch ∧ epoch = claim := by
  obtain ⟨⟨own, different⟩, same⟩ : (i = voter ∧ ¬ master.leaderEpoch = epoch) ∧ epoch = claim := by simpa [claimed] using claiming
  exact ⟨own, different, same⟩

private theorem claimed_awaiting {voter peer : Fin count} {epoch votes claim : Nat} {master : MasterInfo} {left : List (Fin count)}
    {stage : AnswerStage} (claiming : claimed i voter (.awaiting epoch votes master peer left stage) = some claim) :
    peer = voter ∧ answerClaims stage = true ∧ epoch = claim := by
  obtain ⟨⟨asked, claims⟩, same⟩ : (peer = voter ∧ answerClaims stage = true) ∧ epoch = claim := by simpa [claimed] using claiming
  exact ⟨asked, claims, same⟩

private theorem Monitors.spared {master : MasterInfo} (monitors : Monitors name (electorate.sentinels i) master)
    (spare : spares name electorate i) : ∀ epoch ∈ underway electorate i, master.leaderEpoch < epoch := by
  intro epoch member
  have above := of_decide_eq_true (all_eq_true.mp spare epoch member)
  rwa [monitors.standing_eq] at above

section
variable (orderly : Orderly name electorate)
include orderly

private theorem Orderly.pause {campaign : Campaign count} (backed : Backed name electorate i campaign)
    (unclaimed : ∀ voter, claimed i voter campaign = none) : Orderly name (electorate.setCampaign i campaign) :=
  orderly.setCampaign backed fun voter _ claim => absurd ((unclaimed voter).symm.trans claim) (Option.some_ne_none _).symm

private theorem Orderly.recorded {master : MasterInfo} (monitors : Monitors name (electorate.sentinels i) master) :
    Recorded electorate i master := by
  by_cases blank : master.leaderRunid = []
  · exact .inl (orderly.blank_of_monitors monitors blank)
  · exact .inr (orderly.vote_of_monitors monitors blank)

private theorem Orderly.choice {master : MasterInfo} {reuse : Bool} (recorded : Recorded electorate i master)
    (backed : reuse = true → Backed name electorate i (.voting master.leaderEpoch master .reading)) :
    Orderly name (electorate.setCampaign i (if reuse then .voting master.leaderEpoch master .reading else .opening master)) := by
  split
  next reused => exact orderly.setCampaign (backed reused) fun _ _ claim => absurd rfl (claimed_voting claim).2.1
  next => exact orderly.pause recorded fun _ => rfl

/-- A campaign among several goes on in the epoch of the vote for itself; a sole sentinel does so with any vote. -/
private theorem timing_orderly {master : MasterInfo} (timing : electorate.campaigns i = .timing master) :
    Orderly name (electorate.tryElectLeader walk timeout name i) := by
  obtain ⟨old, monitors, _⟩ := orderly.monitors i
  obtain ⟨stamped, keeps⟩ := electionExpired_keeps monitors timeout electorate.now
  have recorded := orderly.campaigns i
  rw [timing] at recorded
  obtain ⟨grows, kept⟩ := orderly.keeps monitors keeps
  unfold tryElectLeader
  simp only [timing]
  refine kept.choice (recorded.mono grows) fun reuse => ?_
  simp only [and_eq_true, decide_eq_true_eq] at reuse
  have granted := Or.resolve_left recorded (Nat.pos_iff_ne_zero.mp reuse.1)
  refine ⟨(orderly.reached _ _ _ granted).trans (grows.epochs i), rfl, fun _ => ⟨grows.granted _ granted, ?_⟩⟩
  rw [grows.ids]
  by_cases mine : master.leaderRunid = (electorate.sentinels i).myId
  · exact .inr mine
  · rw [if_neg mine] at reuse
    exact .inl (of_decide_eq_true reuse.2)

private theorem opening_orderly {master : MasterInfo} (opening : electorate.campaigns i = .opening master)
    (room : (electorate.sentinels i).currentEpoch + 1 < 2 ^ 64) : Orderly name (electorate.tryElectLeader walk timeout name i) := by
  obtain ⟨old, monitors, _⟩ := orderly.monitors i
  have recorded := orderly.campaigns i
  rw [opening] at recorded
  have next : wrapAdd (electorate.sentinels i).currentEpoch 1 = (electorate.sentinels i).currentEpoch + 1 := Nat.mod_eq_of_lt room
  have chosen : (if count ≤ 1 then max (wrapAdd (electorate.sentinels i).currentEpoch 1) 1 else
      wrapAdd (electorate.sentinels i).currentEpoch 1) = (electorate.sentinels i).currentEpoch + 1 := by
    rw [next]
    split <;> omega
  have unvoted : ∀ candidate, (i, (electorate.sentinels i).currentEpoch + 1, candidate) ∉ electorate.granted := by
    intro candidate member
    have := orderly.reached _ _ _ member
    omega
  have later : master.leaderEpoch ≠ (electorate.sentinels i).currentEpoch + 1 := by
    rcases recorded with zero | granted
    · omega
    · intro same
      exact unvoted _ (same ▸ granted)
  have keeps : Keeps name (electorate.sentinels i) (electorate.sentinels i).nextElectionEpoch.1 old old :=
    ⟨rfl, by show _ ≤ wrapAdd _ 1; omega, monitors, rfl, rfl⟩
  obtain ⟨grows, kept⟩ := orderly.keeps monitors keeps
  have same : (electorate.become name i (electorate.sentinels i).nextElectionEpoch.1).granted = electorate.granted := by
    rw [become, newVote, monitors.lookup, keeps.monitors.lookup]
    simp
  unfold tryElectLeader
  simp only [opening]
  show Orderly name ((electorate.become name i (electorate.sentinels i).nextElectionEpoch.1).setCampaign i
    (.voting (if count ≤ 1 then max (wrapAdd (electorate.sentinels i).currentEpoch 1) 1 else
      wrapAdd (electorate.sentinels i).currentEpoch 1) master .reading))
  rw [chosen]
  refine kept.setCampaign ⟨?_, rfl, fun same => absurd same later⟩ ?_
  · rw [become_self]
    exact next.ge
  · intro voter epoch claim candidate member
    obtain ⟨rfl, _, rfl⟩ := claimed_voting claim
    exact absurd (same ▸ member) (unvoted candidate)

/-- The own vote of a campaign among several sentinels that is counted has been granted, now or before. -/
private theorem voting_orderly {epoch : Nat} {master : MasterInfo} {stage : VoteStage}
    (voting : electorate.campaigns i = .voting epoch master stage) (fits : allowed name electorate (.campaign i)) :
    Orderly name (electorate.tryElectLeader walk timeout name i) := by
  have backed := orderly.campaigns i
  rw [voting] at backed
  obtain ⟨reached, quiet, reused⟩ := backed
  have valid := orderly.candidates i
  unfold allowed at fits
  simp only [voting] at fits
  have opened : master.leaderEpoch ≠ epoch → epoch ∈ underway electorate i := by
    intro different
    refine mem_underway.mpr (.inr ⟨i, ?_⟩)
    simp [voting, claimed, different]
  have entitled : ∀ raised, stage = .casting raised → Entitled name electorate i epoch (electorate.sentinels i).myId := by
    rintro raised rfl above
    by_cases same : master.leaderEpoch = epoch
    · simp only [same, ne_eq, not_true_eq_false, if_false, or_eq_true, decide_eq_true_eq] at fits
      rcases fits with mine | below
      · exact .inr (mine ▸ (reused same).1)
      · omega
    · exact .inl (orderly.fresh i epoch (opened same))
  have raises : stage = .raising → (electorate.sentinels i).currentEpoch ≤ epoch := by
    rintro rfl
    exact absurd quiet.symm false_ne_true
  have silent : claims stage = true → epoch ∈ underway electorate i := fun claiming => absurd (quiet.symm.trans claiming) false_ne_true
  unfold tryElectLeader
  simp only [voting]
  split
  next after next cast =>
    obtain ⟨grows, kept, reached', fresh⟩ := orderly.voteLeader valid (fun _ _ => reached) silent raises entitled cast
    have backed' : Backed name (electorate.become name i after) i (.voting epoch master stage) := by
      have same : (electorate.become name i after).campaigns i = .voting epoch master stage := voting
      exact same ▸ kept.campaigns i
    refine kept.setCampaign ⟨backed'.1, ?_, backed'.2.2⟩ ?_
    · cases stage with
      | reading =>
        unfold SentinelState.voteLeader at cast
        simp only [valid, Bool.not_true, Bool.false_eq_true, if_false, not_lt.mpr reached] at cast
        cases cast
        rfl
      | raising => exact absurd quiet.symm false_ne_true
      | casting raised =>
        obtain ⟨old, monitors, _⟩ := orderly.monitors i
        rcases casting_spec monitors epoch raised with ⟨_, _, _, answer, _⟩ | ⟨_, answer⟩
        all_goals
          rw [answer] at cast
          cases cast
    · intro voter other claim
      obtain ⟨rfl, different, rfl⟩ := claimed_voting claim
      exact kept.fresh i epoch (opened different)
  next after vote cast =>
    obtain ⟨grows, kept, granted, new⟩ := orderly.voteLeader valid (fun _ _ => reached) silent raises entitled cast
    split
    next few =>
      have idle : Orderly name ((electorate.become name i after).setCampaign i .idle) := kept.pause trivial fun _ => rfl
      exact idle.win i epoch (.inl few)
    next several =>
      refine kept.pause ⟨(nodup_finRange count).filter _, {i}, Finset.card_singleton i, ?_⟩ fun _ => rfl
      intro voter member
      rw [Finset.mem_singleton.mp member, grows.ids]
      refine ⟨?_, fun inside => mem_peersOf.mp inside rfl⟩
      by_cases same : master.leaderEpoch = epoch
      · have mine := (reused same).2.resolve_left several
        exact mine ▸ grows.granted _ (reused same).1
      · have above : standing name (electorate.sentinels i) < epoch := by
          cases stage with
          | reading =>
            unfold SentinelState.voteLeader at cast
            simp only [valid, Bool.not_true, Bool.false_eq_true, if_false, not_lt.mpr reached] at cast
            cases cast
          | raising => exact absurd quiet.symm false_ne_true
          | casting raised =>
            simp only [ne_eq, same, not_false_eq_true, if_true, or_eq_true, decide_eq_true_eq] at fits
            exact fits.resolve_left several
        obtain ⟨sameLeader, sameEpoch⟩ := new above
        rw [sameLeader, sameEpoch] at granted
        exact granted valid

private theorem tally_orderly {epoch votes down leaderEpoch : Nat} {master : MasterInfo} {peer : Fin count} {left : List (Fin count)}
    {leader : Bytes} (answered : electorate.campaigns i = .awaiting epoch votes master peer left (.answered down leader leaderEpoch)) :
    Orderly name (electorate.tryElectLeader walk timeout name i) := by
  have backed := orderly.campaigns i
  rw [answered] at backed
  obtain ⟨⟨distinct, voters, counted, granted⟩, answer⟩ := backed
  obtain ⟨missing, distinct'⟩ := nodup_cons.mp distinct
  unfold tryElectLeader
  simp only [answered]
  refine orderly.pause ⟨distinct', ?_⟩ fun _ => rfl
  split
  next mine =>
    simp only [and_eq_true, decide_eq_true_eq] at mine
    obtain ⟨rfl, rfl⟩ := mine
    have unseen : peer ∉ voters := fun inside => (granted peer inside).2 mem_cons_self
    refine ⟨insert peer voters, by rw [Finset.card_insert_of_notMem unseen, counted], ?_⟩
    intro voter member
    rcases Finset.mem_insert.mp member with rfl | before
    · exact ⟨answer (orderly.candidates i), missing⟩
    · exact ⟨(granted voter before).1, fun inside => (granted voter before).2 (mem_cons_of_mem _ inside)⟩
  next =>
    exact ⟨voters, counted, fun voter member =>
      ⟨(granted voter member).1, fun inside => (granted voter member).2 (mem_cons_of_mem _ inside)⟩⟩

/-- A peer answers the next section of a campaign's question. -/
private theorem awaiting_orderly {epoch votes : Nat} {master : MasterInfo} {peer : Fin count} {left : List (Fin count)} {stage : AnswerStage}
    (awaiting : electorate.campaigns i = .awaiting epoch votes master peer left stage)
    (turn : inTurn name (electorate.sentinels peer) epoch stage) {next : AnswerStage}
    (moved : (electorate.sentinels peer).isMasterDownByAddr electorate.now walk
      ⟨master.ip, master.port, epoch, (electorate.sentinels i).myId⟩ stage = (after, next)) :
    Orderly name ((electorate.become name peer after).setCampaign i (.awaiting epoch votes master peer left next)) := by
  have backed := orderly.campaigns i
  rw [awaiting] at backed
  have claim : answerClaims stage = true → epoch ∈ underway electorate peer := by
    intro claiming
    refine mem_underway.mpr (.inr ⟨i, ?_⟩)
    simp [awaiting, claimed, claiming]
  obtain ⟨grows, kept, answers, fresh⟩ := orderly.isMasterDownByAddr walk electorate.now backed.2 claim turn moved
  refine kept.setCampaign ⟨backed.1.mono grows, ?_⟩ ?_
  · rw [grows.ids]
    exact answers
  · intro voter other claim
    obtain ⟨rfl, claiming, rfl⟩ := claimed_awaiting claim
    exact fresh claiming

private theorem finish_orderly {epoch votes : Nat} {master : MasterInfo} (asked : electorate.campaigns i = .asking epoch votes master []) :
    Orderly name (electorate.tryElectLeader walk timeout name i) := by
  have backed := orderly.campaigns i
  rw [asked] at backed
  obtain ⟨_, voters, counted, granted⟩ := backed
  have idle : Orderly name (electorate.setCampaign i .idle) := orderly.pause trivial fun _ => rfl
  unfold tryElectLeader
  simp only [asked]
  split
  next enough =>
    refine idle.win i epoch (.inr ⟨voters, ?_, fun voter inside => (granted voter inside).1⟩)
    unfold leaderVotesNeededFor at enough
    dsimp only at enough
    omega
  next => exact idle

/-- Every section of a campaign. -/
theorem tryElectLeader_orderly (fits : allowed name electorate (.campaign i)) :
    Orderly name (electorate.tryElectLeader walk timeout name i) := by
  obtain ⟨old, monitors, _⟩ := orderly.monitors i
  have permitted := fits
  unfold allowed at permitted
  cases stage : electorate.campaigns i with
  | idle =>
    unfold tryElectLeader
    simp only [stage, monitors.lookup]
    split <;> exact orderly.pause trivial fun _ => rfl
  | expiring =>
    obtain ⟨stamped, keeps⟩ := electionExpired_keeps monitors timeout electorate.now
    unfold tryElectLeader
    simp only [stage]
    split <;> exact (orderly.keeps monitors keeps).2.pause trivial fun _ => rfl
  | clearing =>
    obtain ⟨cleared, clears⟩ := clearElectionVote_clears monitors
    unfold tryElectLeader
    simp only [stage] at permitted ⊢
    exact (orderly.clears monitors clears (monitors.spared permitted)).2.pause trivial fun _ => rfl
  | refreshing =>
    unfold tryElectLeader
    simp only [stage, monitors.lookup]
    split <;> exact orderly.pause (orderly.recorded monitors) fun _ => rfl
  | timing master => exact timing_orderly walk timeout orderly stage
  | opening master =>
    simp only [stage] at permitted
    exact opening_orderly walk timeout orderly stage (of_decide_eq_true permitted)
  | voting epoch master cast => exact voting_orderly walk timeout orderly stage fits
  | asking epoch votes master left =>
    cases left with
    | nil => exact finish_orderly walk timeout orderly stage
    | cons peer left =>
      have tallied : Tallied electorate i epoch votes (peer :: left) := by
        have backed := orderly.campaigns i
        rwa [stage] at backed
      unfold tryElectLeader
      simp only [stage]
      refine orderly.pause ⟨tallied, trivial⟩ fun _ => ?_
      simp [claimed, answerClaims]
  | awaiting epoch votes master peer left answer =>
    simp only [stage] at permitted
    cases answer with
    | answered down leader leaderEpoch => exact tally_orderly walk timeout orderly stage
    | finding | looking called | voting called cast =>
      unfold tryElectLeader
      simp only [stage]
      exact awaiting_orderly walk orderly stage permitted rfl

/-- Every section of the answer to a request from anywhere. -/
theorem answer_orderly (index : Nat) (fits : allowed name electorate (.answer index)) :
    Orderly name (electorate.step walk timeout name (.answer index)) := by
  unfold allowed at fits
  unfold step
  dsimp only at fits ⊢
  split
  next => exact orderly
  next request found =>
    have listed : request ∈ electorate.requests := mem_of_getElem? found
    simp only [found] at fits
    have claim : answerClaims request.stage = true → request.question.epoch ∈ underway electorate request.sentinel := by
      intro claiming
      refine mem_underway.mpr (.inl ⟨request, listed, ?_⟩)
      simp [requested, claiming]
    obtain ⟨grows, kept, answers, fresh⟩ :=
      orderly.isMasterDownByAddr walk electorate.now (orderly.requests request listed) claim fits rfl
    refine kept.setRequests ?_ ?_
    · intro other member
      rcases mem_or_eq_of_mem_set member with before | rfl
      · exact kept.requests other before
      · exact answers
    · intro other member claiming
      rcases mem_or_eq_of_mem_set member with before | rfl
      · exact kept.fresh_request before claiming
      · exact fresh claiming

theorem step_orderly (event : ElectionEvent count) (fits : allowed name electorate event) :
    Orderly name (electorate.step walk timeout name event) := by
  cases event with
  | tick elapsed =>
    have grows : Grows electorate { electorate with now := electorate.now + elapsed } := ⟨fun _ => rfl, fun _ => le_rfl, fun _ => id⟩
    exact ⟨orderly.candidates, orderly.distinct, orderly.monitors, orderly.reached, orderly.unique, orderly.fresh,
      fun request member => (orderly.requests request member).mono grows, fun i => (orderly.campaigns i).mono grows, orderly.elected⟩
  | probe i replicas =>
    obtain ⟨old, monitors, _⟩ := orderly.monitors i
    obtain ⟨new, clears⟩ := noteOk_clears monitors electorate.now replicas
    exact (orderly.clears monitors clears (monitors.spared fits)).2
  | checkDown i =>
    obtain ⟨old, monitors, _⟩ := orderly.monitors i
    obtain ⟨new, keeps⟩ := maybeSdown_keeps monitors electorate.now
    exact (orderly.keeps monitors keeps).2
  | request i question =>
    refine orderly.setRequests ?_ ?_
    · intro other member
      rcases mem_cons.mp member with rfl | before
      · trivial
      · exact orderly.requests other before
    · intro other member claiming
      rcases mem_cons.mp member with rfl | before
      · exact absurd claiming false_ne_true
      · exact orderly.fresh_request before claiming
  | answer index => exact answer_orderly walk timeout orderly index fits
  | campaign i => exact tryElectLeader_orderly walk timeout orderly fits

end

/-- Sentinels with ids of their own that monitor the master and have not voted yet. -/
structure Assembled (name : Bytes) (electorate : Electorate count) : Prop where
  candidates : ∀ i, isCandidate (electorate.sentinels i).myId = true
  distinct : ∀ i j, (electorate.sentinels i).myId = (electorate.sentinels j).myId → i = j
  monitors : ∀ i, ∃ master, Monitors name (electorate.sentinels i) master ∧ master.leaderRunid = [] ∧ master.leaderEpoch = 0
  unasked : electorate.requests = []
  idle : ∀ i, electorate.campaigns i = .idle
  unvoted : electorate.granted = []
  unled : electorate.elected = []

theorem Assembled.orderly (assembled : Assembled name electorate) : Orderly name electorate := by
  have none : ∀ i epoch candidate, (i, epoch, candidate) ∉ electorate.granted := by
    intro i epoch candidate
    rw [assembled.unvoted]
    exact not_mem_nil
  refine ⟨assembled.candidates, assembled.distinct, ?_, fun i epoch candidate member => absurd member (none i epoch candidate),
    fun i epoch one _ member => absurd member (none i epoch one), fun i epoch _ candidate member => absurd member (none i epoch candidate),
    ?_, ?_, ?_⟩
  · intro i
    obtain ⟨master, monitors, blank, zero⟩ := assembled.monitors i
    exact ⟨master, monitors, fun _ => zero, fun named => absurd blank named⟩
  · intro request member
    rw [assembled.unasked] at member
    exact absurd member not_mem_nil
  · intro i
    rw [assembled.idle]
    trivial
  · intro i epoch member
    rw [assembled.unled] at member
    exact absurd member not_mem_nil

/-- While votes are asked for in turn and none is taken away meanwhile, every sentinel votes for one candidate in every epoch
and no epoch has two leaders. -/
theorem unambiguous_in_turn (assembled : Assembled name electorate) (events : List (ElectionEvent count))
    (orderly : Guarded (step walk timeout name) (fun electorate event => allowed name electorate event = true) electorate events) :
    Unambiguous (run (step walk timeout name) electorate events) :=
  (orderly.invariant (fun _ event kept fits => step_orderly walk timeout kept event fits) assembled.orderly).unambiguous

section

private def mymaster : Bytes := ascii "mymaster"

private def watcher (id : String) : SentinelState where
  myId := ascii id
  masters := singleton mymaster
    { name := mymaster, ip := ascii "10.0.0.1", port := 6379, quorum := 2, downAfterMs := 30000, sDown := false, oDown := false,
      downVotes := 0, lastOk := 0, replicas := [], failoverEpoch := 0, leaderRunid := [], leaderEpoch := 0, electionStartedAt := none }
  peers := ∅
  currentEpoch := 0

private def trio : Electorate 3 where
  now := 0
  sentinels i := watcher (if i = 0 then "sentinel-a" else if i = 1 then "sentinel-b" else "sentinel-c")
  requests := []
  campaigns _ := .idle
  granted := []
  elected := []

private theorem trio_assembled : Assembled mymaster trio :=
  ⟨by decide +kernel, by decide +kernel, fun _ => ⟨_, ⟨rfl, rfl⟩, rfl, rfl⟩, rfl, fun _ => rfl, rfl, rfl⟩

private noncomputable def trioWalk : Iteration Bytes MasterInfo := Iteration.preferring [mymaster]

private def askVote (candidate : String) : Question := ⟨ascii "10.0.0.1", 6379, 1, ascii candidate⟩

/-- Everybody finds the master down. Two sentinels open the same epoch. The first one wins it; then the third one reaches the
master again and loses it once more, before the second one asks it. -/
private def recovery : List (ElectionEvent 3) :=
  [.tick 30000, .checkDown 0, .checkDown 1, .checkDown 2] ++ replicate 5 (.campaign 0) ++ replicate 5 (.campaign 2) ++
    replicate 14 (.campaign 0) ++ [.probe 1 none, .tick 30000, .checkDown 1] ++ replicate 13 (.campaign 2)

/-- Two requests in one epoch, between whose votes the master is reached. -/
private def overtaken : List (ElectionEvent 3) :=
  [.tick 30000, .checkDown 1, .request 1 (askVote "sentinel-c"), .request 1 (askVote "sentinel-a")] ++ replicate 3 (.answer 0) ++
    replicate 3 (.answer 1) ++ replicate 2 (.answer 0) ++ [.probe 1 none] ++ replicate 2 (.answer 1)

/-- A sentinel votes twice in epoch 1: both candidates win, or both are told that they have the vote. -/
theorem recovery_elects_two :
    (run (step trioWalk 5000 mymaster) trio recovery).elected = [(2, 1), (0, 1)] ∧
      ¬ Unambiguous (run (step trioWalk 5000 mymaster) trio recovery) ∧
      (run (step trioWalk 5000 mymaster) trio overtaken).granted = [(1, 1, ascii "sentinel-c"), (1, 1, ascii "sentinel-a")] ∧
      ¬ Unambiguous (run (step trioWalk 5000 mymaster) trio overtaken) := by
  have won : (run (step trioWalk 5000 mymaster) trio recovery).elected = [(2, 1), (0, 1)] := by decide +kernel
  have voted : (run (step trioWalk 5000 mymaster) trio overtaken).granted =
    [(1, 1, ascii "sentinel-c"), (1, 1, ascii "sentinel-a")] := by decide +kernel
  refine ⟨won, fun clear => ?_, voted, fun clear => ?_⟩
  · have same := clear.2 2 0 1 (by rw [won]; exact mem_cons_self) (by rw [won]; exact mem_cons_of_mem _ mem_cons_self)
    exact absurd same (by decide)
  · have same := clear.1 1 1 _ _ (by rw [voted]; exact mem_cons_self) (by rw [voted]; exact mem_cons_of_mem _ mem_cons_self)
    exact absurd same (by decide)

/-- One campaign, then a probe that takes all votes away, then another campaign in a later epoch. -/
private def takeover : List (ElectionEvent 3) :=
  [.tick 30000, .checkDown 0, .checkDown 1, .checkDown 2] ++ replicate 20 (.campaign 0) ++
    [.probe 0 none, .probe 1 none, .probe 2 none, .tick 30000, .checkDown 0, .checkDown 1, .checkDown 2] ++ replicate 20 (.campaign 2)

theorem takeover_elects_in_turn :
    (run (step trioWalk 5000 mymaster) trio takeover).elected = [(2, 2), (0, 1)] ∧
      Unambiguous (run (step trioWalk 5000 mymaster) trio takeover) :=
  ⟨by decide +kernel, unambiguous_in_turn trioWalk 5000 trio_assembled takeover (by decide +kernel)⟩

end

end Elections

end Kore.Proofs.LeaderUniqueness
