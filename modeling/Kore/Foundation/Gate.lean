import Mathlib.Data.Finset.Card

/-! A gate made of a flag and a counter. An entrant looks at the flag, counts itself in and
looks once more; a holder raises the flag and waits for the counter to be zero. While one
holder has the gate to itself nobody is inside, as long as holders come one at a time. -/

namespace Kore.Foundation
open Function Finset

inductive Entry where
  | outside
  | arriving
  | approaching
  | announced
  | retreating
  | inside
  deriving DecidableEq

inductive Hold where
  | free
  | raised
  | alone
  deriving DecidableEq

structure Gate (W R : Type) where
  flag : Bool
  count : Nat
  entry : W → Entry
  hold : R → Hold

inductive GateMove (W R : Type) where
  | arrive (entrant : W)
  | approach (entrant : W)
  | announce (entrant : W)
  | recheck (entrant : W)
  | retreat (entrant : W)
  | leave (entrant : W)
  | raise (holder : R)
  | drain (holder : R)
  | lower (holder : R)

def Entry.counted : Entry → Bool
  | .announced | .retreating | .inside => true
  | .outside | .arriving | .approaching => false

namespace Gate
variable {W R : Type} [DecidableEq W] [DecidableEq R]

def opened : Gate W R := ⟨false, 0, fun _ => .outside, fun _ => .free⟩

variable (gate : Gate W R)

def place (entrant : W) (entry : Entry) : Gate W R := { gate with entry := update gate.entry entrant entry }

/-- A move that is not due changes nothing; an entrant or a holder that has to wait stays where it is. -/
def move : GateMove W R → Gate W R
  | .arrive entrant => if gate.entry entrant = .outside then gate.place entrant .arriving else gate
  | .approach entrant => if gate.entry entrant = .arriving ∧ gate.flag = false then gate.place entrant .approaching else gate
  | .announce entrant => if gate.entry entrant = .approaching then { gate.place entrant .announced with count := gate.count + 1 } else gate
  | .recheck entrant =>
    if gate.entry entrant = .announced then gate.place entrant (if gate.flag then .retreating else .inside) else gate
  | .retreat entrant => if gate.entry entrant = .retreating then { gate.place entrant .arriving with count := gate.count - 1 } else gate
  | .leave entrant => if gate.entry entrant = .inside then { gate.place entrant .outside with count := gate.count - 1 } else gate
  | .raise holder => if gate.hold holder = .free then { gate with flag := true, hold := update gate.hold holder .raised } else gate
  | .drain holder =>
    if gate.hold holder = .raised ∧ gate.count = 0 then { gate with hold := update gate.hold holder .alone } else gate
  | .lower holder => if gate.hold holder = .alone then { gate with flag := false, hold := update gate.hold holder .free } else gate

/-- An entrant on its way changes no hold, and nobody outside or inside is moved. -/
theorem move_passing (entrant : W) {move : GateMove W R}
    (passing : move = .approach entrant ∨ move = .announce entrant ∨ move = .recheck entrant ∨ move = .retreat entrant) :
    (gate.move move).hold = gate.hold ∧
      ∀ other, (gate.entry other = .outside → (gate.move move).entry other = .outside) ∧
        (gate.entry other = .inside → (gate.move move).entry other = .inside) := by
  rcases passing with rfl | rfl | rfl | rfl
  all_goals
    rw [move]
    split
    · refine ⟨rfl, fun other => ?_⟩
      by_cases same : other = entrant
      · grind
      · simp [place, update_of_ne same, imp_self]
    · exact ⟨rfl, fun _ => ⟨id, id⟩⟩

theorem move_crossing (entrant : W) {move : GateMove W R} (crossing : move = .arrive entrant ∨ move = .leave entrant) :
    (gate.move move).hold = gate.hold ∧ ∀ other, other ≠ entrant → (gate.move move).entry other = gate.entry other := by
  rcases crossing with rfl | rfl
  all_goals
    rw [move]
    split
    · exact ⟨rfl, fun _ different => update_of_ne different _ _⟩
    · exact ⟨rfl, fun _ _ => rfl⟩

theorem move_holder (holder : R) {move : GateMove W R}
    (held : move = .raise holder ∨ move = .drain holder ∨ move = .lower holder) :
    (gate.move move).entry = gate.entry ∧ ∀ other, other ≠ holder → (gate.move move).hold other = gate.hold other := by
  rcases held with rfl | rfl | rfl
  all_goals
    rw [move]
    split
    · exact ⟨rfl, fun _ different => update_of_ne different _ _⟩
    · exact ⟨rfl, fun _ _ => rfl⟩

def Tallied (entry : W → Entry) (count : Nat) : Prop :=
  ∃ members : Finset W, (∀ entrant, entrant ∈ members ↔ (entry entrant).counted = true) ∧ members.card = count

structure Sound (gate : Gate W R) : Prop where
  tallied : Tallied gate.entry gate.count
  single : ∀ one other, gate.hold one ≠ .free → gate.hold other ≠ .free → one = other
  flagged : ∀ holder, gate.hold holder ≠ .free → gate.flag = true
  apart : ∀ holder entrant, gate.hold holder = .alone → gate.entry entrant ≠ .inside

omit [DecidableEq W] [DecidableEq R] in
theorem opened_sound : (opened : Gate W R).Sound := by
  refine ⟨⟨∅, fun entrant => ?_, rfl⟩, fun _ _ held => absurd rfl held, fun _ held => absurd rfl held, fun _ _ held => by cases held⟩
  constructor
  · exact fun member => absurd member (notMem_empty entrant)
  · intro counted
    cases counted

def OneAtATime : GateMove W R → Prop
  | .raise _ => ∀ other, gate.hold other = .free
  | _ => True

section tally
variable {entry : W → Entry} {count : Nat} {entrant : W} {next : Entry}

section
variable (tallied : Tallied entry count)
include tallied

private theorem Tallied.same (same : next.counted = (entry entrant).counted) : Tallied (update entry entrant next) count := by
  obtain ⟨members, each, total⟩ := tallied
  refine ⟨members, fun other => ?_, total⟩
  rw [each]
  by_cases equal : other = entrant
  · rw [equal, update_self, same]
  · rw [update_of_ne equal]

private theorem Tallied.enter (before : (entry entrant).counted = false) (after : next.counted) :
    Tallied (update entry entrant next) (count + 1) := by
  obtain ⟨members, each, total⟩ := tallied
  have missing : entrant ∉ members := by
    rw [each, before]
    exact Bool.false_ne_true
  refine ⟨insert entrant members, fun other => ?_, ?_⟩
  · rw [mem_insert, each]
    by_cases equal : other = entrant
    · rw [equal, update_self, after]
      exact ⟨fun _ => rfl, fun _ => .inl rfl⟩
    · rw [update_of_ne equal]
      exact or_iff_right equal
  · rw [card_insert_of_notMem missing, total]

private theorem Tallied.exit (before : (entry entrant).counted) (after : next.counted = false) :
    Tallied (update entry entrant next) (count - 1) := by
  obtain ⟨members, each, total⟩ := tallied
  have member : entrant ∈ members := (each entrant).mpr before
  refine ⟨members.erase entrant, fun other => ?_, ?_⟩
  · rw [mem_erase, each]
    by_cases equal : other = entrant
    · rw [equal, update_self, after]
      exact ⟨fun both => absurd rfl both.1, fun wrong => absurd wrong Bool.false_ne_true⟩
    · rw [update_of_ne equal]
      exact and_iff_right equal
  · rw [card_erase_of_mem member, total]

end

omit [DecidableEq W] in
private theorem Tallied.empty (tallied : Tallied entry 0) (entrant : W) : (entry entrant).counted = false := by
  obtain ⟨members, each, total⟩ := tallied
  rw [card_eq_zero] at total
  rw [← Bool.not_eq_true, ← each, total]
  exact notMem_empty entrant

end tally

omit [DecidableEq R] in
/-- Only a recheck that sees no flag lets anybody in. -/
private theorem Sound.placed {gate : Gate W R} (sound : gate.Sound) {entrant : W} {entry : Entry} {count : Nat}
    (tallied : Tallied (update gate.entry entrant entry) count) (closed : entry = .inside → gate.flag = false) :
    ({ gate.place entrant entry with count := count } : Gate W R).Sound := by
  refine ⟨tallied, sound.single, sound.flagged, fun holder other held => ?_⟩
  change update gate.entry entrant entry other ≠ .inside
  by_cases equal : other = entrant
  · rw [equal, update_self]
    intro within
    have raised := sound.flagged holder (by rw [show gate.hold holder = .alone from held]; exact Hold.noConfusion)
    rw [closed within] at raised
    cases raised
  · rw [update_of_ne equal]
    exact sound.apart holder other held

theorem Sound.move {gate : Gate W R} (sound : gate.Sound) {move : GateMove W R} (due : gate.OneAtATime move) : (gate.move move).Sound := by
  cases move
  all_goals
    rw [Gate.move]
    split
  case arrive.isTrue entrant there => exact sound.placed (sound.tallied.same (by rw [there]; rfl)) nofun
  case approach.isTrue entrant there => exact sound.placed (sound.tallied.same (by rw [there.1]; rfl)) nofun
  case announce.isTrue entrant there => exact sound.placed (sound.tallied.enter (by rw [there]; rfl) rfl) nofun
  case recheck.isTrue entrant there =>
    cases flag : gate.flag with
    | true => exact sound.placed (sound.tallied.same (by rw [there]; rfl)) nofun
    | false => exact sound.placed (sound.tallied.same (by rw [there]; rfl)) fun _ => flag
  case retreat.isTrue entrant there => exact sound.placed (sound.tallied.exit (by rw [there]; rfl) rfl) nofun
  case leave.isTrue entrant there => exact sound.placed (sound.tallied.exit (by rw [there]; rfl) rfl) nofun
  case raise.isTrue holder _ =>
    have only (other : R) (held : update gate.hold holder .raised other ≠ .free) : other = holder := by
      by_contra different
      rw [update_of_ne different] at held
      exact held (due other)
    refine ⟨sound.tallied, fun one other first second => (only one first).trans (only other second).symm, fun _ _ => rfl,
      fun other entrant alone => ?_⟩
    have same := only other (by rw [show update gate.hold holder .raised other = .alone from alone]; exact Hold.noConfusion)
    change update gate.hold holder .raised other = .alone at alone
    rw [same, update_self] at alone
    cases alone
  case drain.isTrue holder there =>
    have held (other : R) (busy : update gate.hold holder .alone other ≠ .free) : gate.hold other ≠ .free := by
      by_cases equal : other = holder
      · rw [equal, there.1]
        exact Hold.noConfusion
      · rwa [update_of_ne equal] at busy
    refine ⟨sound.tallied, fun one other first second => sound.single one other (held one first) (held other second),
      fun other busy => sound.flagged other (held other busy), fun other entrant _ within => ?_⟩
    have tallied := sound.tallied
    rw [there.2] at tallied
    have outside := tallied.empty entrant
    rw [show gate.entry entrant = .inside from within] at outside
    cases outside
  case lower.isTrue holder there =>
    have none (other : R) : update gate.hold holder .free other = .free := by
      by_cases equal : other = holder
      · rw [equal, update_self]
      · rw [update_of_ne equal]
        by_contra busy
        exact equal (sound.single other holder busy (by rw [there]; exact Hold.noConfusion))
    exact ⟨sound.tallied, fun one _ busy => absurd (none one) busy, fun other busy => absurd (none other) busy,
      fun other _ alone => Hold.noConfusion ((none other).symm.trans alone)⟩
  all_goals exact sound

end Gate
end Kore.Foundation
