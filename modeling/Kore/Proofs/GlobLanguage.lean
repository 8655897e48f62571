import Kore.Commands.Acl

/-! The language of the patterns that permissions are given with. The matcher compares bytes
before it looks for a wildcard, so that a star of the pattern that meets a star of the text is
used up by it. -/

namespace Kore.Proofs.GlobLanguage
open Foundation Commands List Option

variable {pattern text rest ahead : Bytes} {symbol byte : UInt8} {star : Option (Bytes × Bytes)} {width fuel : Nat}

/-- A star stands for any bytes, a question mark for any one byte and everything else for itself. -/
def Matches : Bytes → Bytes → Prop
  | [], text => text = []
  | symbol :: pattern, text =>
    if symbol = 42 then ∃ rest, rest <:+ text ∧ Matches pattern rest
    else ∃ byte rest, text = byte :: rest ∧ (symbol = 63 ∨ symbol = byte) ∧ Matches pattern rest

private theorem matches_star : Matches (42 :: pattern) text ↔ ∃ rest, rest <:+ text ∧ Matches pattern rest := by
  rw [Matches, if_pos rfl]

private theorem matches_star_cons :
    Matches (42 :: pattern) (byte :: text) ↔ Matches pattern (byte :: text) ∨ Matches (42 :: pattern) text := by
  simp [matches_star, suffix_cons_iff, or_and_right, exists_or]

private theorem matches_cons (plain : symbol ≠ 42) :
    Matches (symbol :: pattern) (byte :: text) ↔ (symbol = 63 ∨ symbol = byte) ∧ Matches pattern text := by
  rw [Matches, if_neg plain]
  constructor
  · rintro ⟨_, _, same, fits, later⟩
    cases same
    exact ⟨fits, later⟩
  · rintro ⟨fits, later⟩
    exact ⟨byte, text, rfl, fits, later⟩

private theorem matches_nil : Matches pattern [] ↔ pattern.all (· == 42) := by
  induction pattern with
  | nil => simp [Matches]
  | cons symbol pattern ih =>
    by_cases star : symbol = 42
    · simp [star, matches_star, ih]
    · simp [Matches, star]

/-- Where the loop stands in a pattern of some width: from the last star on it has compared byte by byte. -/
def Aligned (width : Nat) (pattern text : Bytes) (star : Option (Bytes × Bytes)) : Prop :=
  pattern.length ≤ width ∧ ∀ later left, star = some (later, left) → later.length ≤ width ∧ 42 ∉ left ∧
    ∃ done seen, later = done ++ pattern ∧ left = seen ++ text ∧ done.length = seen.length ∧ 42 ∉ done

/-- What the loop may still go back to. -/
def Retry (star : Option (Bytes × Bytes)) : Prop :=
  ∃ later left, star = some (later, left) ∧ left ≠ [] ∧ Matches (42 :: later) left.tail

private theorem matches_append (plain : 42 ∉ ahead) (fits : Matches (ahead ++ pattern) text) :
    ∃ rest, rest <:+ text ∧ rest.length + ahead.length = text.length ∧ Matches pattern rest := by
  induction ahead generalizing text with
  | nil => exact ⟨text, suffix_rfl, rfl, fits⟩
  | cons symbol ahead ih =>
    obtain ⟨other, plain⟩ := not_or.mp (mt mem_cons.mpr plain)
    rw [cons_append, Matches, if_neg (Ne.symm other)] at fits
    obtain ⟨byte, left, rfl, -, fits⟩ := fits
    obtain ⟨rest, inside, length, fits⟩ := ih plain fits
    exact ⟨rest, inside.trans (suffix_cons _ _), by simp only [length_cons]; omega, fits⟩

/-- Going back further than to the last star is never needed. -/
private theorem Aligned.retry (aligned : Aligned width pattern text star) (retry : Retry star) :
    ∃ rest, rest <:+ text ∧ rest.length < text.length ∧ Matches pattern rest := by
  obtain ⟨later, left, same, nonempty, fits⟩ := retry
  obtain ⟨-, -, done, seen, rfl, rfl, long, plain⟩ := aligned.2 later left same
  obtain ⟨middle, inside, fits⟩ := matches_star.mp fits
  obtain ⟨rest, within, length, fits⟩ := matches_append plain fits
  have short := inside.length_le
  have positive := length_pos_iff.mpr nonempty
  rw [length_tail, length_append] at short
  rw [length_append] at positive
  refine ⟨rest, ?_, by omega, fits⟩
  exact suffix_of_suffix_length_le ((within.trans inside).trans (tail_suffix _)) (suffix_append _ _) (by omega)

private theorem restart_iff : Matches pattern text ∨ Retry (some (pattern, text)) ↔ Matches (42 :: pattern) text := by
  have retry : Retry (some (pattern, text)) ↔ text ≠ [] ∧ Matches (42 :: pattern) text.tail := by
    simp only [Retry, some.injEq, Prod.mk.injEq]
    exact ⟨fun ⟨_, _, ⟨rfl, rfl⟩, there⟩ => there, fun there => ⟨_, _, ⟨rfl, rfl⟩, there⟩⟩
  rw [retry]
  cases text with
  | nil => simp [matches_star]
  | cons byte text => rw [matches_star_cons]; simp

private theorem Aligned.restart (narrow : pattern.length ≤ width) (free : 42 ∉ text) :
    Aligned width pattern text (some (pattern, text)) := by
  refine ⟨narrow, ?_⟩
  rintro _ _ ⟨⟩
  exact ⟨narrow, free, [], [], rfl, rfl, rfl, not_mem_nil⟩

/-- The steps that the loop can still take, for patterns of some length at most. -/
def effort (width : Nat) (pattern text : Bytes) (star : Option (Bytes × Bytes)) : Nat :=
  (star.elim text.length (·.2.length)) * (width + 1) + pattern.length

def goBack (fuel : Nat) : Option (Bytes × Bytes) → Bool
  | some (pattern, _ :: text) => globLoop fuel pattern text (some (pattern, text))
  | _ => false

private theorem globLoop_nil : globLoop (fuel + 1) [] (byte :: text) star = goBack fuel star := by
  rcases star with _ | ⟨later, _ | _⟩
  all_goals rfl

private theorem globLoop_cons : globLoop (fuel + 1) (symbol :: pattern) (byte :: text) star =
    if symbol = 63 ∨ symbol = byte then globLoop fuel pattern text star
    else if symbol = 42 then globLoop fuel pattern (byte :: text) (some (pattern, byte :: text)) else goBack fuel star := by
  rcases star with _ | ⟨later, _ | _⟩
  all_goals rfl

private theorem globLoop_iff (apart : 42 ∉ pattern ∧ star = none ∨ 42 ∉ text) (aligned : Aligned width pattern text star)
    (enough : effort width pattern text star < fuel) : globLoop fuel pattern text star = true ↔ Matches pattern text ∨ Retry star := by
  induction fuel generalizing pattern text star with
  | zero => cases enough
  | succ fuel ih =>
    cases text with
    | nil =>
      have settled : ¬ Retry star := by
        intro retry
        obtain ⟨rest, -, short, -⟩ := aligned.retry retry
        cases short
      simp [globLoop, settled, matches_nil]
    | cons byte text =>
      have back : goBack fuel star = true ↔ Retry star := by
        rcases star with _ | ⟨later, _ | ⟨first, left⟩⟩
        · simp [goBack, Retry]
        · simp [goBack, Retry]
        obtain ⟨narrow, free, -⟩ := aligned.2 later _ rfl
        have free := mt (mem_cons_of_mem first) free
        simp only [effort, elim_some, length_cons, Nat.succ_mul] at enough
        rw [goBack, ih (.inr free) (.restart narrow free) (by simp only [effort, elim_some]; omega), restart_iff]
        simp [Retry]
      cases pattern with
      | nil =>
        have wrong : ¬ Matches [] (byte :: text) := by simp [Matches]
        rw [globLoop_nil, back, or_iff_right wrong]
      | cons symbol pattern =>
        rw [globLoop_cons]
        split
        next fits =>
          have plain : symbol ≠ 42 := by
            rintro rfl
            rcases apart with ⟨starless, -⟩ | free
            · exact starless mem_cons_self
            · exact free (fits.resolve_left (by decide) ▸ mem_cons_self)
          rw [matches_cons plain, and_iff_right fits]
          refine ih (apart.imp (And.imp_left (mt (mem_cons_of_mem _))) (mt (mem_cons_of_mem _))) ⟨Nat.le_of_succ_le aligned.1, ?_⟩ ?_
          · intro later left same
            obtain ⟨narrow, free, done, seen, rfl, rfl, long, starless⟩ := aligned.2 later left same
            exact ⟨narrow, free, done ++ [symbol], seen ++ [byte], by simp, by simp, by simp [long], by simp [starless, Ne.symm plain]⟩
          · cases star
            all_goals
              simp only [effort, elim_none, elim_some, length_cons, Nat.succ_mul] at enough ⊢
              omega
        next differs =>
        split
        next wild =>
          subst wild
          have free := apart.resolve_left fun starless => starless.1 mem_cons_self
          have long : (byte :: text).length ≤ star.elim (byte :: text).length (·.2.length) := by
            cases star with
            | none => exact le_rfl
            | some place =>
              obtain ⟨-, -, done, seen, -, same, -, -⟩ := aligned.2 place.1 place.2 rfl
              rw [elim_some, same, length_append]
              exact Nat.le_add_left _ _
          have bound := Nat.mul_le_mul_right (width + 1) long
          rw [ih (.inr free) (.restart (Nat.le_of_succ_le aligned.1) free)
            (by simp only [effort, elim_some, length_cons] at enough bound ⊢; omega), restart_iff]
          refine ⟨.inl, fun found => found.elim id fun retry => ?_⟩
          obtain ⟨rest, inside, -, fits⟩ := aligned.retry retry
          obtain ⟨last, within, fits⟩ := matches_star.mp fits
          exact matches_star.mpr ⟨last, within.trans inside, fits⟩
        next plain => rw [back, matches_cons plain, or_iff_right (mt And.left differs)]

theorem globMatch_iff (apart : 42 ∉ pattern ∨ 42 ∉ text) : globMatch pattern text = true ↔ Matches pattern text := by
  have fresh : ¬ Retry none := nofun
  have enough : effort pattern.length pattern text none < (text.length + 1) * (pattern.length + text.length + 1) := by
    have wide := Nat.mul_le_mul_left (text.length + 1) (show pattern.length + 1 ≤ pattern.length + text.length + 1 by omega)
    rw [Nat.succ_mul] at wide
    simp only [effort, elim_none]
    omega
  rw [globMatch, globLoop_iff (apart.imp_left fun starless => ⟨starless, rfl⟩) ⟨le_rfl, nofun⟩ enough, or_iff_left fresh]

/-- Bytes that stand in both are used up, stars among them. -/
private theorem globLoop_append :
    ∀ fuel, globLoop fuel (ahead ++ pattern) (ahead ++ text) none = globLoop (fuel - ahead.length) pattern text none := by
  induction ahead with
  | nil => exact fun _ => rfl
  | cons symbol ahead ih =>
    intro fuel
    cases fuel with
    | zero => simp [globLoop]
    | succ fuel =>
      rw [cons_append, cons_append, globLoop_cons, if_pos (.inr rfl), ih, length_cons, Nat.add_sub_add_right]

private theorem matches_common (fits : Matches pattern text) : Matches (ahead ++ pattern) (ahead ++ text) := by
  induction ahead with
  | nil => exact fits
  | cons symbol ahead ih =>
    by_cases wild : symbol = 42
    · rw [cons_append, cons_append, wild]
      exact matches_star.mpr ⟨_, suffix_cons _ _, ih⟩
    · exact (matches_cons wild).mpr ⟨.inr rfl, ih⟩

/-- Without a star only a text of the pattern's length gets through. -/
private theorem globLoop_length (starless : 42 ∉ pattern) (differ : pattern.length ≠ text.length) :
    globLoop fuel pattern text none = false := by
  induction fuel generalizing pattern text with
  | zero => rfl
  | succ fuel ih =>
    cases pattern with
    | nil =>
      cases text with
      | nil => exact absurd rfl differ
      | cons byte text => rfl
    | cons symbol pattern =>
      obtain ⟨other, starless⟩ := not_or.mp (mt mem_cons.mpr starless)
      cases text with
      | nil => simp [globLoop, Ne.symm other]
      | cons byte text =>
        rw [globLoop_cons, if_neg (Ne.symm other)]
        split
        · exact ih starless (mt (congrArg Nat.succ) differ)
        · rfl

private theorem matches_replicate : Matches (replicate text.length 63) text := by
  induction text with
  | nil => rfl
  | cons byte text ih => exact (matches_cons (by decide)).mpr ⟨.inl rfl, ih⟩

/-- A pattern is matched as it should be with every text just when it has no star, and a text with every pattern just when it has none. -/
theorem globMatch_exact_iff (bytes : Bytes) :
    ((∀ text, globMatch bytes text = true ↔ Matches bytes text) ↔ 42 ∉ bytes) ∧
      ((∀ pattern, globMatch pattern bytes = true ↔ Matches pattern bytes) ↔ 42 ∉ bytes) := by
  refine ⟨⟨fun exact member => ?_, fun starless text => globMatch_iff (.inl starless)⟩,
    ⟨fun exact member => ?_, fun starless pattern => globMatch_iff (.inr starless)⟩⟩
  · -- the last star meets itself, and one byte more follows
    obtain ⟨behind, ahead, same, starless⟩ := eq_append_cons_of_mem (mem_reverse.mpr member)
    obtain rfl : bytes = ahead.reverse ++ [42] ++ behind.reverse := by
      rw [← reverse_reverse bytes, same]
      simp
    have fits : Matches (ahead.reverse ++ [42] ++ behind.reverse) (ahead.reverse ++ [42] ++ 42 :: behind.reverse) := by
      rw [append_assoc, append_assoc]
      refine matches_common (matches_star.mpr ⟨behind.reverse, ⟨[42, 42], rfl⟩, ?_⟩)
      simpa using matches_common (show Matches [] [] from rfl)
    have found := (exact _).mpr fits
    rw [globMatch, globLoop_append, globLoop_length (by simpa using starless) (by simp)] at found
    cases found
  · obtain ⟨ahead, behind, rfl⟩ := append_of_mem member
    have fits : Matches (ahead ++ [42] ++ replicate (42 :: behind).length 63) (ahead ++ [42] ++ behind) := by
      rw [append_assoc, append_assoc]
      exact matches_common (matches_star.mpr ⟨_, suffix_rfl, matches_replicate⟩)
    rw [append_cons] at exact
    have found := (exact _).mpr fits
    rw [globMatch, globLoop_append, globLoop_length (by simp) (by simp)] at found
    cases found

/-- Every text is in the language of the star alone, and a star with something behind it is turned away. -/
theorem star_text_refused : globMatch (ascii "*") (ascii "*x") = false ∧ Matches (ascii "*") (ascii "*x") :=
  ⟨by decide, matches_star.mpr ⟨[], nil_suffix, rfl⟩⟩

end Kore.Proofs.GlobLanguage
