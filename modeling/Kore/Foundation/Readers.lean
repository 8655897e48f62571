import Mathlib.Data.List.Infix

/-! Readers take a value off the front of a buffer or fail. An incremental reader
never revises an answer when more input arrives: only its retryable failures can
change. Such a reader splits a stream of encoded items the same way however the
stream is cut into chunks. -/

namespace Kore.Foundation
open List

abbrev Reader (σ ε : Type) := StateT (List σ) (Except ε)

namespace Reader
variable {σ ε α β : Type}

def item (missing : ε) : Reader σ ε σ
  | [] => .error missing
  | head :: rest => .ok (head, rest)

def block (missing : ε) (count : Nat) : Reader σ ε (List σ) := fun input =>
  if input.length < count then .error missing else .ok (input.take count, input.drop count)

def times (reader : Reader σ ε α) : Nat → Reader σ ε (List α)
  | 0 => pure []
  | count + 1 => do
    let head ← reader
    let tail ← times reader count
    pure (head :: tail)

theorem bind_apply (reader : Reader σ ε α) (next : α → Reader σ ε β) (input : List σ) :
    (reader >>= next) input = reader input >>= fun read => next read.1 read.2 := rfl

variable {reader : Reader σ ε α} {next : α → Reader σ ε β} {input rest : List σ} {fault : ε}

variable {value : α}

theorem bind_of_ok (read : reader input = .ok (value, rest)) : (reader >>= next) input = next value rest := by
  rw [bind_apply, read]
  rfl

theorem bind_of_error (failed : reader input = .error fault) : (reader >>= next) input = .error fault := by
  rw [bind_apply, failed]
  rfl

theorem bind_eq_ok {result : β} :
    (reader >>= next) input = .ok (result, rest) ↔
      ∃ value middle, reader input = .ok (value, middle) ∧ next value middle = .ok (result, rest) := by
  cases read : reader input with
  | error fault => simp [bind_of_error read]
  | ok pair =>
    obtain ⟨value, middle⟩ := pair
    simp [bind_of_ok read]

theorem bind_eq_error :
    (reader >>= next) input = .error fault ↔
      reader input = .error fault ∨
        ∃ value middle, reader input = .ok (value, middle) ∧ next value middle = .error fault := by
  cases read : reader input with
  | error other => simp [bind_of_error read]
  | ok pair =>
    obtain ⟨value, middle⟩ := pair
    simp [bind_of_ok read]

theorem length_times {count : Nat} {values : List α}
    (read : reader.times count input = .ok (values, rest)) : values.length = count := by
  induction count generalizing input values with
  | zero =>
    cases read
    rfl
  | succ count ih =>
    obtain ⟨head, middle, _, later⟩ := bind_eq_ok.mp read
    obtain ⟨tail, ending, others, last⟩ := bind_eq_ok.mp later
    cases last
    rw [length_cons, ih others]

/-- More input never changes a value that was read or a failure that is not retryable. -/
structure Incremental (retry : ε → Prop) (reader : Reader σ ε α) : Prop where
  leaves : ∀ {input value rest}, reader input = .ok (value, rest) → rest <:+ input
  value : ∀ {input value rest} (more), reader input = .ok (value, rest) →
    reader (input ++ more) = .ok (value, rest ++ more)
  fault : ∀ {input fault} (more), reader input = .error fault → ¬ retry fault →
    reader (input ++ more) = .error fault

variable {condition : Prop}

namespace Incremental
variable {retry : ε → Prop} {reader : Reader σ ε α}

theorem pure (value : α) : Incremental retry (Pure.pure value : Reader σ ε α) where
  leaves read := by
    cases read
    exact suffix_rfl
  value more read := by
    cases read
    rfl
  fault more failed := by cases failed

theorem throw (fault : ε) : Incremental retry (MonadExcept.throw fault : Reader σ ε α) where
  leaves read := by cases read
  value more read := by cases read
  fault more failed := by
    cases failed
    exact fun _ => rfl

theorem bind {next : α → Reader σ ε β} (first : Incremental retry reader)
    (second : ∀ value, Incremental retry (next value)) : Incremental retry (reader >>= next) where
  leaves read := by
    obtain ⟨value, middle, begun, ended⟩ := bind_eq_ok.mp read
    exact ((second value).leaves ended).trans (first.leaves begun)
  value more read := by
    obtain ⟨value, middle, begun, ended⟩ := bind_eq_ok.mp read
    exact bind_eq_ok.mpr ⟨value, _, first.value more begun, (second value).value more ended⟩
  fault more failed final := by
    rcases bind_eq_error.mp failed with begun | ⟨value, middle, begun, ended⟩
    · exact bind_eq_error.mpr (.inl (first.fault more begun final))
    · exact bind_eq_error.mpr (.inr ⟨value, _, first.value more begun, (second value).fault more ended final⟩)

theorem ite [Decidable condition] {other : Reader σ ε α} (first : Incremental retry reader)
    (second : Incremental retry other) : Incremental retry (if condition then reader else other) := by
  split
  · exact first
  · exact second

theorem map (transform : α → β) (incremental : Incremental retry reader) : Incremental retry (transform <$> reader) := by
  rw [map_eq_pure_bind]
  exact incremental.bind fun _ => pure _

variable {missing : ε}

theorem item (retryable : retry missing) : Incremental retry (item (σ := σ) missing) where
  leaves {input _ _} read := by
    cases input with
    | nil => cases read
    | cons head rest =>
      cases read
      exact suffix_cons _ _
  value {input _ _} more read := by
    cases input with
    | nil => cases read
    | cons head rest =>
      cases read
      rfl
  fault {input _} more failed final := by
    cases input with
    | nil =>
      cases failed
      exact (final retryable).elim
    | cons head rest => cases failed

theorem block {count : Nat} (retryable : retry missing) : Incremental retry (Reader.block (σ := σ) missing count) where
  leaves {input _ _} read := by
    unfold Reader.block at read
    split at read
    · cases read
    · cases read
      exact drop_suffix _ _
  value {input _ _} more read := by
    unfold Reader.block at read ⊢
    split at read
    · cases read
    next enough =>
      cases read
      have within : count ≤ input.length := Nat.le_of_not_lt enough
      rw [if_neg (by rw [length_append]; omega), take_append_of_le_length within,
        drop_append_of_le_length within]
  fault {input _} more failed final := by
    unfold Reader.block at failed
    split at failed
    · cases failed
      exact (final retryable).elim
    · cases failed

theorem times (each : Incremental retry reader) (count : Nat) : Incremental retry (reader.times count) := by
  induction count with
  | zero => exact pure []
  | succ count ih => exact each.bind fun _ => ih.bind fun _ => pure _

/-- Every strict prefix of a code word is answered with a retryable failure. -/
theorem strict_prefix (incremental : Incremental retry reader) {front back : List σ}
    (decodes : reader (front ++ back) = .ok (value, [])) (remains : back ≠ []) :
    ∃ fault, reader front = .error fault ∧ retry fault := by
  cases read : reader front with
  | ok pair =>
    have later := (incremental.value back read).symm.trans decodes
    simp only [Except.ok.injEq, Prod.mk.injEq, append_eq_nil_iff] at later
    exact (remains later.2.2).elim
  | error fault =>
    refine ⟨fault, rfl, ?_⟩
    by_contra final
    rw [incremental.fault back read final] at decodes
    cases decodes

/-- A buffer at the front of `code ++ tail` either holds all of `code`, which is then
read off, or a strict prefix of it, and the reader asks for more. -/
theorem buffered (incremental : Incremental retry reader) {code buffer future tail : List σ}
    (decodes : ∀ more, reader (code ++ more) = .ok (value, more)) (stream : buffer ++ future = code ++ tail) :
    (∃ rest, buffer = code ++ rest ∧ rest ++ future = tail ∧ reader buffer = .ok (value, rest)) ∨
      ∃ back fault, code = buffer ++ back ∧ back ≠ [] ∧ future = back ++ tail ∧
        reader buffer = .error fault ∧ retry fault := by
  rcases append_eq_append_iff.mp stream with ⟨back, extends_, later⟩ | ⟨rest, holds, later⟩
  · cases back with
    | nil =>
      rw [append_nil] at extends_
      refine .inl ⟨[], by rw [extends_, append_nil], by simpa using later, ?_⟩
      simpa [extends_] using decodes []
    | cons head back =>
      have whole := decodes []
      rw [append_nil, extends_] at whole
      obtain ⟨fault, failed, retryable⟩ := incremental.strict_prefix whole (cons_ne_nil _ _)
      exact .inr ⟨_, fault, extends_, cons_ne_nil _ _, later, failed, retryable⟩
  · exact .inl ⟨rest, holds, later.symm, by rw [holds, decodes]⟩

end Incremental

/-- Two readers that answer alike on every input of at most `bound` symbols. -/
def Agree (bound : Nat) (first second : Reader σ ε α) : Prop :=
  ∀ input, input.length ≤ bound → first input = second input

namespace Agree
variable {retry : ε → Prop} {bound : Nat} {first second : Reader σ ε α}

theorem refl (reader : Reader σ ε α) : Agree bound reader reader := fun _ _ => rfl

theorem bind {next other : α → Reader σ ε β} (incremental : Incremental retry first) (same : Agree bound first second)
    (later : ∀ value, Agree bound (next value) (other value)) : Agree bound (first >>= next) (second >>= other) := by
  intro input short
  cases read : first input with
  | error fault => rw [bind_of_error read, bind_of_error ((same input short).symm.trans read)]
  | ok pair =>
    obtain ⟨value, rest⟩ := pair
    rw [bind_of_ok read, bind_of_ok ((same input short).symm.trans read)]
    exact later value rest ((incremental.leaves read).length_le.trans short)

theorem ite [Decidable condition] {left right : Reader σ ε α} (same : Agree bound first second) (rest : Agree bound left right) :
    Agree bound (if condition then first else left) (if condition then second else right) := by
  split
  · exact same
  · exact rest

theorem times (incremental : Incremental retry first) (same : Agree bound first second) (count : Nat) :
    Agree bound (first.times count) (second.times count) := by
  induction count with
  | zero => exact refl _
  | succ count ih => exact bind incremental same fun _ => bind (incremental.times count) ih fun _ => refl _

end Agree
end Reader

/-! Lists that are read element by element. -/

section elements
variable {α β : Type} {read : α → Option β} {inputs : List α} {values : List β}

section
variable (all : inputs.mapM read = some values)
include all

private theorem map_of_mapM : inputs.map read = values.map some := by
  induction inputs generalizing values with
  | nil =>
    cases all
    rfl
  | cons input inputs ih =>
    rw [mapM_cons] at all
    obtain ⟨value, first, all⟩ := Option.bind_eq_some_iff.mp all
    obtain ⟨rest, others, all⟩ := Option.bind_eq_some_iff.mp all
    cases all
    rw [map_cons, map_cons, first, ih others]

theorem filterMap_of_mapM : inputs.filterMap read = values := by
  rw [← Function.id_comp read, ← filterMap_map, map_of_mapM all]
  simp

theorem length_of_mapM : values.length = inputs.length := by
  simpa using (congrArg length (map_of_mapM all)).symm

end

end elements
end Kore.Foundation
