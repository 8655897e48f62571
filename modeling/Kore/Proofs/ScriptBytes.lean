import Kore.Proofs.ScriptConfinement

/-! What becomes of the words that a script gets and passes on. They come in as text, bytes that
are none replaced, and go out as they are. -/

namespace Kore.Proofs.ScriptBytes
open Foundation Protocol Commands RespValue List

private theorem map_lossy (words : List Bytes) : words.map lossy = words ↔ ∀ word ∈ words, isUtf8 word := by
  have unchanged (word : Bytes) : lossy word = word ↔ isUtf8 word = true :=
    ⟨fun same => same ▸ isUtf8_lossy word, lossy_eq_self⟩
  induction words with
  | nil => simp
  | cons word words ih => simp [unchanged, ih]

private theorem bulk_words (words : List Bytes) :
    (words.map fun word => bulkString (some word)).mapM asBulkString = some words ∧
      (words.map fun word => bulkString (some word)).mapM argvWord = some words := by
  induction words with
  | nil => exact ⟨rfl, rfl⟩
  | cons word words ih =>
    rw [map_cons, mapM_cons, mapM_cons, ih.1, ih.2]
    exact ⟨rfl, rfl⟩

/-- A script finds the text of each key and argument, so all of them as they were given just when they are texts, and every command that
it calls with words gets exactly these. -/
theorem script_words_iff {count : RespValue} {keys : List Bytes} (counted : integerOf count = some (keys.length : Int)) (script : Bytes)
    (argv : List Bytes) :
    scriptArguments (.bulkString (some script) :: count :: (keys ++ argv).map fun word => .bulkString (some word)) =
        some (keys.map lossy, argv.map lossy) ∧
      (scriptArguments (.bulkString (some script) :: count :: (keys ++ argv).map fun word => .bulkString (some word)) = some (keys, argv) ↔
        ∀ word ∈ keys ++ argv, isUtf8 word = true) ∧
      ∀ name ∈ scriptCallAllowlist, ∀ words : List Bytes, acceptCall false (.string (ascii name) :: words.map .string) =
        .ok (ascii name, words.map fun word => .bulkString (some word)) := by
  have given : scriptArguments (.bulkString (some script) :: count :: (keys ++ argv).map fun word => .bulkString (some word)) =
      some (keys.map lossy, argv.map lossy) := by
    simp [scriptArguments, asBulkString, counted, bulk_words, -mapM_map]
  refine ⟨given, ?_, fun name listed words => ScriptConfinement.call_accepted listed words⟩
  simp only [given, Option.some.injEq, Prod.mk.injEq, map_lossy, forall_mem_append]

theorem ascii_set_unchanged :
    scriptArguments (.bulkString (some (ascii "script")) :: .integer 1 :: ([ascii "k"] ++ [ascii "v"]).map fun word => .bulkString (some word)) =
      some ([ascii "k"], [ascii "v"]) :=
  (script_words_iff rfl (ascii "script") [ascii "v"]).2.1.mpr (by decide)

/-- Two keys that are no texts fall together. -/
theorem binary_keys_merged : scriptArguments [.bulkString (some (ascii "script")), .integer 2, .bulkString (some [254]), .bulkString (some [255])] =
    some ([[239, 191, 189], [239, 191, 189]], []) := by
  decide

end Kore.Proofs.ScriptBytes
