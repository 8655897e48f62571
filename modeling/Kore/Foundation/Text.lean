import Mathlib.Data.Bool.AllAny
import Mathlib.Tactic.IntervalCases
import Kore.Foundation.Words

/-! Byte strings and the decimal numerals written in them. Integers are printed
without leading zeros and read back as a bounded type reads them: one optional
sign, at least one digit, and no value outside the bounds. -/

namespace Kore.Foundation
open List Option

variable {value limit : Nat} {byte : UInt8}

abbrev Bytes := List UInt8

instance : LawfulBEq Bytes := inferInstance

def ascii (text : String) : Bytes := text.toByteArray.data.toList

def upperByte (byte : UInt8) : UInt8 := if 97 ≤ byte ∧ byte ≤ 122 then byte - 32 else byte

def upper (text : Bytes) : Bytes := text.map upperByte

/-- The characters outside the seven-bit range whose upper case lies inside it. -/
def capitals : List (Bytes × Bytes) :=
  [([0xC4, 0xB1], ascii "I"), ([0xC5, 0xBF], ascii "S"), ([0xC3, 0x9F], ascii "SS"), ([0xEF, 0xAC, 0x80], ascii "FF"),
    ([0xEF, 0xAC, 0x81], ascii "FI"), ([0xEF, 0xAC, 0x82], ascii "FL"), ([0xEF, 0xAC, 0x83], ascii "FFI"),
    ([0xEF, 0xAC, 0x84], ascii "FFL"), ([0xEF, 0xAC, 0x85], ascii "ST"), ([0xEF, 0xAC, 0x86], ascii "ST")]

/-- The first bytes of the text belong to a character that has been turned already. -/
def capitalise : Nat → Bytes → Bytes
  | _, [] => []
  | turned + 1, _ :: rest => capitalise turned rest
  | 0, byte :: rest =>
    match capitals.find? fun entry => entry.1.isPrefixOf (byte :: rest) with
    | some (character, capital) => capital ++ capitalise (character.length - 1) rest
    | none => upperByte byte :: capitalise 0 rest

/-- Upper case of a text, told apart from other texts as far as seven-bit words are concerned. -/
def upperText (text : Bytes) : Bytes := capitalise 0 text

def lowerByte (byte : UInt8) : UInt8 := if 65 ≤ byte ∧ byte ≤ 90 then byte + 32 else byte

def lower (text : Bytes) : Bytes := text.map lowerByte

def decimalDigits : Nat → Nat → Bytes
  | 0, _ => []
  | fuel + 1, value =>
    if value = 0 then [] else decimalDigits fuel (value / 10) ++ [UInt8.ofNat (48 + value % 10)]

def decimal (value : Nat) : Bytes := if value = 0 then ascii "0" else decimalDigits value value

def digit (byte : UInt8) : Option Nat := if 48 ≤ byte ∧ byte ≤ 57 then some (byte.toNat - 48) else none

def readDigits (total : Nat) (digits : Bytes) : Option Nat :=
  digits.foldlM (fun total byte => (digit byte).map (total * 10 + ·)) total

def natOfDigits (digits : Bytes) : Option Nat := if digits = [] then none else readDigits 0 digits

def bounded (limit value : Nat) : Option Nat := if value ≤ limit then some value else none

def unsignedOfText (limit : Nat) (text : Bytes) : Option Nat :=
  natOfDigits (if text.head? = some 43 then text.tail else text) >>= bounded limit

def i64OfText (text : Bytes) : Option Int :=
  if text.head? = some 45 then (natOfDigits text.tail >>= bounded (i64Max + 1)).map fun value => -Int.ofNat value
  else (unsignedOfText i64Max text).map Int.ofNat

private def continues (byte : UInt8) : Bool := 128 ≤ byte && byte ≤ 191

/-- Range of the second byte of a sequence that starts with a given one. -/
private def follows (lead byte : UInt8) : Bool :=
  if lead = 224 then 160 ≤ byte && byte ≤ 191
  else if lead = 237 then 128 ≤ byte && byte ≤ 159
  else if lead = 240 then 144 ≤ byte && byte ≤ 191
  else if lead = 244 then 128 ≤ byte && byte ≤ 143
  else continues byte

def isUtf8 : Bytes → Bool
  | [] => true
  | lead :: rest =>
    if lead < 128 then isUtf8 rest
    else match rest with
      | [] => false
      | second :: rest =>
        if 194 ≤ lead && lead ≤ 223 then follows lead second && isUtf8 rest
        else match rest with
          | [] => false
          | third :: rest =>
            if 224 ≤ lead && lead ≤ 239 then follows lead second && continues third && isUtf8 rest
            else match rest with
              | [] => false
              | fourth :: rest =>
                240 ≤ lead && lead ≤ 244 && follows lead second && continues third && continues fourth && isUtf8 rest

private def replacement : Bytes := [239, 191, 189]

/-- Bytes read as text: every longest part that no character can start with is replaced. -/
def lossy : Bytes → Bytes
  | [] => []
  | lead :: rest =>
    if lead < 128 then lead :: lossy rest
    else if lead < 194 || 244 < lead then replacement ++ lossy rest
    else match rest with
      | [] => replacement
      | second :: rest =>
        if !follows lead second then replacement ++ lossy (second :: rest)
        else if lead ≤ 223 then lead :: second :: lossy rest
        else match rest with
          | [] => replacement
          | third :: rest =>
            if !continues third then replacement ++ lossy (third :: rest)
            else if lead ≤ 239 then lead :: second :: third :: lossy rest
            else match rest with
              | [] => replacement
              | fourth :: rest =>
                if !continues fourth then replacement ++ lossy (fourth :: rest)
                else lead :: second :: third :: fourth :: lossy rest

private theorem not_stray {lead : UInt8} (low : 194 ≤ lead) (high : lead ≤ 244) : ¬ (lead < 194 || 244 < lead) := by
  simp only [Bool.or_eq_true, decide_eq_true_eq, UInt8.lt_iff_toNat_lt, UInt8.le_iff_toNat_le] at *
  omega

private theorem not_le_of_above {low high lead : UInt8} (above : high ≤ lead) (apart : low < high) : ¬ lead ≤ low := by
  simp only [UInt8.lt_iff_toNat_lt, UInt8.le_iff_toNat_le] at *
  omega

variable {text : Bytes}

theorem isUtf8_append {front : Bytes} (valid : isUtf8 front) (rest : Bytes) : isUtf8 (front ++ rest) = isUtf8 rest := by
  fun_induction isUtf8 front with
  | case1 => rfl
  | case2 lead front small ih =>
    rw [cons_append, isUtf8.eq_def]
    simp only [if_pos small, ih valid]
  | case3 | case5 | case7 => cases valid
  | case4 lead large second front two ih =>
    simp only [Bool.and_eq_true] at valid
    rw [cons_append, cons_append, isUtf8.eq_def]
    simp only [if_neg large, two, if_true, valid.1, Bool.true_and, ih valid.2]
  | case6 lead large second two third front three ih =>
    simp only [Bool.and_eq_true] at valid
    rw [cons_append, cons_append, cons_append, isUtf8.eq_def]
    simp only [if_neg large, if_neg two, three, if_true, valid.1.1, valid.1.2, Bool.true_and, ih valid.2]
  | case8 lead large second two third three fourth front ih =>
    simp only [Bool.and_eq_true] at valid
    rw [cons_append, cons_append, cons_append, cons_append, isUtf8.eq_def]
    simp only [if_neg large, if_neg two, if_neg three, valid, Bool.true_and, ih valid.2]

theorem lossy_eq_self (valid : isUtf8 text) : lossy text = text := by
  fun_induction isUtf8 text with
  | case1 => rfl
  | case2 lead rest small ih =>
    rw [lossy.eq_def]
    simp [small, ih valid]
  | case3 | case5 | case7 => cases valid
  | case4 lead large second rest two ih =>
    simp only [Bool.and_eq_true, decide_eq_true_eq] at two valid
    rw [lossy.eq_def]
    simp only [large, not_stray two.1 (UInt8.le_trans two.2 (by decide)), valid.1, two.2, ih valid.2, Bool.not_true]
    rfl
  | case6 lead large second _ third rest three ih =>
    simp only [Bool.and_eq_true, decide_eq_true_eq] at three valid
    rw [lossy.eq_def]
    simp only [large, if_false, not_stray (UInt8.le_trans (by decide) three.1) (UInt8.le_trans three.2 (by decide)), valid.1.1, valid.1.2,
      @not_le_of_above 223 _ _ three.1 (by decide), three.2, ih valid.2, Bool.not_true, if_true]
    rfl
  | case8 lead large second _ third _ fourth rest ih =>
    simp only [Bool.and_eq_true, decide_eq_true_eq] at valid
    obtain ⟨⟨⟨⟨⟨low, high⟩, follows⟩, continues⟩, last⟩, further⟩ := valid
    rw [lossy.eq_def]
    simp only [large, if_false, not_stray (UInt8.le_trans (by decide) low) high, follows, continues, last,
      @not_le_of_above 223 _ _ low (by decide), @not_le_of_above 239 _ _ low (by decide), ih further, Bool.not_true]
    rfl

theorem isUtf8_lossy (text : Bytes) : isUtf8 (lossy text) := by
  have replaced (rest : Bytes) : isUtf8 (replacement ++ rest) = isUtf8 rest := by
    simp [replacement, isUtf8.eq_def (239 :: _), follows, continues]
  fun_induction lossy text with
  | case1 => rfl
  | case2 lead rest small ih =>
    rw [isUtf8.eq_def]
    simpa [small] using ih
  | case3 lead rest _ _ ih | case5 lead _ _ second rest _ ih | case8 lead _ _ second _ _ third rest _ ih
  | case11 lead _ _ second _ _ third _ _ fourth rest _ ih => exact (replaced _).trans ih
  | case4 | case7 | case10 => rfl
  | case6 lead large _ _ _ _ _ _ | case9 lead large _ _ _ _ _ _ _ _ _ | case12 lead large _ _ _ _ _ _ _ _ _ _ _ =>
    rw [isUtf8.eq_def]
    simp only [large]
    grind

/-- Removes words of a table from the front of a text as long as one stands there. -/
def trimStart (words : List Bytes) : Nat → Bytes → Bytes
  | 0, text => text
  | fuel + 1, text =>
    match words.find? (·.isPrefixOf text) with
    | some word => trimStart words fuel (text.drop word.length)
    | none => text

theorem trimStart_eq (words : List Bytes) (fuel : Nat) (text : Bytes) :
    ∃ front : List Bytes, text = front.flatten ++ trimStart words fuel text ∧ ∀ word ∈ front, word ∈ words := by
  fun_induction trimStart words fuel text with
  | case1 text | case3 fuel text missing => exact ⟨[], rfl, fun _ member => absurd member not_mem_nil⟩
  | case2 fuel text word found ih =>
    obtain ⟨front, same, known⟩ := ih
    refine ⟨word :: front, ?_, forall_mem_cons.mpr ⟨mem_of_find?_eq_some found, known⟩⟩
    have starts := find?_some found
    obtain ⟨rest, rfl⟩ := isPrefixOf_iff_prefix.mp starts
    rw [drop_left] at same
    rw [flatten_cons, append_assoc, drop_left, ← same]

theorem isUtf8_of_ascii (ascii : ∀ byte ∈ text, byte < 128) : isUtf8 text := by
  induction text with
  | nil => rfl
  | cons lead rest ih =>
    unfold isUtf8
    rw [if_pos (ascii lead mem_cons_self)]
    exact ih fun byte member => ascii byte (mem_cons_of_mem _ member)

theorem readDigits_append (total : Nat) (front back : Bytes) :
    readDigits total (front ++ back) = readDigits total front >>= fun read => readDigits read back :=
  foldlM_append

theorem digit_ofNat (small : value < 10) : digit (UInt8.ofNat (48 + value)) = some value := by
  interval_cases value <;> rfl

theorem readDigits_decimalDigits {fuel : Nat} (enough : value ≤ fuel) :
    readDigits 0 (decimalDigits fuel value) = some value := by
  induction fuel generalizing value with
  | zero =>
    obtain rfl : value = 0 := by omega
    rfl
  | succ fuel ih =>
    unfold decimalDigits
    split
    next zero =>
      subst zero
      rfl
    next positive =>
      rw [readDigits_append, ih (by omega)]
      simp only [readDigits, foldlM_cons, foldlM_nil, bind_eq_bind, bind_some,
        digit_ofNat (Nat.mod_lt value (by decide : 0 < 10)), map_some, Option.pure_def, some.injEq]
      omega

theorem decimalDigits_digit {fuel : Nat} (member : byte ∈ decimalDigits fuel value) :
    48 ≤ byte := by
  induction fuel generalizing value with
  | zero => cases member
  | succ fuel ih =>
    unfold decimalDigits at member
    split at member
    · cases member
    · rcases mem_append.mp member with front | last
      · exact ih front
      · rw [mem_singleton] at last
        subst last
        have small : value % 10 < 10 := Nat.mod_lt _ (by decide)
        interval_cases value % 10 <;> decide

theorem decimal_digit (member : byte ∈ decimal value) : 48 ≤ byte := by
  unfold decimal at member
  split at member
  · have only : byte = 48 := mem_singleton.mp member
    exact only ▸ UInt8.le_refl _
  · exact decimalDigits_digit member

theorem natOfDigits_decimal (value : Nat) : natOfDigits (decimal value) = some value := by
  unfold natOfDigits decimal
  split
  next zero =>
    subst zero
    rfl
  next positive =>
    have read := readDigits_decimalDigits (le_refl value)
    rw [if_neg ?_, read]
    intro empty
    rw [empty] at read
    exact positive (some.inj read).symm

private theorem decimal_head (small : byte < 48) : (decimal value).head? ≠ some byte := by
  intro first
  have large := decimal_digit (mem_of_mem_head? first)
  exact absurd (UInt8.lt_of_lt_of_le small large) (UInt8.lt_irrefl _)

theorem unsignedOfText_decimal (fits : value ≤ limit) :
    unsignedOfText limit (decimal value) = some value := by
  rw [unsignedOfText, if_neg (decimal_head (by decide)), natOfDigits_decimal]
  exact if_pos fits

theorem i64OfText_decimal (fits : value ≤ i64Max) : i64OfText (decimal value) = some (Int.ofNat value) := by
  rw [i64OfText, if_neg (decimal_head (by decide)), unsignedOfText_decimal fits]
  rfl

theorem i64OfText_decimal_large (large : i64Max < value) : i64OfText (decimal value) = none := by
  rw [i64OfText, if_neg (decimal_head (by decide)), unsignedOfText, if_neg (decimal_head (by decide)), natOfDigits_decimal]
  simp [bounded, if_neg (Nat.not_le_of_lt large)]

private theorem bounded_eq_some {result : Nat} (fits : bounded limit value = some result) :
    value = result ∧ result ≤ limit := by
  unfold bounded at fits
  split at fits
  next small =>
    obtain rfl := some.inj fits
    exact ⟨rfl, small⟩
  next => cases fits

theorem unsignedOfText_le (read : unsignedOfText limit text = some value) :
    value ≤ limit := by
  obtain ⟨_, _, fits⟩ := bind_eq_some_iff.mp read
  exact (bounded_eq_some fits).2

theorem unsignedOfText_mono {larger : Nat} (most : limit ≤ larger)
    (read : unsignedOfText limit text = some value) : unsignedOfText larger text = some value := by
  obtain ⟨total, digits, fits⟩ := bind_eq_some_iff.mp read
  obtain ⟨rfl, small⟩ := bounded_eq_some fits
  exact bind_eq_some_iff.mpr ⟨total, digits, if_pos (small.trans most)⟩

theorem i64OfText_le {value : Int} (read : i64OfText text = some value) : value ≤ i64Max := by
  unfold i64OfText at read
  split at read
  · obtain ⟨total, _, rfl⟩ := map_eq_some_iff.mp read
    exact (Int.neg_nonpos_of_nonneg (Int.natCast_nonneg total)).trans (Int.natCast_nonneg _)
  · obtain ⟨total, unsigned, rfl⟩ := map_eq_some_iff.mp read
    exact Int.ofNat_le.mpr (unsignedOfText_le unsigned)

private theorem readDigits_digits {total : Nat} {digits : Bytes} (read : readDigits total digits = some value) :
    ∀ byte ∈ digits, 48 ≤ byte ∧ byte ≤ 57 := by
  induction digits generalizing total with
  | nil => exact nofun
  | cons head digits ih =>
    obtain ⟨next, first, rest⟩ := bind_eq_some_iff.mp read
    obtain ⟨_, known, _⟩ := map_eq_some_iff.mp first
    intro byte member
    rcases mem_cons.mp member with rfl | later
    · unfold digit at known
      split at known
      next range => exact range
      next => cases known
    · exact ih rest byte later

private theorem natOfDigits_digits {digits : Bytes} (read : natOfDigits digits = some value) :
    ∀ byte ∈ digits, 48 ≤ byte ∧ byte ≤ 57 := by
  unfold natOfDigits at read
  split at read
  · cases read
  · exact readDigits_digits read

private theorem unsignedOfText_numeral (read : unsignedOfText limit text = some value) :
    ∀ byte ∈ text, byte = 43 ∨ 48 ≤ byte ∧ byte ≤ 57 := by
  obtain ⟨_, digits, _⟩ := bind_eq_some_iff.mp read
  split at digits
  next plus =>
    obtain ⟨rest, rfl⟩ := head?_eq_some_iff.mp plus
    intro byte member
    rcases mem_cons.mp member with rfl | later
    · exact .inl rfl
    · exact .inr (natOfDigits_digits digits byte later)
  next => exact fun byte member => .inr (natOfDigits_digits digits byte member)

theorem unsignedOfText_ascii (read : unsignedOfText limit text = some value) :
    ∀ byte ∈ text, byte < 128 := by
  intro byte member
  rcases unsignedOfText_numeral read byte member with rfl | ⟨_, high⟩
  · decide
  · exact UInt8.lt_of_le_of_lt high (by decide)

theorem i64OfText_numeral {value : Int} (read : i64OfText text = some value) :
    ∀ byte ∈ text, 43 ≤ byte := by
  unfold i64OfText at read
  split at read
  next minus =>
    obtain ⟨rest, rfl⟩ := head?_eq_some_iff.mp minus
    obtain ⟨total, digits, _⟩ := map_eq_some_iff.mp read
    obtain ⟨_, digits, _⟩ := bind_eq_some_iff.mp digits
    intro byte member
    rcases mem_cons.mp member with rfl | later
    · decide
    · exact UInt8.le_trans (by decide) (natOfDigits_digits digits byte later).1
  next =>
    obtain ⟨total, unsigned, _⟩ := map_eq_some_iff.mp read
    intro byte member
    rcases unsignedOfText_numeral unsigned byte member with rfl | ⟨low, _⟩
    · decide
    · exact UInt8.le_trans (by decide) low

theorem unsignedOfText_minus (rest : Bytes) : unsignedOfText limit (45 :: rest) = none := by
  simp [unsignedOfText, natOfDigits, readDigits, digit]

/-- The two ways to read a nonnegative number agree, an unreadable one counting as zero. -/
theorem unsignedOfText_of_i64 {value : Int} (read : i64OfText text = some value) (positive : 0 ≤ value) :
    (unsignedOfText u64Max text).getD 0 = value.toNat := by
  unfold i64OfText at read
  split at read
  next minus =>
    obtain ⟨rest, rfl⟩ := head?_eq_some_iff.mp minus
    obtain ⟨total, _, rfl⟩ := map_eq_some_iff.mp read
    rw [unsignedOfText_minus, getD_none]
    simp only [Int.ofNat_eq_natCast] at positive ⊢
    omega
  next =>
    obtain ⟨total, unsigned, rfl⟩ := map_eq_some_iff.mp read
    rw [unsignedOfText_mono (by decide) unsigned]
    rfl

theorem unsignedOfText_of_i64_unsigned {value : Int} (read : i64OfText text = some value) (unsigned : text.head? ≠ some 45) :
    unsignedOfText u64Max text = some value.toNat := by
  rw [i64OfText, if_neg unsigned] at read
  obtain ⟨total, found, rfl⟩ := map_eq_some_iff.mp read
  exact unsignedOfText_mono (by decide) found

end Kore.Foundation
