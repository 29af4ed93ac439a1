import Mathlib.Data.List.Lex
import LifeRom.Proofs.Verilog.Legality

/-! # Reserved words

The table of keywords ascends, letter by letter and so byte by byte, and bisection finds a text in
it just if it stands anywhere in it.
-/

namespace LifeRom.Verilog

variable {name : String} {c : Char}

def IsLetter (c : Char) : Prop := 'a' ≤ c ∧ c ≤ 'z' ∨ 'A' ≤ c ∧ c ≤ 'Z'

def IsDigit (c : Char) : Prop := '0' ≤ c ∧ c ≤ '9'

theorem isDigit_iff : c.isDigit = true ↔ IsDigit c := by
  unfold Char.isDigit
  rw [Bool.and_eq_true, decide_eq_true_iff, decide_eq_true_iff]
  rfl

theorem isAlpha_iff : c.isAlpha = true ↔ IsLetter c := by
  unfold Char.isAlpha Char.isUpper Char.isLower
  rw [Bool.or_eq_true, Bool.and_eq_true, decide_eq_true_iff, decide_eq_true_iff,
    decide_eq_true_iff]
  exact or_comm

theorem isIdentifierStart_iff : isIdentifierStart c = true ↔ IsLetter c ∨ c = '_' := by
  rw [isIdentifierStart, Bool.or_eq_true, isAlpha_iff, beq_iff_eq]

theorem isIdentifierPart_iff :
    isIdentifierPart c = true ↔ IsLetter c ∨ IsDigit c ∨ c = '_' := by
  rw [isIdentifierPart, Char.isAlphanum, Bool.or_eq_true, Bool.or_eq_true, isAlpha_iff, isDigit_iff,
    beq_iff_eq, or_assoc]

def bytes (text : String) : List UInt8 := text.toUTF8.data.toList

theorem bytes_injective : Function.Injective bytes := fun _ _ h =>
  String.toByteArray_inj.mp (ByteArray.ext (Array.toList_inj.mp h))

theorem bytes_eq_flatMap (text : String) :
    bytes text = text.toList.flatMap String.utf8EncodeChar := by
  have htext : text.toByteArray = text.toList.utf8Encode := by
    rw [← String.toByteArray_ofList, String.ofList_toList]
  rw [bytes, String.toUTF8_eq_toByteArray, htext, List.utf8Encode, List.data_toByteArray]

theorem div_lt_or_mod_lt {m n : Nat} (h : m < n) :
    m / 64 < n / 64 ∨ m / 64 = n / 64 ∧ m % 64 < n % 64 := by
  omega

/-- The bytes of a lesser character come before those of a greater one, whatever follows. -/
theorem utf8EncodeChar_append_lt {c d : Char} (h : c < d) (xs ys : List UInt8) :
    String.utf8EncodeChar c ++ xs < String.utf8EncodeChar d ++ ys := by
  have hlt : c.val.toNat < d.val.toNat := UInt32.lt_iff_toNat_lt.mp h
  have hlast : d.val.toNat < 1114112 := by
    have := d.valid
    simp only [UInt32.isValidChar, Nat.isValidChar] at this
    omega
  -- the bytes behind the first are the digits of base 64
  have hdigits (n : Nat) : n / 4096 = n / 64 / 64 ∧ n / 262144 = n / 64 / 64 / 64 := by omega
  simp only [String.utf8EncodeChar, hdigits]
  generalize c.val.toNat = m, d.val.toNat = n at hlt hlast
  have hlow := div_lt_or_mod_lt hlt
  have hmiddle := @div_lt_or_mod_lt (m / 64) (n / 64)
  have hhigh := @div_lt_or_mod_lt (m / 64 / 64) (n / 64 / 64)
  split_ifs
  all_goals
    simp only [List.cons_append, List.nil_append, List.cons_lt_cons_iff, UInt8.lt_iff_toNat_lt,
      ← UInt8.toNat_inj, UInt8.toNat_ofNat']
    omega

theorem flatMap_utf8EncodeChar_lt {cs ds : List Char} (h : cs < ds) :
    cs.flatMap String.utf8EncodeChar < ds.flatMap String.utf8EncodeChar := by
  induction h with
  | @nil d ds =>
    obtain ⟨b, bs, hd⟩ := List.exists_cons_of_ne_nil (String.utf8EncodeChar_ne_nil (c := d))
    rw [List.flatMap_nil, List.flatMap_cons, hd]
    exact List.nil_lt_cons _ _
  | cons h ih => exact List.append_left_lt ih
  | rel h => exact utf8EncodeChar_append_lt h _ _

theorem bytes_lt {s t : String} (h : s < t) : bytes s < bytes t := by
  rw [bytes_eq_flatMap, bytes_eq_flatMap]
  exact flatMap_utf8EncodeChar_lt h

theorem ascends_bytes_keywords : Bisection.Ascends (keywords.map bytes) := by
  rw [Bisection.Ascends, Array.toList_map]
  exact ascends_keywords.map bytes fun _ _ => bytes_lt

theorem search_bytes_iff :
    Bisection.search (keywords.map bytes) (bytes name) = true ↔ name ∈ keywords := by
  rw [Bisection.search_iff ascends_bytes_keywords, Array.mem_map]
  constructor
  · rintro ⟨word, hword, heq⟩
    exact bytes_injective heq ▸ hword
  · intro hname
    exact ⟨name, hname, rfl⟩

/-- The identifiers are the words with no digit in front that are not in the table of keywords, and
whatever stands in the table, and nothing else, is found there by bisection. -/
theorem isIdentifier_exact (name : String) :
    (isIdentifier name = true ↔
      ∃ c cs, name.toList = c :: cs ∧ (IsLetter c ∨ c = '_') ∧
        (∀ d ∈ cs, IsLetter d ∨ IsDigit d ∨ d = '_') ∧ name ∉ keywords) ∧
      (Bisection.search keywords name = true ↔ name ∈ keywords) ∧
      (Bisection.search (keywords.map bytes) (bytes name) = true ↔ name ∈ keywords) := by
  have hkeyword : isKeyword name = false ↔ name ∉ keywords := by
    rw [← Bool.not_eq_true, isKeyword_iff]
  refine ⟨?_, isKeyword_iff, search_bytes_iff⟩
  simp only [isIdentifier_iff, hkeyword, isIdentifierStart_iff, isIdentifierPart_iff,
    ← exists_and_right, and_assoc]

end LifeRom.Verilog
