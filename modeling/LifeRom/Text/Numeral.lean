/-! # Decimal numerals -/

namespace LifeRom.Text.Numeral

def IsNumeral (cs : List Char) : Prop :=
  cs ≠ [] ∧ ∀ c ∈ cs, c.isDigit

instance (cs : List Char) : Decidable (IsNumeral cs) :=
  @instDecidableAnd _ _ inferInstance (List.decidableBAll (fun c => c.isDigit) cs)

def value (cs : List Char) : Nat :=
  Nat.ofDigitChars 10 cs 0

/-- The value of a numeral, which a plus sign may precede. -/
def read? (cs : List Char) : Option Nat :=
  let digits := match cs with
    | '+' :: ds => ds
    | ds => ds
  if IsNumeral digits then some (value digits) else none

def take? (cs : List Char) : Option (Nat × List Char) :=
  let digits := cs.takeWhile Char.isDigit
  if digits = [] then none else some (value digits, cs.dropWhile Char.isDigit)

theorem read?_of_isNumeral {cs : List Char} (h : IsNumeral cs) : read? cs = some (value cs) := by
  have hplus : cs.head? ≠ some '+' := fun hhead =>
    absurd (h.2 '+' (List.mem_of_head? hhead)) (by decide)
  unfold read?
  split
  · exact absurd rfl hplus
  · exact if_pos h

theorem isNumeral_repr (n : Nat) : IsNumeral n.repr.toList :=
  ⟨by simp [Nat.toDigits_ne_nil], fun c h => by
    rw [Nat.toList_repr] at h
    exact Nat.isDigit_of_mem_toDigits (by decide) (by decide) h⟩

@[simp] theorem value_repr (n : Nat) : value n.repr.toList = n := by
  simp [value]

theorem take?_repr (n : Nat) {c : Char} (hc : c.isDigit = false) (cs : List Char) :
    take? (n.repr.toList ++ c :: cs) = some (n, c :: cs) := by
  have hc' : ¬ c.isDigit = true := by simp [hc]
  obtain ⟨hne, hdigits⟩ := isNumeral_repr n
  rw [take?, List.takeWhile_append_of_pos hdigits, List.takeWhile_cons_of_neg hc', List.append_nil,
    if_neg hne, value_repr, List.dropWhile_append_of_pos hdigits, List.dropWhile_cons_of_neg hc']

end LifeRom.Text.Numeral
