import Mathlib.Data.List.Induction
import LifeRom.Fault

/-! # First faults

Whether an item is at fault depends on itself and on those before it.
-/

namespace LifeRom

namespace Fault

section First

variable {α : Type} (fault? : List α → α → Option Fault)

/-- No item is at fault behind those before it. -/
def Free (items : List α) : Prop :=
  ∀ before item, before ++ [item] <+: items → fault? before item = none

/-- The fault of the first item that has one. -/
def First (items : List α) (e : Fault) : Prop :=
  ∃ before item, before ++ [item] <+: items ∧ Free fault? before ∧ fault? before item = some e

variable {fault?} {items before : List α} {item : α}

theorem free_nil : Free fault? [] := by
  intro before item h
  simp at h

theorem free_concat :
    Free fault? (before ++ [item]) ↔ Free fault? before ∧ fault? before item = none := by
  constructor
  · intro h
    exact ⟨fun l u hl => h l u (hl.trans (List.prefix_append _ _)), h _ _ List.prefix_rfl⟩
  · rintro ⟨h, hitem⟩ l u hl
    rcases List.prefix_concat_iff.mp hl with heq | hl
    · obtain ⟨rfl, hu⟩ := List.append_inj' heq rfl
      rwa [List.singleton_inj.mp hu]
    · exact h l u hl

variable (fault? items) in
theorem first_or_free : (∃ e, First fault? items e) ∨ Free fault? items := by
  induction items using List.reverseRecOn with
  | nil => exact Or.inr free_nil
  | append_singleton items item ih =>
    rcases ih with ⟨e, before, u, hu, hfree, he⟩ | hfree
    · exact Or.inl ⟨e, before, u, hu.trans (List.prefix_append _ _), hfree, he⟩
    · cases he : fault? items item with
      | some e => exact Or.inl ⟨e, items, item, List.prefix_rfl, hfree, he⟩
      | none => exact Or.inr (free_concat.mpr ⟨hfree, he⟩)

theorem First.not_free {e : Fault} (h : First fault? items e) : ¬ Free fault? items := by
  obtain ⟨before, item, hp, -, he⟩ := h
  intro hfree
  cases (hfree before item hp).symm.trans he

theorem eq_error_iff {β : Type} {x : Except Fault β} {e : Fault} {p : Prop}
    (hfirst : ∀ e, First fault? items e → x = .error e)
    (hfree : Free fault? items → (x = .error e ↔ p)) :
    x = .error e ↔ First fault? items e ∨ Free fault? items ∧ p := by
  rcases first_or_free fault? items with ⟨e', he'⟩ | h
  · rw [or_iff_left fun h => he'.not_free h.1]
    constructor
    · intro he
      rwa [← Except.error.inj ((hfirst e' he').symm.trans he)]
    · exact hfirst e
  · rw [or_iff_right fun he => he.not_free h, and_iff_right h]
    exact hfree h

end First

section Stray

variable (allowed : Char → Prop) [DecidablePred allowed]

/-- The fault of the first character that is not allowed in a text that starts at a position. -/
def stray? (position : Position) : List Char → Option Fault
  | [] => none
  | c :: cs =>
    if allowed c then stray? { position with column := position.column + 1 } cs
    else some (.unexpectedSymbol c position)

variable {allowed} {row column : Nat} {text : List Char} {e : Fault}

theorem stray?_eq_none_iff {position : Position} :
    stray? allowed position text = none ↔ ∀ c ∈ text, allowed c := by
  induction text generalizing position with
  | nil => simp [stray?]
  | cons c text ih => by_cases hc : allowed c <;> simp [stray?, hc, ih]

theorem exists_of_stray? (h : stray? allowed ⟨row, column⟩ text = some e) :
    ∃ c k, e = .unexpectedSymbol c ⟨row, k + column⟩ ∧ text[k]? = some c := by
  induction text generalizing column with
  | nil => cases h
  | cons c text ih =>
    rw [stray?] at h
    split at h
    · obtain ⟨d, k, rfl, hk⟩ := ih h
      exact ⟨d, k + 1, by rw [Nat.add_assoc, Nat.add_comm 1], hk⟩
    · cases h
      exact ⟨c, 0, by rw [Nat.zero_add], rfl⟩

end Stray

end Fault

namespace Position

def symbolIn? (lines : List (List Char)) : Position → Option Char
  | ⟨row + 1, column + 1⟩ => lines[row]?.bind (·[column]?)
  | _ => none

theorem symbolIn?_of_prefix {before lines : List (List Char)} {cs : List Char}
    (h : before ++ [cs] <+: lines) (k : Nat) :
    symbolIn? lines ⟨before.length + 1, k + 1⟩ = cs[k]? := by
  obtain ⟨after, rfl⟩ := h
  simp [symbolIn?]

end Position

end LifeRom
