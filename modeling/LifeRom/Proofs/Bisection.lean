import LifeRom.Bisection

/-! # What bisection finds -/

namespace LifeRom.Bisection

variable {α : Type} [LT α] {a : Array α} {x : α}

/-- Each value is less than all behind it. -/
def Ascends (a : Array α) : Prop := a.toList.Pairwise (· < ·)

theorem Ascends.lt_of_getElem_lt [Std.Asymm (· < · : α → α → Prop)] (ha : Ascends a) {i j : Nat}
    (hi : i < a.size) (hj : j < a.size) (h : a[i] < a[j]) : i < j := by
  rcases Nat.lt_trichotomy i j with hij | rfl | hji
  · exact hij
  · exact absurd h (Std.Asymm.asymm _ _ h)
  · have hlt : a[j] < a[i] := by
      simpa using List.pairwise_iff_getElem.mp ha j i hj hi hji
    exact absurd h (Std.Asymm.asymm _ _ hlt)

variable [DecidableLT α] {first last : Nat}

theorem mem_of_searchIn [Std.Trichotomous (· < · : α → α → Prop)]
    (h : searchIn a x first last = true) : x ∈ a := by
  fun_induction searchIn a x first last with
  | case1 _ _ _ _ _ _ ih => exact ih h
  | case2 _ _ _ _ _ _ _ ih => exact ih h
  | case3 first last hbounds middle y hlt hgt =>
    have hxy : x = y := Std.Trichotomous.trichotomous x y hlt hgt
    exact hxy ▸ Array.getElem_mem _
  | case4 => cases h

theorem mem_of_search [Std.Trichotomous (· < · : α → α → Prop)] (h : search a x = true) : x ∈ a :=
  mem_of_searchIn h

/-- The half that is left out does not hold the value. -/
theorem searchIn_getElem [Std.Asymm (· < · : α → α → Prop)] (ha : Ascends a) {k : Nat}
    (hfirst : first ≤ k) (hk : k < last) (hlast : last ≤ a.size) :
    searchIn a a[k] first last = true := by
  generalize hx : a[k] = x
  fun_induction searchIn a x first last with
  | case1 first last hbounds middle y hlt ih =>
    have hmiddle : k < middle := by
      subst hx
      exact ha.lt_of_getElem_lt _ _ hlt
    exact ih hfirst hmiddle (by omega) hx
  | case2 first last hbounds middle y _ hgt ih =>
    have hmiddle : middle < k := by
      subst hx
      exact ha.lt_of_getElem_lt _ _ hgt
    exact ih hmiddle hk hlast hx
  | case3 => rfl
  | case4 first last hbounds => exact absurd ⟨Nat.lt_of_le_of_lt hfirst hk, hlast⟩ hbounds

theorem search_iff [Std.Trichotomous (· < · : α → α → Prop)] [Std.Asymm (· < · : α → α → Prop)]
    (ha : Ascends a) : search a x = true ↔ x ∈ a := by
  constructor
  · exact mem_of_search
  · intro hmem
    obtain ⟨k, hk, rfl⟩ := Array.mem_iff_getElem.mp hmem
    exact searchIn_getElem ha (Nat.zero_le k) hk (Nat.le_refl _)

end LifeRom.Bisection
