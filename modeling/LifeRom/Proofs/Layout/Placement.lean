import Mathlib.Data.List.DropRight
import LifeRom.Layout
import LifeRom.Proofs.Faults

/-! # The place of a token

The row ends before a token give its row, and the runs since the last of them its first column.
-/

namespace LifeRom

namespace Token

/-- The cells that a token takes up in its row. -/
def length : Token → Nat
  | dead n | alive n => n
  | rowEnd | stop => 0

@[simp] theorem length_dead (n : Nat) : length (dead n) = n := rfl

@[simp] theorem length_alive (n : Nat) : length (alive n) = n := rfl

/-- The cells that tokens of one row take up together. -/
def span : List Token → Nat
  | [] => 0
  | t :: ts => t.length + span ts

theorem span_append (ts us : List Token) : span (ts ++ us) = span ts + span us := by
  induction ts with
  | nil => simp [span]
  | cons t ts ih => rw [List.cons_append, span, span, ih, Nat.add_assoc]

theorem span_concat (ts : List Token) (t : Token) : span (ts ++ [t]) = span ts + t.length :=
  span_append ts [t]

end Token

namespace Pattern

variable (p : Pattern) {before : List Token} {t : Token} {c : Cell} {n : Nat}

/-- The row of the token that stands directly behind `before`. -/
def rowAfter (before : List Token) : Nat :=
  (side - p.height) / 2 + before.count .rowEnd

/-- The first column of the token that stands directly behind `before`. -/
def columnAfter (before : List Token) : Nat :=
  (side - p.width) / 2 + Token.span (before.rtakeWhile (· ≠ .rowEnd))

@[simp] theorem rowAfter_nil : p.rowAfter [] = p.margins.top := rfl

@[simp] theorem rowAfter_concat_rowEnd :
    p.rowAfter (before ++ [.rowEnd]) = p.rowAfter before + 1 := by
  simp [rowAfter, Nat.add_assoc]

theorem rowAfter_concat (h : t ≠ .rowEnd) : p.rowAfter (before ++ [t]) = p.rowAfter before := by
  simp [rowAfter, h]

theorem rowAfter_mono {l : List Token} (h : l <+: before) : p.rowAfter l ≤ p.rowAfter before :=
  Nat.add_le_add_left (h.sublist.count_le _) _

@[simp] theorem columnAfter_nil : p.columnAfter [] = p.margins.left := rfl

@[simp] theorem columnAfter_concat_rowEnd :
    p.columnAfter (before ++ [.rowEnd]) = p.margins.left := by
  rw [columnAfter, List.rtakeWhile_concat_neg _ _ _ (by simp)]
  rfl

theorem columnAfter_concat (h : t ≠ .rowEnd) :
    p.columnAfter (before ++ [t]) = p.columnAfter before + t.length := by
  rw [columnAfter, List.rtakeWhile_concat_pos _ _ _ (by simpa using h), Token.span_concat,
    columnAfter, Nat.add_assoc]

/-- The run of `n` alive cells behind `before` lies over the cell. -/
def RunOver (before : List Token) (n : Nat) (c : Cell) : Prop :=
  p.rowAfter before = c.y ∧ p.columnAfter before ≤ c.x ∧ c.x < p.columnAfter before + n

/-- Some alive run among the tokens lies over the cell. -/
def CoveredBy (ts : List Token) (c : Cell) : Prop :=
  ∃ before n, before ++ [.alive n] <+: ts ∧ p.RunOver before n c

theorem not_coveredBy_nil : ¬ p.CoveredBy [] c := by
  rintro ⟨before, n, h, -⟩
  simp at h

theorem coveredBy_concat :
    p.CoveredBy (before ++ [t]) c ↔
      p.CoveredBy before c ∨ ∃ n, t = .alive n ∧ p.RunOver before n c := by
  constructor
  · rintro ⟨l, n, hl, hc⟩
    rcases List.prefix_concat_iff.mp hl with h | h
    · obtain ⟨rfl, ht⟩ := List.append_inj' h rfl
      exact Or.inr ⟨n, (List.singleton_inj.mp ht).symm, hc⟩
    · exact Or.inl ⟨l, n, h, hc⟩
  · rintro (⟨l, n, hl, hc⟩ | ⟨n, rfl, hc⟩)
    · exact ⟨l, n, hl.trans (List.prefix_append _ _), hc⟩
    · exact ⟨before, n, List.prefix_rfl, hc⟩

theorem coveredBy_concat_of_ne (h : ∀ n, t ≠ .alive n) :
    p.CoveredBy (before ++ [t]) c ↔ p.CoveredBy before c := by
  rw [coveredBy_concat]
  exact or_iff_left fun ⟨n, ht, _⟩ => h n ht

/-- The token `t` counts and stands directly behind `before`: no `stop` comes earlier. -/
def Reaches (before : List Token) (t : Token) : Prop :=
  before ++ [t] <+: p.tokens ∧ .stop ∉ before

/-- The cell lies under an alive run before the first `stop`. -/
def Covers (c : Cell) : Prop :=
  ∃ before n, p.Reaches before (.alive n) ∧ p.RunOver before n c

/-- A `stop` comes, in a row of the field, and no alive run before the first one runs out of it. -/
def Fits : Prop :=
  (∀ before n, p.Reaches before (.alive n) → p.columnAfter before + n ≤ side) ∧
    ∃ before, p.Reaches before .stop ∧ p.rowAfter before < side

/-- The fault of the token `t` behind `before`, if it leaves the field. -/
def faultAt? (before : List Token) : Token → Option Fault
  | .dead _ => none
  | .alive n =>
    if side < p.columnAfter before + n then some (.outsideField (p.rowAfter before) side) else none
  | .rowEnd | .stop => if p.rowAfter before = side then some (.outsideField side 0) else none

/-- None of the tokens leaves the field. -/
def Faultless (ts : List Token) : Prop :=
  ∀ before t, before ++ [t] <+: ts → p.faultAt? before t = none

/-- The fault of the first token that leaves the field, or the lack of a `stop` where none does. -/
def Fails (e : Fault) : Prop :=
  (∃ before t, p.Reaches before t ∧ p.Faultless before ∧ p.faultAt? before t = some e) ∨
    .stop ∉ p.tokens ∧ p.Faultless p.tokens ∧ e = .unterminated

variable {p} {l : List Token} {u : Token} {e e' : Fault}

theorem faultless_nil : p.Faultless [] :=
  @Fault.free_nil _ p.faultAt?

theorem faultless_concat :
    p.Faultless (before ++ [t]) ↔ p.Faultless before ∧ p.faultAt? before t = none :=
  @Fault.free_concat _ p.faultAt? before t

/-- Of two tokens that count, one comes before the other or they are the same. -/
theorem Reaches.compare (h : p.Reaches before t) (h' : p.Reaches l u) :
    before = l ∧ t = u ∨ before ++ [t] <+: l ∨ l ++ [u] <+: before := by
  rcases List.prefix_or_prefix_of_prefix h.1 h'.1 with hp | hp
  · rcases List.prefix_concat_iff.mp hp with heq | hp
    · obtain ⟨rfl, ht⟩ := List.append_inj' heq rfl
      exact Or.inl ⟨rfl, List.singleton_inj.mp ht⟩
    · exact Or.inr (Or.inl hp)
  · rcases List.prefix_concat_iff.mp hp with heq | hp
    · obtain ⟨rfl, ht⟩ := List.append_inj' heq rfl
      exact Or.inl ⟨rfl, (List.singleton_inj.mp ht).symm⟩
    · exact Or.inr (Or.inr hp)

theorem Reaches.prefix_of_stop (h : p.Reaches before t) (hs : p.Reaches l .stop) :
    before <+: l := by
  rcases h.compare hs with ⟨rfl, -⟩ | hp | hp
  · exact List.prefix_rfl
  · exact (List.prefix_append _ _).trans hp
  · exact absurd (hp.subset (by simp)) h.2

theorem covers_iff (hs : p.Reaches l .stop) : p.Covers c ↔ p.CoveredBy l c := by
  constructor
  · rintro ⟨before, n, hr, hc⟩
    rcases hr.compare hs with ⟨-, ht⟩ | hp | hp
    · cases ht
    · exact ⟨before, n, hp, hc⟩
    · exact absurd (hp.subset (by simp)) hr.2
  · rintro ⟨before, n, hp, hc⟩
    refine ⟨before, n, ⟨hp.trans ((List.prefix_append _ _).trans hs.1), fun hm => hs.2 ?_⟩, hc⟩
    exact hp.subset (List.mem_append_left _ hm)

theorem rowAfter_lt_of_faultAt?_stop (h : p.rowAfter l ≤ side) (ht : p.faultAt? l .stop = none) :
    p.rowAfter l < side := by
  simp only [faultAt?, ite_eq_right_iff, reduceCtorEq, imp_false] at ht
  omega

theorem fits_of_faultless (hs : p.Reaches l .stop) (hf : p.Faultless l)
    (hrow : p.rowAfter l < side) : p.Fits := by
  refine ⟨fun before n hr => ?_, l, hs, hrow⟩
  rcases hr.compare hs with ⟨-, ht⟩ | hp | hp
  · cases ht
  · have := hf _ _ hp
    simp only [faultAt?, ite_eq_right_iff, reduceCtorEq, imp_false] at this
    omega
  · exact absurd (hp.subset (by simp)) hr.2

theorem Fits.faultAt?_eq_none (h : p.Fits) (hr : p.Reaches before t) :
    p.faultAt? before t = none := by
  obtain ⟨hrun, l, hs, hrow⟩ := h
  have hlt : p.rowAfter before < side := (p.rowAfter_mono (hr.prefix_of_stop hs)).trans_lt hrow
  cases t with
  | dead n => rfl
  | alive n =>
    have := hrun before n hr
    simp only [faultAt?, ite_eq_right_iff, reduceCtorEq, imp_false]
    omega
  | rowEnd | stop => simp [faultAt?, hlt.ne]

theorem Fails.not_fits (h : p.Fails e) : ¬ p.Fits := by
  intro hfits
  rcases h with ⟨before, t, hr, -, ht⟩ | ⟨hstop, -, -⟩
  · rw [hfits.faultAt?_eq_none hr] at ht
    cases ht
  · obtain ⟨-, l, hs, -⟩ := hfits
    exact hstop (hs.1.subset (by simp))

theorem Fails.unique (h : p.Fails e) (h' : p.Fails e') : e = e' := by
  rcases h with ⟨before, t, hr, hf, ht⟩ | ⟨-, hf, rfl⟩
  · rcases h' with ⟨l, u, hr', hf', hu⟩ | ⟨-, hf', -⟩
    · rcases hr.compare hr' with ⟨rfl, rfl⟩ | hp | hp
      · exact Option.some.inj (ht.symm.trans hu)
      · rw [hf' _ _ hp] at ht; cases ht
      · rw [hf _ _ hp] at hu; cases hu
    · rw [hf' _ _ hr.1] at ht; cases ht
  · rcases h' with ⟨l, u, hr', -, hu⟩ | ⟨-, -, rfl⟩
    · rw [hf _ _ hr'.1] at hu; cases hu
    · rfl

end Pattern

end LifeRom
