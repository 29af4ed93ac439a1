import LifeRom.Proofs.Bank.Selection
import LifeRom.Proofs.Verilog.Composite

/-! # Composing a bank

The name of the selector is free under the settings that the bank was made with; another name is
free unless some source can be emitted under it, for the first such source was kept.
-/

namespace LifeRom

namespace Verilog

variable {s : Settings} {modules : List Module} {e : Fault}

/-- The selector cannot have its name. -/
def NameRefused (s : Settings) (modules : List Module) : Prop :=
  isIdentifier s.selectorName = false ∨ s.selectorName ∈ modules.map (·.name)

theorem compose_eq_error_iff :
    compose s modules = .error e ↔
      NameRefused s modules ∧ e = .illegalName s.selectorName ∨
        ¬ NameRefused s modules ∧ modules = [] ∧ e = .noModules := by
  by_cases hname : NameRefused s modules
  · have hcompose : compose s modules = .error (.illegalName s.selectorName) := if_pos hname
    simp [hcompose, hname, eq_comm]
  · rcases eq_or_ne modules [] with rfl | hne
    · have hcompose : compose s [] = .error .noModules := (if_neg hname).trans (if_pos rfl)
      simp [hcompose, hname, eq_comm]
    · obtain ⟨text, htext⟩ : ∃ text, compose s modules = .ok text :=
        ⟨_, (if_neg hname).trans (if_neg hne)⟩
      simp [htext, hname, hne]

theorem compose_eq_illegalName_iff :
    compose s modules = .error (.illegalName s.selectorName) ↔ NameRefused s modules := by
  simp [compose_eq_error_iff]

theorem compose_eq_noModules_iff :
    compose s modules = .error .noModules ↔ ¬ NameRefused s modules ∧ modules = [] := by
  simp [compose_eq_error_iff]

end Verilog

namespace Bank

open Verilog

variable {settings : Settings} {sources : List Source} {name : String} {b : Bank}
  {failure : Failure}

theorem compose_eq_error_iff :
    b.compose settings = .error failure ↔
      ∃ e, Verilog.compose settings b.modules = .error e ∧
        failure = .composition settings.selectorName e := by
  unfold compose composeLogged
  cases Verilog.compose settings b.modules <;> simp [eq_comm]

theorem compose_eq_composition_iff {e : Fault} :
    b.compose settings = .error (.composition settings.selectorName e) ↔
      Verilog.compose settings b.modules = .error e := by
  simp [compose_eq_error_iff]

theorem exists_compose_eq_error_iff :
    (∃ failure, b.compose settings = .error failure) ↔
      NameRefused settings b.modules ∨ b.modules = [] := by
  simp only [compose_eq_error_iff, Verilog.compose_eq_error_iff]
  constructor
  · rintro ⟨_, _, ⟨hname, -⟩ | ⟨-, hempty, -⟩, -⟩
    · exact Or.inl hname
    · exact Or.inr hempty
  · intro h
    by_cases hname : NameRefused settings b.modules
    · exact ⟨_, _, Or.inl ⟨hname, rfl⟩, rfl⟩
    · exact ⟨_, _, Or.inr ⟨hname, h.resolve_left hname, rfl⟩, rfl⟩

theorem exists_compose_eq_ok_iff :
    (∃ text, b.compose settings = .ok text) ↔
      ¬ NameRefused settings b.modules ∧ b.modules ≠ [] := by
  rw [← not_or, ← exists_compose_eq_error_iff]
  cases b.compose settings <;> simp

theorem mem_names_iff_exists_isKept :
    name ∈ (ofSources settings sources).modules.map (·.name) ↔
      ∃ i source, sources[i]? = some source ∧ IsKept settings sources (source, i) ∧
        identifierOf source.name = name := by
  simp only [(modules_ofSources settings sources).2, kept_eq, List.map_map, List.mem_map,
    List.mem_filter, List.mem_zipIdx_iff_getElem?, decide_eq_true_eq, Function.comp_apply,
    and_assoc, Prod.exists]
  exact exists_comm

theorem mem_names_iff :
    name ∈ (ofSources settings sources).modules.map (·.name) ↔
      name ≠ settings.selectorName ∧
        ∃ source ∈ sources, source.Emits settings ∧ identifierOf source.name = name := by
  constructor
  · intro hname
    have hne : name ≠ settings.selectorName := by
      rintro rfl
      rw [(modules_ofSources settings sources).2] at hname
      exact selectorName_not_mem_kept settings sources hname
    have htaken : Taken settings sources name :=
      taken_iff_exists_isKept.mpr (Or.inr (mem_names_iff_exists_isKept.mp hname))
    exact ⟨hne, htaken.resolve_left hne⟩
  · rintro ⟨hne, hemits⟩
    have htaken : Taken settings sources name := Or.inr hemits
    -- of the sources that can be emitted under the name, the first is kept
    exact mem_names_iff_exists_isKept.mpr ((taken_iff_exists_isKept.mp htaken).resolve_left hne)

/-- A bank is refused only for the name of the selector, or else for being empty. The name can be
that of a module only under other settings than the bank was made with. -/
theorem compose_fails_only (settings settings' : Settings) (sources : List Source) :
    let bank := ofSources settings sources
    let selector := settings'.selectorName
    let clash := selector ∈ bank.modules.map (·.name)
    (bank.compose settings' = .error (.composition selector (.illegalName selector)) ↔
      isIdentifier selector = false ∨ clash) ∧
    (bank.compose settings' = .error (.composition selector .noModules) ↔
      ¬ (isIdentifier selector = false ∨ clash) ∧ bank.modules = []) ∧
    ((∃ text, bank.compose settings' = .ok text) ↔
      ¬ (isIdentifier selector = false ∨ clash) ∧ bank.modules ≠ []) ∧
    (selector = settings.selectorName →
      ¬ clash ∧ ((∃ failure, bank.compose settings' = .error failure) ↔
        isIdentifier selector = false ∨ bank.modules = [])) ∧
    (selector ≠ settings.selectorName →
      (clash ↔
        ∃ source ∈ sources, source.Emits settings ∧ identifierOf source.name = selector)) := by
  intro bank selector clash
  refine ⟨compose_eq_composition_iff.trans compose_eq_illegalName_iff,
    compose_eq_composition_iff.trans compose_eq_noModules_iff, exists_compose_eq_ok_iff,
    fun hsame => ?_, fun hother => mem_names_iff.trans (and_iff_right hother)⟩
  have hfree : ¬ clash := fun hclash => (mem_names_iff.mp hclash).1 hsame
  refine ⟨hfree, exists_compose_eq_error_iff.trans ?_⟩
  rw [NameRefused, or_iff_left hfree]

/-- A name that was free when the bank was made, and is refused before the bank is found empty. -/
example :
    (ofSources {} [⟨"a-b", .plaintext, "O"⟩]).compose { selectorName := "a_b" } =
        .error (.composition "a_b" (.illegalName "a_b")) ∧
      (ofSources {} []).compose { selectorName := "a-b" } =
        .error (.composition "a-b" (.illegalName "a-b")) := by
  decide +kernel

end Bank

end LifeRom
