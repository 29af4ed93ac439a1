import LifeRom.Proofs.Bank.Selection
import LifeRom.Proofs.Verilog.Instances

/-! # Names in a bank -/

namespace LifeRom.Bank

open Verilog

variable {settings : Settings} {sources : List Source} {text : String}

theorem nodup_names (settings : Settings) (sources : List Source) :
    ((ofSources settings sources).modules.map (·.name) ++ [settings.selectorName]).Nodup := by
  rw [(modules_ofSources settings sources).2, List.nodup_append]
  refine ⟨nodup_names_kept settings sources, by simp, fun name hname selector hselector => ?_⟩
  rw [List.mem_singleton.mp hselector]
  rintro rfl
  exact selectorName_not_mem_kept settings sources hname

/-- The names of the modules and of the selector are different identifiers, and so are those of the
instances, none of which is reserved or the name of a signal. -/
theorem names_never_clash (h : (ofSources settings sources).compose settings = .ok text) :
    let names := (ofSources settings sources).modules.map (·.name)
    let instances := names.zipIdx.map fun (name, k) => name ++ "_" ++ toString k
    (names ++ [settings.selectorName]).Nodup ∧
    (∀ name ∈ names ++ [settings.selectorName], isIdentifier name = true) ∧
    (∃ answers selector, Section.ofLines (Text.lines text.toList) = answers ++ [selector] ∧
      answers.map (·.name) = names.map String.toList ∧
      selector.name = settings.selectorName.toList ∧
      selector.instances = names.zipIdx.map fun (name, k) =>
        (name.toList, (name ++ "_" ++ toString k).toList)) ∧
    instances.Nodup ∧
    ∀ name ∈ instances, isIdentifier name = true ∧ name ∉ keywords ∧
      name ∉ ["index_in", "x_in", "y_in", "alive_out", "alive"] := by
  intro names instances
  obtain ⟨ls, -, hmodules⟩ := exists_lookups settings [settings.selectorName] sources
  rw [← ofSources_eq] at hmodules
  rw [compose_eq_ok_iff, hmodules] at h
  obtain ⟨hselector, -⟩ := Verilog.compose_eq_ok_iff.mp h
  have hnames : names = ls.map (·.name) := by
    simp [names, hmodules, Lookup.emit, Function.comp_def]
  have hidentifiers : ∀ name ∈ names, isIdentifier name = true := by
    rw [hnames]
    exact isIdentifier_names ls
  refine ⟨nodup_names settings sources, ?_, ?_, nodup_instanceNames names, fun name hname => ?_⟩
  · rw [List.forall_mem_append]
    exact ⟨hidentifiers, by simpa using hselector⟩
  · refine ⟨_, _, (blocks_of_compose h).ofLines_eq, ?_, rfl, ?_⟩
    · rw [hnames, List.map_map, List.map_map]
      rfl
    · rw [← hnames]
      exact Selector.instances_toSection settings hidentifiers
  · obtain ⟨p, hp, rfl⟩ := List.mem_map.mp hname
    exact ⟨isIdentifier_instanceName (hidentifiers p.1 (List.fst_mem_of_mem_zipIdx hp)) p.2,
      instanceName_not_mem_keywords p.1 p.2, instanceName_not_mem_signals p.1 p.2⟩

/-- Names that lengthen each other, one of them also as the name of an instance, beside a source whose
name becomes one that is taken. -/
theorem names_never_clash_underscores :
    let settings : Settings := { selectorName := "alive", guardNets := false }
    let sources : List Source :=
      [⟨"a_1_1", .rle, "x = 1, y = 1\no!"⟩, ⟨"a", .plaintext, "OO"⟩, ⟨"a 1/1", .plaintext, ""⟩,
        ⟨"a-1", .rle, "x = 0, y = 0\n!"⟩]
    ∃ text, (ofSources settings sources).compose settings = .ok text ∧
      (ofSources settings sources).modules.map (·.name) = ["a_1_1", "a", "a_1"] ∧
      ["a_1_1_0", "a_1", "a_1_2"].Nodup ∧ isIdentifier "a_1_1_0" = true ∧ "a_1" ∉ keywords := by
  intro settings sources
  obtain ⟨text, h⟩ : ∃ text, (ofSources settings sources).compose settings = .ok text := by
    simp only [compose_eq_ok_iff, Verilog.compose_eq_ok_iff]
    exact ⟨_, by decide +kernel, by decide +kernel, by decide +kernel, rfl⟩
  have hnames : (ofSources settings sources).modules.map (·.name) = ["a_1_1", "a", "a_1"] := by
    decide +kernel
  obtain ⟨-, -, -, hnodup, hlegal⟩ := names_never_clash h
  rw [hnames] at hnodup hlegal
  exact ⟨text, h, hnames, hnodup, (hlegal "a_1_1_0" (by decide)).1,
    (hlegal "a_1" (by decide)).2.1⟩

end LifeRom.Bank
