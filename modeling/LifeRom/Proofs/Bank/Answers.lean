import LifeRom.Proofs.Bank.Kept
import LifeRom.Proofs.Verilog.Composite

/-! # Answers of a bank

Under each index of a composite stands the module of the source that was kept at this position.
-/

namespace LifeRom.Bank

open Verilog

/-- The names under which sources are kept. -/
def keptNames (settings : Settings) (sources : List Source) : List String :=
  (kept settings sources).map fun source => identifierOf source.name

/-- The module has the name of the source, one arm for each alive cell of the grid that the source
draws, in their order, and below them the default arm. -/
def AnswersFor (source : Source) (answers : Section) : Prop :=
  answers.name = (identifierOf source.name).toList ∧
    ∃ pattern grid, source.format.read source.text = .ok pattern ∧ pattern.layOut = .ok grid ∧
      answers.arms = grid.aliveCells.map (Arm.cell · true) ++ [.default false]

variable {settings : Settings} {sources : List Source} {text : String}

theorem answersFor_toSection {source : Source} {l : Lookup} (h : source.lookup = .ok l) :
    AnswersFor source (l.toSection settings) := by
  obtain ⟨hgrid, hname⟩ := Source.lookup_eq_ok_iff.mp h
  obtain ⟨pattern, hread, hlayOut⟩ := Source.grid_eq_ok_iff.mp hgrid
  exact ⟨congrArg String.toList hname, pattern, l.grid, hread, hlayOut, l.arms_toSection settings⟩

/-- A composite holds the modules of the kept sources and a selector with an instance of each, in
one order; each module answers for its source. -/
theorem composite_answers (h : (ofSources settings sources).compose settings = .ok text) :
    (ofSources settings sources).modules.map (·.name) = keptNames settings sources ∧
    Section.marks (Text.lines text.toList) =
      (keptNames settings sources ++ [settings.selectorName]).flatMap (fun name =>
        [some name.toList, none]) ∧
    ∃ answers selector,
      Section.ofLines (Text.lines text.toList) = answers ++ [selector] ∧
      List.Forall₂ AnswersFor (kept settings sources) answers ∧
      selector.name = settings.selectorName.toList ∧
      selector.body.map unindent =
        (Selector.contents (keptNames settings sources)).map String.toList := by
  obtain ⟨ls, hls, hmodules⟩ := exists_lookups settings [settings.selectorName] sources
  rw [← ofSources_eq] at hmodules
  have hnames : ls.map (·.name) = keptNames settings sources := names_lookups hls
  rw [compose_eq_ok_iff, hmodules] at h
  have hblocks := blocks_of_compose h
  rw [hnames] at hblocks
  refine ⟨?_, ?_, ls.map (·.toSection settings), Selector.toSection settings _, hblocks.ofLines_eq,
    ?_, rfl, ?_⟩
  · rw [hmodules, ← hnames, List.map_map]
    rfl
  · rw [hblocks.marks_eq, ← hnames]
    simp [List.flatMap_map, Lookup.toSection, Selector.toSection, Section.ofEntries]
  · rw [List.forall₂_map_right_iff]
    exact hls.imp fun source l => answersFor_toSection
  · apply Selector.unindent_toSection
    rw [← hnames]
    exact isIdentifier_names ls

/-- A bank that keeps two sources of four: one draws nothing that can be read, and one comes under a
name that is not free. -/
theorem composite_answers_pair :
    let settings : Settings := { selectorName := "pick", indent := 0 }
    let sources : List Source :=
      [⟨"bad", .rle, "z!"⟩, ⟨"dot", .rle, "x = 1, y = 1\no!"⟩, ⟨"dot", .rle, "x = 0, y = 0\n!"⟩,
        ⟨"a-b", .plaintext, "OO"⟩]
    ∃ text, (ofSources settings sources).compose settings = .ok text ∧
      Section.marks (Text.lines text.toList) =
        [some "dot".toList, none, some "a_b".toList, none, some "pick".toList, none] := by
  intro settings sources
  obtain ⟨text, h⟩ : ∃ text, (ofSources settings sources).compose settings = .ok text := by
    simp only [compose_eq_ok_iff, Verilog.compose_eq_ok_iff]
    exact ⟨_, by decide +kernel, by decide +kernel, by decide +kernel, rfl⟩
  obtain ⟨-, hmarks, -⟩ := composite_answers h
  have hnames : keptNames settings sources = ["dot", "a_b"] := by
    decide +kernel
  rw [hnames] at hmarks
  exact ⟨text, h, hmarks⟩

end LifeRom.Bank
