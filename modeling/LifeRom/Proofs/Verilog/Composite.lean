import LifeRom.Proofs.Verilog.Emission

/-! # Composites read back

The position of a look-up is the index under which its output is passed on.
-/

namespace LifeRom.Verilog

open Text

theorem eq_of_prefix_blank {word name rest : List Char} (hword : ' ' ∉ word) (hname : ' ' ∉ name)
    (h : word ++ [' '] <+: name ++ ' ' :: rest) : word = name := by
  obtain ⟨cs, hcs⟩ := h
  rw [← takeWhile_append_mark hword cs, ← takeWhile_append_mark hname rest, ← hcs,
    List.append_assoc]
  rfl

namespace Selector

/-- What stands on the lines of a selector, one text for each. -/
def contents (names : List String) : List String :=
  ["input wire[5:0] x_in,", "input wire[5:0] y_in,", "output logic alive_out);",
    "logic alive[" ++ toString (names.length - 1) ++ ":0];", ""] ++
  names.zipIdx.map (fun (name, k) => name ++ " " ++ name ++ "_" ++ toString k ++
    "(.x_in(x_in), .y_in(y_in), .alive_out(alive[" ++ toString k ++ "]));") ++
  ["", "assign alive_out = alive[index_in];"]

def entries (s : Settings) (names : List String) : List Entry :=
  [⟨hang s.selectorName, input coordBits Signal.x ++ ","⟩,
    ⟨hang s.selectorName, input coordBits Signal.y ++ ","⟩,
    ⟨hang s.selectorName, "output logic " ++ Signal.alive ++ ");"⟩,
    ⟨s.indent * 1, "logic " ++ aliveArray ++ "[" ++ toString (names.length - 1) ++ ":0];"⟩,
    ⟨0, ""⟩] ++
  names.zipIdx.map (fun (name, index) => ⟨s.indent * 1, placement index name⟩) ++
  [⟨0, ""⟩,
    ⟨s.indent * 1, "assign " ++ Signal.alive ++ " = " ++ aliveArray ++ "[" ++ Signal.index ++ "];"⟩]

variable (s : Settings) (names : List String)

theorem guarded_lines :
    s.guarded (lines s names) = frame s s.selectorName
      (input (indexWidth names.length) Signal.index) (entries s names) := by
  have hempty : spaces 0 ++ "" = "" := by decide
  simp [frame, lines, declaration, entries, Entry.text, opening, hang, Settings.indentation,
    String.append_assoc, Function.comp_def, hempty]

theorem placement_eq (index : Nat) (name : String) :
    placement index name = name ++ " " ++ name ++ "_" ++ toString index ++
      "(.x_in(x_in), .y_in(y_in), .alive_out(alive[" ++ toString index ++ "]));" := by
  rw [← String.toList_inj]
  simp [placement, Signal.x, Signal.y, Signal.alive, aliveArray]

theorem content_entries : (entries s names).map (·.content) = contents names := by
  have hfirst : input coordBits Signal.x ++ "," = "input wire[5:0] x_in," ∧
      input coordBits Signal.y ++ "," = "input wire[5:0] y_in," ∧
      "output logic " ++ Signal.alive ++ ");" = "output logic alive_out);" := by
    decide
  have hlast : "assign " ++ Signal.alive ++ " = " ++ aliveArray ++ "[" ++ Signal.index ++ "];" =
      "assign alive_out = alive[index_in];" := by
    decide
  have hlogic : "logic " ++ aliveArray ++ "[" = "logic alive[" := by
    decide
  simp only [entries, contents, hfirst, hlast, hlogic, placement_eq, List.map_append, List.map_cons,
    List.map_nil, List.map_map, Function.comp_def]

variable {s : Settings} {names : List String}

theorem isContent_placement {name : String} (h : isIdentifier name = true) (index : Nat) :
    IsContent (placement index name) := by
  obtain ⟨c, hhead, hstart⟩ := head?_of_isIdentifier h
  obtain ⟨rest, hsplit⟩ : ∃ rest, (placement index name).toList = name.toList ++ ' ' :: rest := by
    simp [placement_eq]
  have hblank : ' ' ∉ name.toList := not_mem_of_isIdentifier h (by decide)
  constructor
  · rw [hsplit, List.head?_append, hhead]
    rintro ⟨⟩
    cases hstart
  · have hplain : Plain " ".toList ∧ Plain "_".toList ∧
        Plain "(.x_in(x_in), .y_in(y_in), .alive_out(alive[".toList ∧ Plain "]));".toList := by
      decide
    simp only [placement_eq, String.toList_append, plain_append, plain_of_isIdentifier h,
      plain_repr, hplain, and_self]
  · constructor
    · rw [Begins, hsplit]
      intro hbegins
      have hname : "module".toList = name.toList :=
        eq_of_prefix_blank (by decide) hblank hbegins
      exact ne_module_of_isIdentifier h (String.toList_inj.mp hname.symm)
    · rw [Section.IsEnd, hsplit]
      intro hend
      have : ' ' ∈ "endmodule".toList := by rw [← hend]; simp
      revert this
      decide

theorem isContent_contents (h : ∀ name ∈ names, isIdentifier name = true) :
    ∀ content ∈ contents names, IsContent content := by
  obtain ⟨hx, hy, halive, hempty, hassign⟩ : IsContent "input wire[5:0] x_in," ∧
      IsContent "input wire[5:0] y_in," ∧ IsContent "output logic alive_out);" ∧ IsContent "" ∧
      IsContent "assign alive_out = alive[index_in];" := by
    decide
  have hlogic : IsContent ("logic alive[" ++ toString (names.length - 1) ++ ":0];") := by
    have hplain : Plain "logic alive[".toList ∧ Plain ":0];".toList := by decide
    apply IsContent.of_head? (c := 'l')
    · simp
    · decide
    · simp only [String.toList_append, plain_append, plain_repr, hplain, and_self]
  have hplacement : ∀ p ∈ names.zipIdx, IsContent (placement p.2 p.1) := fun p hp =>
    isContent_placement (h p.1 (List.fst_mem_of_mem_zipIdx hp)) p.2
  simp only [placement_eq] at hplacement
  simp only [contents, List.forall_mem_append, List.forall_mem_map, List.forall_mem_cons]
  exact ⟨⟨⟨hx, hy, halive, hlogic, hempty, by simp⟩, hplacement⟩, hempty, hassign, by simp⟩

theorem isContent_entries (h : ∀ name ∈ names, isIdentifier name = true) :
    ∀ e ∈ entries s names, IsContent e.content := by
  rw [← List.forall_mem_map, content_entries]
  exact isContent_contents h

def toSection (s : Settings) (names : List String) : Section :=
  .ofEntries s.selectorName (entries s names)

theorem unindent_toSection (h : ∀ name ∈ names, isIdentifier name = true) :
    (toSection s names).body.map unindent = (contents names).map String.toList := by
  rw [toSection, unindent_ofEntries (isContent_entries h), content_entries]

end Selector

variable {s : Settings} {ls : List Lookup} {text : String}

theorem compose_eq_ok_iff {modules : List Module} :
    compose s modules = .ok text ↔
      isIdentifier s.selectorName = true ∧ s.selectorName ∉ modules.map (·.name) ∧ modules ≠ [] ∧
        text = unlines (modules.map (·.text)) ++
          unlines (s.guarded (Selector.lines s (modules.map (·.name)))) := by
  simp only [compose]
  split_ifs with hname hempty
  · simp only [false_iff]
    rintro ⟨hid, hfree, -⟩
    exact hname.elim (by simp [hid]) hfree
  · simp [hempty]
  · rw [not_or, Bool.not_eq_false] at hname
    simp [hname, hempty, eq_comm]

theorem isIdentifier_names (ls : List Lookup) :
    ∀ name ∈ ls.map (·.name), isIdentifier name = true :=
  List.forall_mem_map.mpr fun l _ => l.isIdentifier_name

def composedLines (s : Settings) (ls : List Lookup) : List String :=
  ls.flatMap (fun l => frame s l.name (input coordBits Signal.x) (l.entries s) ++ [""]) ++
    frame s s.selectorName (input (Selector.indexWidth ls.length) Signal.index)
      (Selector.entries s (ls.map (·.name)))

theorem eq_unlines_of_compose (h : compose s (ls.map (·.emit s)) = .ok text) :
    text = unlines (composedLines s ls) := by
  obtain ⟨-, -, -, rfl⟩ := compose_eq_ok_iff.mp h
  have hnames : (ls.map (·.emit s)).map (·.name) = ls.map (·.name) := by
    simp [Lookup.emit, Function.comp_def]
  rw [hnames, Selector.guarded_lines, List.length_map, composedLines, unlines_append,
    ← unlines_map_unlines, List.map_map]
  simp only [Lookup.emit, Lookup.guarded_lines, Function.comp_def]

theorem isLine_composedLines (h : isIdentifier s.selectorName = true) :
    ∀ l ∈ composedLines s ls, IsLine l.toList := by
  simp only [composedLines, List.forall_mem_append, List.forall_mem_flatMap]
  refine ⟨fun l _ => ⟨?_, ?_⟩, ?_⟩
  · exact l.isLine_frame s
  · decide
  · exact isLine_frame h (plain_input _ (by decide))
      (Selector.isContent_entries (isIdentifier_names ls))

theorem blocks_composedLines (h : isIdentifier s.selectorName = true) :
    Section.Blocks (ls.map (·.toSection s) ++ [Selector.toSection s (ls.map (·.name))])
      ((composedLines s ls).map String.toList) := by
  rw [composedLines, List.map_append, List.map_flatMap]
  apply Section.Blocks.append
  · apply Section.Blocks.flatMap
    intro l _
    rw [List.map_append]
    exact (block_frame l.isIdentifier_name _ (l.isContent_entries s)).append (by decide)
  · exact (block_frame h _ (Selector.isContent_entries (isIdentifier_names ls))).blocks

/-- A composite is read back as its look-ups and the selector. -/
theorem blocks_of_compose (h : compose s (ls.map (·.emit s)) = .ok text) :
    Section.Blocks (ls.map (·.toSection s) ++ [Selector.toSection s (ls.map (·.name))])
      (lines text.toList) := by
  obtain ⟨hselector, -⟩ := compose_eq_ok_iff.mp h
  rw [eq_unlines_of_compose h, lines_unlines (isLine_composedLines hselector)]
  exact blocks_composedLines hselector

end LifeRom.Verilog
