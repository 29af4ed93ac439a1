import LifeRom.Proofs.Verilog.Entries
import LifeRom.Verilog.Lookup
import LifeRom.Verilog.Reading

/-! # Emitted look-ups

The lines of a look-up read as one module under its name, with one arm for each alive cell of its
grid and below them the default arm.
-/

namespace LifeRom.Verilog

open Text

namespace Arm

theorem ofLine?_unindent (l : List Char) : ofLine? (unindent l) = ofLine? l := by
  unfold ofLine?
  rw [show (unindent l).dropWhile (· == ' ') = l.dropWhile (· == ' ') from unindent_unindent l]

end Arm

theorem Section.arms_eq (s : Section) : s.arms = (s.body.map unindent).filterMap Arm.ofLine? := by
  rw [List.filterMap_map, Section.arms]
  exact List.filterMap_congr fun l _ => (Arm.ofLine?_unindent l).symm

namespace Lookup

def entries (s : Settings) (l : Lookup) : List Entry :=
  [⟨hang l.name, input coordBits Signal.y ++ ","⟩,
    ⟨hang l.name, "output logic " ++ Signal.alive ++ ");"⟩,
    ⟨s.indent * 1, "always_comb begin"⟩,
    ⟨s.indent * 2, "case (\x7b" ++ Signal.x ++ ", " ++ Signal.y ++ "\x7d)"⟩] ++
  l.grid.aliveCells.map (fun c => ⟨s.indent * 3, arm c⟩) ++
  [⟨s.indent * 3, defaultArm⟩,
    ⟨s.indent * 2, "endcase"⟩,
    ⟨s.indent * 1, "end"⟩]

/-- What stands on the lines of a look-up below its name and its first input, one text for each. -/
def contents (l : Lookup) : List String :=
  ["input wire[5:0] y_in,", "output logic alive_out);", "always_comb begin",
    "case (\x7bx_in, y_in\x7d)"] ++
  l.grid.aliveCells.map (fun c => "\x7b6'd" ++ toString c.x ++ ", 6'd" ++ toString c.y ++
    "\x7d: alive_out = 1;") ++
  ["default: alive_out = 0;", "endcase", "end"]

theorem lines_eq (s : Settings) (l : Lookup) :
    l.lines s = opening l.name (input coordBits Signal.x) ::
      ((l.entries s).map Entry.text ++ ["endmodule"]) := by
  simp [lines, declaration, entries, Entry.text, opening, hang, Settings.indentation,
    String.append_assoc, Function.comp_def]

theorem guarded_lines (s : Settings) (l : Lookup) :
    s.guarded (l.lines s) = frame s l.name (input coordBits Signal.x) (l.entries s) := by
  rw [lines_eq, frame]

theorem arm_eq (c : Cell) :
    arm c = "\x7b6'd" ++ toString c.x ++ ", 6'd" ++ toString c.y ++ "\x7d: alive_out = 1;" := by
  have h : toString coordBits = "6" := by decide
  rw [← String.toList_inj]
  simp [arm, literal, Signal.alive, h]

theorem content_entries (s : Settings) (l : Lookup) :
    (l.entries s).map (·.content) = l.contents := by
  have hfirst : input coordBits Signal.y ++ "," = "input wire[5:0] y_in," ∧
      "output logic " ++ Signal.alive ++ ");" = "output logic alive_out);" ∧
      "case (\x7b" ++ Signal.x ++ ", " ++ Signal.y ++ "\x7d)" = "case (\x7bx_in, y_in\x7d)" := by
    decide
  have hlast : defaultArm = "default: alive_out = 0;" := by
    decide
  simp only [entries, contents, hfirst, hlast, arm_eq, List.map_append, List.map_cons,
    List.map_nil, List.map_map, Function.comp_def]

theorem toList_arm (c : Cell) :
    (arm c).toList = "\x7b6'd".toList ++ ((toString c.x).toList ++ (", 6'd".toList ++
      ((toString c.y).toList ++ "\x7d: alive_out = 1;".toList))) := by
  simp [arm_eq]

theorem isContent_arm (c : Cell) : IsContent (arm c) := by
  have h : Plain "\x7b6'd".toList ∧ Plain ", 6'd".toList ∧ Plain "\x7d: alive_out = 1;".toList := by
    decide
  apply IsContent.of_head? (c := '{')
  · rw [toList_arm]
    rfl
  · decide
  · simp only [toList_arm, plain_append, plain_repr, h, and_self]

theorem isContent_contents (l : Lookup) : ∀ content ∈ l.contents, IsContent content := by
  have hfirst : ∀ content ∈ ["input wire[5:0] y_in,", "output logic alive_out);",
      "always_comb begin", "case (\x7bx_in, y_in\x7d)"], IsContent content := by
    decide
  have hlast : ∀ content ∈ ["default: alive_out = 0;", "endcase", "end"], IsContent content := by
    decide
  have harms := isContent_arm
  simp only [arm_eq] at harms
  simp only [contents, List.forall_mem_append, List.forall_mem_map]
  exact ⟨⟨hfirst, fun c _ => harms c⟩, hlast⟩

theorem isContent_entries (s : Settings) (l : Lookup) : ∀ e ∈ l.entries s, IsContent e.content := by
  rw [← List.forall_mem_map, content_entries]
  exact l.isContent_contents

theorem isLine_frame (s : Settings) (l : Lookup) :
    ∀ line ∈ frame s l.name (input coordBits Signal.x) (l.entries s), IsLine line.toList :=
  Verilog.isLine_frame l.isIdentifier_name (plain_input _ (by decide)) (l.isContent_entries s)

/-- How a look-up reads. -/
def toSection (s : Settings) (l : Lookup) : Section :=
  .ofEntries l.name (l.entries s)

theorem unindent_toSection (s : Settings) (l : Lookup) :
    (l.toSection s).body.map unindent = l.contents.map String.toList := by
  rw [toSection, unindent_ofEntries (l.isContent_entries s), content_entries]

theorem unindent_lines (s : Settings) (l : Lookup) :
    (l.lines s).map (fun line => unindent line.toList) =
      (("module " ++ l.name ++ "(input wire[5:0] x_in,") :: (l.contents ++ ["endmodule"])).map
        String.toList := by
  have hopening : unindent (opening l.name (input coordBits Signal.x)).toList =
      ("module " ++ l.name ++ "(input wire[5:0] x_in,").toList := by
    have h : input coordBits Signal.x = "input wire[5:0] x_in" := by decide
    simp [opening, h, unindent]
  have hentries : (l.entries s).map (fun e => unindent e.text.toList) =
      l.contents.map String.toList := by
    rw [← l.unindent_toSection s, toSection, Section.ofEntries, List.map_map]
    rfl
  have hend : unindent "endmodule".toList = "endmodule".toList := by decide
  simp only [lines_eq, List.map_cons, List.map_append, List.map_map, List.map_nil, Function.comp_def,
    hopening, hentries, hend]

/-- The text of an emitted look-up, line by line and whatever the indentation. -/
theorem unindent_emit (s : Settings) (l : Lookup) :
    (Text.lines (l.emit s).text.toList).map unindent =
      (s.guarded (("module " ++ l.name ++ "(input wire[5:0] x_in,") ::
        (l.contents ++ ["endmodule"]))).map String.toList := by
  rw [emit, guarded_lines, lines_unlines (l.isLine_frame s), ← guarded_lines, List.map_map]
  exact map_unindent_guarded (l.unindent_lines s)

theorem cell?_arm (c : Cell) : Arm.cell? (arm c).toList = some (c, ['1', ';']) := by
  have hx (cs : List Char) : Numeral.take? ((toString c.x).toList ++ (", 6'd".toList ++ cs)) =
      some (c.x, ", 6'd".toList ++ cs) := Numeral.take?_repr c.x (c := ',') rfl _
  have hy : Numeral.take? ((toString c.y).toList ++ "\x7d: alive_out = 1;".toList) =
      some (c.y, "\x7d: alive_out = 1;".toList) := Numeral.take?_repr c.y (c := '\x7d') rfl _
  have hend : after? "\x7d: alive_out = ".toList "\x7d: alive_out = 1;".toList =
      some ['1', ';'] := by
    decide
  rw [Arm.cell?, toList_arm, after?_append]
  simp only [bind, Option.bind, hx, after?_append, hy, hend, pure]

theorem ofLine?_arm (c : Cell) : Arm.ofLine? (arm c).toList = some (.cell c true) := by
  have hhead : (arm c).toList.head? = some '\x7b' := by
    rw [toList_arm]
    rfl
  have hline : (arm c).toList.dropWhile (· == ' ') = (arm c).toList :=
    unindent_eq_self (by rw [hhead]; decide)
  have hdefault : after? "default: alive_out = ".toList (arm c).toList = none := by
    apply after?_eq_none
    obtain ⟨cs, hcs⟩ := List.head?_eq_some_iff.mp hhead
    simp [hcs]
  rw [Arm.ofLine?, hline, hdefault, cell?_arm]
  rfl

theorem arms_toSection (s : Settings) (l : Lookup) :
    (l.toSection s).arms = l.grid.aliveCells.map (Arm.cell · true) ++ [.default false] := by
  have hfirst : (["input wire[5:0] y_in,", "output logic alive_out);", "always_comb begin",
      "case (\x7bx_in, y_in\x7d)"].map String.toList).filterMap Arm.ofLine? = [] := by
    decide
  have hlast : (["default: alive_out = 0;", "endcase", "end"].map String.toList).filterMap
      Arm.ofLine? = [.default false] := by
    decide
  have hcells : ((l.grid.aliveCells.map arm).map String.toList).filterMap Arm.ofLine? =
      l.grid.aliveCells.map (Arm.cell · true) := by
    have h : Arm.ofLine? ∘ String.toList ∘ arm = some ∘ (Arm.cell · true) := by
      ext1 c
      rw [Function.comp_apply, Function.comp_apply, ofLine?_arm, Function.comp_apply]
    rw [List.map_map, List.filterMap_map, h, List.filterMap_eq_map]
  simp only [Section.arms_eq, unindent_toSection, contents, ← arm_eq, List.map_append,
    List.filterMap_append, hfirst, hlast, List.nil_append]
  rw [hcells]

end Lookup

end LifeRom.Verilog
