import LifeRom.Proofs.Verilog.Composite
import LifeRom.Proofs.Verilog.Naming

/-! # Instances in a selector

The digits behind the last underscore of the name of an instance give its position back, so no two
instances share a name, whatever the modules are called; and no keyword and no signal ends so.
-/

namespace LifeRom.Verilog

open Text

def signals : List String := [Signal.index, Signal.x, Signal.y, Signal.alive, aliveArray]

/-- The name of the instance of a module at a position. -/
def instanceName (name : String) (index : Nat) : String := name ++ "_" ++ toString index

namespace Section

/-- The module and the name of the instance on a line, if it connects ports. -/
def instance? (line : List Char) : Option (List Char × List Char) :=
  let placed := unindent line
  let rest := (placed.dropWhile (· != ' ')).drop 1
  if '(' ∈ rest then some (placed.takeWhile (· != ' '), rest.takeWhile (· != '(')) else none

def instances (s : Section) : List (List Char × List Char) :=
  s.body.filterMap instance?

end Section

variable {name name' : String} {index index' : Nat}

theorem toList_instanceName (name : String) (index : Nat) :
    (instanceName name index).toList = name.toList ++ ['_'] ++ (toString index).toList := by
  simp [instanceName]

/-- Without its digits, the name of an instance is that of its module and the underscore. -/
theorem rdropWhile_instanceName (name : String) (index : Nat) :
    (instanceName name index).toList.rdropWhile Char.isDigit = name.toList ++ ['_'] := by
  have hdigits : ∀ c ∈ (toString index).toList.reverse, c.isDigit = true := fun c hc =>
    (Numeral.isNumeral_repr index).2 c (List.mem_reverse.mp hc)
  rw [toList_instanceName, List.rdropWhile, List.reverse_append,
    List.dropWhile_append_of_pos hdigits]
  exact List.rdropWhile_concat_neg Char.isDigit _ '_' (by decide)

theorem instanceName_inj :
    instanceName name index = instanceName name' index' ↔ name = name' ∧ index = index' := by
  constructor
  · intro h
    have hname : name.toList ++ ['_'] = name'.toList ++ ['_'] := by
      rw [← rdropWhile_instanceName name index, h, rdropWhile_instanceName]
    have htext := congrArg String.toList h
    rw [toList_instanceName, toList_instanceName, hname, List.append_cancel_left_eq] at htext
    refine ⟨String.toList_inj.mp (List.append_cancel_right hname), ?_⟩
    rw [← Numeral.value_repr index, ← Numeral.value_repr index']
    exact congrArg Numeral.value htext
  · rintro ⟨rfl, rfl⟩
    rfl

theorem instanceName_not_mem_keywords (name : String) (index : Nat) :
    instanceName name index ∉ keywords := by
  apply not_mem_keywords_of_getLast?
  rw [rdropWhile_instanceName, List.getLast?_concat]

theorem isIdentifierPart_of_isDigit {c : Char} (h : c.isDigit = true) :
    isIdentifierPart c = true := by
  simp [isIdentifierPart, Char.isAlphanum, h]

theorem isIdentifier_instanceName (h : isIdentifier name = true) (index : Nat) :
    isIdentifier (instanceName name index) = true := by
  have hdigits : (toString index).toList.all isIdentifierPart = true :=
    List.all_eq_true.mpr fun c hc =>
      isIdentifierPart_of_isDigit ((Numeral.isNumeral_repr index).2 c hc)
  have hword : IsWord (instanceName name index) :=
    (IsWord.append (isIdentifier_iff.mp h).1 (by decide)).append hdigits
  exact isIdentifier_of_isWord hword
    (isKeyword_eq_false_of_not_mem (instanceName_not_mem_keywords name index))

theorem instanceName_not_mem_signals (name : String) (index : Nat) :
    instanceName name index ∉ signals := by
  have hsignals : ∀ signal ∈ signals,
      (signal.toList.rdropWhile Char.isDigit).getLast? ≠ some '_' := by
    decide
  intro hmem
  apply hsignals _ hmem
  rw [rdropWhile_instanceName, List.getLast?_concat]

theorem nodup_instanceNames (names : List String) :
    (names.zipIdx.map fun p => instanceName p.1 p.2).Nodup := by
  have hpositions : names.zipIdx.Pairwise fun p q => p.2 ≠ q.2 := by
    rw [← List.pairwise_map, List.zipIdx_map_snd]
    exact List.nodup_range'
  rw [List.Nodup, List.pairwise_map]
  exact hpositions.imp fun hne heq => hne (instanceName_inj.mp heq).2

namespace Section

theorem instance?_unindent (line : List Char) : instance? (unindent line) = instance? line := by
  rw [instance?, unindent_unindent]
  rfl

theorem instances_eq (s : Section) :
    s.instances = (s.body.map unindent).filterMap instance? := by
  rw [List.filterMap_map, instances]
  exact List.filterMap_congr fun line _ => (instance?_unindent line).symm

theorem instance?_eq_none {line : List Char} (h : '(' ∉ line) : instance? line = none := by
  have hsuffix : ((unindent line).dropWhile (· != ' ')).drop 1 <:+ line :=
    (List.drop_suffix _ _).trans ((List.dropWhile_suffix _).trans (List.dropWhile_suffix _))
  rw [instance?, if_neg fun hmem => h (hsuffix.subset hmem)]

theorem instance?_placement (h : isIdentifier name = true) (index : Nat) :
    instance? (Selector.placement index name).toList =
      some (name.toList, (instanceName name index).toList) := by
  obtain ⟨ports, hsplit⟩ : ∃ ports, (Selector.placement index name).toList =
      name.toList ++ ' ' :: ((instanceName name index).toList ++ '(' :: ports) := by
    simp [Selector.placement_eq, instanceName]
  have hplaced : unindent (Selector.placement index name).toList =
      (Selector.placement index name).toList :=
    unindent_eq_self (Selector.isContent_placement h index).head?
  have hblank : ' ' ∉ name.toList := not_mem_of_isIdentifier h (by decide)
  have hbracket : '(' ∉ (instanceName name index).toList :=
    not_mem_of_isIdentifier (isIdentifier_instanceName h index) (by decide)
  rw [instance?, hplaced, hsplit, dropWhile_append_mark hblank, takeWhile_append_mark hblank,
    List.drop_one, List.tail_cons, takeWhile_append_mark hbracket, if_pos (by simp)]

end Section

namespace Selector

variable {names : List String}

theorem instance?_outputs (count : Nat) :
    Section.instance? ("logic alive[" ++ toString count ++ ":0];").toList = none := by
  apply Section.instance?_eq_none
  have hdigits : '(' ∉ (toString count).toList := fun hmem => by
    cases (Numeral.isNumeral_repr count).2 _ hmem
  simpa using hdigits

theorem filterMap_placement (h : ∀ name ∈ names, isIdentifier name = true) :
    ((names.zipIdx.map fun p => placement p.2 p.1).map String.toList).filterMap Section.instance? =
      names.zipIdx.map fun p => (p.1.toList, (instanceName p.1 p.2).toList) := by
  rw [List.map_map, List.filterMap_map, ← List.filterMap_eq_map]
  refine List.filterMap_congr fun p hp => ?_
  simp only [Function.comp_apply]
  exact Section.instance?_placement (h p.1 (List.fst_mem_of_mem_zipIdx hp)) p.2

theorem instances_toSection (s : Settings) (h : ∀ name ∈ names, isIdentifier name = true) :
    (toSection s names).instances =
      names.zipIdx.map fun p => (p.1.toList, (instanceName p.1 p.2).toList) := by
  have hports : Section.instance? "input wire[5:0] x_in,".toList = none ∧
      Section.instance? "input wire[5:0] y_in,".toList = none ∧
        Section.instance? "output logic alive_out);".toList = none := by
    decide
  have hrest : Section.instance? "".toList = none ∧
      Section.instance? "assign alive_out = alive[index_in];".toList = none := by
    decide
  rw [Section.instances_eq, unindent_toSection h, contents]
  simp only [← placement_eq, List.map_append, List.map_cons, List.map_nil, List.filterMap_append,
    List.filterMap_cons, List.filterMap_nil, filterMap_placement h, hports, instance?_outputs, hrest,
    List.nil_append, List.append_nil]

end Selector

end LifeRom.Verilog
