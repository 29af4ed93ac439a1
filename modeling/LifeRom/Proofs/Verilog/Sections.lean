import Mathlib.Order.Basic
import LifeRom.Verilog.Reading

/-! # Modules in a text -/

namespace LifeRom.Verilog

def Begins (l : List Char) : Prop := "module ".toList <+: l

instance (l : List Char) : Decidable (Begins l) :=
  inferInstanceAs (Decidable (_ <+: _))

/-- A line that neither begins nor ends a module. -/
def IsInner (l : List Char) : Prop := ¬ Begins l ∧ ¬ Section.IsEnd l

instance (l : List Char) : Decidable (IsInner l) :=
  inferInstanceAs (Decidable (_ ∧ _))

theorem after?_append (start cs : List Char) : after? start (start ++ cs) = some cs := by
  simp [after?]

theorem after?_eq_none {start cs : List Char} (h : ¬ start <+: cs) : after? start cs = none := by
  simp [after?, h]

theorem IsInner.indent {cs : List Char} (h : IsInner cs) (n : Nat) :
    IsInner (List.replicate n ' ' ++ cs) := by
  cases n with
  | zero => exact h
  | succ n =>
    rw [List.replicate_succ, List.cons_append]
    exact ⟨by simp [Begins], by simp [Section.IsEnd]⟩

namespace Section

theorem name?_eq_none {l : List Char} (h : ¬ Begins l) : name? l = none := by
  rw [name?, after?_eq_none h]
  rfl

theorem ofLines_cons {l : List Char} (ls : List (List Char)) (h : ¬ Begins l) :
    ofLines (l :: ls) = ofLines ls := by
  rw [ofLines, name?_eq_none h]

theorem ofLines_append {before : List (List Char)} (ls : List (List Char))
    (h : ∀ l ∈ before, IsInner l) : ofLines (before ++ ls) = ofLines ls := by
  induction before with
  | nil => rfl
  | cons l before ih =>
    rw [List.forall_mem_cons] at h
    rw [List.cons_append, ofLines_cons _ h.1.1, ih h.2]

theorem takeWhile_append_end {body : List (List Char)} {last : List Char}
    (h : ∀ l ∈ body, ¬ IsEnd l) (hlast : IsEnd last) (ls : List (List Char)) :
    (body ++ last :: ls).takeWhile (¬ IsEnd ·) = body := by
  rw [List.takeWhile_append_of_pos fun l hl => decide_eq_true (h l hl),
    List.takeWhile_cons_of_neg (by simpa using hlast), List.append_nil]

theorem dropWhile_append_end {body : List (List Char)} {last : List Char}
    (h : ∀ l ∈ body, ¬ IsEnd l) (hlast : IsEnd last) (ls : List (List Char)) :
    (body ++ last :: ls).dropWhile (¬ IsEnd ·) = last :: ls := by
  rw [List.dropWhile_append_of_pos fun l hl => decide_eq_true (h l hl),
    List.dropWhile_cons_of_neg (by simpa using hlast)]

/-- The lines of a module, and inner lines around them. -/
inductive Block (s : Section) : List (List Char) → Prop

  | intro {before after : List (List Char)} {head last : List Char} : (∀ l ∈ before, IsInner l) →
      name? head = some s.name → (∀ l ∈ s.body, IsInner l) → IsEnd last → (∀ l ∈ after, IsInner l) →
      Block s (before ++ head :: (s.body ++ last :: after))

/-- The lines of modules, one after the other. -/
inductive Blocks : List Section → List (List Char) → Prop

  | nil : Blocks [] []

  | cons {s : Section} {ss : List Section} {ls ls' : List (List Char)} : Block s ls →
      Blocks ss ls' → Blocks (s :: ss) (ls ++ ls')

variable {s : Section} {ss ss' : List Section} {ls ls' : List (List Char)}

theorem Blocks.append (h : Blocks ss ls) (h' : Blocks ss' ls') :
    Blocks (ss ++ ss') (ls ++ ls') := by
  induction h with
  | nil => exact h'
  | cons hb _ ih =>
    rw [List.append_assoc]
    exact .cons hb ih

theorem Block.blocks (h : Block s ls) : Blocks [s] ls := by
  rw [← List.append_nil ls]
  exact .cons h .nil

theorem Blocks.flatMap {α : Type} {f : α → Section} {g : α → List (List Char)} {as : List α}
    (h : ∀ a ∈ as, Block (f a) (g a)) : Blocks (as.map f) (as.flatMap g) := by
  induction as with
  | nil => exact .nil
  | cons a as ih =>
    rw [List.forall_mem_cons] at h
    exact .cons h.1 (ih h.2)

theorem Block.append (h : Block s ls) {more : List (List Char)} (hmore : ∀ l ∈ more, IsInner l) :
    Block s (ls ++ more) := by
  obtain ⟨hbefore, hname, hbody, hlast, hafter⟩ := h
  rw [List.append_assoc, List.cons_append, List.append_assoc, List.cons_append]
  exact .intro hbefore hname hbody hlast (List.forall_mem_append.mpr ⟨hafter, hmore⟩)

theorem Block.ofLines_append (h : Block s ls) (rest : List (List Char)) :
    ofLines (ls ++ rest) = s :: ofLines rest := by
  obtain ⟨hbefore, hname, hbody, hlast, hafter⟩ := h
  have hends : ∀ l ∈ s.body, ¬ IsEnd l := fun l hl => (hbody l hl).2
  rw [List.append_assoc, Section.ofLines_append _ hbefore, List.cons_append, List.append_assoc,
    List.cons_append, ofLines, hname]
  simp only [takeWhile_append_end hends hlast, dropWhile_append_end hends hlast, List.drop_one,
    List.tail_cons, Section.ofLines_append _ hafter]

theorem Blocks.ofLines_eq (h : Blocks ss ls) : ofLines ls = ss := by
  induction h with
  | nil => rw [ofLines]
  | cons hb _ ih => rw [hb.ofLines_append, ih]

/-- The lines that begin or end modules: the name that is begun, and nothing for an end. -/
def marks (ls : List (List Char)) : List (Option (List Char)) :=
  (ls.filter fun l => Begins l ∨ IsEnd l).map name?

theorem marks_append (ls ls' : List (List Char)) : marks (ls ++ ls') = marks ls ++ marks ls' := by
  simp [marks]

theorem marks_cons_of_begins {l : List Char} (ls : List (List Char)) (h : Begins l) :
    marks (l :: ls) = name? l :: marks ls := by
  simp [marks, h]

theorem marks_cons_of_isEnd {l : List Char} (ls : List (List Char)) (h : IsEnd l) :
    marks (l :: ls) = name? l :: marks ls := by
  simp [marks, h]

theorem marks_eq_nil (h : ∀ l ∈ ls, IsInner l) : marks ls = [] := by
  rw [marks, List.map_eq_nil_iff, List.filter_eq_nil_iff]
  intro l hl
  rw [decide_eq_true_eq, not_or]
  exact h l hl

theorem begins_of_name?_eq_some {l name : List Char} (h : name? l = some name) : Begins l := by
  by_contra hb
  rw [name?_eq_none hb] at h
  cases h

theorem name?_of_isEnd {l : List Char} (h : IsEnd l) : name? l = none := by
  rw [IsEnd.eq_1] at h
  subst h
  decide

theorem Block.marks_eq (h : Block s ls) : marks ls = [some s.name, none] := by
  obtain ⟨hbefore, hname, hbody, hlast, hafter⟩ := h
  rw [marks_append, marks_eq_nil hbefore, List.nil_append,
    marks_cons_of_begins _ (begins_of_name?_eq_some hname), hname, marks_append,
    marks_eq_nil hbody, List.nil_append, marks_cons_of_isEnd _ hlast, name?_of_isEnd hlast,
    marks_eq_nil hafter]

theorem Blocks.marks_eq (h : Blocks ss ls) :
    marks ls = ss.flatMap fun s => [some s.name, none] := by
  induction h with
  | nil => rfl
  | cons hb _ ih => rw [marks_append, hb.marks_eq, ih, List.flatMap_cons]

end Section

end LifeRom.Verilog
