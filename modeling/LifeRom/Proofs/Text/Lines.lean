import LifeRom.Text.Lines
import LifeRom.Text.Numeral

/-! # Reading lines back -/

namespace LifeRom.Text

/-- A line that can be read back. -/
def IsLine (l : List Char) : Prop := '\n' ∉ l ∧ l.getLast? ≠ some '\r'

instance (l : List Char) : Decidable (IsLine l) :=
  inferInstanceAs (Decidable (_ ∧ _))

/-- No line break. -/
def Plain (cs : List Char) : Prop := ∀ c ∈ cs, c ≠ '\n' ∧ c ≠ '\r'

instance (cs : List Char) : Decidable (Plain cs) :=
  List.decidableBAll (fun c => c ≠ '\n' ∧ c ≠ '\r') cs

@[simp] theorem plain_append {cs ds : List Char} : Plain (cs ++ ds) ↔ Plain cs ∧ Plain ds :=
  List.forall_mem_append

theorem plain_replicate_space (n : Nat) : Plain (List.replicate n ' ') := by
  intro c hc
  rw [List.eq_of_mem_replicate hc]
  decide

@[simp] theorem plain_repr (n : Nat) : Plain (toString n).toList := by
  intro c hc
  have hd : c.isDigit = true := (Numeral.isNumeral_repr n).2 c hc
  constructor <;> rintro rfl <;> cases hd

theorem Plain.isLine {l : List Char} (h : Plain l) : IsLine l :=
  ⟨fun hm => (h _ hm).1 rfl, fun hl => (h _ (List.mem_of_getLast? hl)).2 rfl⟩

theorem takeWhile_append_mark {mark : Char} {cs : List Char} (h : mark ∉ cs) (rest : List Char) :
    (cs ++ mark :: rest).takeWhile (· != mark) = cs := by
  have hne : ∀ c ∈ cs, (c != mark) = true := fun c hc => bne_iff_ne.mpr fun e => h (e ▸ hc)
  rw [List.takeWhile_append_of_pos hne, List.takeWhile_cons_of_neg (by simp), List.append_nil]

theorem dropWhile_append_mark {mark : Char} {cs : List Char} (h : mark ∉ cs) (rest : List Char) :
    (cs ++ mark :: rest).dropWhile (· != mark) = mark :: rest := by
  have hne : ∀ c ∈ cs, (c != mark) = true := fun c hc => bne_iff_ne.mpr fun e => h (e ▸ hc)
  rw [List.dropWhile_append_of_pos hne, List.dropWhile_cons_of_neg (by simp)]

theorem lines_cons {c : Char} {cs : List Char} (hn : c ≠ '\n')
    (hr : c = '\r' → cs.head? ≠ some '\n') :
    lines (c :: cs) = match lines cs with
      | [] => [[c]]
      | l :: ls => (c :: l) :: ls := by
  apply lines.eq_4
  · exact hn
  · rintro ds hc rfl
    exact hr hc rfl

theorem lines_append_newline {l : List Char} (h : IsLine l) (rest : List Char) :
    lines (l ++ '\n' :: rest) = l :: lines rest := by
  induction l with
  | nil => exact lines_newline rest
  | cons c cs ih =>
    have hn : c ≠ '\n' := fun e => h.1 (e ▸ List.mem_cons_self)
    have hcs : IsLine cs := by
      refine ⟨fun hm => h.1 (List.mem_cons_of_mem _ hm), fun hl => h.2 ?_⟩
      rw [List.getLast?_cons, hl]
      rfl
    have hr : c = '\r' → (cs ++ '\n' :: rest).head? ≠ some '\n' := by
      rintro rfl
      cases cs with
      | nil => exact absurd rfl h.2
      | cons d ds =>
        intro hd
        rw [List.cons_append, List.head?_cons, Option.some.injEq] at hd
        exact h.1 (by simp [hd])
    rw [List.cons_append, lines_cons hn hr, ih hcs]

theorem lines_eq_singleton {l : List Char} (hne : l ≠ []) (h : '\n' ∉ l) : lines l = [l] := by
  induction l with
  | nil => exact absurd rfl hne
  | cons c cs ih =>
    rw [List.mem_cons, not_or] at h
    have hr : c = '\r' → cs.head? ≠ some '\n' := fun _ hd => h.2 (List.mem_of_head? hd)
    rw [lines_cons (Ne.symm h.1) hr]
    cases cs with
    | nil => rfl
    | cons d ds => rw [ih (List.cons_ne_nil _ _) h.2]

/-- Reading inverts writing. -/
theorem lines_unlines {ls : List String} (h : ∀ l ∈ ls, IsLine l.toList) :
    lines (unlines ls).toList = ls.map String.toList := by
  rw [toList_unlines]
  induction ls with
  | nil => rfl
  | cons l ls ih =>
    rw [List.forall_mem_cons] at h
    rw [List.flatMap_cons, List.append_assoc, List.singleton_append, lines_append_newline h.1,
      ih h.2, List.map_cons]

theorem unlines_map_unlines {α : Type} (f : α → List String) (as : List α) :
    unlines (as.map fun a => unlines (f a)) = unlines (as.flatMap fun a => f a ++ [""]) := by
  rw [← String.toList_inj]
  simp [List.flatMap_map, List.flatMap_assoc, List.flatMap_append]

theorem unlines_append (ls ms : List String) : unlines (ls ++ ms) = unlines ls ++ unlines ms := by
  simp [unlines, String.join_append]

end LifeRom.Text
