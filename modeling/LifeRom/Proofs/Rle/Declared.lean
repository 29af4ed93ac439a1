import Mathlib.Data.List.TakeWhile
import LifeRom.Rle.Header

/-! # Declared sizes -/

namespace LifeRom.Rle

open Text

/-- The number that a declared value stands for, if it is one and fits a word. -/
def word? (value : List Char) : Option Nat :=
  (Numeral.read? value).filter (· ≤ maxWord)

/-- The value of an axis in a text between two commas of a header line: behind the first equals
sign, if the name of the axis stands before it. -/
def valueIn? (axis : Axis) (pair : List Char) : Option (List Char) :=
  if '=' ∈ pair ∧ trim (pair.takeWhile (· ≠ '=')) = axis.name.toList then
    some (trim ((pair.dropWhile (· ≠ '=')).drop 1))
  else none

/-- The values that header lines give for an axis, in their order. -/
def valuesIn (axis : Axis) (headers : List (List Char)) : List (List Char) :=
  headers.flatMap fun line => (line.splitOn ',').filterMap (valueIn? axis)

/-- The number that header lines declare last for an axis. -/
def lastIn (axis : Axis) (headers : List (List Char)) : Option Nat :=
  (valuesIn axis headers).getLast?.bind word?

/-- Each declared value is a number in a word, and no size in force after a line, with 0 for an axis
that is not declared yet, is larger than the field. -/
def LegalHeaders (headers : List (List Char)) : Prop :=
  (∀ axis, ∀ value ∈ valuesIn axis headers, ∃ n, word? value = some n) ∧
    ∀ earlier, earlier <+: headers → ∀ axis, (lastIn axis earlier).getD 0 ≤ side

theorem word?_eq_none_iff {value : List Char} (h : Numeral.IsNumeral value) :
    word? value = none ↔ maxWord < Numeral.value value := by
  simp [word?, Numeral.read?_of_isNumeral h]

theorem word?_eq_some {value : List Char} (h : Numeral.IsNumeral value)
    (hle : Numeral.value value ≤ maxWord) : word? value = some (Numeral.value value) := by
  simp [word?, Numeral.read?_of_isNumeral h, hle]

theorem fields_eq_splitOn (line : List Char) : fields line = line.splitOn ',' := by
  induction line with
  | nil => simp [fields, List.splitOn_nil]
  | cons c cs ih =>
    rw [List.splitOn_cons_eq_if_modifyHead, ← ih]
    by_cases hc : c = ','
    · subst hc
      simp [fields]
    · rw [if_neg (by simpa using hc), fields]
      · cases h : fields cs with
        | nil => exact absurd (ih.symm.trans h) (List.splitOn_ne_nil _ _)
        | cons f fs => rfl
      · exact hc

namespace Axis

theorem ofName?_eq_some_iff {axis : Axis} {key : List Char} :
    Axis.ofName? key = some axis ↔ key = axis.name.toList := by
  constructor
  · intro h
    unfold Axis.ofName? at h
    split at h
    · cases h; rfl
    · cases h; rfl
    · cases h
  · rintro rfl
    cases axis <;> rfl

end Axis

namespace Declaration

theorem ofField?_eq {field : List Char} (h : '=' ∈ field) :
    ofField? field = (Axis.ofName? (trim (field.takeWhile (· != '=')))).map fun axis =>
      ⟨axis, trim ((field.dropWhile (· != '=')).drop 1)⟩ := by
  unfold ofField?
  split
  · rename_i hnil
    have := List.dropWhile_eq_nil_iff.mp hnil '=' h
    simp at this
  · rename_i value heq
    rw [heq]
    rfl

theorem ofField?_eq_none {field : List Char} (h : '=' ∉ field) : ofField? field = none := by
  have hnil : field.dropWhile (· != '=') = [] := by
    refine List.dropWhile_eq_nil_iff.mpr fun c hc => ?_
    simpa using ne_of_mem_of_not_mem hc h
  simp [ofField?, hnil]

theorem valueIn?_eq (axis : Axis) (field : List Char) :
    valueIn? axis field = ((ofField? field).filter (·.axis = axis)).map value := by
  unfold valueIn?
  by_cases h : '=' ∈ field
  · rw [ofField?_eq h]
    have hkey : trim (field.takeWhile (· != '=')) = axis.name.toList ↔
        Axis.ofName? (trim (field.takeWhile (· != '='))) = some axis :=
      Axis.ofName?_eq_some_iff.symm
    have hbne : (fun c : Char => decide (c ≠ '=')) = (· != '=') := by
      funext c
      simp [bne, Bool.beq_eq_decide_eq]
    simp only [h, true_and, hbne, hkey]
    cases hname : Axis.ofName? (trim (field.takeWhile (· != '='))) with
    | none => rfl
    | some axis' =>
      by_cases haxis : axis' = axis
      · simp [haxis, Option.filter]
      · simp [haxis, Option.filter]
  · simp [h, ofField?_eq_none h]

end Declaration

theorem valuesIn_eq (axis : Axis) (headers : List (List Char)) :
    valuesIn axis headers =
      ((headers.flatMap Declaration.ofLine).filter (·.axis = axis)).map Declaration.value := by
  induction headers with
  | nil => rfl
  | cons line headers ih =>
    have hline : (line.splitOn ',').filterMap (valueIn? axis) =
        ((Declaration.ofLine line).filter (·.axis = axis)).map Declaration.value := by
      rw [Declaration.ofLine, fields_eq_splitOn, List.filter_filterMap, List.map_filterMap]
      exact congrArg (List.filterMap · _) (funext (Declaration.valueIn?_eq axis))
    rw [valuesIn, List.flatMap_cons, ← valuesIn, ih, hline, List.flatMap_cons, List.filter_append,
      List.map_append]

def lastOn (axis : Axis) (ds : List Declaration) : Option Nat :=
  (ds.filter (·.axis = axis)).getLast?.bind Declaration.number?

theorem lastIn_eq (axis : Axis) (headers : List (List Char)) :
    lastIn axis headers = lastOn axis (headers.flatMap Declaration.ofLine) := by
  rw [lastIn, valuesIn_eq, List.getLast?_map, Option.bind_map, lastOn]
  rfl

theorem lastOn_concat (axis : Axis) (ds : List Declaration) (d : Declaration) :
    lastOn axis (ds ++ [d]) = if d.axis = axis then d.number? else lastOn axis ds := by
  by_cases h : d.axis = axis <;> simp [lastOn, h]

namespace Declared

def after (ds : List Declaration) : Declared where
  width? := lastOn .x ds
  height? := lastOn .y ds

def InField (s : Declared) : Prop :=
  s.width?.getD 0 ≤ side ∧ s.height?.getD 0 ≤ side

theorem add_after (ds : List Declaration) {d : Declaration} {n : Nat} (h : d.number? = some n) :
    (after ds).add d = .ok (after (ds ++ [d])) := by
  rw [add, h]
  rcases d with ⟨axis, value⟩
  cases axis <;> simp [after, set, lastOn_concat, h]

theorem foldlM_add_eq_ok_iff {ds ds' : List Declaration} {s : Declared} :
    ds'.foldlM add (after ds) = .ok s ↔
      (∀ d ∈ ds', ∃ n, d.number? = some n) ∧ s = after (ds ++ ds') := by
  induction ds' generalizing ds with
  | nil => simp [pure, Except.pure, eq_comm]
  | cons d ds' ih =>
    rw [List.foldlM_cons]
    cases hd : d.number? with
    | none => simp [add, hd, bind, Except.bind]
    | some n =>
      rw [add_after ds hd]
      simp [bind, Except.bind, ih, hd]

theorem checked_eq_ok_iff {s s' : Declared} : s.checked = .ok s' ↔ s.InField ∧ s' = s := by
  simp only [checked, InField]
  split
  · rename_i h; simp [h, eq_comm]
  · rename_i h; simp [h]

theorem addLine_eq_ok_iff {ds ds' : List Declaration} {s : Declared} :
    (after ds).addLine ds' = .ok s ↔
      (∀ d ∈ ds', ∃ n, d.number? = some n) ∧ (after (ds ++ ds')).InField ∧
        s = after (ds ++ ds') := by
  rw [addLine, bind_eq_ok_iff]
  simp only [foldlM_add_eq_ok_iff, checked_eq_ok_iff]
  constructor
  · rintro ⟨_, ⟨hall, rfl⟩, hfield, rfl⟩
    exact ⟨hall, hfield, rfl⟩
  · rintro ⟨hall, hfield, rfl⟩
    exact ⟨_, ⟨hall, rfl⟩, hfield, rfl⟩

theorem foldlM_addLine_eq_ok_iff {ds : List Declaration} {lines : List (List Declaration)}
    {s : Declared} :
    lines.foldlM addLine (after ds) = .ok s ↔
      (∀ d ∈ lines.flatten, ∃ n, d.number? = some n) ∧
        (∀ earlier, earlier <+: lines → earlier ≠ [] → (after (ds ++ earlier.flatten)).InField) ∧
        s = after (ds ++ lines.flatten) := by
  induction lines generalizing ds with
  | nil =>
    simp only [List.foldlM_nil, List.flatten_nil, List.prefix_nil, List.append_nil, pure,
      Except.pure, Except.ok.injEq]
    constructor
    · rintro rfl; exact ⟨by simp, fun _ h h' => absurd h h', rfl⟩
    · rintro ⟨-, -, rfl⟩; rfl
  | cons line lines ih =>
    simp only [List.foldlM_cons, bind_eq_ok_iff, addLine_eq_ok_iff, List.flatten_cons,
      List.forall_mem_append]
    constructor
    · rintro ⟨_, ⟨hall, hfield, rfl⟩, h⟩
      obtain ⟨hall', hfield', rfl⟩ := ih.mp h
      refine ⟨⟨hall, hall'⟩, fun earlier hearlier hne => ?_, by simp⟩
      obtain rfl | ⟨rest, rfl, hrest⟩ := List.prefix_cons_iff.mp hearlier
      · exact absurd rfl hne
      · cases rest with
        | nil => simpa using hfield
        | cons => simpa using hfield' _ hrest (List.cons_ne_nil _ _)
    · rintro ⟨⟨hall, hall'⟩, hfield, rfl⟩
      refine ⟨_, ⟨hall, by simpa using hfield [line] (by simp) (by simp), rfl⟩, ih.mpr ⟨hall', ?_,
        by simp⟩⟩
      intro earlier hearlier hne
      simpa using hfield (line :: earlier) (by simpa using hearlier) (by simp)

variable {headers : List (List Char)}

theorem after_ofLine (headers : List (List Char)) :
    after (headers.map Declaration.ofLine).flatten = ⟨lastIn .x headers, lastIn .y headers⟩ := by
  rw [lastIn_eq, lastIn_eq, List.flatMap, after]

theorem forall_number?_iff :
    (∀ d ∈ (headers.map Declaration.ofLine).flatten, ∃ n, d.number? = some n) ↔
      ∀ axis, ∀ value ∈ valuesIn axis headers, ∃ n, word? value = some n := by
  rw [← List.flatMap]
  constructor
  · intro h axis value hv
    rw [valuesIn_eq] at hv
    obtain ⟨d, hd, rfl⟩ := List.mem_map.mp hv
    exact h d (List.mem_filter.mp hd).1
  · intro h d hd
    apply h d.axis d.value
    rw [valuesIn_eq]
    exact List.mem_map.mpr ⟨d, List.mem_filter.mpr ⟨hd, by simp⟩, rfl⟩

theorem forall_inField_iff :
    (∀ earlier, earlier <+: headers.map Declaration.ofLine → earlier ≠ [] →
        (after earlier.flatten).InField) ↔
      ∀ earlier, earlier <+: headers → ∀ axis, (lastIn axis earlier).getD 0 ≤ side := by
  constructor
  · intro h earlier hearlier axis
    cases earlier with
    | nil => exact Nat.zero_le _
    | cons line lines =>
      have := h _ (hearlier.map Declaration.ofLine) (by simp)
      rw [after_ofLine] at this
      cases axis
      · exact this.1
      · exact this.2
  · rintro h _ hearlier -
    obtain ⟨earlier, hpre, rfl⟩ := List.prefix_map_iff.mp hearlier
    rw [after_ofLine]
    exact ⟨h earlier hpre .x, h earlier hpre .y⟩

theorem addLines_eq_ok_iff {s : Declared} :
    (headers.map Declaration.ofLine).foldlM addLine {} = .ok s ↔
      LegalHeaders headers ∧ s = ⟨lastIn .x headers, lastIn .y headers⟩ := by
  have hstart : ({} : Declared) = after [] := rfl
  rw [hstart, foldlM_addLine_eq_ok_iff, forall_number?_iff]
  simp only [List.nil_append]
  rw [forall_inField_iff, after_ofLine, LegalHeaders, and_assoc]

end Declared

end LifeRom.Rle
