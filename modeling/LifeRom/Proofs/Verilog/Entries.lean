import Mathlib.Data.List.DropRight
import LifeRom.Proofs.Text.Lines
import LifeRom.Proofs.Verilog.Identifier
import LifeRom.Proofs.Verilog.Sections
import LifeRom.Verilog.Composite

/-! # Entries

The lines of an emitted module below its first one are contents that start at some column.
-/

namespace LifeRom.Verilog

open Text

def unindent (l : List Char) : List Char :=
  l.dropWhile (· == ' ')

theorem unindent_replicate (n : Nat) (cs : List Char) :
    unindent (List.replicate n ' ' ++ cs) = unindent cs :=
  List.dropWhile_append_of_pos fun c hc => by rw [List.eq_of_mem_replicate hc]; rfl

theorem unindent_eq_self {cs : List Char} (h : cs.head? ≠ some ' ') : unindent cs = cs := by
  cases cs with
  | nil => rfl
  | cons c cs =>
    have hc : ¬ (c == ' ') = true := by simpa using h
    exact List.dropWhile_cons_of_neg hc

theorem unindent_unindent (l : List Char) : unindent (unindent l) = unindent l :=
  List.dropWhile_idempotent _ l

theorem plain_of_isIdentifier {name : String} (h : isIdentifier name = true) :
    Plain name.toList := by
  intro c hc
  have hpart := isIdentifierPart_of_mem h hc
  constructor <;> rintro rfl <;> cases hpart

theorem plain_input {name : String} (width : Nat) (h : Plain name.toList) :
    Plain (input width name).toList := by
  have hplain : Plain "input wire[".toList ∧ Plain ":0] ".toList := by decide
  simp only [input, String.toList_append, plain_append, plain_repr, hplain, h, and_self]

/-- A text that can stand in a module as a line of its own, at any column. -/
structure IsContent (content : String) : Prop where
  head? : content.toList.head? ≠ some ' '
  plain : Plain content.toList
  isInner : IsInner content.toList

instance (content : String) : Decidable (IsContent content) :=
  decidable_of_iff (content.toList.head? ≠ some ' ' ∧ Plain content.toList ∧
    IsInner content.toList) ⟨fun ⟨h, hp, hi⟩ => ⟨h, hp, hi⟩, fun ⟨h, hp, hi⟩ => ⟨h, hp, hi⟩⟩

/-- No module begins or ends with another letter. -/
theorem IsContent.of_head? {content : String} {c : Char} (h : content.toList.head? = some c)
    (hc : c ∉ [' ', 'm', 'e']) (hp : Plain content.toList) : IsContent content := by
  obtain ⟨cs, hcs⟩ := List.head?_eq_some_iff.mp h
  simp only [List.mem_cons, List.not_mem_nil, or_false, not_or] at hc
  refine ⟨by simpa [h] using hc.1, hp, ?_, ?_⟩
  · simpa [Begins, hcs] using fun e => absurd e.symm hc.2.1
  · simpa [Section.IsEnd, hcs] using fun e => absurd e hc.2.2

/-- A line of a module: the column at which it starts, and its content. -/
structure Entry where
  column : Nat
  content : String

namespace Entry

def text (e : Entry) : String := spaces e.column ++ e.content

variable {e : Entry}

theorem toList_text (e : Entry) :
    e.text.toList = List.replicate e.column ' ' ++ e.content.toList := by
  rw [text, String.toList_append, toList_spaces]

theorem unindent_text (h : IsContent e.content) : unindent e.text.toList = e.content.toList := by
  rw [toList_text, unindent_replicate, unindent_eq_self h.head?]

theorem isInner_text (h : IsContent e.content) : IsInner e.text.toList := by
  rw [toList_text]
  exact h.isInner.indent e.column

theorem plain_text (h : IsContent e.content) : Plain e.text.toList := by
  rw [toList_text, plain_append]
  exact ⟨plain_replicate_space e.column, h.plain⟩

end Entry

/-- The column below the opening bracket of a declaration. -/
def hang (name : String) : Nat := "module (".length + name.length

def opening (name first : String) : String := "module " ++ name ++ "(" ++ first ++ ","

/-- The lines of a module with the given entries. -/
def frame (s : Settings) (name first : String) (entries : List Entry) : List String :=
  s.guarded (opening name first :: (entries.map Entry.text ++ ["endmodule"]))

/-- How a module with the given entries reads. -/
def Section.ofEntries (name : String) (entries : List Entry) : Section :=
  ⟨name.toList, entries.map (·.text.toList)⟩

variable {s : Settings} {name first : String} {entries : List Entry}

theorem unindent_ofEntries (h : ∀ e ∈ entries, IsContent e.content) :
    (Section.ofEntries name entries).body.map unindent =
      (entries.map (·.content)).map String.toList := by
  rw [Section.ofEntries, List.map_map, List.map_map]
  exact List.map_congr_left fun e he => Entry.unindent_text (h e he)

theorem name?_opening (h : isIdentifier name = true) (first : String) :
    Section.name? (opening name first).toList = some name.toList := by
  have hname : '(' ∉ name.toList := not_mem_of_isIdentifier h (by decide)
  have hsplit : (opening name first).toList =
      "module ".toList ++ (name.toList ++ '(' :: (first.toList ++ [','])) := by
    simp [opening]
  rw [Section.name?, hsplit, after?_append, Option.map_some, takeWhile_append_mark hname]

theorem block_frame (h : isIdentifier name = true) (first : String)
    (hentries : ∀ e ∈ entries, IsContent e.content) :
    (Section.ofEntries name entries).Block ((frame s name first entries).map String.toList) := by
  have hbody : ∀ l ∈ (Section.ofEntries name entries).body, IsInner l := by
    intro l hl
    obtain ⟨e, he, rfl⟩ := List.mem_map.mp hl
    exact Entry.isInner_text (hentries e he)
  have hblock (before after : List String) (hbefore : ∀ l ∈ before, IsInner l.toList)
      (hafter : ∀ l ∈ after, IsInner l.toList) :
      (Section.ofEntries name entries).Block (before.map String.toList ++
        (opening name first).toList :: ((Section.ofEntries name entries).body ++
          "endmodule".toList :: after.map String.toList)) :=
    .intro (by simpa using hbefore) (name?_opening h first) hbody rfl (by simpa using hafter)
  rw [frame, Settings.guarded]
  split
  · simpa [Section.ofEntries, Function.comp_def] using
      hblock ["`default_nettype none"] ["`default_nettype wire"] (by decide)
        (by decide)
  · simpa [Section.ofEntries, Function.comp_def] using hblock [] [] (by simp) (by simp)

theorem map_unindent_guarded {ls contents : List String}
    (h : ls.map (fun l => unindent l.toList) = contents.map String.toList) :
    (s.guarded ls).map (unindent ∘ String.toList) = (s.guarded contents).map String.toList := by
  have hguards : unindent "`default_nettype none".toList = "`default_nettype none".toList ∧
      unindent "`default_nettype wire".toList = "`default_nettype wire".toList := by
    decide
  rw [Settings.guarded, Settings.guarded]
  split
  · simp only [List.cons_append, List.map_cons, List.map_append, List.map_nil, Function.comp_def,
      hguards, h]
  · exact h

theorem mem_guarded {l : String} {ls : List String} :
    l ∈ s.guarded ls →
      l = "`default_nettype none" ∨ l ∈ ls ∨ l = "`default_nettype wire" := by
  rw [Settings.guarded]
  split
  · simp
  · exact fun h => Or.inr (Or.inl h)

theorem isLine_frame (h : isIdentifier name = true) (hfirst : Plain first.toList)
    (hentries : ∀ e ∈ entries, IsContent e.content) :
    ∀ l ∈ frame s name first entries, IsLine l.toList := by
  intro l hl
  apply Plain.isLine
  rcases mem_guarded hl with rfl | hl | rfl
  · decide
  · rcases List.mem_cons.mp hl with rfl | hl
    · have hopen : Plain "module ".toList ∧ Plain "(".toList ∧ Plain ",".toList := by
        decide
      simp only [opening, String.toList_append, plain_append]
      exact ⟨⟨⟨⟨hopen.1, plain_of_isIdentifier h⟩, hopen.2.1⟩, hfirst⟩, hopen.2.2⟩
    · rcases List.mem_append.mp hl with hl | hl
      · obtain ⟨e, he, rfl⟩ := List.mem_map.mp hl
        exact Entry.plain_text (hentries e he)
      · rw [List.mem_singleton.mp hl]
        decide
  · decide

end LifeRom.Verilog
