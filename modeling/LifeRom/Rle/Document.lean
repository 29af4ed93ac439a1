import LifeRom.Rle.Header

/-! # Run-length documents

A document is a sequence of header lines and of symbols; where its lines break does not matter.
-/

namespace LifeRom.Rle

open Text

inductive Item
  | header (declarations : List Declaration)
  | symbol (c : Char) (position : Position)
  deriving DecidableEq, Repr

def IsSkipped (line : List Char) : Prop :=
  (∀ c ∈ line, isBlank c) ∨ line.head? = some '#'

instance (line : List Char) : Decidable (IsSkipped line) :=
  @instDecidableOr _ _ (List.decidableBAll (fun c => isBlank c) line) inferInstance

def IsHeader (line : List Char) : Prop :=
  ¬ IsSkipped line ∧ line.head? = some 'x'

instance (line : List Char) : Decidable (IsHeader line) :=
  inferInstanceAs (Decidable (_ ∧ _))

def Item.ofLine (row : Nat) (line : List Char) : List Item :=
  if IsSkipped line then []
  else if IsHeader line then [.header (Declaration.ofLine line)]
  else (line.zipIdx 1).map fun (c, column) => .symbol c ⟨row, column⟩

namespace Item

variable {row : Nat} {line : List Char}

theorem ofLine_of_isSkipped (h : IsSkipped line) : ofLine row line = [] :=
  if_pos h

theorem ofLine_of_isHeader (h : IsHeader line) :
    ofLine row line = [.header (Declaration.ofLine line)] := by
  rw [ofLine, if_neg h.1, if_pos h]

theorem ofLine_of_not (hs : ¬ IsSkipped line) (hh : ¬ IsHeader line) :
    ofLine row line = (line.zipIdx 1).map fun (c, column) => .symbol c ⟨row, column⟩ := by
  rw [ofLine, if_neg hs, if_neg hh]

end Item

def Item.ofLines (lines : List (List Char)) : List Item :=
  (lines.zipIdx 1).flatMap fun (line, row) => ofLine row line

end LifeRom.Rle
