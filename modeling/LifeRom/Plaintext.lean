import LifeRom.Pattern

/-! # Reading plaintext documents

`O` and `*` are alive and `.` is dead. The rows become runs as short as they can be; dead cells at
the end of a row are left to the row end.
-/

namespace LifeRom.Plaintext

def cell? : Char → Option Bool
  | 'O' | '*' => some true
  | '.' => some false
  | _ => none

def IsComment (line : List Char) : Prop := line.head? = some '!'

instance (line : List Char) : Decidable (IsComment line) :=
  inferInstanceAs (Decidable (_ = _))

def cell (row : Nat) (symbol : Char × Nat) : Except Fault Bool :=
  match cell? symbol.1 with
  | some alive => .ok alive
  | none => .error (.unexpectedSymbol symbol.1 ⟨row, symbol.2⟩)

def cells (row : Nat) (line : List Char) : Except Fault (List Bool) :=
  (line.zipIdx 1).mapM (cell row)

/-- The rows of a document: the lines that are no comments, with their numbers. -/
def rowLines (lines : List (List Char)) : List (List Char × Nat) :=
  (lines.zipIdx 1).filter fun line => ¬ IsComment line.1

def rows (lines : List (List Char)) : Except Fault (List (List Bool)) :=
  (rowLines lines).mapM fun (line, row) => cells row line

/-- Puts one cell in front of the runs of a row. -/
def consCell : Bool → List Token → List Token
  | true, .alive n :: ts => .alive (n + 1) :: ts
  | true, ts => .alive 1 :: ts
  | false, [] => []
  | false, .dead n :: ts => .dead (n + 1) :: ts
  | false, ts => .dead 1 :: ts

def rowTokens (row : List Bool) : List Token :=
  row.foldr consCell []

def tokens (rows : List (List Bool)) : List Token :=
  [.rowEnd].intercalate (rows.map rowTokens) ++ [.stop]

def width (rows : List (List Bool)) : Nat :=
  (rows.map List.length).foldr max 0

def read (lines : List (List Char)) : Except Fault Pattern := do
  let rows ← rows lines
  Pattern.ofTokens (width rows) rows.length (tokens rows)

end LifeRom.Plaintext
