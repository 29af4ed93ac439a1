import LifeRom.Counting
import LifeRom.Fault
import LifeRom.Text.Blank
import LifeRom.Text.Numeral

/-! # Headers of run-length documents

A later declaration replaces an earlier one, and the size in force after each header line has to fit
the field.
-/

namespace LifeRom.Rle

open Text

/-- The size declared so far. -/
structure Declared where
  width? : Option Nat := none
  height? : Option Nat := none
  deriving DecidableEq, Repr

/-- A pair with one of the two keys that count. -/
structure Declaration where
  axis : Axis
  value : List Char
  deriving DecidableEq, Repr

def fields : List Char → List (List Char)
  | [] => [[]]
  | ',' :: cs => [] :: fields cs
  | c :: cs =>
    match fields cs with
    | [] => [[c]]
    | f :: fs => (c :: f) :: fs

namespace Declaration

/-- Key and value stand on the two sides of the first equals sign; blanks around them are free. -/
def ofField? (field : List Char) : Option Declaration :=
  match field.dropWhile (· != '=') with
  | [] => none
  | _ :: value =>
    (Axis.ofName? (trim (field.takeWhile (· != '=')))).map fun axis => ⟨axis, trim value⟩

def ofLine (line : List Char) : List Declaration :=
  (fields line).filterMap ofField?

def number? (d : Declaration) : Option Nat :=
  (Numeral.read? d.value).filter (· ≤ maxWord)

end Declaration

namespace Declared

def set (s : Declared) : Axis → Nat → Declared
  | .x, n => { s with width? := some n }
  | .y, n => { s with height? := some n }

def add (s : Declared) (d : Declaration) : Except Fault Declared :=
  match d.number? with
  | some n => .ok (s.set d.axis n)
  | none => .error (.badSize d.axis (String.ofList d.value))

/-- A size fits the field as long as no declared edge is longer than `side`. -/
def checked (s : Declared) : Except Fault Declared :=
  let width := s.width?.getD 0
  let height := s.height?.getD 0
  if width ≤ side ∧ height ≤ side then .ok s else .error (.tooLarge width height)

def addLine (s : Declared) (ds : List Declaration) : Except Fault Declared :=
  ds.foldlM add s >>= checked

end Declared

end LifeRom.Rle
