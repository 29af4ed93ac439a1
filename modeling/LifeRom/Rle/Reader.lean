import LifeRom.Pattern
import LifeRom.Rle.Document
import LifeRom.Text.Lines

/-! # Reading run-length documents

A letter without a count counts once, and what follows the first `!` is not looked at.
-/

namespace LifeRom.Rle

inductive Symbol
  | digit (value : Nat)
  | dead
  | alive
  | rowEnd
  | stop
  deriving DecidableEq, Repr

def Symbol.ofChar? (c : Char) : Option Symbol :=
  if c.isDigit then some (.digit (c.toNat - '0'.toNat))
  else match c with
    | 'b' => some .dead
    | 'o' => some .alive
    | '$' => some .rowEnd
    | '!' => some .stop
    | _ => none

/-- What has been read so far. The count is 0 where no digit waits for its letter. -/
structure Reading where
  declared : Declared := {}
  count : Nat := 0
  tokens : Array Token := #[]

namespace Reading

variable (arith : Counting)

def take (s : Reading) : Symbol → Reading
  | .digit d => { s with count := arith.append s.count d }
  | .dead => { s with count := 0, tokens := s.tokens.push (.dead (max 1 s.count)) }
  | .alive => { s with count := 0, tokens := s.tokens.push (.alive (max 1 s.count)) }
  | .rowEnd =>
    { s with
      count := 0
      tokens := s.tokens ++ Array.replicate (arith.rowEnds s.count) .rowEnd }
  | .stop => { s with tokens := s.tokens.push .stop }

def pattern (s : Reading) : Except Fault Pattern :=
  match s.declared.width?, s.declared.height? with
  | some width, some height => Pattern.ofTokens width height s.tokens.toList
  | _, _ => .error .sizeMissing

def unfinished (s : Reading) : Fault :=
  match s.declared.width?, s.declared.height? with
  | some _, some _ => .unterminated
  | _, _ => .sizeMissing

def run (s : Reading) : List Item → Except Fault Pattern
  | [] => .error s.unfinished
  | .header ds :: items =>
    match s.declared.addLine ds with
    | .ok declared => run { s with declared } items
    | .error e => .error e
  | .symbol c position :: items =>
    match Symbol.ofChar? c with
    | none => .error (.unexpectedSymbol c position)
    | some .stop => (s.take arith .stop).pattern
    | some symbol => run (s.take arith symbol) items

end Reading

/-- Reads the lines of a document, with run lengths counted by `arith`. -/
def readWith (arith : Counting) (lines : List (List Char)) : Except Fault Pattern :=
  Reading.run arith {} (Item.ofLines lines)

def read (lines : List (List Char)) : Except Fault Pattern :=
  readWith .word lines

end LifeRom.Rle
