import LifeRom.Plaintext
import LifeRom.Rle.Reader

/-! # Document formats -/

namespace LifeRom

inductive Format
  | rle
  | plaintext
  deriving DecidableEq, Repr

namespace Format

def ofExtension? (ext : String) : Option Format :=
  match String.ofList (ext.toList.map Char.toLower) with
  | "rle" => some rle
  | "cells" | "txt" => some plaintext
  | _ => none

def readLines : Format → List (List Char) → Except Fault Pattern
  | rle => Rle.read
  | plaintext => Plaintext.read

def read (format : Format) (text : String) : Except Fault Pattern :=
  format.readLines (Text.lines text.toList)

end Format

end LifeRom
