import LifeRom.Field

/-! # Counting

The running program counts in 64-bit words, which stop at their largest value; exact counting has no
bound.
-/

namespace LifeRom

/-- The largest 64-bit word. -/
def maxWord : Nat := 0xffffffffffffffff

theorem side_lt_maxWord : side < maxWord := by decide

theorem side_lt_min_maxWord {n : Nat} : side < min n maxWord ↔ side < n := by
  have := side_lt_maxWord
  omega

/-- The three steps in which a count takes part. -/
structure Counting where
  append (count digit : Nat) : Nat
  /-- How many row ends a counted row end stands for. -/
  rowEnds (count : Nat) : Nat
  advance (column length : Nat) : Nat

namespace Counting

/-- Counts stop at the largest word. No pattern needs more row ends than open one row below the
field, so a larger count of them stands for that many. -/
def word : Counting where
  append count digit := min (10 * count + digit) maxWord
  rowEnds count := max 1 (min count (side + 1))
  advance column length := min (column + length) maxWord

def exact : Counting where
  append count digit := 10 * count + digit
  rowEnds count := max 1 count
  advance column length := column + length

end Counting

end LifeRom
