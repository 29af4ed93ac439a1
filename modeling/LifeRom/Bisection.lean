/-! # Bisection -/

namespace LifeRom.Bisection

variable {α : Type} [LT α] [DecidableLT α]

/-- Whether `x` stands at an index from `first` up to but not including `last`. -/
def searchIn (a : Array α) (x : α) (first last : Nat) : Bool :=
  if h : first < last ∧ last ≤ a.size then
    let middle := (first + last) / 2
    let y := a[middle]
    if x < y then searchIn a x first middle
    else if y < x then searchIn a x (middle + 1) last
    else true
  else false
termination_by last - first

def search (a : Array α) (x : α) : Bool :=
  searchIn a x 0 a.size

end LifeRom.Bisection
