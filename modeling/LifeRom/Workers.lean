/-! # Workers -/

namespace LifeRom.Workers

variable {α β : Type}

/-- How many workers share `length` items if `wanted` are wanted: no more than there are items, and
at least one. -/
def count (wanted length : Nat) : Nat :=
  max 1 (min wanted length)

/-- The list cut into stretches of `size` items, at least one each; the last may be shorter. -/
def stretches (size : Nat) : List α → List (List α)
  | [] => []
  | x :: xs => (x :: xs.take (size - 1)) :: stretches size (xs.drop (size - 1))
termination_by xs => xs.length
decreasing_by simp only [List.length_drop, List.length_cons]; omega

def share (length workers : Nat) : Nat :=
  (length + workers - 1) / workers

/-- `xs.map f`, worked off by up to `wanted` workers at a time. -/
def map (wanted : Nat) (f : α → β) (xs : List α) : List β :=
  let workers := count wanted xs.length
  if workers = 1 then xs.map f
  else
    let tasks := (stretches (share xs.length workers) xs).map fun stretch =>
      Task.spawn fun _ => stretch.map f
    tasks.flatMap Task.get

end LifeRom.Workers
