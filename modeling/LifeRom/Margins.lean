import LifeRom.Field

/-! # Margins

Where the margins cannot be equal, the right and the lower one are the wider ones, by one.
-/

namespace LifeRom

structure Margins where
  left : Nat
  right : Nat
  top : Nat
  bottom : Nat
  deriving DecidableEq, Repr

namespace Margins

def centring (width height : Nat) : Margins :=
  let free := (side - width, side - height)
  ⟨free.1 / 2, free.1 - free.1 / 2, free.2 / 2, free.2 - free.2 / 2⟩

def centring? (width height : Nat) : Option Margins :=
  if width ≤ side ∧ height ≤ side then some (centring width height) else none

@[simp] theorem left_centring (width height : Nat) :
    (centring width height).left = (side - width) / 2 := rfl

@[simp] theorem top_centring (width height : Nat) :
    (centring width height).top = (side - height) / 2 := rfl

theorem left_centring_le (width height : Nat) : (centring width height).left ≤ side := by
  simp only [left_centring]; omega

theorem top_centring_le (width height : Nat) : (centring width height).top ≤ side := by
  simp only [top_centring]; omega

theorem left_add_right {width height : Nat} (h : width ≤ side) :
    (centring width height).left + width + (centring width height).right = side := by
  simp only [centring]; omega

theorem top_add_bottom {width height : Nat} (h : height ≤ side) :
    (centring width height).top + height + (centring width height).bottom = side := by
  simp only [centring]; omega

end Margins

end LifeRom
