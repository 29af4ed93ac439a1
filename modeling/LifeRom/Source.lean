import LifeRom.Format
import LifeRom.Layout
import LifeRom.Log
import LifeRom.Verilog.Lookup

/-! # Sources -/

namespace LifeRom

open Verilog

structure Source where
  name : String
  format : Format
  text : String
  deriving DecidableEq, Repr

namespace Source

def grid (s : Source) : Except Failure Grid := do
  let pattern ← (s.format.read s.text).mapError (.reading s.name)
  pattern.layOut.mapError (.layout s.name)

def lookup (s : Source) : Except Failure Lookup := do
  let grid ← s.grid
  (Lookup.ofGrid (identifierOf s.name) grid).mapError .naming

def emit (settings : Settings) (s : Source) : Except Failure Module :=
  (·.emit settings) <$> s.lookup

def emitLogged (settings : Settings) (s : Source) : Logged (Except Failure Module) :=
  match s.lookup with
  | .ok l => ⟨.ok (l.emit settings), [.generated l.name l.grid.population]⟩
  | .error e => ⟨.error e, []⟩

@[simp] theorem value_emitLogged (settings : Settings) (s : Source) :
    (s.emitLogged settings).value = s.emit settings := by
  unfold emitLogged emit
  cases s.lookup <;> rfl

theorem grid_eq_ok_iff {s : Source} {grid : Grid} :
    s.grid = .ok grid ↔
      ∃ pattern, s.format.read s.text = .ok pattern ∧ pattern.layOut = .ok grid := by
  simp only [Source.grid, bind_eq_ok_iff, mapError_eq_ok_iff]

theorem lookup_eq_ok_iff {s : Source} {l : Lookup} :
    s.lookup = .ok l ↔ s.grid = .ok l.grid ∧ l.name = identifierOf s.name := by
  simp only [lookup, bind_eq_ok_iff, mapError_eq_ok_iff, Lookup.ofGrid_eq_ok_iff]
  constructor
  · rintro ⟨grid, hgrid, hname, rfl⟩
    exact ⟨hgrid, hname⟩
  · rintro ⟨hgrid, hname⟩
    exact ⟨l.grid, hgrid, hname, rfl⟩

theorem emit_eq_ok_iff {settings : Settings} {s : Source} {m : Module} :
    s.emit settings = .ok m ↔ ∃ l, s.lookup = .ok l ∧ l.emit settings = m := by
  rw [emit]
  cases s.lookup with
  | error e => simp [Functor.map, Except.map]
  | ok l => simp [Functor.map, Except.map]

theorem name_of_emit {settings : Settings} {s : Source} {m : Module}
    (h : s.emit settings = .ok m) : m.name = identifierOf s.name := by
  obtain ⟨l, hl, rfl⟩ := emit_eq_ok_iff.mp h
  exact (lookup_eq_ok_iff.mp hl).2

end Source

end LifeRom
