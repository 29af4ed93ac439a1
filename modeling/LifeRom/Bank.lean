import LifeRom.Source
import LifeRom.Verilog.Composite
import LifeRom.Workers

/-! # Banks

A source that cannot be emitted, or whose name is not free, is skipped and harms no other.
-/

namespace LifeRom

open Verilog

structure Skipped where
  name : String
  failure : Failure
  deriving DecidableEq, Repr

structure Bank where
  modules : List Module := []
  skipped : List Skipped := []
  deriving DecidableEq, Repr

namespace Bank

def keep (m : Module) (b : Bank) : Bank := { b with modules := m :: b.modules }

def skip (s : Skipped) (b : Bank) : Bank := { b with skipped := s :: b.skipped }

def accept (taken : List String) (m : Module) : Except Failure Module :=
  if m.name ∈ taken then .error (.nameTaken m.name) else .ok m

/-- Goes through the sources and their results with the names that are not free. -/
def collect (taken : List String) : List (Source × Except Failure Module) → Logged Bank
  | [] => pure {}
  | (source, result) :: rest =>
    match result >>= accept taken with
    | .ok m => keep m <$> collect (m.name :: taken) rest
    | .error failure => do
      Logged.report (.skipped source.name failure)
      skip ⟨source.name, failure⟩ <$> collect taken rest

def emitAll (settings : Settings) (sources : List Source) :
    Logged (List (Except Failure Module)) :=
  Logged.all (Workers.map settings.workers (Source.emitLogged settings) sources)

/-- The name of the selector is taken from the start. -/
def ofSourcesLogged (settings : Settings) (sources : List Source) : Logged Bank := do
  let results ← emitAll settings sources
  collect [settings.selectorName] (sources.zip results)

def ofSources (settings : Settings) (sources : List Source) : Bank :=
  (ofSourcesLogged settings sources).value

def composeLogged (settings : Settings) (b : Bank) : Logged (Except Failure String) :=
  match Verilog.compose settings b.modules with
  | .ok text => do
    Logged.report (.composed settings.selectorName b.modules.length)
    return .ok text
  | .error fault => pure (.error (.composition settings.selectorName fault))

def compose (settings : Settings) (b : Bank) : Except Failure String :=
  (composeLogged settings b).value

theorem compose_eq_ok_iff {settings : Settings} {b : Bank} {text : String} :
    b.compose settings = .ok text ↔ Verilog.compose settings b.modules = .ok text := by
  unfold compose composeLogged
  cases Verilog.compose settings b.modules <;> simp

end Bank

end LifeRom
