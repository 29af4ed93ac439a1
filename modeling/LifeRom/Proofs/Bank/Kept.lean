import Mathlib.Data.List.Forall2
import LifeRom.Bank
import LifeRom.Proofs.Workers

/-! # Kept sources -/

namespace LifeRom.Bank

open Verilog

/-- The sources that are kept if the names `taken` are not free. -/
def keptFrom (taken : List String) : List Source → List Source
  | [] => []
  | source :: rest =>
    match source.lookup with
    | .ok l =>
      if l.name ∈ taken then keptFrom taken rest
      else source :: keptFrom (l.name :: taken) rest
    | .error _ => keptFrom taken rest

def kept (settings : Settings) (sources : List Source) : List Source :=
  keptFrom [settings.selectorName] sources

variable {settings : Settings}

theorem value_emitAll (settings : Settings) (sources : List Source) :
    (emitAll settings sources).value = sources.map (Source.emit settings) := by
  simp [emitAll, Workers.map_eq, Function.comp_def]

theorem ofSources_eq (sources : List Source) :
    ofSources settings sources =
      (collect [settings.selectorName] (sources.map fun s => (s, s.emit settings))).value := by
  rw [ofSources, ofSourcesLogged, Logged.value_bind, value_emitAll, List.map_prod_left_eq_zip]

@[simp] theorem modules_keep (m : Module) (b : Bank) : (keep m b).modules = m :: b.modules := rfl

@[simp] theorem skipped_keep (m : Module) (b : Bank) : (keep m b).skipped = b.skipped := rfl

@[simp] theorem modules_skip (s : Skipped) (b : Bank) : (skip s b).modules = b.modules := rfl

@[simp] theorem skipped_skip (s : Skipped) (b : Bank) : (skip s b).skipped = s :: b.skipped := rfl

theorem collect_cons_of_not_mem {taken : List String} {m : Module} (h : m.name ∉ taken)
    (source : Source) (rest : List (Source × Except Failure Module)) :
    (collect taken ((source, .ok m) :: rest)).value =
      keep m (collect (m.name :: taken) rest).value := by
  have haccept : (Except.ok m >>= accept taken) = .ok m := if_neg h
  rw [collect, haccept, Logged.value_map]

theorem collect_cons_of_mem {taken : List String} {m : Module} (h : m.name ∈ taken)
    (source : Source) (rest : List (Source × Except Failure Module)) :
    (collect taken ((source, .ok m) :: rest)).value =
      skip ⟨source.name, .nameTaken m.name⟩ (collect taken rest).value := by
  have haccept : (Except.ok m >>= accept taken) = .error (.nameTaken m.name) := if_pos h
  rw [collect, haccept, Logged.value_bind, Logged.value_map]

theorem collect_cons_error (taken : List String) (failure : Failure) (source : Source)
    (rest : List (Source × Except Failure Module)) :
    (collect taken ((source, .error failure) :: rest)).value =
      skip ⟨source.name, failure⟩ (collect taken rest).value :=
  rfl

theorem exists_lookups (settings : Settings) (taken : List String) (sources : List Source) :
    ∃ ls : List Lookup,
      List.Forall₂ (fun source l => source.lookup = .ok l) (keptFrom taken sources) ls ∧
      (collect taken (sources.map fun s => (s, s.emit settings))).value.modules =
        ls.map (·.emit settings) := by
  induction sources generalizing taken with
  | nil => exact ⟨[], .nil, rfl⟩
  | cons source rest ih =>
    rw [List.map_cons, keptFrom, Source.emit]
    cases hlookup : source.lookup with
    | error e => exact ih taken
    | ok l =>
      by_cases hname : l.name ∈ taken
      · obtain ⟨ls, hls, hmodules⟩ := ih taken
        refine ⟨ls, by simpa [hname] using hls, ?_⟩
        rw [← hmodules]
        show (collect taken ((source, .ok (l.emit settings)) :: _)).value.modules = _
        rw [collect_cons_of_mem hname, modules_skip]
      · obtain ⟨ls, hls, hmodules⟩ := ih (l.name :: taken)
        refine ⟨l :: ls, by simpa [hname, hlookup] using hls, ?_⟩
        rw [List.map_cons, ← hmodules]
        show (collect taken ((source, .ok (l.emit settings)) :: _)).value.modules = _
        rw [collect_cons_of_not_mem hname, modules_keep]
        rfl

theorem names_lookups {sources : List Source} {ls : List Lookup}
    (h : List.Forall₂ (fun source l => source.lookup = .ok l) sources ls) :
    ls.map (·.name) = sources.map fun source => identifierOf source.name := by
  induction h with
  | nil => rfl
  | cons hlookup _ ih =>
    rw [List.map_cons, List.map_cons, ih, (Source.lookup_eq_ok_iff.mp hlookup).2]

theorem emit_lookups (settings : Settings) {sources : List Source} {ls : List Lookup}
    (h : List.Forall₂ (fun source l => source.lookup = .ok l) sources ls) :
    sources.map (Source.emit settings) = ls.map fun l => .ok (l.emit settings) := by
  induction h with
  | nil => rfl
  | cons hlookup _ ih =>
    rw [List.map_cons, List.map_cons, ih, Source.emit_eq_ok_iff.mpr ⟨_, hlookup, rfl⟩]

end LifeRom.Bank
