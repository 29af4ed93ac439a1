import LifeRom.Proofs.Bank.Selection
import LifeRom.Proofs.Bank.Sharing
import LifeRom.Proofs.Source
import LifeRom.Proofs.Verilog.Table

/-! # Reports of a bank

Every source is accounted for once: by its table, or else by the failure that kept it from one.
-/

namespace LifeRom

open Verilog

def Verilog.Module.aliveArms (m : Module) : Nat :=
  (Arm.ofText m.text).countP Arm.value

theorem Verilog.Lookup.aliveArms_emit (settings : Settings) (l : Lookup) :
    (l.emit settings).aliveArms = l.grid.population := by
  unfold Module.aliveArms
  simp [Lookup.ofText_emit, Grid.population_eq_length, Arm.value, List.countP_map,
    Function.comp_def]

namespace Source

variable {settings : Settings} {source : Source} {failure : Failure} {e : Event}

def report? (settings : Settings) (source : Source) : Option Event :=
  match source.emit settings with
  | .ok m => some (.generated m.name m.aliveArms)
  | .error _ => none

theorem report?_eq_some_iff :
    source.report? settings = some e ↔
      ∃ m, source.emit settings = .ok m ∧ e = .generated m.name m.aliveArms := by
  unfold report?
  cases source.emit settings <;> simp [eq_comm]

theorem isSome_report?_iff : (source.report? settings).isSome ↔ source.Emits settings := by
  unfold report? Emits
  cases source.emit settings <;> simp

theorem events_emitLogged (settings : Settings) (source : Source) :
    (source.emitLogged settings).events = (source.report? settings).toList := by
  unfold emitLogged report? emit
  cases source.lookup with
  | error e => rfl
  | ok l =>
    exact congrArg (fun n => [Event.generated l.name n]) (Lookup.aliveArms_emit settings l).symm

theorem isSome_fault?_of_emit (h : source.emit settings = .error failure) :
    failure.fault?.isSome := by
  rcases grid_eq_error_iff.mp (emit_eq_error_iff.mp h) with ⟨e, -, rfl⟩ | ⟨p, -, e, -, rfl⟩
  · rfl
  · rfl

end Source

def Skipped.report (s : Skipped) : Event := .skipped s.name s.failure

def Event.isRefusal : Event → Bool
  | .skipped _ failure => failure.fault?.isSome
  | .generated .. | .composed .. => false

namespace Bank

variable {settings : Settings} {sources : List Source} {b : Bank} {e : Event}

def report? (settings : Settings) (b : Bank) : Option Event :=
  match b.compose settings with
  | .ok _ => some (.composed settings.selectorName b.modules.length)
  | .error _ => none

theorem report?_eq_some_iff :
    b.report? settings = some e ↔
      (∃ text, b.compose settings = .ok text) ∧
        e = .composed settings.selectorName b.modules.length := by
  unfold report?
  cases b.compose settings <;> simp [eq_comm]

theorem events_emitAll (settings : Settings) (sources : List Source) :
    (emitAll settings sources).events = sources.filterMap (Source.report? settings) := by
  simp [emitAll, Workers.map_eq, List.flatMap_map, Source.events_emitLogged,
    List.filterMap_eq_flatMap_toList]

theorem events_collect (taken : List String) (results : List (Source × Except Failure Module)) :
    (collect taken results).events = (collect taken results).value.skipped.map Skipped.report := by
  induction results generalizing taken with
  | nil => rfl
  | cons r rest ih =>
    obtain ⟨source, result⟩ := r
    unfold collect
    cases result >>= accept taken with
    | ok m => simp [ih]
    | error failure => simp [ih, Skipped.report]

theorem events_ofSourcesLogged (settings : Settings) (sources : List Source) :
    (ofSourcesLogged settings sources).events =
      sources.filterMap (Source.report? settings) ++
        (ofSources settings sources).skipped.map Skipped.report := by
  unfold ofSources ofSourcesLogged
  simp [events_emitAll, events_collect]

theorem events_composeLogged (settings : Settings) (b : Bank) :
    (composeLogged settings b).events = (b.report? settings).toList := by
  unfold report? compose composeLogged
  cases Verilog.compose settings b.modules <;> simp

theorem count_collect (taken : List String) (sources : List Source) :
    let bank := (collect taken (sources.map fun s => (s, s.emit settings))).value
    bank.modules.length + bank.skipped.countP (·.failure.fault? = none) =
        sources.countP (Source.Emits settings ·) ∧
      bank.skipped.countP (·.failure.fault?.isSome) =
        sources.countP (¬ Source.Emits settings ·) := by
  induction sources generalizing taken with
  | nil => exact ⟨rfl, rfl⟩
  | cons source rest ih =>
    rw [List.map_cons]
    cases hm : source.emit settings with
    | error failure =>
      have hfault := Source.isSome_fault?_of_emit hm
      have hsome : failure.fault? ≠ none := Option.isSome_iff_ne_none.mp hfault
      have hemits : ¬ source.Emits settings := by
        rintro ⟨m, h⟩
        cases hm.symm.trans h
      obtain ⟨hmade, hrefused⟩ := ih taken
      constructor
      · simpa [collect_cons_error, hsome, hemits] using hmade
      · simpa [collect_cons_error, hfault, hemits] using hrefused
    | ok m =>
      have hemits : source.Emits settings := ⟨m, hm⟩
      by_cases hname : m.name ∈ taken
      · have hnone : (Failure.nameTaken m.name).fault? = none := rfl
        obtain ⟨hmade, hrefused⟩ := ih taken
        constructor
        · simp [collect_cons_of_mem hname, hnone, hemits, ← hmade, Nat.add_assoc]
        · simpa [collect_cons_of_mem hname, hnone, hemits] using hrefused
      · obtain ⟨hmade, hrefused⟩ := ih (m.name :: taken)
        constructor
        · simp [collect_cons_of_not_mem hname, hemits, ← hmade, Nat.add_right_comm]
        · simpa [collect_cons_of_not_mem hname, hemits] using hrefused

theorem count_ofSources (settings : Settings) (sources : List Source) :
    let bank := ofSources settings sources
    bank.modules.length + bank.skipped.countP (·.failure.fault? = none) =
        sources.countP (Source.Emits settings ·) ∧
      bank.skipped.countP (·.failure.fault?.isSome) =
        sources.countP (¬ Source.Emits settings ·) := by
  rw [ofSources_eq]
  exact count_collect [settings.selectorName] sources

theorem of_mem_tables (h : e ∈ sources.filterMap (Source.report? settings)) :
    e.level = .debug ∧ e.message = "generated case table" ∧ e.isRefusal = false := by
  obtain ⟨source, -, he⟩ := List.mem_filterMap.mp h
  obtain ⟨m, -, rfl⟩ := Source.report?_eq_some_iff.mp he
  exact ⟨rfl, rfl, rfl⟩

theorem of_mem_composite (h : e ∈ (b.report? settings).toList) :
    e.level = .info ∧ e.message = "assembled composite" ∧ e.isRefusal = false := by
  obtain ⟨-, rfl⟩ := report?_eq_some_iff.mp (Option.mem_toList.mp h)
  exact ⟨rfl, rfl, rfl⟩

theorem countP_tables (settings : Settings) (sources : List Source) :
    (sources.filterMap (Source.report? settings)).countP (·.level = .debug) =
      sources.countP (Source.Emits settings ·) := by
  have hall : ∀ e ∈ sources.filterMap (Source.report? settings),
      decide (e.level = .debug) = true := fun e he => decide_eq_true (of_mem_tables he).1
  rw [List.countP_eq_length.mpr hall, List.length_filterMap_eq_countP]
  refine List.countP_congr fun source _ => ?_
  simp [Source.isSome_report?_iff]

/-- What is reported while a bank is made and then composed. -/
def log (settings : Settings) (sources : List Source) : List Event :=
  (ofSourcesLogged settings sources >>= composeLogged settings).events

variable (settings sources)

theorem log_eq :
    log settings sources =
      sources.filterMap (Source.report? settings) ++
        (ofSources settings sources).skipped.map Skipped.report ++
        ((ofSources settings sources).report? settings).toList := by
  unfold log ofSources
  rw [Logged.events_bind, events_ofSourcesLogged, events_composeLogged]
  rfl

theorem countP_log_debug :
    (log settings sources).countP (·.level = .debug) =
      sources.countP (Source.Emits settings ·) := by
  let bank := ofSources settings sources
  have hskipped : (bank.skipped.map Skipped.report).countP (·.level = .debug) = 0 := by
    simp [Skipped.report, Event.level]
  have hcomposite : (bank.report? settings).toList.countP (·.level = .debug) = 0 :=
    List.countP_eq_zero.mpr fun e he => by simp [(of_mem_composite he).1]
  rw [log_eq, List.countP_append, List.countP_append, countP_tables, hskipped, hcomposite,
    Nat.add_zero]

theorem countP_log_isRefusal :
    (log settings sources).countP (·.isRefusal) =
      sources.countP (¬ Source.Emits settings ·) := by
  let bank := ofSources settings sources
  have htables : (sources.filterMap (Source.report? settings)).countP (·.isRefusal) = 0 :=
    List.countP_eq_zero.mpr fun e he => by simp [(of_mem_tables he).2.2]
  have hskipped : (bank.skipped.map Skipped.report).countP (·.isRefusal) =
      bank.skipped.countP (·.failure.fault?.isSome) :=
    List.countP_map ..
  have hcomposite : (bank.report? settings).toList.countP (·.isRefusal) = 0 :=
    List.countP_eq_zero.mpr fun e he => by simp [(of_mem_composite he).2.2]
  rw [log_eq, List.countP_append, List.countP_append, htables, hskipped, hcomposite,
    Nat.zero_add, Nat.add_zero]
  exact (count_ofSources settings sources).2

/-- The log holds the tables of the sources that can be emitted, then what is skipped, then the
composite; the tables and the sources that cannot be emitted are as many as all sources. -/
theorem reports_account (settings : Settings) (sources : List Source) :
    let one := settings.withWorkers 1
    let bank := ofSources one sources
    log one sources =
        sources.filterMap (Source.report? one) ++ bank.skipped.map Skipped.report ++
          (bank.report? one).toList ∧
      (log one sources).map (fun e => (e.level, e.message)) =
        (sources.filterMap (Source.report? one)).map (fun _ => (.debug, "generated case table")) ++
          bank.skipped.map (fun s => (.warn, "skipping pattern: " ++ s.failure.message)) ++
          (bank.report? one).toList.map (fun _ => (.info, "assembled composite")) ∧
      (log one sources).countP (·.level = .debug) =
        bank.modules.length + bank.skipped.countP (·.failure.fault? = none) ∧
      (log one sources).countP (·.level = .debug) + (log one sources).countP (·.isRefusal) =
        sources.length := by
  intro one bank
  refine ⟨log_eq one sources, ?_, ?_, ?_⟩
  · simp only [log_eq, List.map_append, List.map_map]
    congr 1
    · congr 1
      exact List.map_congr_left fun e he =>
        Prod.ext (of_mem_tables he).1 (of_mem_tables he).2.1
    · exact List.map_congr_left fun e he =>
        Prod.ext (of_mem_composite he).1 (of_mem_composite he).2.1
  · exact (countP_log_debug one sources).trans (count_ofSources one sources).1.symm
  · rw [countP_log_debug, countP_log_isRefusal]
    simpa using (List.length_eq_countP_add_countP (Source.Emits one ·) (l := sources)).symm

end Bank

end LifeRom
