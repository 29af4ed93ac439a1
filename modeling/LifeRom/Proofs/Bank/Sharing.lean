import LifeRom.Proofs.Bank.Kept

/-! # Banks of many workers -/

namespace LifeRom

def Settings.withWorkers (settings : Settings) (wanted : Nat) : Settings :=
  { settings with workers := wanted }

namespace Bank

variable (settings : Settings) (wanted : Nat) (sources : List Source)

theorem emit_withWorkers :
    Source.emit (settings.withWorkers wanted) = Source.emit settings := rfl

theorem compose_withWorkers (b : Bank) :
    b.compose (settings.withWorkers wanted) = b.compose settings := rfl

theorem emitAll_withWorkers :
    (emitAll (settings.withWorkers wanted) sources).value =
      sources.map (Source.emit settings) := by
  rw [value_emitAll, emit_withWorkers]

theorem ofSources_withWorkers :
    ofSources (settings.withWorkers wanted) sources = ofSources settings sources := by
  rw [ofSources_eq, ofSources_eq, emit_withWorkers]
  rfl

/-- The number of workers changes no result, no bank and no composite: they take stretches of equal
size, of which only the last may be shorter and none is empty. -/
theorem workers_change_nothing (settings : Settings) (wanted wanted' : Nat)
    (sources : List Source) :
    let one := settings.withWorkers wanted
    let other := settings.withWorkers wanted'
    let workers := Workers.count wanted sources.length
    let size := Workers.share sources.length workers
    let stretches := Workers.stretches size sources
    (emitAll one sources).value = (emitAll other sources).value ∧
    ofSources one sources = ofSources other sources ∧
    (ofSources one sources).compose one = (ofSources other sources).compose other ∧
    workers = max 1 (min wanted (max sources.length 1)) ∧ size = sources.length ⌈/⌉ workers ∧
    (1 < workers → 1 ≤ size) ∧ stretches.length ≤ workers ∧
    (∀ k, stretches[k]? = if k * size < sources.length then
      some ((sources.drop (k * size)).take size) else none) ∧
    (emitAll one sources).value = stretches.flatMap (List.map (Source.emit one)) := by
  intro one other workers size stretches
  have hworkers : 0 < workers := Workers.count_pos wanted sources.length
  refine ⟨?_, ?_, ?_, Workers.count_eq_clamp wanted _, Workers.share_eq_ceilDiv _ _, fun hmany => ?_,
    Workers.length_stretches_share_le hworkers sources,
    Workers.getElem?_stretches_share hworkers sources, ?_⟩
  · rw [emitAll_withWorkers, emitAll_withWorkers]
  · rw [ofSources_withWorkers, ofSources_withWorkers]
  · rw [compose_withWorkers, compose_withWorkers, ofSources_withWorkers, ofSources_withWorkers]
  · exact Workers.share_pos (Workers.length_pos_of_one_lt_count hmany) hworkers
  · rw [value_emitAll, List.flatMap, ← List.map_flatten, Workers.flatten_stretches]

end Bank

end LifeRom
