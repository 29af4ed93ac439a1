import LifeRom.Proofs.Bank.Selection

/-! # Skipped sources

A source that is skipped takes no name and holds no place among the modules.
-/

namespace LifeRom.Bank

open Verilog

/-- The sources, counted from `start`, that do not stand at the positions `removed`. -/
def withoutFrom (removed : Nat → Prop) [DecidablePred removed] (start : Nat)
    (sources : List Source) : List Source :=
  ((sources.zipIdx start).filter fun p => ¬ removed p.2).map (·.1)

def without (removed : Nat → Prop) [DecidablePred removed] (sources : List Source) : List Source :=
  withoutFrom removed 0 sources

def entry (settings : Settings) (source : Source) : Skipped :=
  ⟨source.name, reason settings source⟩

variable {settings : Settings} {sources before rest : List Source} {source : Source}
  {taken : List String} {removed : Nat → Prop} [DecidablePred removed] {start : Nat}

theorem withoutFrom_cons_of_removed (h : removed start) (rest : List Source) :
    withoutFrom removed start (source :: rest) = withoutFrom removed (start + 1) rest := by
  rw [withoutFrom, List.zipIdx_cons, List.filter_cons_of_neg (by simpa using h), withoutFrom]

theorem withoutFrom_cons_of_not_removed (h : ¬ removed start) (rest : List Source) :
    withoutFrom removed start (source :: rest) =
      source :: withoutFrom removed (start + 1) rest := by
  rw [withoutFrom, List.zipIdx_cons, List.filter_cons_of_pos (by simpa using h), List.map_cons,
    withoutFrom]

theorem collect_withoutFrom (h : Tracks settings before taken) (hsources : before ++ rest = sources)
    (hremoved : ∀ p ∈ rest.zipIdx before.length, removed p.2 → ¬ IsKept settings sources p) :
    (collect taken ((withoutFrom removed before.length rest).map
        fun s => (s, s.emit settings))).value =
      { modules := (collect taken (rest.map fun s => (s, s.emit settings))).value.modules
        skipped := (((rest.zipIdx before.length).filter (¬ IsKept settings sources ·)).filter
          fun p => ¬ removed p.2).map fun p => entry settings p.1 } := by
  induction rest generalizing before taken with
  | nil => rfl
  | cons source rest ih =>
    have hkept := h.isKept_iff hsources
    rw [List.zipIdx_cons, List.forall_mem_cons] at hremoved
    have hlength : (before ++ [source]).length = before.length + 1 := by simp
    have hrest {taken' : List String} (h : Tracks settings (before ++ [source]) taken') :=
      hlength ▸ ih h (by simpa using hsources) (by simpa [hlength] using hremoved.2)
    rw [List.zipIdx_cons]
    by_cases hpos : IsKept settings sources (source, before.length)
    · obtain ⟨⟨m, hm⟩, hfree⟩ := hkept.mp hpos
      rw [withoutFrom_cons_of_not_removed fun hr => hremoved.1 hr hpos, List.map_cons,
        List.map_cons, collect_emit_of_not_mem hm hfree, collect_emit_of_not_mem hm hfree,
        hrest (h.concat ⟨m, hm⟩), List.filter_cons_of_neg (by simpa using hpos)]
      rfl
    · have hskip := not_and_not_right.mp (mt hkept.mpr hpos)
      rw [List.filter_cons_of_pos (by simpa using hpos), List.map_cons, collect_emit_of_mem hskip,
        modules_skip]
      by_cases hr : removed before.length
      · rw [withoutFrom_cons_of_removed hr, hrest (h.concat_of_mem hskip),
          List.filter_cons_of_neg (by simpa using hr)]
      · rw [withoutFrom_cons_of_not_removed hr, List.map_cons, collect_emit_of_mem hskip,
          hrest (h.concat_of_mem hskip), List.filter_cons_of_pos (by simpa using hr), List.map_cons]
        rfl

theorem ofSources_without
    (hremoved : ∀ p ∈ sources.zipIdx, removed p.2 → ¬ IsKept settings sources p) :
    ofSources settings (without removed sources) =
      { modules := (ofSources settings sources).modules
        skipped := ((sources.zipIdx.filter (¬ IsKept settings sources ·)).filter
          fun p => ¬ removed p.2).map fun p => entry settings p.1 } := by
  rw [ofSources_eq, ofSources_eq]
  exact collect_withoutFrom tracks_nil (List.nil_append sources) hremoved

/-- Without some of the sources that it skips, a bank holds the same modules and has the same
composite. It skips those that are left, in order and for the same reasons. -/
theorem skipped_leave_no_trace (settings : Settings) (sources : List Source)
    (removed : Nat → Prop) [DecidablePred removed]
    (hremoved : ∀ p ∈ sources.zipIdx, removed p.2 → ¬ IsKept settings sources p) :
    let bank := ofSources settings sources
    let left := ofSources settings (without removed sources)
    let others := sources.zipIdx.filter (¬ IsKept settings sources ·)
    bank.skipped = others.map (fun p => entry settings p.1) ∧
    left.modules = bank.modules ∧
    left.skipped =
      (others.filter fun p => ¬ removed p.2).map (fun p => entry settings p.1) ∧
    (∀ settings', left.compose settings' = bank.compose settings') ∧
    ((∀ p ∈ others, removed p.2) → left.skipped = []) := by
  intro bank left others
  have hleft : left = ⟨bank.modules, (others.filter fun p => ¬ removed p.2).map
      fun p => entry settings p.1⟩ := ofSources_without hremoved
  refine ⟨skipped_ofSources settings sources, ?_, ?_, fun settings' => ?_, fun hall => ?_⟩
  · rw [hleft]
  · rw [hleft]
  · rw [hleft]
    rfl
  · rw [hleft, List.map_eq_nil_iff, List.filter_eq_nil_iff]
    intro p hp
    simpa using hall p hp

/-- A document that is refused and a source with a name that is taken, removed from around those that
are kept; another that is refused is left. -/
theorem skipped_leave_no_trace_pair :
    let sources : List Source :=
      [⟨"a", .rle, "3o"⟩, ⟨"a", .plaintext, "O"⟩, ⟨"b", .rle, "x = 1, y = 1\n!"⟩,
        ⟨"a", .plaintext, "OO"⟩, ⟨"b", .plaintext, "?"⟩]
    let left := ofSources {} (without (· ∈ [0, 3]) sources)
    left.modules = (ofSources {} sources).modules ∧
      left.modules.map (·.name) = ["a", "b"] ∧
      left.skipped = [⟨"b", .reading "b" (.unexpectedSymbol '?' ⟨1, 1⟩)⟩] ∧
      left.compose {} = (ofSources {} sources).compose {} := by
  intro sources left
  have hremoved : ∀ p ∈ sources.zipIdx, p.2 ∈ [0, 3] → ¬ IsKept {} sources p := by decide +kernel
  obtain ⟨-, hmodules, hskipped, hcompose, -⟩ :=
    skipped_leave_no_trace {} sources (· ∈ [0, 3]) hremoved
  exact ⟨hmodules, by decide +kernel, hskipped.trans (by decide +kernel), hcompose {}⟩

end LifeRom.Bank
