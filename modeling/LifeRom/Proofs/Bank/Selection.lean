import Mathlib.Data.List.Induction
import LifeRom.Proofs.Bank.Kept

/-! # Selection

A name is taken by the selector or by the first source that can be emitted under it.
-/

namespace LifeRom

open Verilog

namespace Source

variable {settings : Settings} {source : Source}

/-- The source can be emitted. -/
def Emits (settings : Settings) (source : Source) : Prop := ∃ m, source.emit settings = .ok m

instance : Decidable (Emits settings source) :=
  match h : source.emit settings with
  | .ok m => isTrue ⟨m, h⟩
  | .error _ => isFalse fun ⟨m, hm⟩ => by cases h.symm.trans hm

end Source

namespace Bank

/-- The name of the selector, and those under which sources can be emitted. -/
def Taken (settings : Settings) (sources : List Source) (name : String) : Prop :=
  name = settings.selectorName ∨
    ∃ source ∈ sources, source.Emits settings ∧ identifierOf source.name = name

instance (settings : Settings) (sources : List Source) :
    DecidablePred (Taken settings sources) := fun _ => inferInstanceAs (Decidable (_ ∨ _))

/-- A source, given with its position, is kept if it can be emitted and its name is not taken by the
sources before it. -/
def IsKept (settings : Settings) (sources : List Source) (p : Source × Nat) : Prop :=
  p.1.Emits settings ∧ ¬ Taken settings (sources.take p.2) (identifierOf p.1.name)

instance (settings : Settings) (sources : List Source) :
    DecidablePred (IsKept settings sources) := fun _ => inferInstanceAs (Decidable (_ ∧ _))

/-- Why the source is skipped: its own failure, or its name. -/
def reason (settings : Settings) (source : Source) : Failure :=
  match source.emit settings with
  | .error failure => failure
  | .ok _ => .nameTaken (identifierOf source.name)

variable {settings : Settings} {sources before rest : List Source} {source : Source} {name : String}
  {taken : List String} {i : Nat}

theorem taken_concat :
    Taken settings (before ++ [source]) name ↔
      Taken settings before name ∨ source.Emits settings ∧ identifierOf source.name = name := by
  simp only [Taken, List.mem_append, List.mem_singleton, or_and_right, exists_or, exists_eq_left,
    or_assoc]

theorem taken_iff_exists_isKept :
    Taken settings before name ↔ name = settings.selectorName ∨
      ∃ j earlier, before[j]? = some earlier ∧ IsKept settings before (earlier, j) ∧
        identifierOf earlier.name = name := by
  constructor
  · intro h
    induction before using List.reverseRecOn with
    | nil => simpa [Taken] using h
    | append_singleton before source ih =>
      by_cases hbefore : Taken settings before name
      · refine (ih hbefore).imp_right fun ⟨j, earlier, hj, hkept, hname⟩ => ?_
        have hlt := (List.getElem?_eq_some_iff.mp hj).1
        refine ⟨j, earlier, by rwa [List.getElem?_append_left hlt], ?_, hname⟩
        rwa [IsKept, List.take_append_of_le_length (Nat.le_of_lt hlt)]
      · obtain ⟨hemits, rfl⟩ := (taken_concat.mp h).resolve_left hbefore
        refine Or.inr ⟨before.length, source, by simp, ⟨hemits, ?_⟩, rfl⟩
        rwa [List.take_left']
        rfl
  · rintro (h | ⟨j, earlier, hj, hkept, hname⟩)
    · exact Or.inl h
    · exact Or.inr ⟨earlier, List.mem_of_getElem? hj, hkept.1, hname⟩

/-- Each source is kept or not according to those kept before it. -/
theorem isKept_iff :
    IsKept settings sources (source, i) ↔
      source.Emits settings ∧ identifierOf source.name ≠ settings.selectorName ∧
        ∀ j < i, ∀ earlier, sources[j]? = some earlier → IsKept settings sources (earlier, j) →
          identifierOf earlier.name ≠ identifierOf source.name := by
  rw [IsKept, taken_iff_exists_isKept, not_or]
  refine and_congr_right fun _ => and_congr_right fun _ => ?_
  constructor
  · intro h j hj earlier hearlier hkept hname
    refine h ⟨j, earlier, by rwa [List.getElem?_take_of_lt hj], ?_, hname⟩
    rwa [IsKept, List.take_take, Nat.min_eq_left (Nat.le_of_lt hj)]
  · rintro h ⟨j, earlier, hearlier, hkept, hname⟩
    obtain ⟨hj, -⟩ := List.getElem?_eq_some_iff.mp hearlier
    have hji : j < i := Nat.lt_of_lt_of_le hj (List.length_take_le _ _)
    rw [List.getElem?_take_of_lt hji] at hearlier
    rw [IsKept, List.take_take, Nat.min_eq_left (Nat.le_of_lt hji)] at hkept
    exact h j hji earlier hearlier hkept hname

/-- The list holds the names taken by the sources. -/
def Tracks (settings : Settings) (before : List Source) (taken : List String) : Prop :=
  ∀ name, name ∈ taken ↔ Taken settings before name

theorem tracks_nil : Tracks settings [] [settings.selectorName] := by
  intro name
  simp [Taken]

theorem Tracks.concat (h : Tracks settings before taken) (hemits : source.Emits settings) :
    Tracks settings (before ++ [source]) (identifierOf source.name :: taken) := by
  intro name
  rw [taken_concat, List.mem_cons, h name, or_comm, eq_comm, and_iff_right hemits]

theorem Tracks.concat_of_mem (h : Tracks settings before taken)
    (hskip : source.Emits settings → identifierOf source.name ∈ taken) :
    Tracks settings (before ++ [source]) taken := by
  intro name
  rw [taken_concat, h name]
  refine (or_iff_left_of_imp ?_).symm
  rintro ⟨hemits, rfl⟩
  exact (h _).mp (hskip hemits)

theorem Tracks.isKept_iff (h : Tracks settings before taken)
    (hsources : before ++ source :: rest = sources) :
    IsKept settings sources (source, before.length) ↔
      source.Emits settings ∧ identifierOf source.name ∉ taken := by
  rw [IsKept, ← hsources, List.take_left, h]

theorem keptFrom_cons_of_not_mem (hemits : source.Emits settings)
    (hfree : identifierOf source.name ∉ taken) (rest : List Source) :
    keptFrom taken (source :: rest) =
      source :: keptFrom (identifierOf source.name :: taken) rest := by
  obtain ⟨m, hm⟩ := hemits
  obtain ⟨l, hl, -⟩ := Source.emit_eq_ok_iff.mp hm
  simp only [keptFrom, hl, (Source.lookup_eq_ok_iff.mp hl).2, hfree, if_false]

theorem keptFrom_cons_of_mem (h : source.Emits settings → identifierOf source.name ∈ taken)
    (rest : List Source) : keptFrom taken (source :: rest) = keptFrom taken rest := by
  cases hl : source.lookup with
  | error e => simp only [keptFrom, hl]
  | ok l =>
    have htaken : l.name ∈ taken := by
      rw [(Source.lookup_eq_ok_iff.mp hl).2]
      exact h ⟨_, Source.emit_eq_ok_iff.mpr ⟨l, hl, rfl⟩⟩
    simp only [keptFrom, hl, htaken, if_true]

theorem collect_emit_of_not_mem {m : Module} (hm : source.emit settings = .ok m)
    (hfree : identifierOf source.name ∉ taken) (rest : List (Source × Except Failure Module)) :
    (collect taken ((source, source.emit settings) :: rest)).value =
      keep m (collect (identifierOf source.name :: taken) rest).value := by
  have hname := Source.name_of_emit hm
  rw [hm, collect_cons_of_not_mem (by rwa [hname]), hname]

theorem collect_emit_of_mem (h : source.Emits settings → identifierOf source.name ∈ taken)
    (rest : List (Source × Except Failure Module)) :
    (collect taken ((source, source.emit settings) :: rest)).value =
      skip ⟨source.name, reason settings source⟩ (collect taken rest).value := by
  cases hm : source.emit settings with
  | error failure => rw [collect_cons_error, reason, hm]
  | ok m =>
    have hname := Source.name_of_emit hm
    have htaken : m.name ∈ taken := hname ▸ h ⟨m, hm⟩
    rw [collect_cons_of_mem htaken, reason, hm, hname]

theorem skipped_collect_of_not_mem (hemits : source.Emits settings)
    (hfree : identifierOf source.name ∉ taken) (rest : List (Source × Except Failure Module)) :
    (collect taken ((source, source.emit settings) :: rest)).value.skipped =
      (collect (identifierOf source.name :: taken) rest).value.skipped := by
  obtain ⟨m, hm⟩ := hemits
  rw [collect_emit_of_not_mem hm hfree, skipped_keep]

theorem skipped_collect_of_mem (h : source.Emits settings → identifierOf source.name ∈ taken)
    (rest : List (Source × Except Failure Module)) :
    (collect taken ((source, source.emit settings) :: rest)).value.skipped =
      ⟨source.name, reason settings source⟩ :: (collect taken rest).value.skipped := by
  rw [collect_emit_of_mem h, skipped_skip]

/-- What is kept and what is skipped of the sources behind those that took the names. -/
theorem selection_of_tracks (h : Tracks settings before taken)
    (hsources : before ++ rest = sources) :
    keptFrom taken rest =
      ((rest.zipIdx before.length).filter (IsKept settings sources ·)).map (·.1) ∧
    (collect taken (rest.map fun s => (s, s.emit settings))).value.skipped =
      ((rest.zipIdx before.length).filter (¬ IsKept settings sources ·)).map
        fun p => ⟨p.1.name, reason settings p.1⟩ := by
  -- on the sources to come; what the list `taken` says of those behind is carried along
  induction rest generalizing before taken with
  | nil => exact ⟨rfl, rfl⟩
  | cons source rest ih =>
    have hkept := h.isKept_iff hsources
    have hnext : before ++ [source] ++ rest = sources := by
      rw [List.append_assoc, List.singleton_append, hsources]
    rw [List.map_cons, List.zipIdx_cons]
    by_cases hpos : source.Emits settings ∧ identifierOf source.name ∉ taken
    · have ih := ih (h.concat hpos.1) hnext
      rw [List.length_append, List.length_singleton] at ih
      simp only [keptFrom_cons_of_not_mem hpos.1 hpos.2, skipped_collect_of_not_mem hpos.1 hpos.2,
        ih, List.filter_cons, hkept.mpr hpos]
      simp
    · have hskip := not_and_not_right.mp hpos
      have ih := ih (h.concat_of_mem hskip) hnext
      rw [List.length_append, List.length_singleton] at ih
      simp only [keptFrom_cons_of_mem hskip, skipped_collect_of_mem hskip, ih, List.filter_cons,
        mt hkept.mp hpos]
      simp

theorem kept_eq (settings : Settings) (sources : List Source) :
    kept settings sources = (sources.zipIdx.filter (IsKept settings sources ·)).map (·.1) :=
  (selection_of_tracks tracks_nil (List.nil_append sources)).1

theorem skipped_ofSources (settings : Settings) (sources : List Source) :
    (ofSources settings sources).skipped =
      (sources.zipIdx.filter (¬ IsKept settings sources ·)).map
        fun p => ⟨p.1.name, reason settings p.1⟩ := by
  rw [ofSources_eq]
  exact (selection_of_tracks tracks_nil (List.nil_append sources)).2

theorem modules_ofSources (settings : Settings) (sources : List Source) :
    (ofSources settings sources).modules.map .ok =
      (kept settings sources).map (Source.emit settings) ∧
    (ofSources settings sources).modules.map (·.name) =
      (kept settings sources).map fun source => identifierOf source.name := by
  obtain ⟨ls, hls, hmodules⟩ := exists_lookups settings [settings.selectorName] sources
  rw [ofSources_eq, hmodules, List.map_map, List.map_map, kept, emit_lookups settings hls,
    ← names_lookups hls]
  exact ⟨rfl, rfl⟩

theorem keptFrom_filter_emits (settings : Settings) (taken : List String) (sources : List Source) :
    keptFrom taken (sources.filter (Source.Emits settings ·)) = keptFrom taken sources := by
  induction sources generalizing taken with
  | nil => rfl
  | cons source rest ih =>
    by_cases hemits : source.Emits settings
    · rw [List.filter_cons_of_pos (by simpa using hemits)]
      by_cases hname : identifierOf source.name ∈ taken
      · have hskip : source.Emits settings → identifierOf source.name ∈ taken := fun _ => hname
        rw [keptFrom_cons_of_mem hskip, keptFrom_cons_of_mem hskip, ih]
      · rw [keptFrom_cons_of_not_mem hemits hname, keptFrom_cons_of_not_mem hemits hname, ih]
    · rw [List.filter_cons_of_neg (by simpa using hemits),
        keptFrom_cons_of_mem fun h => absurd h hemits, ih]

theorem nodup_names_kept (settings : Settings) (sources : List Source) :
    ((kept settings sources).map fun source => identifierOf source.name).Nodup := by
  have hpositions : sources.zipIdx.Pairwise fun p q => p.2 < q.2 := by
    rw [← List.pairwise_map, List.zipIdx_map_snd]
    exact List.pairwise_lt_range'
  rw [kept_eq, List.map_map, List.Nodup, List.pairwise_map]
  refine (hpositions.filter _).imp_of_mem fun {p q} hp hq hlt => ?_
  simp only [List.mem_filter, decide_eq_true_eq] at hp hq
  have hearlier : sources[p.2]? = some p.1 := List.mem_zipIdx_iff_getElem?.mp hp.1
  exact (isKept_iff.mp hq.2).2.2 p.2 hlt p.1 hearlier hp.2

theorem selectorName_not_mem_kept (settings : Settings) (sources : List Source) :
    settings.selectorName ∉ (kept settings sources).map fun source => identifierOf source.name := by
  rw [kept_eq, List.map_map, List.mem_map]
  rintro ⟨p, hp, hname⟩
  simp only [List.mem_filter, decide_eq_true_eq] at hp
  exact (isKept_iff.mp hp.2).2.1 hname

/-- A bank keeps exactly the sources that can be emitted under a name that is neither that of the
selector nor that of a source kept before, and it skips all others for their reasons. -/
theorem ofSources_selects (settings : Settings) (sources : List Source) :
    let bank := ofSources settings sources
    let chosen := sources.zipIdx.filter (IsKept settings sources ·)
    let others := sources.zipIdx.filter (¬ IsKept settings sources ·)
    (∀ source i, IsKept settings sources (source, i) ↔
      source.Emits settings ∧ identifierOf source.name ≠ settings.selectorName ∧
        ∀ j < i, ∀ earlier, sources[j]? = some earlier → IsKept settings sources (earlier, j) →
          identifierOf earlier.name ≠ identifierOf source.name) ∧
    bank.modules.map .ok = chosen.map (fun p => p.1.emit settings) ∧
    bank.skipped = others.map (fun p => ⟨p.1.name, reason settings p.1⟩) ∧
    bank.modules.length + bank.skipped.length = sources.length ∧
    (∀ source failure, source.emit settings = .error failure →
      reason settings source = failure) ∧
    (∀ source, source.Emits settings → (reason settings source).message =
      "module name " ++ identifierOf source.name ++ " is already taken") ∧
    (ofSources settings (sources.filter (Source.Emits settings ·))).modules = bank.modules ∧
    (bank.modules.map (·.name)).Nodup ∧ settings.selectorName ∉ bank.modules.map (·.name) := by
  intro bank chosen others
  obtain ⟨hmodules, hnames⟩ := modules_ofSources settings sources
  have hskipped := skipped_ofSources settings sources
  have hchosen : bank.modules.map .ok = chosen.map fun p => p.1.emit settings := by
    rw [hmodules, kept_eq, List.map_map]
    rfl
  refine ⟨fun source i => isKept_iff, hchosen, hskipped, ?_, ?_, ?_, ?_, ?_, ?_⟩
  · have hlength := congrArg List.length hchosen
    rw [List.length_map, List.length_map] at hlength
    rw [hlength, hskipped, List.length_map]
    have := List.length_eq_length_filter_add (l := sources.zipIdx) (IsKept settings sources ·)
    simpa using this.symm
  · intro source failure hfailure
    rw [reason, hfailure]
  · rintro source ⟨m, hm⟩
    rw [reason, hm]
    rfl
  · have hfilter := (modules_ofSources settings (sources.filter (Source.Emits settings ·))).1
    rw [kept, keptFrom_filter_emits, ← kept, ← hmodules] at hfilter
    exact (List.map_inj_right fun _ _ => Except.ok.inj).mp hfilter
  · rw [hnames]
    exact nodup_names_kept settings sources
  · rw [hnames]
    exact selectorName_not_mem_kept settings sources

end Bank

end LifeRom
