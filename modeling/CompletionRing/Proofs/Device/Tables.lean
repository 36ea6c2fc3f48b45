import CompletionRing.Engine
import Mathlib.Data.List.Nodup
import Mathlib.Tactic.Common

/-!
# Tables by engine

A table covers a list of engines if it has one entry for each of them, in increasing order of
engine number. The place of an entry is then the rank of its engine.
-/

namespace CompletionRing

/-- How many of the engines have a smaller number. -/
def Engine.rank (engine : Engine) (engines : List Engine) : Nat :=
  engines.countP (·.number < engine.number)

namespace EngineTable

variable {α β : Type}

/-- Does a table have an entry for each of the engines, in increasing order of engine number? -/
structure Serves (entries : List (Engine × α)) (engines : List Engine) : Prop where
  sorted : (entries.map (·.1)).Pairwise (·.number < ·.number)
  engines : ∀ engine ∈ engines, engine ∈ entries.map (·.1)

structure Covers (entries : List (Engine × α)) (engines : List Engine) (value : Engine → α) :
    Prop where
  sorted : (entries.map (·.1)).Pairwise (·.number < ·.number)
  engines : ∀ engine, engine ∈ entries.map (·.1) ↔ engine ∈ engines
  values : ∀ entry ∈ entries, entry.2 = value entry.1

variable {entries : List (Engine × α)} {engines : List Engine} {value : Engine → α}
  {engine : Engine} {datum : α}

lemma lt_of_not_lt_of_ne {engine other : Engine} (hnot : ¬engine.number < other.number)
    (hne : engine ≠ other) : other.number < engine.number := by
  have hnumber : engine.number.toNat ≠ other.number.toNat := by
    intro he
    apply hne
    rw [Engine.mk.injEq]
    exact UInt8.toNat_inj.mp he
  rw [UInt8.lt_iff_toNat_lt] at hnot ⊢
  omega

lemma find?_insertEntry (engine : Engine) (datum : α) (entries : List (Engine × α))
    (other : Engine) :
    (insertEntry engine datum entries).find? (·.1 = other) =
      if engine = other then some (engine, datum) else entries.find? (·.1 = other) := by
  induction entries with
  | nil =>
    unfold insertEntry
    by_cases hother : engine = other <;> simp [hother]
  | cons first rest ih =>
    obtain ⟨known, kept⟩ := first
    unfold insertEntry
    by_cases hlt : engine.number < known.number
    · rw [if_pos hlt, List.find?_cons]
      by_cases hother : engine = other <;>
        simp only [hother, decide_true, decide_false, if_true, if_false]
    · rw [if_neg hlt]
      by_cases hsame : engine = known
      · subst hsame
        rw [if_pos rfl, List.find?_cons, List.find?_cons]
        by_cases hother : engine = other <;> simp [hother]
      · rw [if_neg hsame, List.find?_cons, List.find?_cons, ih]
        by_cases hknown : known = other
        · have hother : engine ≠ other := fun hother => hsame (hother.trans hknown.symm)
          simp [hknown, hother]
        · simp [hknown]

theorem get?_insert (table : EngineTable α) (engine : Engine) (datum : α) (other : Engine) :
    (table.insert engine datum).get? other =
      if engine = other then some datum else table.get? other := by
  unfold get? insert
  rw [find?_insertEntry]
  split_ifs <;> rfl

lemma keys_insertEntry (engine : Engine) (datum : α) (entries : List (Engine × α))
    (other : Engine) :
    other ∈ (insertEntry engine datum entries).map (·.1) ↔
      other = engine ∨ other ∈ entries.map (·.1) := by
  induction entries with
  | nil => simp [insertEntry]
  | cons first rest ih =>
    obtain ⟨known, kept⟩ := first
    unfold insertEntry
    split_ifs with hlt hsame
    · simp
    · subst hsame
      simp
    · rw [List.map_cons, List.mem_cons, ih, List.map_cons, List.mem_cons]
      exact or_left_comm

lemma sorted_insertEntry (engine : Engine) (datum : α)
    (hsorted : (entries.map (·.1)).Pairwise (·.number < ·.number)) :
    ((insertEntry engine datum entries).map (·.1)).Pairwise (·.number < ·.number) := by
  induction entries with
  | nil => exact List.pairwise_singleton _ _
  | cons first rest ih =>
    obtain ⟨known, kept⟩ := first
    obtain ⟨hfirst, hrest⟩ := List.pairwise_cons.mp hsorted
    unfold insertEntry
    split_ifs with hlt hsame
    · apply List.pairwise_cons.mpr
      refine ⟨?_, hsorted⟩
      intro other hmem
      rcases List.mem_cons.mp hmem with rfl | hlater
      · exact hlt
      · exact UInt8.lt_trans hlt (hfirst other hlater)
    · subst hsame
      exact hsorted
    · apply List.pairwise_cons.mpr
      refine ⟨?_, ih hrest⟩
      intro other hmem
      rcases (keys_insertEntry engine datum rest other).mp hmem with rfl | hlater
      · exact lt_of_not_lt_of_ne hlt hsame
      · exact hfirst other hlater

lemma mem_insertEntry {entry : Engine × α}
    (hsorted : (entries.map (·.1)).Pairwise (·.number < ·.number))
    (hmem : entry ∈ insertEntry engine datum entries) :
    entry = (engine, datum) ∨ entry ∈ entries ∧ entry.1 ≠ engine := by
  induction entries with
  | nil => exact Or.inl (List.mem_singleton.mp hmem)
  | cons first rest ih =>
    obtain ⟨known, kept⟩ := first
    obtain ⟨hfirst, hrest⟩ := List.pairwise_cons.mp hsorted
    have hapart : ∀ entry ∈ rest, known.number < entry.1.number := by
      intro entry hentry
      exact hfirst entry.1 (List.mem_map_of_mem hentry)
    unfold insertEntry at hmem
    split_ifs at hmem with hlt hsame
    · rcases List.mem_cons.mp hmem with rfl | hold
      · exact Or.inl rfl
      · right
        refine ⟨hold, ?_⟩
        rintro rfl
        rcases List.mem_cons.mp hold with rfl | hlater
        · exact UInt8.lt_irrefl _ hlt
        · exact UInt8.lt_asymm hlt (hapart entry hlater)
    · subst hsame
      rcases List.mem_cons.mp hmem with rfl | hlater
      · exact Or.inl rfl
      · right
        refine ⟨List.mem_cons_of_mem _ hlater, ?_⟩
        rintro rfl
        exact UInt8.lt_irrefl _ (hapart entry hlater)
    · rcases List.mem_cons.mp hmem with rfl | hlater
      · exact Or.inr ⟨List.mem_cons_self, fun h => hsame h.symm⟩
      · rcases ih hrest hlater with hnew | ⟨hold, hne⟩
        · exact Or.inl hnew
        · exact Or.inr ⟨List.mem_cons_of_mem _ hold, hne⟩

lemma rank_of_sorted {engines : List Engine} (hsorted : engines.Pairwise (·.number < ·.number))
    {lane : Nat} (hat : engines[lane]? = some engine) : engine.rank engines = lane := by
  unfold Engine.rank
  induction engines generalizing lane with
  | nil => cases hat
  | cons first rest ih =>
    obtain ⟨hfirst, hrest⟩ := List.pairwise_cons.mp hsorted
    cases lane with
    | zero =>
      cases hat
      have hnone : rest.countP (·.number < engine.number) = 0 := by
        rw [List.countP_eq_zero]
        intro other hmem
        simp only [decide_eq_true_eq]
        exact UInt8.lt_asymm (hfirst other hmem)
      rw [List.countP_cons, hnone]
      simp
    | succ lane =>
      rw [List.getElem?_cons_succ] at hat
      have hlt := hfirst engine (List.mem_of_getElem? hat)
      rw [List.countP_cons, ih hrest hat]
      simp [hlt]

lemma Serves.nodup (h : Serves entries engines) : (entries.map (·.1)).Nodup := by
  apply h.sorted.imp
  rintro engine other hlt rfl
  exact UInt8.lt_irrefl _ hlt

/-- The value for an engine stands at the rank of the engine among those of the table. -/
lemma Serves.exists_entry (h : Serves entries engines) (hengine : engine ∈ engines) :
    ∃ datum, get? ⟨entries⟩ engine = some datum ∧
      entries[engine.rank (entries.map (·.1))]? = some (engine, datum) := by
  obtain ⟨entry, hentry, rfl⟩ := List.mem_map.mp (h.engines engine hengine)
  obtain ⟨place, hplace⟩ := List.mem_iff_getElem?.mp hentry
  have hkey : (entries.map (·.1))[place]? = some entry.1 := by
    rw [List.getElem?_map, hplace]
    rfl
  refine ⟨entry.2, ?_, ?_⟩
  · cases hfind : entries.find? (·.1 = entry.1) with
    | none => simpa using List.find?_eq_none.mp hfind entry hentry
    | some other =>
      have hsame : other.1 = entry.1 := by simpa using List.find?_some hfind
      have hother : other = entry :=
        List.inj_on_of_nodup_map h.nodup (List.mem_of_find?_eq_some hfind) hentry hsame
      rw [get?, hfind, hother]
      rfl
  · rw [rank_of_sorted h.sorted hkey]
    exact hplace

lemma Serves.insert (h : Serves entries engines) (engine : Engine) (datum : α) :
    Serves (insertEntry engine datum entries) engines where
  sorted := sorted_insertEntry engine datum h.sorted
  engines := by
    intro other hmem
    exact (keys_insertEntry engine datum entries other).mpr (Or.inr (h.engines other hmem))

namespace Covers

lemma serves (h : Covers entries engines value) : Serves entries engines :=
  ⟨h.sorted, fun engine => (h.engines engine).mpr⟩

lemma nil (value : Engine → α) : Covers [] [] value :=
  ⟨.nil, fun _ => Iff.rfl, by rintro _ ⟨⟩⟩

lemma congr {engines' : List Engine} (h : Covers entries engines value)
    (hmem : ∀ engine, engine ∈ engines ↔ engine ∈ engines') : Covers entries engines' value :=
  ⟨h.sorted, fun engine => (h.engines engine).trans (hmem engine), h.values⟩

lemma insert (h : Covers entries engines value) (engine : Engine) (datum : α) :
    Covers (insertEntry engine datum entries) (engine :: engines)
      fun other => if other = engine then datum else value other where
  sorted := sorted_insertEntry engine datum h.sorted
  engines := by
    intro other
    rw [keys_insertEntry, List.mem_cons, h.engines]
  values := by
    intro entry hmem
    rcases mem_insertEntry h.sorted hmem with rfl | ⟨hold, hne⟩
    · exact (if_pos rfl).symm
    · rw [if_neg hne]
      exact h.values entry hold

lemma map (h : Covers entries engines value) (f : Engine → α → β) :
    Covers (entries.map fun (engine, datum) => (engine, f engine datum)) engines
      fun engine => f engine (value engine) := by
  have hkeys : (entries.map fun (engine, datum) => (engine, f engine datum)).map (·.1) =
      entries.map (·.1) := by
    rw [List.map_map]
    rfl
  constructor
  · rw [hkeys]
    exact h.sorted
  · rw [hkeys]
    exact h.engines
  · intro entry hmem
    obtain ⟨⟨engine, datum⟩, hentry, rfl⟩ := List.mem_map.mp hmem
    have hvalue : datum = value engine := h.values _ hentry
    rw [← hvalue]

lemma nodup (h : Covers entries engines value) : (entries.map (·.1)).Nodup := h.serves.nodup

lemma exists_entry (h : Covers entries engines value) (hengine : engine ∈ engines) :
    ∃ lane : Nat, entries[lane]? = some (engine, value engine) := by
  obtain ⟨datum, -, hat⟩ := h.serves.exists_entry hengine
  have hvalue : datum = value engine := h.values _ (List.mem_of_getElem? hat)
  exact ⟨_, hvalue ▸ hat⟩

lemma any (h : Covers entries engines value) (p : α → Bool) :
    entries.any (fun entry => p entry.2) = engines.any fun engine => p (value engine) := by
  rw [Bool.eq_iff_iff, List.any_eq_true, List.any_eq_true]
  constructor
  · rintro ⟨entry, hentry, hp⟩
    refine ⟨entry.1, (h.engines entry.1).mp (List.mem_map_of_mem hentry), ?_⟩
    rwa [← h.values entry hentry]
  · rintro ⟨engine, hengine, hp⟩
    obtain ⟨lane, hat⟩ := h.exists_entry hengine
    exact ⟨_, List.mem_of_getElem? hat, hp⟩

end Covers

theorem Covers.rank (h : Covers entries engines value) (hengines : engines.Nodup) {lane : Nat}
    (hat : entries[lane]? = some (engine, datum)) : engine.rank engines = lane := by
  have hperm : (entries.map (·.1)).Perm engines :=
    (List.perm_ext_iff_of_nodup h.nodup hengines).mpr h.engines
  have hkey : (entries.map (·.1))[lane]? = some engine := by
    rw [List.getElem?_map, hat]
    rfl
  rw [← rank_of_sorted h.sorted hkey]
  exact (hperm.countP_eq _).symm

theorem covers_ofEngines (engines : List Engine) (datum : α) :
    Covers (ofEngines engines datum).entries engines fun _ => datum := by
  have hfold : ∀ (rest before : List Engine) (table : EngineTable α),
      Covers table.entries before (fun _ => datum) →
      Covers (rest.foldl (fun table engine => table.insert engine datum) table).entries
        (rest ++ before) fun _ => datum := by
    intro rest
    induction rest with
    | nil =>
      intro before table htable
      exact htable
    | cons engine rest ih =>
      intro before table htable
      have hinsert := htable.insert engine datum
      simp only [ite_self] at hinsert
      apply (ih (engine :: before) (table.insert engine datum) hinsert).congr
      intro other
      simp only [List.cons_append, List.mem_append, List.mem_cons]
      exact or_left_comm
  have hall := hfold engines [] .empty (.nil _)
  rw [List.append_nil] at hall
  exact hall

end EngineTable

end CompletionRing
