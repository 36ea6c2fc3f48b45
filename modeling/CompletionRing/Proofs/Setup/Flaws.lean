import CompletionRing.Setup
import Mathlib.Data.List.Nodup
import Mathlib.Tactic.Common

/-!
# Flaws

A setup is sound if it names a ring, gives it room and an enabled engine, and if each of its engines
has a name, and a number for itself. A setup has a flaw just if it is not sound, and the flaw is the
first one that somebody meets who reads the setup from its front.
-/

namespace CompletionRing

/-- What is wrong with an engine that follows others, of which only the numbers matter. -/
def EngineSetup.flaw? (entry : EngineSetup) (earlier : List Engine) : Option Flaw :=
  if entry.name = "" then some .noEngineName
  else if entry.engine ∈ earlier then some (.repeatedEngine entry.engine)
  else none

namespace RingSetup

structure Sound (setup : RingSetup) : Prop where
  name : setup.name ≠ ""
  capacity : setup.capacity ≠ 0
  enabled : ∃ entry ∈ setup.engines, entry.enabled
  names : ∀ entry ∈ setup.engines, entry.name ≠ ""
  engines : (setup.engines.map (·.engine)).Nodup

/-- What is wrong with the engine at a place of a list. -/
def flawAt? (engines : List EngineSetup) (place : Nat) : Option Flaw :=
  engines[place]?.bind fun entry => entry.flaw? ((engines.map (·.engine)).take place)

/-- Is this the first flaw of the setup? The engines are looked at last, from the first place on. -/
inductive FirstFlaw (setup : RingSetup) : Flaw → Prop
  | ringName (hname : setup.name = "") : FirstFlaw setup .noRingName
  | capacity (hname : setup.name ≠ "") (hcapacity : setup.capacity = 0) :
    FirstFlaw setup .noCapacity
  | enabledEngine (hname : setup.name ≠ "") (hcapacity : setup.capacity ≠ 0)
      (hnone : ∀ entry ∈ setup.engines, entry.enabled = false) :
    FirstFlaw setup .noEnabledEngine
  | engine {place : Nat} {flaw : Flaw} (hname : setup.name ≠ "") (hcapacity : setup.capacity ≠ 0)
      (henabled : ∃ entry ∈ setup.engines, entry.enabled)
      (hat : flawAt? setup.engines place = some flaw)
      (hfirst : ∀ earlier < place, flawAt? setup.engines earlier = none) :
    FirstFlaw setup flaw

variable {setup : RingSetup} {engines before rest : List EngineSetup} {first : EngineSetup}
  {seen : List Engine} {flaw : Flaw} {place : Nat}

/-! ### Engines -/

lemma engineFlaw?_cons (seen : List Engine) (first : EngineSetup) (rest : List EngineSetup) :
    engineFlaw? seen (first :: rest) =
      (first.flaw? seen).or (engineFlaw? (first.engine :: seen) rest) := by
  simp only [engineFlaw?, EngineSetup.flaw?, String.isEmpty_iff]
  split_ifs <;> rfl

lemma flaw?_congr {earlier : List Engine} (hsame : ∀ engine, engine ∈ seen ↔ engine ∈ earlier)
    (entry : EngineSetup) : entry.flaw? seen = entry.flaw? earlier := by
  rw [EngineSetup.flaw?, EngineSetup.flaw?, if_congr (hsame entry.engine) rfl rfl]

lemma flawAt?_length (before : List EngineSetup) (first : EngineSetup) (rest : List EngineSetup) :
    flawAt? (before ++ first :: rest) before.length =
      first.flaw? (before.map (·.engine)) := by
  rw [flawAt?, List.getElem?_append_right (Nat.le_refl _), Nat.sub_self, List.getElem?_cons_zero,
    Option.bind_some, List.map_append, List.take_left' (List.length_map _)]

/-- The search through the engines after those that were seen ends at the first place with a
flaw. -/
lemma engineFlaw?_eq_some_iff
    (hseen : ∀ engine, engine ∈ seen ↔ engine ∈ before.map (·.engine)) :
    engineFlaw? seen rest = some flaw ↔
      ∃ place, flawAt? (before ++ rest) (before.length + place) = some flaw ∧
        ∀ earlier < place, flawAt? (before ++ rest) (before.length + earlier) = none := by
  induction rest generalizing seen before with
  | nil =>
    have hnone : ∀ place, flawAt? (before ++ []) (before.length + place) = none := by
      intro place
      rw [flawAt?, List.append_nil, List.getElem?_eq_none (Nat.le_add_right _ _), Option.bind_none]
    simp only [engineFlaw?, hnone, reduceCtorEq, false_and, exists_false]
  | cons first rest ih =>
    have hhere : flawAt? (before ++ first :: rest) (before.length + 0) = first.flaw? seen :=
      (flawAt?_length before first rest).trans (flaw?_congr hseen first).symm
    rw [engineFlaw?_cons]
    cases hfirst : first.flaw? seen with
    | some found =>
      rw [hfirst] at hhere
      rw [Option.some_or]
      constructor
      · rintro ⟨⟩
        exact ⟨0, hhere, nofun⟩
      · rintro ⟨place, hat, hearlier⟩
        cases place with
        | zero => rwa [hhere] at hat
        | succ place =>
          rw [hearlier 0 (Nat.succ_pos place)] at hhere
          cases hhere
    | none =>
      rw [hfirst] at hhere
      have hnext : ∀ engine, engine ∈ first.engine :: seen ↔
          engine ∈ (before ++ [first]).map (·.engine) := by
        intro engine
        rw [List.mem_cons, hseen, List.map_append, List.mem_append, List.map_singleton,
          List.mem_singleton, or_comm]
      have hshift : ∀ place, flawAt? ((before ++ [first]) ++ rest)
            ((before ++ [first]).length + place) =
          flawAt? (before ++ first :: rest) (before.length + (place + 1)) := by
        intro place
        rw [List.append_assoc, List.singleton_append, List.length_append, List.length_singleton]
        congr 1
        omega
      rw [Option.none_or, ih hnext]
      simp only [hshift]
      constructor
      · rintro ⟨place, hat, hearlier⟩
        refine ⟨place + 1, hat, ?_⟩
        intro earlier hlt
        cases earlier with
        | zero => exact hhere
        | succ earlier => exact hearlier earlier (Nat.lt_of_succ_lt_succ hlt)
      · rintro ⟨place, hat, hearlier⟩
        cases place with
        | zero =>
          rw [hhere] at hat
          cases hat
        | succ place =>
          exact ⟨place, hat, fun earlier hlt => hearlier (earlier + 1) (Nat.succ_lt_succ hlt)⟩

lemma engineFlaw?_nil_eq_some_iff : engineFlaw? [] engines = some flaw ↔
    ∃ place, flawAt? engines place = some flaw ∧
      ∀ earlier < place, flawAt? engines earlier = none := by
  have hseen : ∀ engine : Engine, engine ∈ [] ↔ engine ∈ ([] : List EngineSetup).map (·.engine) :=
    fun _ => Iff.rfl
  rw [engineFlaw?_eq_some_iff hseen]
  simp only [List.nil_append, List.length_nil, Nat.zero_add]

lemma flawAt?_eq_none_iff : flawAt? engines place = none ↔
    ∀ entry, engines[place]? = some entry →
      entry.name ≠ "" ∧ entry.engine ∉ (engines.map (·.engine)).take place := by
  unfold flawAt?
  cases engines[place]? with
  | none => simp
  | some entry =>
    rw [Option.bind_some, EngineSetup.flaw?]
    split_ifs <;> simp [*]

lemma engineFlaw?_nil_eq_none_iff :
    engineFlaw? [] engines = none ↔ ∀ place, flawAt? engines place = none := by
  constructor
  · intro hnone place
    -- The least place with a flaw would be found.
    induction place using Nat.strongRecOn with
    | ind place ih =>
      cases hat : flawAt? engines place with
      | none => rfl
      | some flaw =>
        rw [engineFlaw?_nil_eq_some_iff.mpr ⟨place, hat, ih⟩] at hnone
        cases hnone
  · intro hall
    cases hflaw : engineFlaw? [] engines with
    | none => rfl
    | some flaw =>
      obtain ⟨place, hat, -⟩ := engineFlaw?_nil_eq_some_iff.mp hflaw
      rw [hall place] at hat
      cases hat

lemma forall_flawAt?_eq_none_iff : (∀ place, flawAt? engines place = none) ↔
    (∀ entry ∈ engines, entry.name ≠ "") ∧ (engines.map (·.engine)).Nodup := by
  simp only [flawAt?_eq_none_iff]
  constructor
  · intro hall
    constructor
    · intro entry hmem
      obtain ⟨place, hat⟩ := List.mem_iff_getElem?.mp hmem
      exact (hall place entry hat).1
    · rw [List.nodup_iff_getElem?_ne_getElem?]
      intro earlier place hlt hplace hsame
      rw [List.length_map] at hplace
      have hat : engines[place]? = some engines[place] := List.getElem?_eq_getElem hplace
      refine (hall place _ hat).2 ?_
      rw [List.getElem?_map, List.getElem?_map, hat, Option.map_some] at hsame
      rw [List.mem_iff_getElem?]
      exact ⟨earlier, by rw [List.getElem?_take_of_lt hlt, List.getElem?_map, hsame]⟩
  · rintro ⟨hnames, hnodup⟩ place entry hat
    refine ⟨hnames entry (List.mem_of_getElem? hat), ?_⟩
    intro hmem
    obtain ⟨earlier, hearlier⟩ := List.mem_iff_getElem?.mp hmem
    obtain ⟨hplace, -⟩ := List.getElem?_eq_some_iff.mp hat
    have hlt : earlier < place := by
      by_contra hle
      rw [List.getElem?_take_eq_none (Nat.not_lt.mp hle)] at hearlier
      cases hearlier
    rw [List.getElem?_take_of_lt hlt] at hearlier
    refine List.nodup_iff_getElem?_ne_getElem?.mp hnodup earlier place hlt ?_ ?_
    · rwa [List.length_map]
    · rw [hearlier, List.getElem?_map, hat, Option.map_some]

/-! ### Setups -/

lemma flaw?_eq (setup : RingSetup) : setup.flaw? =
    if setup.name = "" then some .noRingName
    else if setup.capacity = 0 then some .noCapacity
    else if ∀ entry ∈ setup.engines, entry.enabled = false then some .noEnabledEngine
    else engineFlaw? [] setup.engines := by
  have henabled : setup.enabled.isEmpty ↔ ∀ entry ∈ setup.engines, entry.enabled = false := by
    rw [List.isEmpty_iff, enabled, List.filter_eq_nil_iff]
    simp only [Bool.not_eq_true]
  simp only [flaw?, String.isEmpty_iff, henabled]

lemma exists_enabled (hsome : ¬∀ entry ∈ setup.engines, entry.enabled = false) :
    ∃ entry ∈ setup.engines, entry.enabled := by
  push Not at hsome
  simpa only [Bool.not_eq_false] using hsome

theorem flaw?_eq_none_iff : setup.flaw? = none ↔ setup.Sound := by
  rw [flaw?_eq]
  split_ifs with hname hcapacity hnone
  · exact ⟨nofun, fun hsound => absurd hname hsound.name⟩
  · exact ⟨nofun, fun hsound => absurd hcapacity hsound.capacity⟩
  · refine ⟨nofun, fun hsound => ?_⟩
    obtain ⟨entry, hmem, henabled⟩ := hsound.enabled
    rw [hnone entry hmem] at henabled
    cases henabled
  · rw [engineFlaw?_nil_eq_none_iff, forall_flawAt?_eq_none_iff]
    constructor
    · rintro ⟨hnames, hnodup⟩
      exact ⟨hname, hcapacity, exists_enabled hnone, hnames, hnodup⟩
    · intro hsound
      exact ⟨hsound.names, hsound.engines⟩

theorem flaw?_eq_some_iff : setup.flaw? = some flaw ↔ setup.FirstFlaw flaw := by
  rw [flaw?_eq]
  split_ifs with hname hcapacity hnone
  · constructor
    · rintro ⟨⟩
      exact .ringName hname
    · intro hfirst
      cases hfirst with
      | ringName => rfl
      | capacity hnamed | enabledEngine hnamed | engine hnamed => exact absurd hname hnamed
  · constructor
    · rintro ⟨⟩
      exact .capacity hname hcapacity
    · intro hfirst
      cases hfirst with
      | ringName hnameless => exact absurd hnameless hname
      | capacity => rfl
      | enabledEngine _ hroom | engine _ hroom => exact absurd hcapacity hroom
  · constructor
    · rintro ⟨⟩
      exact .enabledEngine hname hcapacity hnone
    · intro hfirst
      cases hfirst with
      | ringName hnameless => exact absurd hnameless hname
      | capacity _ hroomless => exact absurd hroomless hcapacity
      | enabledEngine => rfl
      | engine _ _ henabled =>
        obtain ⟨entry, hmem, henabled⟩ := henabled
        rw [hnone entry hmem] at henabled
        cases henabled
  · rw [engineFlaw?_nil_eq_some_iff]
    constructor
    · rintro ⟨place, hat, hearlier⟩
      exact .engine hname hcapacity (exists_enabled hnone) hat hearlier
    · intro hfirst
      cases hfirst with
      | ringName hnameless => exact absurd hnameless hname
      | capacity _ hroomless => exact absurd hroomless hcapacity
      | enabledEngine _ _ hdisabled => exact absurd hdisabled hnone
      | engine _ _ _ hat hearlier => exact ⟨_, hat, hearlier⟩

end RingSetup

end CompletionRing
