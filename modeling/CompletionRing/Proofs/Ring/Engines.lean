import CompletionRing.Proofs.Ring.Places
import Mathlib.Data.Fintype.Card

/-!
# The engines of a ring

Who asks for a ring is told the first flaw of the setup, or gets a ring that has each enabled engine
of the setup once and finds it by its number.
-/

namespace CompletionRing

namespace Engine

lemma length_le_of_nodup {engines : List Engine} (hnodup : engines.Nodup) :
    engines.length ≤ 256 := by
  have hinj : Function.Injective fun engine : Engine => engine.number.toFin := by
    intro engine other hsame
    rw [Engine.mk.injEq]
    exact UInt8.toFin_inj.mp hsame
  have hcard := (hnodup.map hinj).length_le_card
  rw [List.length_map, Fintype.card_fin] at hcard
  exact hcard

lemma label_injective : Function.Injective label := by
  intro engine other hsame
  have hrepr : engine.number.toNat.repr = other.number.toNat.repr :=
    (String.append_right_inj _).mp hsame
  have hdigits : Nat.toDigits 10 engine.number.toNat = Nat.toDigits 10 other.number.toNat := by
    rw [← Nat.toList_repr, hrepr, Nat.toList_repr]
  -- The number is read back from its digits.
  have hnumber := congrArg (Nat.ofDigitChars 10 · 0) hdigits
  simp only [Nat.ofDigitChars_ten_toDigits] at hnumber
  rw [Engine.mk.injEq]
  exact UInt8.toNat_inj.mp hnumber

end Engine

namespace Flaw

lemma message_repeatedEngine (engine : Engine) : (repeatedEngine engine).message =
    "invalid ring configuration: " ++ (engine.label ++ " listed more than once") := by
  rw [← String.append_assoc]
  rfl

/-- Behind the words that all invalid setups share, the label of an engine begins. -/
lemma message_repeatedEngine_ne (engine : Engine) {text : String}
    (htext : text.toList[28]? ≠ some 'e') : (repeatedEngine engine).message ≠ text := by
  rintro rfl
  apply htext
  rw [message_repeatedEngine, Engine.label, String.toList_append,
    List.getElem?_append_right (by decide), String.toList_append, String.toList_append]
  rfl

theorem message_injective : Function.Injective message := by
  intro flaw flaw' hsame
  cases flaw with
  | repeatedEngine engine =>
    cases flaw' with
    | repeatedEngine other =>
      rw [message_repeatedEngine, message_repeatedEngine] at hsame
      have hlabel := (String.append_right_inj _).mp hsame
      rw [Engine.label_injective ((String.append_left_inj _).mp hlabel)]
    | _ => exact absurd hsame (message_repeatedEngine_ne engine (by decide))
  | _ =>
    cases flaw' with
    | repeatedEngine other => exact absurd hsame.symm (message_repeatedEngine_ne other (by decide))
    | _ => first | rfl | exact absurd hsame (by decide)

end Flaw

namespace Ring

variable {ring : Ring} {setup : RingSetup} {store : RecordStore}

lemma MadeFor.exists_bank (hmade : ring.MadeFor setup) (h : ring.WellFormed)
    (hstore : ring.store = some store) {entry : EngineSetup} (hmem : entry ∈ setup.enabled) :
    ∃ bank, store.bank? entry.engine = some bank ∧ bank.setup = entry := by
  rw [← hmade.setups store hstore] at hmem
  obtain ⟨bank, hbank, rfl⟩ := List.mem_map.mp hmem
  exact ⟨bank, (h.fits store hstore).bank? hbank, rfl⟩

/-- A setup has no flaw just if it is sound; else its flaw is the first one, and the message tells
which one it is. A ring that was created has from 1 to 256 engines until it is destroyed, each with
a number for itself, and by its number every engine that the setup enables is found. -/
theorem sound_or_first_flaw (setup : RingSetup) :
    (setup.flaw? = none ↔ setup.Sound) ∧
    (∀ flaw, setup.flaw? = some flaw ↔ setup.FirstFlaw flaw) ∧
    Function.Injective Flaw.message ∧
    ∀ (pool pool' : Pool) (ring : Ring) (ops : List Op) (store : RecordStore),
      (create setup pool).result = .ok (.ok ring, pool') → (ring.after ops).store = some store →
        (ring.after ops).engines = setup.enabled.map (·.engine) ∧
        1 ≤ (ring.after ops).engines.length ∧ (ring.after ops).engines.length ≤ 256 ∧
        (ring.after ops).engines.Nodup ∧
        ∀ entry ∈ setup.enabled,
          ∃ bank, store.bank? entry.engine = some bank ∧ bank.setup = entry := by
  refine ⟨RingSetup.flaw?_eq_none_iff, fun _ => RingSetup.flaw?_eq_some_iff,
    Flaw.message_injective, ?_⟩
  intro pool pool' ring ops store hcreate hstore
  have hnew : ring.IsNew := ⟨setup, pool, pool', hcreate⟩
  have h := hnew.wellFormed_after ops
  have hmade := madeFor_after hcreate ops
  obtain ⟨hflaw, -⟩ := fresh_of_create hcreate
  obtain ⟨-, hsome, -⟩ := RingSetup.of_flaw?_eq_none hflaw
  have hengines : (ring.after ops).engines = setup.enabled.map (·.engine) := by
    rw [engines, hstore]
    exact hmade.engines hstore
  have hnodup : (ring.after ops).engines.Nodup := by
    rw [engines, hstore]
    exact (h.fits store hstore).nodup
  refine ⟨hengines, ?_, Engine.length_le_of_nodup hnodup, hnodup, ?_⟩
  · rw [hengines, List.length_map, Nat.succ_le_iff, List.length_pos_iff]
    intro hnil
    exact hsome (List.map_eq_nil_iff.mpr hnil)
  · intro entry hmem
    exact hmade.exists_bank h hstore hmem

/-- The setup of a ring with one engine is sound. With a second engine, both have the number, and
that one has no name: this is found before its number is looked at. -/
theorem sound_or_first_flaw_single :
    RingSetup.Sound ⟨"ring", 1, [⟨⟨0⟩, "engine", .compact, true⟩]⟩ ∧
    RingSetup.FirstFlaw ⟨"ring", 1, [⟨⟨0⟩, "engine", .compact, true⟩, ⟨⟨0⟩, "", .compact, false⟩]⟩
      .noEngineName ∧
    (single.after [.begin 0 none]).engines = [⟨0⟩] ∧
    ∃ store bank, (single.after [.begin 0 none]).store = some store ∧
      store.bank? ⟨0⟩ = some bank ∧ bank.setup = ⟨⟨0⟩, "engine", .compact, true⟩ := by
  obtain ⟨hsound, -, -, hcreated⟩ := sound_or_first_flaw
    ⟨"ring", 1, [⟨⟨0⟩, "engine", .compact, true⟩]⟩
  obtain ⟨-, hfirst, -, -⟩ := sound_or_first_flaw
    ⟨"ring", 1, [⟨⟨0⟩, "engine", .compact, true⟩, ⟨⟨0⟩, "", .compact, false⟩]⟩
  obtain ⟨hengines, -, -, -, hbanks⟩ :=
    hcreated (.new none) _ single [.begin 0 none] _ rfl rfl
  obtain ⟨bank, hbank, hsetup⟩ := hbanks ⟨⟨0⟩, "engine", .compact, true⟩ (by decide)
  exact ⟨hsound.mp rfl, (hfirst _).mp rfl, hengines, _, bank, rfl, hbank, hsetup⟩

end Ring

end CompletionRing
