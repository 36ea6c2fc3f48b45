import CompletionRing.Proofs.Ring.Aliasing
import CompletionRing.Proofs.Ring.Allocation

/-!
# The names of the regions

The region of a bank is called after the ring and the bank, and that of the fence words after the
ring. The regions keep their names through every run.
-/

namespace CompletionRing

/-- Are the regions called after the ring and after what they are for? -/
structure RecordStore.Named (store : RecordStore) (name : String) : Prop where
  fence : store.fence.name = s!"{name}.fence"
  banks : ∀ bank ∈ store.banks, bank.mapping.name = s!"{name}.{bank.name}"

lemma Bank.names_withField (bank : Bank) (index : Nat) (field : Field) (datum : UInt32) :
    (bank.withField index field datum).name = bank.name ∧
      (bank.withField index field datum).mapping.name = bank.mapping.name := by
  unfold withField
  split <;> exact ⟨rfl, rfl⟩

namespace RecordStore.Named

variable {store : RecordStore} {name : String}

lemma made (setup : RingSetup) : setup.store.Named setup.name := by
  refine ⟨rfl, ?_⟩
  intro bank hmem
  obtain ⟨entry, -, rfl⟩ := List.mem_map.mp hmem
  rfl

lemma mapBanks (h : store.Named name) {f : Bank → Bank}
    (hf : ∀ bank, (f bank).name = bank.name ∧ (f bank).mapping.name = bank.mapping.name) :
    (store.mapBanks f).Named name := by
  refine ⟨h.fence, ?_⟩
  intro changed hmem
  obtain ⟨bank, hbank, rfl⟩ := List.mem_map.mp hmem
  rw [(hf bank).1, (hf bank).2]
  exact h.banks bank hbank

lemma withFence (h : store.Named name) (index number : Nat) :
    (store.withFence index number).Named name := by
  obtain ⟨hfence, hbanks⟩ := h
  constructor
  · unfold RecordStore.withFence
    exact hfence
  · unfold RecordStore.withFence
    exact hbanks

lemma mappings (h : store.Named name) : store.mappings.map (·.name) =
    s!"{name}.fence" :: store.banks.map fun bank => s!"{name}.{bank.name}" := by
  rw [RecordStore.mappings, List.map_cons, h.fence, List.map_map]
  congr 1
  apply List.map_congr_left
  intro bank hmem
  exact h.banks bank hmem

end RecordStore.Named

namespace Ring

variable {ring : Ring} {setup : RingSetup} {store : RecordStore} {op : Op} {run : Run Ring Reply}
  {pool pool' : Pool}

lemma Step.named {name : String} (h : ∀ store, ring.store = some store → store.Named name)
    (hstep : Step ring op run) : ∀ store, run.state.store = some store → store.Named name := by
  refine hstep.lasting ⟨?_, ?_, ?_, ?_⟩ h
  · intro store index hnamed
    exact hnamed.mapBanks fun bank => (bank.cleared _).names_withField _ _ _
  · intro store index hnamed
    exact hnamed.mapBanks fun _ => ⟨rfl, rfl⟩
  · intro store engine index field datum hnamed
    apply hnamed.mapBanks
    intro bank
    split
    · exact bank.names_withField _ _ _
    · exact ⟨rfl, rfl⟩
  · intro store index number hnamed
    exact hnamed.withFence _ _

lemma named_after (hcreate : (create setup pool).result = .ok (.ok ring, pool')) (ops : List Op) :
    ∀ store, (ring.after ops).store = some store → store.Named setup.name := by
  have hnew : ring.IsNew := ⟨setup, pool, pool', hcreate⟩
  apply hnew.wellFormed.kept_after
    (P := fun ring => ∀ store, ring.store = some store → store.Named setup.name)
  · rcases create_result setup pool with ⟨_, -, hflawed⟩ | ⟨-, -, hmade⟩ | ⟨_, -, -, hrefused⟩
    · rw [hcreate] at hflawed
      cases hflawed
    · rw [hcreate] at hmade
      cases hmade
      rintro _ ⟨⟩
      exact .made setup
    · rw [hcreate] at hrefused
      cases hrefused
  · intro ring op run _ hstep hnamed
    exact hstep.named hnamed

lemma nodup_regions (hmade : ring.MadeFor setup) (hstore : ring.store = some store)
    (hnamed : store.Named setup.name) (hgood : setup.WellNamed) :
    (store.mappings.map (·.name)).Nodup := by
  have hbanks : store.banks.map (fun bank => s!"{setup.name}.{bank.name}") =
      (setup.enabled.map (·.name)).map fun own => s!"{setup.name}.{own}" := by
    rw [← hmade.names hstore, List.map_map]
    rfl
  rw [hnamed.mappings, hbanks, List.nodup_cons]
  constructor
  · intro hmem
    obtain ⟨own, hown, hsame⟩ := List.mem_map.mp hmem
    have hfence : own = "fence" := region_inj (hsame.trans (region_fence setup.name))
    exact hgood.not_fence (hfence ▸ hown)
  · exact hgood.nodup.map fun _ _ => region_inj

end Ring

end CompletionRing
