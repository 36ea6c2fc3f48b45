import CompletionRing.Proofs.Memory.Pools
import CompletionRing.Proofs.Ring.Places
import CompletionRing.Simulation.Basic

/-!
# Allocation

A ring takes all the regions that its setup asks for, or none of them, and gives all of them back
at once.
-/

namespace CompletionRing

namespace RingSetup

/-- The regions that a ring takes, by name and size, in the order in which it asks for them: a word
of eight bytes and a record of each enabled engine for every index. -/
def regions (setup : RingSetup) : List (String × Nat) :=
  (s!"{setup.name}.fence", 8 * setup.capacity.toNat) ::
    setup.enabled.map fun entry =>
      (s!"{setup.name}.{entry.name}", setup.capacity.toNat * entry.layout.stride)

/-- The bytes of all regions that a ring takes. -/
def bytes (setup : RingSetup) : Nat := (setup.regions.map (·.2)).sum

end RingSetup

/-! ### Allocation -/

namespace Bank

variable {name : String} {capacity : Nat} {banks : List Bank} {pool out : Pool}

/-- The bank for an engine setup. -/
def made (name : String) (capacity : Nat) (setup : EngineSetup) : Bank :=
  ofMapping setup (request name capacity setup).mapping

/-- The regions of banks, by name and size. -/
def regions (name : String) (capacity : Nat) (setups : List EngineSetup) : List (String × Nat) :=
  setups.map fun setup => (s!"{name}.{setup.name}", capacity * setup.layout.stride)

lemma mappable_request (hpos : 0 < capacity) (hlt : capacity < UInt32.size) (setup : EngineSetup) :
    Region.mappable (request name capacity setup).size
      (request name capacity setup).alignment := by
  have hstride : 0 < setup.layout.stride := by
    cases setup.layout <;> decide
  exact Region.mappable_of_lt (Nat.mul_pos hpos hstride) (setup.layout.regionSize_lt hlt)

lemma allocateAll_result (hpos : 0 < capacity) (hlt : capacity < UInt32.size)
    (hcounted : ∀ bank ∈ banks, bank.mapping.counted)
    (hout : out = pool.holding (banks.map (·.mapping))) (setups : List EngineSetup) :
    out.HasRoom ((regions name capacity setups).map (·.2)).sum ∧
      (allocateAll name capacity banks out setups).result =
        .ok (.ok (banks ++ setups.map (made name capacity)),
          pool.holding ((banks ++ setups.map (made name capacity)).map (·.mapping))) ∨
    ∃ refusal, out.Refuses (regions name capacity setups) refusal ∧
      (allocateAll name capacity banks out setups).result = .ok (.error refusal, pool) := by
  induction setups generalizing banks out with
  | nil =>
    left
    simp [regions, allocateAll, Pool.HasRoom, hout]
  | cons setup rest ih =>
    have hmappable : Region.mappable (request name capacity setup).size
        (request name capacity setup).alignment := mappable_request hpos hlt setup
    have hregions : regions name capacity (setup :: rest) =
        ((request name capacity setup).name, (request name capacity setup).size) ::
          regions name capacity rest := rfl
    by_cases hroom : out.HasRoom (request name capacity setup).size
    · have hgranted := Pool.allocate_granted hmappable hroom
      have hcounted' : ∀ bank ∈ banks ++ [made name capacity setup], bank.mapping.counted := by
        intro bank hmem
        rcases List.mem_append.mp hmem with hbefore | hnow
        · exact hcounted bank hbefore
        · rw [List.mem_singleton.mp hnow]
          rfl
      have hout' : out.grown 1 (request name capacity setup).size =
          pool.holding ((banks ++ [made name capacity setup]).map (·.mapping)) := by
        rw [hout, List.map_append, List.map_singleton, Pool.holding_concat]
        exact congrArg _ (Request.length_mapping _).symm
      have hall : banks ++ [made name capacity setup] ++ rest.map (made name capacity) =
          banks ++ (setup :: rest).map (made name capacity) := by simp
      have hlater := ih hcounted' hout'
      rw [hall] at hlater
      rw [allocateAll, Traced.result_bind _ hgranted, hregions]
      rcases hlater with ⟨hroom', hresult⟩ | ⟨refusal, hrefuses, hresult⟩
      · left
        rw [List.map_cons, List.sum_cons]
        exact ⟨Pool.hasRoom_add.mpr ⟨hroom, hroom'⟩, hresult⟩
      · right
        exact ⟨refusal, hrefuses.tail hroom, hresult⟩
    · have hsize := Region.length_pos_of_mappable hmappable
      obtain ⟨budget, hbudget, hshort, hrefused⟩ := Pool.allocate_refused hsize hroom
      have hback : (out.releaseAll (banks.map (·.mapping))).result = .ok pool := by
        rw [hout]
        apply Pool.releaseAll_holding
        intro mapping hmem
        obtain ⟨bank, hbank, rfl⟩ := List.mem_map.mp hmem
        exact hcounted bank hbank
      right
      refine ⟨_, Pool.Refuses.head hbudget hshort _, ?_⟩
      rw [allocateAll, Traced.result_bind _ hrefused, Traced.result_bind _ hback]
      rfl

end Bank

/-- The memory of a new ring. -/
def RingSetup.store (setup : RingSetup) : RecordStore :=
  ⟨(RecordStore.fenceRequest setup.name setup.capacity.toNat).mapping,
    setup.enabled.map (Bank.made setup.name setup.capacity.toNat)⟩

namespace RecordStore

variable {setup : RingSetup}

lemma mappable_fenceRequest (hpos : 0 < setup.capacity.toNat) :
    Region.mappable (fenceRequest setup.name setup.capacity.toNat).size
      (fenceRequest setup.name setup.capacity.toNat).alignment :=
  Region.mappable_of_lt (Nat.mul_pos hpos (by decide)) (fenceSize_lt setup.capacity.toNat_lt_size)

lemma allocate_result (hpos : 0 < setup.capacity.toNat) (pool : Pool) :
    pool.HasRoom setup.bytes ∧
      (allocate setup.name setup.capacity.toNat setup.enabled pool).result =
        .ok (.ok setup.store, pool.holding setup.store.mappings) ∨
    ∃ refusal, pool.Refuses setup.regions refusal ∧
      (allocate setup.name setup.capacity.toNat setup.enabled pool).result =
        .ok (.error refusal, pool) := by
  obtain ⟨request, hrequest⟩ :
    ∃ request, request = fenceRequest setup.name setup.capacity.toNat := ⟨_, rfl⟩
  have hmappable := mappable_fenceRequest hpos
  rw [← hrequest] at hmappable
  have hregions : setup.regions = (request.name, request.size) ::
      Bank.regions setup.name setup.capacity.toNat setup.enabled := by
    rw [hrequest, RingSetup.regions, Nat.mul_comm]
    rfl
  unfold allocate RingSetup.bytes
  rw [← hrequest, hregions]
  by_cases hroom : pool.HasRoom request.size
  · have hgranted := Pool.allocate_granted hmappable hroom
    have hholding : ∀ mappings, (pool.grown 1 request.size).holding mappings =
        pool.holding (request.mapping :: mappings) := by
      intro mappings
      rw [Pool.holding_cons, Request.length_mapping]
    have hnone : pool.grown 1 request.size =
        (pool.grown 1 request.size).holding (List.map Bank.mapping []) := rfl
    rw [Traced.result_bind _ hgranted]
    rcases Bank.allocateAll_result hpos setup.capacity.toNat_lt_size (by simp) hnone setup.enabled
      with ⟨hroom', hbanks⟩ | ⟨refusal, hrefuses, hbanks⟩
    · left
      rw [List.map_cons, List.sum_cons]
      refine ⟨Pool.hasRoom_add.mpr ⟨hroom, hroom'⟩, ?_⟩
      rw [List.nil_append, hholding] at hbanks
      simp only
      rw [Traced.result_bind _ hbanks, hrequest]
      rfl
    · have hback := Pool.release_holding (show request.mapping.counted = true from rfl) pool []
      rw [← hholding, Pool.holding_nil, Pool.holding_nil] at hback
      right
      refine ⟨refusal, hrefuses.tail hroom, ?_⟩
      simp only
      rw [Traced.result_bind _ hbanks]
      simp only
      rw [Traced.result_bind _ hback]
      rfl
  · have hsize := Region.length_pos_of_mappable hmappable
    obtain ⟨budget, hbudget, hshort, hrefused⟩ := Pool.allocate_refused hsize hroom
    right
    refine ⟨_, Pool.Refuses.head hbudget hshort _, ?_⟩
    rw [Traced.result_bind _ hrefused]
    rfl

/-! ### Regions that are out -/

/-- Does the pool take all mappings back? -/
structure Counted (store : RecordStore) : Prop where
  fence : store.fence.counted = true
  banks : ∀ bank ∈ store.banks, bank.mapping.counted = true

namespace Counted

variable {store : RecordStore}

lemma mappings (h : store.Counted) : ∀ mapping ∈ store.mappings, mapping.counted = true := by
  intro mapping hmem
  rcases List.mem_cons.mp hmem with rfl | hbank
  · exact h.fence
  · obtain ⟨bank, hbank', rfl⟩ := List.mem_map.mp hbank
    exact h.banks bank hbank'

lemma made (setup : RingSetup) : setup.store.Counted := by
  refine ⟨rfl, ?_⟩
  intro bank hmem
  obtain ⟨entry, -, rfl⟩ := List.mem_map.mp hmem
  rfl

lemma mapBanks (h : store.Counted) {f : Bank → Bank}
    (hf : ∀ bank, (f bank).mapping.counted = bank.mapping.counted) :
    (store.mapBanks f).Counted := by
  refine ⟨h.fence, ?_⟩
  intro changed hmem
  obtain ⟨bank, hbank, rfl⟩ := List.mem_map.mp hmem
  rw [hf]
  exact h.banks bank hbank

lemma withFence (h : store.Counted) (index number : Nat) :
    (store.withFence index number).Counted := by
  obtain ⟨hfence, hbanks⟩ := h
  constructor
  · unfold RecordStore.withFence
    exact hfence
  · unfold RecordStore.withFence
    exact hbanks

end Counted

lemma holding_mappings {store : RecordStore} (hfits : store.Fits setup.capacity.toNat)
    (hsetups : store.setups = setup.enabled) (pool : Pool) :
    pool.holding store.mappings = pool.grown (1 + setup.enabled.length) setup.bytes := by
  have hlength : store.mappings.length = 1 + setup.enabled.length := by
    rw [← hsetups, setups, mappings, List.length_cons, List.length_map, List.length_map,
      Nat.add_comm]
  have hbanks : (store.banks.map (·.mapping)).map (·.region.length) =
      store.setups.map fun entry => setup.capacity.toNat * entry.layout.stride := by
    rw [setups, List.map_map, List.map_map]
    apply List.map_congr_left
    intro bank hmem
    exact (hfits.banks bank hmem).length
  have hbytes : (store.mappings.map (·.region.length)).sum = setup.bytes := by
    rw [mappings, List.map_cons, hbanks, hsetups, hfits.fence, Nat.mul_comm, RingSetup.bytes,
      RingSetup.regions, List.map_cons, List.map_map]
    rfl
  rw [Pool.holding, hlength, hbytes]

end RecordStore

namespace Bank

lemma counted_withField (bank : Bank) (index : Nat) (field : Field) (datum : UInt32) :
    (bank.withField index field datum).mapping.counted = bank.mapping.counted := by
  unfold withField
  split <;> rfl

end Bank

namespace Ring

variable {ring : Ring} {setup : RingSetup} {op : Op} {run : Run Ring Reply} {pool others : Pool}

lemma Step.counted (h : ∀ store, ring.store = some store → store.Counted)
    (hstep : Step ring op run) : ∀ store, run.state.store = some store → store.Counted := by
  refine hstep.lasting ⟨?_, ?_, ?_, ?_⟩ h
  · intro store index hcounted
    exact hcounted.mapBanks fun bank => (bank.cleared _).counted_withField _ _ _
  · intro store index hcounted
    exact hcounted.mapBanks fun _ => rfl
  · intro store engine index field datum hcounted
    apply hcounted.mapBanks
    intro bank
    split
    · exact bank.counted_withField _ _ _
    · rfl
  · intro store index number hcounted
    exact hcounted.withFence _ _

/-- A setup with flaws makes no ring, and neither does a pool without room for all regions. -/
lemma create_result (setup : RingSetup) (pool : Pool) :
    (∃ flaw, setup.flaw? = some flaw ∧
      (create setup pool).result = .ok (.error (.flawed flaw), pool)) ∨
    (setup.flaw? = none ∧ pool.HasRoom setup.bytes ∧
      (create setup pool).result = .ok (.ok (fresh setup.name setup.capacity.toNat setup.store),
        pool.holding setup.store.mappings)) ∨
    ∃ refusal, setup.flaw? = none ∧ pool.Refuses setup.regions refusal ∧
      (create setup pool).result = .ok (.error (.allocation refusal), pool) := by
  unfold create
  cases hflaw : setup.flaw? with
  | some flaw => exact Or.inl ⟨flaw, rfl, rfl⟩
  | none =>
    have hpos := (RingSetup.of_flaw?_eq_none hflaw).1
    right
    rcases RecordStore.allocate_result hpos pool with
      ⟨hroom, hresult⟩ | ⟨refusal, hrefuses, hresult⟩
    · left
      refine ⟨rfl, hroom, ?_⟩
      simp only
      rw [Traced.result_bind _ hresult]
      rfl
    · right
      refine ⟨refusal, rfl, hrefuses, ?_⟩
      simp only
      rw [Traced.result_bind _ hresult]
      rfl

lemma out_of_create {pool' : Pool} (hcreate : (create setup pool).result = .ok (.ok ring, pool')) :
    pool' = pool.grown (1 + setup.enabled.length) setup.bytes ∧ ring.isDestroyed = false ∧
      ∀ store, ring.store = some store → store.Counted := by
  obtain ⟨-, store, hring, hfits, -, hsetups⟩ := exists_store_of_create hcreate
  rcases create_result setup pool with
    ⟨flaw, -, hresult⟩ | ⟨-, -, hresult⟩ | ⟨refusal, -, -, hresult⟩
  · rw [hresult] at hcreate
    cases hcreate
  · rw [hresult] at hcreate
    cases hcreate
    have hstore : setup.store = store := Option.some.inj (congrArg Ring.store hring)
    rw [← hstore] at hfits hsetups
    refine ⟨RecordStore.holding_mappings hfits hsetups pool, rfl, ?_⟩
    rintro _ ⟨⟩
    exact .made setup
  · rw [hresult] at hcreate
    cases hcreate

/-- A ring has all regions out that its setup asks for until it is destroyed. They go back then,
and there is nothing left to give back later. -/
lemma destroy_result {pool' : Pool} (hcreate : (create setup pool).result = .ok (.ok ring, pool'))
    (ops : List Op) (others : Pool) :
    ((ring.after ops).destroy (if (ring.after ops).isDestroyed then others
        else others.grown (1 + setup.enabled.length) setup.bytes)).result =
      .ok ({ ring.after ops with store := none }, others) := by
  have hnew : ring.IsNew := ⟨setup, pool, pool', hcreate⟩
  have hmade := madeFor_after hcreate ops
  have hwell := hnew.wellFormed_after ops
  have hcounted := hnew.wellFormed.kept_after
    (P := fun ring => ∀ store, ring.store = some store → store.Counted)
    (out_of_create hcreate).2.2 (fun _ _ _ _ hstep hcounted => hstep.counted hcounted) ops
  generalize ring.after ops = now at hmade hwell hcounted ⊢
  unfold destroy isDestroyed
  cases hstore : now.store with
  | none =>
    have hgone : { now with store := none } = now := by rw [← hstore]
    rw [hgone]
    rfl
  | some store =>
    have hfits := hwell.fits store hstore
    rw [hmade.capacity] at hfits
    have hholding := RecordStore.holding_mappings hfits (hmade.setups store hstore) others
    have hback := Pool.releaseAll_holding (hcounted store hstore).mappings others
    rw [hholding] at hback
    simp only [Option.isNone_some, Bool.false_eq_true, if_false]
    rw [Traced.result_bind _ hback]
    rfl

/-- The pool that has the regions of a ring out, after an operation of the ring. -/
def poolNext (ring : Ring) (pool : Pool) : Op → Pool
  | .destroy _ => (ring.destroy pool).result.toOption.elim pool (·.2)
  | _ => pool

/-- The pool that has the regions of a ring out, after a run of the ring. -/
def poolAfter (ring : Ring) (pool : Pool) : List Op → Pool
  | [] => pool
  | op :: rest => (ring.next op).poolAfter (ring.poolNext pool op) rest

lemma poolAfter_from {pool' : Pool} (hcreate : (create setup pool).result = .ok (.ok ring, pool'))
    (others : Pool) (earlier ops : List Op) :
    (ring.after earlier).poolAfter (if (ring.after earlier).isDestroyed then others
        else others.grown (1 + setup.enabled.length) setup.bytes) ops =
      if (ring.after (earlier ++ ops)).isDestroyed then others
        else others.grown (1 + setup.enabled.length) setup.bytes := by
  have hnew : ring.IsNew := ⟨setup, pool, pool', hcreate⟩
  induction ops generalizing earlier with
  | nil => rw [poolAfter, List.append_nil]
  | cons op rest ih =>
    have hlater := ih (earlier ++ [op])
    have hnext : ring.after (earlier ++ [op]) = (ring.after earlier).next op := by
      rw [after_append, after_cons, after_nil]
    rw [List.append_assoc, List.singleton_append, hnext] at hlater
    have hdestroyed := (step (hnew.wellFormed_after earlier) op).isDestroyed_state
    rw [← next_eq] at hdestroyed
    rw [poolAfter, ← hlater, hdestroyed]
    congr 1
    cases op with
    | destroy _ =>
      rw [poolNext, destroy_result hcreate earlier others]
      rfl
    | _ => rfl

lemma poolAfter_eq {pool' : Pool} (hcreate : (create setup pool).result = .ok (.ok ring, pool'))
    (others : Pool) (ops : List Op) :
    ring.poolAfter (others.grown (1 + setup.enabled.length) setup.bytes) ops =
      if (ring.after ops).isDestroyed then others
        else others.grown (1 + setup.enabled.length) setup.bytes := by
  have hall := poolAfter_from hcreate others [] ops
  rw [after_nil, (out_of_create hcreate).2.1, List.nil_append] at hall
  exact hall

lemma drop_result {simulation : Simulation} {position : Nat} {station : Station} {gone : Ring}
    (hstation : simulation.station? position = some station)
    (hdestroy : (station.ring.destroy simulation.pool).result = .ok (gone, others)) :
    ∃ rest, (simulation.drop position).result = .ok (.dropped true, rest) ∧
      rest.pool = others ∧ (rest.drop position).result = .ok (.dropped false, rest) := by
  refine ⟨{ simulation with pool := others }.setStation position none, ?_, rfl, ?_⟩
  · unfold Simulation.drop
    rw [hstation]
    simp only
    rw [Traced.result_bind _ hdestroy]
    rfl
  · have hempty : ({ simulation with pool := others }.setStation position none).station? position =
        none := by
      simp only [Simulation.setStation, Simulation.station?, Array.getElem?_setIfInBounds, if_true]
      split <;> rfl
    unfold Simulation.drop
    rw [hempty]
    rfl

/-- A ring is created from a setup without flaws and a pool with room for all its regions, and then
these are out. In any other case nothing is out, and the error is the flaw or the first region for
which the budget leaves too little. Whatever is done to the ring, its regions go back when it is
destroyed or dropped for the first time, and nothing goes back after that. -/
theorem create_all_or_nothing (setup : RingSetup) (pool : Pool) :
    ∃ answer pool', (create setup pool).result = .ok (answer, pool') ∧
      ((∃ ring, answer = .ok ring) ↔ setup.flaw? = none ∧ pool.HasRoom setup.bytes) ∧
      (∀ error, answer = .error error → pool' = pool ∧
        ((∃ flaw, setup.flaw? = some flaw ∧ error = .flawed flaw) ∨
          setup.flaw? = none ∧
            ∃ refusal, pool.Refuses setup.regions refusal ∧ error = .allocation refusal)) ∧
      ∀ ring, answer = .ok ring →
        let all (others : Pool) := others.grown (1 + setup.enabled.length) setup.bytes
        pool' = all pool ∧
        ∀ ops others, let now := ring.after ops
          ring.poolAfter (all others) ops = (if now.isDestroyed then others else all others) ∧
          (now.destroy (ring.poolAfter (all others) ops)).result =
            .ok ({ now with store := none }, others) ∧
          ∀ (simulation : Simulation) (position : Nat) (station : Station),
            simulation.station? position = some station → station.ring = now →
            simulation.pool = ring.poolAfter (all others) ops →
            ∃ rest, (simulation.drop position).result = .ok (.dropped true, rest) ∧
              rest.pool = others ∧ (rest.drop position).result = .ok (.dropped false, rest) := by
  rcases create_result setup pool with
    ⟨flaw, hflaw, hresult⟩ | ⟨hflaw, hroom, hresult⟩ | ⟨refusal, hflaw, hrefuses, hresult⟩
  · refine ⟨_, _, hresult, ?_, ?_, nofun⟩
    · simp [hflaw]
    · rintro _ ⟨⟩
      exact ⟨rfl, Or.inl ⟨flaw, hflaw, rfl⟩⟩
  · refine ⟨_, _, hresult, ⟨fun _ => ⟨hflaw, hroom⟩, fun _ => ⟨_, rfl⟩⟩, nofun, ?_⟩
    intro ring hring all
    rw [hring] at hresult
    refine ⟨(out_of_create hresult).1, ?_⟩
    intro ops others now
    have hpool := poolAfter_eq hresult others ops
    have hdestroy := destroy_result hresult ops others
    rw [← hpool] at hdestroy
    refine ⟨hpool, hdestroy, ?_⟩
    intro simulation position station hstation hsame hshare
    have hdrop : (station.ring.destroy simulation.pool).result =
        .ok ({ now with store := none }, others) := by
      rw [hsame, hshare]
      exact hdestroy
    exact drop_result hstation hdrop
  · refine ⟨_, _, hresult, ?_, ?_, nofun⟩
    · have hshort := hrefuses.not_hasRoom
      constructor
      · rintro ⟨ring, ⟨⟩⟩
      · rintro ⟨-, hroom⟩
        exact absurd hroom hshort
    · rintro _ ⟨⟩
      exact ⟨rfl, Or.inr ⟨hflaw, refusal, hrefuses, rfl⟩⟩

/-- The fence and the record of the first engine would fit, that of the second one does not. -/
example : (create ⟨"tight", 1, [⟨⟨0⟩, "first", .compact, true⟩,
      ⟨⟨1⟩, "second", .compact, true⟩]⟩ (.new (some 34))).result =
    .ok (.error (.allocation (.overBudget "tight.second" 16 10)), .new (some 34)) := rfl

end Ring

end CompletionRing
