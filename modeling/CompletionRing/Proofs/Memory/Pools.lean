import CompletionRing.Memory.Pool
import CompletionRing.Proofs.Traces
import Mathlib.Algebra.GroupWithZero.Nat

/-!
# Pools

A pool grants a request exactly if its budget leaves room for it, and then has one region more
out. Counted mappings that come back leave the pool as it was before it handed them out.
-/

namespace CompletionRing

lemma Region.length_pos_of_mappable {length alignment : Nat} (h : mappable length alignment) :
    0 < length := by
  simp only [mappable, Bool.and_eq_true, decide_eq_true_eq] at h
  exact h.1.1

lemma Region.mappable_of_lt {length : Nat} (hpos : 0 < length) (hlt : length < systemBound) :
    mappable length pageAlignment := by
  have hpage : pageAlignment == 1 <<< pageAlignment.log2 && pageAlignment < systemBound := by decide
  rw [Bool.and_eq_true] at hpage
  simp [mappable, Mapper.standard, hpos, hlt, hpage.1, hpage.2]

/-- The mapping that a pool hands out for a request. -/
def Request.mapping (request : Request) : Mapping :=
  ⟨request.name, request.access, request.skipSync, true, .zeroed request.size request.alignment⟩

@[simp] lemma Request.length_mapping (request : Request) :
    request.mapping.region.length = request.size := Array.size_replicate

namespace Pool

/-- The pool with more regions out. -/
def grown (pool : Pool) (regions bytes : Nat) : Pool :=
  { pool with regions := pool.regions + regions, bytes := pool.bytes + bytes }

/-- Does the budget leave room for so many more bytes? -/
def HasRoom (pool : Pool) (bytes : Nat) : Prop :=
  ∀ budget, pool.budget = some budget → bytes ≤ budget - pool.bytes

/-- Is this the error for the first of some regions, known by name and size, for which the budget
leaves too little once those ahead of it are out? -/
def Refuses (pool : Pool) (regions : List (String × Nat)) (refusal : AllocationError) : Prop :=
  ∃ budget before name size after, pool.budget = some budget ∧
    regions = before ++ (name, size) :: after ∧
    (before.map (·.2)).sum ≤ budget - pool.bytes ∧
    budget - pool.bytes < (before.map (·.2)).sum + size ∧
    refusal = .overBudget name size (budget - pool.bytes - (before.map (·.2)).sum)

/-- The pool with mappings of its own out. -/
def holding (pool : Pool) (mappings : List Mapping) : Pool :=
  pool.grown mappings.length (mappings.map (·.region.length)).sum

variable {pool : Pool} {request : Request} {mapping : Mapping} {mappings : List Mapping}
  {name : String} {size bytes more : Nat} {regions : List (String × Nat)}
  {refusal : AllocationError}

@[simp] lemma holding_nil (pool : Pool) : pool.holding [] = pool := rfl

lemma holding_cons (pool : Pool) (mapping : Mapping) (mappings : List Mapping) :
    pool.holding (mapping :: mappings) = (pool.grown 1 mapping.region.length).holding mappings := by
  simp only [holding, grown, List.length_cons, List.map_cons, List.sum_cons, Nat.add_assoc,
    Nat.add_comm 1]

lemma holding_concat (pool : Pool) (mappings : List Mapping) (mapping : Mapping) :
    pool.holding (mappings ++ [mapping]) =
      (pool.holding mappings).grown 1 mapping.region.length := by
  simp only [holding, grown, List.length_append, List.length_singleton, List.map_append,
    List.map_singleton, List.sum_append, List.sum_singleton, Nat.add_assoc]

/-! ### Allocation -/

lemma hasRoom_add :
    pool.HasRoom (bytes + more) ↔ pool.HasRoom bytes ∧ (pool.grown 1 bytes).HasRoom more := by
  constructor
  · intro hroom
    constructor
    · intro budget hbudget
      have hfit := hroom budget hbudget
      omega
    · intro budget hbudget
      have hfit := hroom budget hbudget
      change more ≤ budget - (pool.bytes + bytes)
      omega
  · rintro ⟨hfirst, hrest⟩ budget hbudget
    have hfit := hfirst budget hbudget
    have hfit' : more ≤ budget - (pool.bytes + bytes) := hrest budget hbudget
    omega

lemma shortage?_eq_none (hroom : pool.HasRoom size) : pool.shortage? size = none := by
  unfold shortage?
  cases hbudget : pool.budget with
  | none => rfl
  | some budget =>
    have hfit := hroom budget hbudget
    simp only [Option.bind_eq_bind, Option.bind_some, if_neg (Nat.not_lt.mpr hfit)]

lemma exists_shortage (hroom : ¬pool.HasRoom size) :
    ∃ budget, pool.budget = some budget ∧ budget - pool.bytes < size ∧
      pool.shortage? size = some (budget - pool.bytes) := by
  obtain ⟨budget, hbudget⟩ := not_forall.mp hroom
  rw [Classical.not_imp, Nat.not_le] at hbudget
  obtain ⟨hbudget, hlt⟩ := hbudget
  refine ⟨budget, hbudget, hlt, ?_⟩
  unfold shortage?
  simp only [hbudget, Option.bind_eq_bind, Option.bind_some, if_pos hlt]

lemma allocate_granted (hmappable : Region.mappable request.size request.alignment)
    (hroom : pool.HasRoom request.size) :
    (pool.allocate request).result = .ok (.ok request.mapping, pool.grown 1 request.size) := by
  have hsize : 0 < request.size := Region.length_pos_of_mappable hmappable
  have hgranted : pool.refusal? request = none := by
    unfold refusal?
    rw [if_neg (Nat.pos_iff_ne_zero.mp hsize), shortage?_eq_none hroom]
    simp only [hmappable, if_true]
  unfold allocate
  rw [hgranted]
  rfl

lemma allocate_refused (hsize : 0 < request.size) (hroom : ¬pool.HasRoom request.size) :
    ∃ budget, pool.budget = some budget ∧ budget - pool.bytes < request.size ∧
      (pool.allocate request).result =
        .ok (.error (.overBudget request.name request.size (budget - pool.bytes)), pool) := by
  obtain ⟨budget, hbudget, hlt, hshortage⟩ := exists_shortage hroom
  refine ⟨budget, hbudget, hlt, ?_⟩
  unfold allocate refusal?
  rw [if_neg (Nat.pos_iff_ne_zero.mp hsize), hshortage]
  rfl

lemma Refuses.head {budget : Nat} (hbudget : pool.budget = some budget)
    (hlt : budget - pool.bytes < size) (regions : List (String × Nat)) :
    pool.Refuses ((name, size) :: regions) (.overBudget name size (budget - pool.bytes)) :=
  ⟨budget, [], name, size, regions, hbudget, rfl, Nat.zero_le _, by simpa using hlt, rfl⟩

lemma Refuses.tail (hroom : pool.HasRoom size) (h : (pool.grown 1 size).Refuses regions refusal) :
    pool.Refuses ((name, size) :: regions) refusal := by
  obtain ⟨budget, before, name', size', after, hbudget, rfl, hfit, hlt, rfl⟩ := h
  have hfirst := hroom budget hbudget
  change _ ≤ budget - (pool.bytes + size) at hfit
  change budget - (pool.bytes + size) < _ at hlt
  refine ⟨budget, (name, size) :: before, name', size', after, hbudget, rfl, ?_, ?_, ?_⟩
  · rw [List.map_cons, List.sum_cons]
    omega
  · rw [List.map_cons, List.sum_cons]
    omega
  · have hleft : budget - (pool.grown 1 size).bytes = budget - pool.bytes - size :=
      Nat.sub_add_eq _ _ _
    rw [List.map_cons, List.sum_cons, hleft, Nat.sub_add_eq]

lemma Refuses.not_hasRoom (h : pool.Refuses regions refusal) :
    ¬pool.HasRoom (regions.map (·.2)).sum := by
  obtain ⟨budget, before, name, size, after, hbudget, rfl, -, hlt, -⟩ := h
  intro hroom
  have hfit := hroom budget hbudget
  rw [List.map_append, List.map_cons, List.sum_append, List.sum_cons] at hfit
  omega

/-! ### Release -/

lemma release_grown (hcounted : mapping.counted) (pool : Pool) (regions bytes : Nat) :
    ((pool.grown (regions + 1) (mapping.region.length + bytes)).release mapping).result =
      .ok (pool.grown regions bytes) := by
  have hregions : pool.regions + (regions + 1) - 1 = pool.regions + regions := by omega
  have hbytes : pool.bytes + (mapping.region.length + bytes) - mapping.region.length =
      pool.bytes + bytes := by omega
  unfold release
  rw [if_pos hcounted]
  simp only [Traced.emit_bind, Traced.result_pure, grown, hregions, hbytes]

lemma release_holding (hcounted : mapping.counted) (pool : Pool) (mappings : List Mapping) :
    ((pool.holding (mapping :: mappings)).release mapping).result =
      .ok (pool.holding mappings) := by
  rw [holding, List.length_cons, List.map_cons, List.sum_cons]
  exact release_grown hcounted pool _ _

/-- Mappings that all come back leave the pool as it was before they were handed out. -/
lemma releaseAll_holding (hcounted : ∀ mapping ∈ mappings, mapping.counted) (pool : Pool) :
    ((pool.holding mappings).releaseAll mappings).result = .ok pool := by
  induction mappings with
  | nil => rfl
  | cons mapping rest ih =>
    have hfirst := release_holding (hcounted mapping List.mem_cons_self) pool rest
    rw [releaseAll, Traced.result_bind _ hfirst]
    exact ih fun other hmem => hcounted other (List.mem_cons_of_mem _ hmem)

end Pool

end CompletionRing
