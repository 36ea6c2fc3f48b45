import CompletionRing.Proofs.Memory.Histories
import CompletionRing.Proofs.Memory.Pools

/-!
# The ledger of a pool

Whoever sees the operations on a shelf and their answers can keep books: how large the regions are
that the pool handed out and that were not dropped since. Whatever the system grants, the pool
counts just these, and they stay inside its budget. The sum of their lengths is not bounded here:
regions that are out at one time share one address space.
-/

namespace CompletionRing

lemma Region.mappable_iff {length alignment : Nat} {mapper : Mapper} :
    mappable length alignment mapper ↔
      0 < length ∧ alignment.isPowerOfTwo ∧ mapper.grants length alignment := by
  have hpower : alignment = 1 <<< alignment.log2 ↔ alignment.isPowerOfTwo := by
    rw [Nat.one_shiftLeft]
    constructor
    · intro h
      exact ⟨_, h⟩
    · rintro ⟨k, rfl⟩
      rw [Nat.log2_two_pow]
  unfold mappable
  rw [Bool.and_eq_true, Bool.and_eq_true, decide_eq_true_eq, beq_iff_eq, hpower, and_assoc]

namespace Shelf

/-- What an operation answers. -/
def answer (shelf : Shelf) (op : Op) (mapper : Region.Mapper) : Except Fault Reply :=
  (shelf.perform op mapper).trace.result

/-- The shelf after an operation. -/
def next (shelf : Shelf) (op : Op) (mapper : Region.Mapper) : Shelf :=
  (shelf.perform op mapper).state

/-- The shelf after operations. The system may decide differently each time. -/
def after (shelf : Shelf) : List (Op × Region.Mapper) → Shelf
  | [] => shelf
  | (op, mapper) :: rest => (shelf.next op mapper).after rest

/-- The length of the region in each slot, as long as the pool has it out. -/
abbrev Books := List (Option Nat)

/-- The books after an operation: each request takes the next slot, whatever comes of it. -/
def Books.entered (books : Books) : Op → Except Fault Reply → Books
  | .allocate _, .ok (.mapped mapping) => books ++ [some mapping.region.length]
  | .allocate _, _ | .wrap _, _ => books ++ [none]
  | .drop slot, _ => books.set slot none
  | .access _ _, _ => books

/-- The books after operations. -/
def booksAfter (shelf : Shelf) (books : Books) : List (Op × Region.Mapper) → Books
  | [] => books
  | (op, mapper) :: rest =>
    (shelf.next op mapper).booksAfter (books.entered op (shelf.answer op mapper)) rest

/-- The lengths of the regions that the pool has out. -/
def Books.sizes (books : Books) : List Nat := books.filterMap id

/-- What the books say of a slot. -/
def size? (mapping? : Option Mapping) : Option Nat :=
  (mapping?.filter (·.counted)).map (·.region.length)

/-- Do the books say what the shelf and the pool say, and is the budget kept to? -/
structure Balanced (budget : Option Nat) (books : Books) (shelf : Shelf) : Prop where
  slots : shelf.slots.toList.map size? = books
  pool : shelf.pool = (Pool.new budget).grown books.sizes.length books.sizes.sum
  budget : ∀ limit, budget = some limit → books.sizes.sum ≤ limit

variable {shelf : Shelf} {books : Books} {budget : Option Nat} {op : Op} {mapper : Region.Mapper}
  {request : Request} {slot : Nat} {mapping : Mapping}

/-! ### Books -/

@[simp] lemma Books.sizes_concat (books : Books) (size? : Option Nat) :
    Books.sizes (books ++ [size?]) = books.sizes ++ size?.toList := by
  cases size? <;> simp [Books.sizes]

lemma Books.perm_sizes (books : Books) (slot : Nat) :
    books.sizes.Perm (books[slot]?.join.toList ++ Books.sizes (books.set slot none)) := by
  induction books generalizing slot with
  | nil => rfl
  | cons first rest ih =>
    cases slot with
    | zero => cases first <;> exact List.Perm.refl _
    | succ slot =>
      cases first with
      | none => exact ih slot
      | some size =>
        exact ((ih slot).cons size).trans List.perm_middle.symm

lemma Books.set_self (books : Books) (slot : Nat) : books.set slot books[slot]?.join = books := by
  apply List.ext_getElem?
  intro other
  rw [List.getElem?_set]
  by_cases hsame : slot = other
  · subst hsame
    cases hat : books[slot]? with
    | none => simp [List.getElem?_eq_none_iff.mp hat]
    | some size => simp [(List.getElem?_eq_some_iff.mp hat).1]
  · rw [if_neg hsame]

lemma Books.set_none (hslot : books[slot]?.join = none) : books.set slot none = books := by
  rw [← hslot, set_self]

lemma Balanced.size (h : shelf.Balanced budget books) (slot : Nat) :
    books[slot]?.join = size? (shelf.mapping? slot) := by
  rw [← h.slots, List.getElem?_map, mapping?, ← Array.getElem?_toList]
  cases shelf.slots.toList[slot]? <;> rfl

lemma Balanced.bytes (h : shelf.Balanced budget books) : shelf.pool.bytes = books.sizes.sum := by
  rw [h.pool]
  exact Nat.zero_add _

lemma Balanced.budget_eq (h : shelf.Balanced budget books) : shelf.pool.budget = budget := by
  rw [h.pool]
  rfl

lemma balanced_new (budget : Option Nat) : (Shelf.new budget).Balanced budget [] where
  slots := rfl
  pool := rfl
  budget := fun _ _ => Nat.zero_le _

/-! ### Requests -/

lemma allocate_of_refusal {refusal : AllocationError}
    (hrefusal : shelf.pool.refusal? request mapper = some refusal) :
    shelf.perform (.allocate request) mapper =
      .done { shelf with slots := shelf.slots.push none } (.refused refusal) := by
  simp only [perform, Pool.allocate, hrefusal]
  rfl

lemma allocate_of_granted (hgranted : shelf.pool.refusal? request mapper = none) :
    shelf.perform (.allocate request) mapper =
      ⟨⟨shelf.pool.grown 1 request.size, shelf.slots.push (some request.mapping)⟩,
        [.allocated request.name request.size request.access request.skipSync],
        .ok (.mapped request.mapping)⟩ := by
  simp only [perform, Pool.allocate, hgranted]
  rfl

lemma wrap_perform (shelf : Shelf) (request : Request) (mapper : Region.Mapper) :
    ∃ mapping? reply, shelf.perform (.wrap request) mapper =
        .done { shelf with slots := shelf.slots.push mapping? } reply ∧ size? mapping? = none := by
  have hperform : shelf.perform (.wrap request) mapper =
      .done (shelf.place (Mapping.wrap request mapper)).2
        (shelf.place (Mapping.wrap request mapper)).1 := rfl
  rw [hperform]
  unfold Mapping.wrap
  cases Region.allocate request.name request.size request.alignment mapper with
  | error refusal => exact ⟨none, .refused refusal, rfl, rfl⟩
  | ok region =>
    exact ⟨some ⟨request.name, request.access, request.skipSync, false, region⟩, .mapped _, rfl,
      rfl⟩

lemma refusal?_of_empty (hsize : request.size = 0) (pool : Pool) (mapper : Region.Mapper) :
    pool.refusal? request mapper = some (.tooSmall request.name 0 1) := by
  rw [Pool.refusal?, if_pos hsize]

lemma refusal?_of_overBudget {pool : Pool} {limit : Nat} (hsize : 0 < request.size)
    (hbudget : pool.budget = some limit) (hfull : limit < pool.bytes + request.size)
    (mapper : Region.Mapper) : pool.refusal? request mapper =
      some (.overBudget request.name request.size (limit - pool.bytes)) := by
  have hroom : ¬pool.HasRoom request.size := by
    intro hroom
    have hfit := hroom limit hbudget
    omega
  obtain ⟨limit', hbudget', -, hshortage⟩ := Pool.exists_shortage hroom
  rw [hbudget] at hbudget'
  cases hbudget'
  rw [Pool.refusal?, if_neg (Nat.pos_iff_ne_zero.mp hsize), hshortage]

lemma refusal?_of_room {pool : Pool} (hsize : 0 < request.size)
    (hroom : ∀ limit, pool.budget = some limit → pool.bytes + request.size ≤ limit)
    (mapper : Region.Mapper) : pool.refusal? request mapper =
      if Region.mappable request.size request.alignment mapper then none
      else some (.refused request.name request.size request.alignment) := by
  have hfits : pool.HasRoom request.size := by
    intro limit hbudget
    have hfit := hroom limit hbudget
    omega
  rw [Pool.refusal?, if_neg (Nat.pos_iff_ne_zero.mp hsize), Pool.shortage?_eq_none hfits]

lemma le_budget_of_granted (hgranted : shelf.pool.refusal? request mapper = none)
    {limit : Nat} (hbudget : shelf.pool.budget = some limit) :
    shelf.pool.bytes + request.size ≤ limit := by
  by_contra hfull
  by_cases hsize : request.size = 0
  · rw [refusal?_of_empty hsize] at hgranted
    cases hgranted
  · rw [refusal?_of_overBudget (Nat.pos_of_ne_zero hsize) hbudget (Nat.not_le.mp hfull)] at hgranted
    cases hgranted

/-! ### What an operation does to the books -/

lemma Balanced.pushed (h : shelf.Balanced budget books) {mapping? : Option Mapping}
    (hsize : size? mapping? = none) :
    { shelf with slots := shelf.slots.push mapping? }.Balanced budget (books ++ [none]) where
  slots := by
    rw [Array.toList_push, List.map_append, h.slots, List.map_singleton, hsize]
  pool := by
    rw [Books.sizes_concat, Option.toList_none, List.append_nil]
    exact h.pool
  budget := by
    rw [Books.sizes_concat, Option.toList_none, List.append_nil]
    exact h.budget

lemma Balanced.granted (h : shelf.Balanced budget books)
    (hgranted : shelf.pool.refusal? request mapper = none) :
    Balanced budget (books ++ [some request.size])
      ⟨shelf.pool.grown 1 request.size, shelf.slots.push (some request.mapping)⟩ where
  slots := by
    have hsize : size? (some request.mapping) = some request.size :=
      congrArg some request.length_mapping
    rw [Array.toList_push, List.map_append, h.slots, List.map_singleton, hsize]
  pool := by
    rw [Books.sizes_concat, Option.toList_some, List.length_append, List.sum_append,
      List.length_singleton, List.sum_singleton, h.pool]
    simp only [Pool.grown, Nat.add_assoc]
  budget := by
    intro limit hbudget
    have hfit := le_budget_of_granted hgranted (h.budget_eq.trans hbudget)
    rw [h.bytes] at hfit
    rw [Books.sizes_concat, Option.toList_some, List.sum_append, List.sum_singleton]
    exact hfit

lemma Balanced.emptied (h : shelf.Balanced budget books) {pool : Pool}
    (hpool : pool = (Pool.new budget).grown (Books.sizes (books.set slot none)).length
      (Books.sizes (books.set slot none)).sum) :
    Balanced budget (books.set slot none) ⟨pool, shelf.slots.setIfInBounds slot none⟩ where
  slots := by
    rw [Array.toList_setIfInBounds, List.map_set, h.slots]
    rfl
  pool := hpool
  budget := by
    intro limit hbudget
    have hperm := (books.perm_sizes slot).sum_nat
    have hfit := h.budget limit hbudget
    rw [List.sum_append] at hperm
    omega

lemma Balanced.released (h : shelf.Balanced budget books)
    (hmapping : shelf.mapping? slot = some mapping) :
    (shelf.pool.release mapping).result =
      .ok ((Pool.new budget).grown (Books.sizes (books.set slot none)).length
        (Books.sizes (books.set slot none)).sum) := by
  have hsize := h.size slot
  rw [hmapping] at hsize
  by_cases hcounted : mapping.counted
  · have hat : books[slot]?.join = some mapping.region.length := by
      rw [hsize, size?, Option.filter_some, if_pos hcounted]
      rfl
    have hperm := books.perm_sizes slot
    rw [hat] at hperm
    have hlength := hperm.length_eq
    have hsum := hperm.sum_nat
    rw [Option.toList_some, List.singleton_append] at hlength hsum
    rw [List.length_cons] at hlength
    rw [List.sum_cons] at hsum
    rw [h.pool, hlength, hsum]
    exact Pool.release_grown hcounted _ _ _
  · have hat : books[slot]?.join = none := by
      rw [hsize, size?, Option.filter_some, if_neg hcounted]
      rfl
    rw [Pool.release, if_neg hcounted, Books.set_none hat, ← h.pool]
    rfl

lemma drop_perform (h : shelf.Balanced budget books) (hmapping : shelf.mapping? slot = some mapping)
    (mapper : Region.Mapper) :
    shelf.next (.drop slot) mapper = ⟨(Pool.new budget).grown
        (Books.sizes (books.set slot none)).length (Books.sizes (books.set slot none)).sum,
      shelf.slots.setIfInBounds slot none⟩ ∧ shelf.answer (.drop slot) mapper = .ok .dropped := by
  unfold next answer
  simp only [perform, hmapping]
  apply Run.ofTraced_of_ok
  rw [Traced.result_bind _ (h.released hmapping)]
  rfl

lemma access_perform (h : shelf.Balanced budget books) (slot : Nat) (op : Region.Op)
    (mapper : Region.Mapper) : (shelf.next (.access slot op) mapper).Balanced budget books := by
  unfold next
  cases hmapping : shelf.mapping? slot with
  | none =>
    simp only [perform, hmapping]
    exact h
  | some mapping =>
    simp only [perform, hmapping, access]
    cases hop : mapping.region.perform op with
    | error fault => exact h
    | ok answer =>
      obtain ⟨reply, region⟩ := answer
      have hlength : region.length = mapping.region.length := by
        have hattempt := mapping.region.length_attempt op
        rwa [Region.attempt, hop] at hattempt
      have hsize : size? (some { mapping with region }) = books[slot]?.join := by
        rw [h.size slot, hmapping]
        cases hcounted : mapping.counted <;> simp [size?, Option.filter_some, hcounted, hlength]
      refine ⟨?_, h.pool, h.budget⟩
      change (shelf.slots.setIfInBounds slot (some { mapping with region })).toList.map size? = books
      rw [Array.toList_setIfInBounds, List.map_set, h.slots, hsize, Books.set_self]

lemma Balanced.next (h : shelf.Balanced budget books) (op : Op) (mapper : Region.Mapper) :
    (shelf.next op mapper).Balanced budget (books.entered op (shelf.answer op mapper)) := by
  cases op with
  | allocate request =>
    unfold Shelf.next answer
    cases hrefusal : shelf.pool.refusal? request mapper with
    | some refusal =>
      rw [allocate_of_refusal hrefusal]
      exact h.pushed rfl
    | none =>
      rw [allocate_of_granted hrefusal]
      change Balanced budget (books ++ [some request.mapping.region.length]) _
      rw [request.length_mapping]
      exact h.granted hrefusal
  | wrap request =>
    obtain ⟨mapping?, reply, hperform, hsize⟩ := wrap_perform shelf request mapper
    unfold Shelf.next
    rw [hperform]
    exact h.pushed hsize
  | drop slot =>
    cases hmapping : shelf.mapping? slot with
    | none =>
      have hsize := h.size slot
      rw [hmapping] at hsize
      have hsame : shelf.next (.drop slot) mapper = shelf := by
        unfold Shelf.next
        simp only [perform, hmapping, Run.state_done]
      rw [hsame]
      change shelf.Balanced budget (books.set slot none)
      rw [Books.set_none hsize]
      exact h
    | some mapping =>
      rw [(drop_perform h hmapping mapper).1]
      exact h.emptied rfl
  | access slot op => exact access_perform h slot op mapper

lemma Balanced.after (h : shelf.Balanced budget books) (steps : List (Op × Region.Mapper)) :
    (shelf.after steps).Balanced budget (shelf.booksAfter books steps) := by
  induction steps generalizing shelf books with
  | nil => exact h
  | cons step rest ih => exact ih (h.next step.1 step.2)

/-! ### The ledger -/

/-- How a request is decided: by its size, then by what the budget leaves, and then by its alignment
and the system. -/
structure Decides (shelf : Shelf) (budget : Option Nat) (request : Request)
    (mapper : Region.Mapper) : Prop where
  empty : request.size = 0 →
    shelf.answer (.allocate request) mapper = .ok (.refused (.tooSmall request.name 0 1))
  overBudget : ∀ limit, 0 < request.size → budget = some limit →
    limit < shelf.pool.bytes + request.size → shelf.answer (.allocate request) mapper =
      .ok (.refused (.overBudget request.name request.size (limit - shelf.pool.bytes)))
  refused : 0 < request.size →
    (∀ limit, budget = some limit → shelf.pool.bytes + request.size ≤ limit) →
    ¬(request.alignment.isPowerOfTwo ∧ mapper.grants request.size request.alignment) →
      shelf.answer (.allocate request) mapper =
        .ok (.refused (.refused request.name request.size request.alignment))
  granted : 0 < request.size →
    (∀ limit, budget = some limit → shelf.pool.bytes + request.size ≤ limit) →
    request.alignment.isPowerOfTwo → mapper.grants request.size request.alignment →
      shelf.answer (.allocate request) mapper = .ok (.mapped request.mapping)

lemma answer_of_refusal {refusal : AllocationError}
    (hrefusal : shelf.pool.refusal? request mapper = some refusal) :
    shelf.answer (.allocate request) mapper = .ok (.refused refusal) := by
  rw [answer, allocate_of_refusal hrefusal]
  rfl

lemma Balanced.decides (h : shelf.Balanced budget books) (request : Request)
    (mapper : Region.Mapper) : shelf.Decides budget request mapper where
  empty hsize := answer_of_refusal (refusal?_of_empty hsize _ mapper)
  overBudget limit hsize hbudget hfull :=
    answer_of_refusal (refusal?_of_overBudget hsize (h.budget_eq.trans hbudget) hfull mapper)
  refused := by
    intro hsize hroom hrefused
    rw [← h.budget_eq] at hroom
    apply answer_of_refusal
    rw [refusal?_of_room hsize hroom, if_neg]
    rw [Region.mappable_iff]
    exact fun hmappable => hrefused hmappable.2
  granted := by
    intro hsize hroom hpower hgrants
    rw [← h.budget_eq] at hroom
    have hgranted : shelf.pool.refusal? request mapper = none := by
      rw [refusal?_of_room hsize hroom, if_pos (Region.mappable_iff.mpr ⟨hsize, hpower, hgrants⟩)]
    rw [answer, allocate_of_granted hgranted]

/-- Is the ledger left alone by whatever hands out no counted region and takes none back? -/
structure LeavesAlone (shelf : Shelf) (books : Books) (mapper : Region.Mapper) : Prop where
  refused : ∀ request refusal,
    shelf.answer (.allocate request) mapper = .ok (.refused refusal) →
      (shelf.next (.allocate request) mapper).pool = shelf.pool
  wrapped : ∀ request, (shelf.next (.wrap request) mapper).pool = shelf.pool
  dropped : ∀ slot, books[slot]?.join = none →
    (shelf.next (.drop slot) mapper).pool = shelf.pool
  accessed : ∀ slot op, (shelf.next (.access slot op) mapper).pool = shelf.pool

lemma Balanced.leavesAlone (h : shelf.Balanced budget books) (mapper : Region.Mapper) :
    shelf.LeavesAlone books mapper where
  refused := by
    intro request refusal hanswer
    unfold Shelf.next
    cases hrefusal : shelf.pool.refusal? request mapper with
    | some refusal =>
      rw [allocate_of_refusal hrefusal]
      rfl
    | none =>
      rw [answer, allocate_of_granted hrefusal] at hanswer
      cases hanswer
  wrapped := by
    intro request
    obtain ⟨mapping?, reply, hperform, -⟩ := wrap_perform shelf request mapper
    rw [Shelf.next, hperform]
    rfl
  dropped := by
    intro slot hslot
    have hnext : (shelf.next (.drop slot) mapper).Balanced budget (books.set slot none) :=
      h.next (.drop slot) mapper
    rw [Books.set_none hslot] at hnext
    rw [hnext.pool, h.pool]
  accessed := by
    intro slot op
    rw [(access_perform h slot op mapper).pool, h.pool]

/-- Whatever is asked of a pool, dropped and wrapped, and whatever the system grants each time: the
ledger counts the regions that are out and sums up their lengths, the budget is kept to, requests
are decided in order, and nothing else changes the ledger. -/
theorem ledger_after (budget : Option Nat) (steps : List (Op × Region.Mapper)) :
    let shelf := (Shelf.new budget).after steps
    let books := (Shelf.new budget).booksAfter [] steps
    shelf.pool.regions = books.sizes.length ∧ shelf.pool.bytes = books.sizes.sum ∧
      (∀ limit, budget = some limit → shelf.pool.bytes ≤ limit) ∧
      (∀ request mapper, shelf.Decides budget request mapper) ∧
      ∀ mapper, shelf.LeavesAlone books mapper := by
  intro shelf books
  have h : shelf.Balanced budget books := (balanced_new budget).after steps
  refine ⟨?_, h.bytes, ?_, h.decides, h.leavesAlone⟩
  · rw [h.pool]
    exact Nat.zero_add _
  · intro limit hbudget
    rw [h.bytes]
    exact h.budget limit hbudget

/-- A region that fits once another one was dropped. -/
example : ((Shelf.new (some 100)).after ([.allocate (.forRecords "first" 64),
      .allocate (.forRecords "second" 48), .wrap (.forRecords "third" 8), .drop 0,
      .allocate (.forRecords "fourth" 48)].map (·, .standard))).pool = ⟨some 100, 1, 48⟩ := rfl

end Shelf

end CompletionRing
