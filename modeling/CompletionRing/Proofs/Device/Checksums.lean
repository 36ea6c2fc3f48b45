import CompletionRing.Device.Queue
import CompletionRing.Proofs.Memory.Access
import Mathlib.Algebra.Group.Units.Basic
import Mathlib.Data.List.OfFn
import Mathlib.Data.UInt

/-!
# Checksums that differ

Each step of the hash is reversible: it loses neither the hash before it nor the byte that it takes
in. So a difference in one byte of the input is carried through the bytes that follow, and engines
that work on one unit never report the same checksum.
-/

namespace CompletionRing

lemma Word.toBytes_eq_ofFn (w value : Nat) :
    toBytes w value = List.ofFn fun place : Fin w => UInt8.ofNat (value / range place) := by
  induction w generalizing value with
  | zero => rfl
  | succ w ih =>
    have hrest : ∀ place : Fin w, value / 256 / range place = value / range place.succ :=
      fun place => Nat.div_div_eq_div_mul value 256 (range place)
    have hfirst : value / range (0 : Fin (w + 1)) = value := Nat.div_one value
    rw [toBytes, ih, List.ofFn_succ, hfirst]
    simp only [hrest]

namespace Device

/-- The nine bytes of an input: the digits of the unit's number, least significant first, and
the engine's number. -/
def inputByte (sequence : Nat) (engine : Engine) (place : Fin 9) : UInt8 :=
  if place = Fin.last 8 then engine.number else UInt8.ofNat (sequence / Word.range place)

lemma checksum_eq_foldl (sequence : Nat) (engine : Engine) :
    checksum sequence engine =
      (List.ofFn (inputByte sequence engine)).foldl hashByte hashOffset := by
  have hdigits : ∀ place : Fin 8, inputByte sequence engine place.castSucc =
      UInt8.ofNat (sequence / Word.range place) := fun place => if_neg (Fin.castSucc_ne_last place)
  have hlast : inputByte sequence engine (Fin.last 8) = engine.number := if_pos rfl
  rw [checksum, List.ofFn_succ', List.concat_eq_append, hlast, Word.toBytes_eq_ofFn]
  simp only [hdigits]

/-! ### Steps of the hash -/

/-- The multiplier is odd, so a product with it can be undone. -/
lemma isUnit_hashPrime : IsUnit hashPrime := IsUnit.of_mul_eq_one 0x359C449B (by decide)

lemma hashByte_left_injective (byte : UInt8) : Function.Injective (hashByte · byte) := by
  intro hash hash' h
  exact (UInt32.xor_left_inj _).mp (isUnit_hashPrime.mul_left_injective h)

lemma hashByte_right_injective (hash : UInt32) : Function.Injective (hashByte hash) := by
  intro byte byte' h
  have hxor := isUnit_hashPrime.mul_left_injective h
  exact UInt8.toUInt32_inj.mp ((UInt32.xor_right_inj _).mp hxor)

lemma foldl_hashByte_injective (bytes : List UInt8) :
    Function.Injective fun hash => bytes.foldl hashByte hash := by
  induction bytes with
  | nil => exact Function.injective_id
  | cons byte rest ih =>
    intro hash hash' h
    exact hashByte_left_injective byte (ih h)

lemma foldl_hashByte_ne {n : Nat} {bytes bytes' : Fin n → UInt8}
    (hone : ∃! place, bytes place ≠ bytes' place) (hash : UInt32) :
    (List.ofFn bytes).foldl hashByte hash ≠ (List.ofFn bytes').foldl hashByte hash := by
  -- The hashes agree up to the place where the bytes differ, and never again from there on.
  induction n generalizing hash with
  | zero =>
    obtain ⟨place, -⟩ := hone
    exact place.elim0
  | succ n ih =>
    obtain ⟨place, hdiffer, hothers⟩ := hone
    rw [List.ofFn_succ, List.ofFn_succ, List.foldl_cons, List.foldl_cons]
    cases place using Fin.cases with
    | zero =>
      have hrest : (fun other : Fin n => bytes other.succ) = fun other => bytes' other.succ := by
        funext other
        by_contra hne
        exact Fin.succ_ne_zero other (hothers other.succ hne)
      rw [hrest]
      intro h
      exact hdiffer (hashByte_right_injective hash (foldl_hashByte_injective _ h))
    | succ place =>
      have hfirst : bytes 0 = bytes' 0 := by
        by_contra hne
        exact Fin.succ_ne_zero place (hothers 0 hne).symm
      rw [hfirst]
      exact ih ⟨place, hdiffer, fun other hne => Fin.succ_injective n (hothers other.succ hne)⟩ _

/-! ### Checksums -/

lemma checksum_ne {sequence sequence' : Nat} {engine engine' : Engine}
    (hone : ∃! place, inputByte sequence engine place ≠ inputByte sequence' engine' place) :
    checksum sequence engine ≠ checksum sequence' engine' := by
  rw [checksum_eq_foldl, checksum_eq_foldl]
  exact foldl_hashByte_ne hone hashOffset

lemma checksum_injective (sequence : Nat) : Function.Injective (checksum sequence) := by
  intro engine engine' h
  by_contra hengine
  apply checksum_ne _ h
  refine ⟨Fin.last 8, fun hnumber => hengine (congrArg Engine.mk hnumber), ?_⟩
  intro place hdiffer
  by_contra hplace
  exact hdiffer ((if_neg hplace).trans (if_neg hplace).symm)

lemma checksum_of_mem_writes {job : Job} {engine : Engine} {value : UInt32}
    (h : (engine, Field.checksum, value) ∈ job.writes) : value = checksum job.sequence engine := by
  obtain ⟨⟨⟨other, conduct⟩, lane⟩, -, hwrite⟩ := List.mem_flatMap.mp h
  cases hcode : conduct.errorCode? with
  | none => simp [hcode] at hwrite
  | some code =>
    simp only [hcode, Job.fields, List.map_cons, List.map_nil, List.mem_cons, Prod.mk.injEq,
      reduceCtorEq, false_and, and_false, true_and, List.not_mem_nil, or_false, false_or] at hwrite
    obtain ⟨rfl, rfl⟩ := hwrite
    rfl

/-- Inputs that differ in one of their bytes have different checksums, whichever byte it is. So no
two engines have the same checksum for a unit, and in a job no two of them store the same. -/
theorem checksum_separates :
    (∀ sequence sequence' engine engine',
      (∃! place, inputByte sequence engine place ≠ inputByte sequence' engine' place) →
        checksum sequence engine ≠ checksum sequence' engine') ∧
    (∀ sequence, Function.Injective (checksum sequence)) ∧
    ∀ (job : Job) (engine engine' : Engine) (value value' : UInt32),
      (engine, Field.checksum, value) ∈ job.writes →
      (engine', Field.checksum, value') ∈ job.writes → engine ≠ engine' → value ≠ value' := by
  refine ⟨fun _ _ _ _ hone => checksum_ne hone, checksum_injective, ?_⟩
  intro job engine engine' value value' hwrite hwrite' hengine
  rw [checksum_of_mem_writes hwrite, checksum_of_mem_writes hwrite']
  exact fun h => hengine (checksum_injective job.sequence h)

/-- Numbers that differ in their second byte, and a job of two engines. -/
theorem checksum_separates_neighbours :
    inputByte 1 ⟨7⟩ 1 ≠ inputByte 257 ⟨7⟩ 1 ∧ checksum 1 ⟨7⟩ ≠ checksum 257 ⟨7⟩ ∧
    checksum 1 ⟨7⟩ ≠ checksum 1 ⟨8⟩ ∧
    let job : Job := ⟨1, [(⟨7⟩, .complete), (⟨8⟩, .fail 2)]⟩
    ∃ value value', (⟨7⟩, Field.checksum, value) ∈ job.writes ∧
      (⟨8⟩, Field.checksum, value') ∈ job.writes ∧ value ≠ value' := by
  have hdiffer : inputByte 1 ⟨7⟩ 1 ≠ inputByte 257 ⟨7⟩ 1 := by decide
  have hothers : ∀ place, inputByte 1 ⟨7⟩ place ≠ inputByte 257 ⟨7⟩ place → place = 1 := by decide
  have hengine : (⟨7⟩ : Engine) ≠ ⟨8⟩ := by decide
  have hwrite : (⟨7⟩, Field.checksum, checksum 1 ⟨7⟩) ∈
      (Job.mk 1 [(⟨7⟩, .complete), (⟨8⟩, .fail 2)]).writes := by
    simp [Job.writes, Conduct.errorCode?, Job.fields]
  have hwrite' : (⟨8⟩, Field.checksum, checksum 1 ⟨8⟩) ∈
      (Job.mk 1 [(⟨7⟩, .complete), (⟨8⟩, .fail 2)]).writes := by
    simp [Job.writes, Conduct.errorCode?, Job.fields]
  obtain ⟨hbyte, hengines, hjob⟩ := checksum_separates
  exact ⟨hdiffer, hbyte 1 257 ⟨7⟩ ⟨7⟩ ⟨1, hdiffer, hothers⟩, fun h => hengine (hengines 1 h),
    _, _, hwrite, hwrite', hjob _ _ _ _ _ hwrite hwrite' hengine⟩

end Device

end CompletionRing
