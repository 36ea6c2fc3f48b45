import CompletionRing.Setup.Written
import Mathlib.Data.List.Forall2
import Mathlib.Data.List.Nodup
import Mathlib.Tactic.Common

/-!
# Spellings

Many documents spell the same setup: the members of an object come in any order and others may stand
between them, each structure is an object or an array, and what has a default may be left out, in an
array from the end on. All of them are read as that setup, and no other document is.
-/

namespace CompletionRing

namespace Document

/-- A field of a structure with what it holds: which documents spell that, and whether it may be
left out. -/
structure Part where
  name : String
  spells : Document → Prop
  omissible : Prop

/-- Does what stands for the field, if anything, say what it holds? -/
def Part.Covers (part : Part) : Option Document → Prop
  | some document => part.spells document
  | none => part.omissible

/-- The documents that spell a structure with these fields. -/
inductive Spells (parts : List Part) : Document → Prop
  | object {members : List (String × Document)} (hnodup : (members.map (·.1)).Nodup)
      (hparts : ∀ part ∈ parts,
        (∃ document, (part.name, document) ∈ members ∧ part.spells document) ∨
          part.omissible ∧ part.name ∉ members.map (·.1)) :
    Spells parts (.object members)
  | array {written omitted : List Part} {items : List Document}
      (hparts : parts = written ++ omitted) (hitems : List.Forall₂ Part.spells written items)
      (homitted : ∀ part ∈ omitted, part.omissible) :
    Spells parts (.array items)

/-- Does each object in the document name its members apart? -/
inductive WellFormed : Document → Prop
  | null : WellFormed .null
  | bool (value : Bool) : WellFormed (.bool value)
  | integer (value : Int) : WellFormed (.integer value)
  | decimal : WellFormed .decimal
  | string (value : String) : WellFormed (.string value)
  | array {items : List Document} (hitems : ∀ item ∈ items, WellFormed item) :
    WellFormed (.array items)
  | object {members : List (String × Document)} (hnodup : (members.map (·.1)).Nodup)
      (hmembers : ∀ member ∈ members, WellFormed member.2) : WellFormed (.object members)

variable {document : Document} {members : List (String × Document)} {items : List Document}
  {parts : List Part} {fields : List (Option Document)} {name : String}

@[simp] lemma wellFormed_array_iff :
    (array items).WellFormed ↔ ∀ item ∈ items, item.WellFormed := by
  constructor
  · intro h
    cases h with
    | array hitems => exact hitems
  · exact .array

@[simp] lemma wellFormed_object_iff : (object members).WellFormed ↔
    (members.map (·.1)).Nodup ∧ ∀ member ∈ members, member.2.WellFormed := by
  constructor
  · intro h
    cases h with
    | object hnodup hmembers => exact ⟨hnodup, hmembers⟩
  · rintro ⟨hnodup, hmembers⟩
    exact .object hnodup hmembers

/-! ### Fields -/

lemma lookup_eq_some_iff (hnodup : (members.map (·.1)).Nodup) :
    members.lookup name = some document ↔ (name, document) ∈ members := by
  induction members with
  | nil => simp
  | cons first rest ih =>
    obtain ⟨key, value⟩ := first
    obtain ⟨hkey, hrest⟩ := List.nodup_cons.mp hnodup
    rw [List.lookup_cons, List.mem_cons, Prod.mk.injEq]
    by_cases hname : name = key
    · subst hname
      have hfresh : (name, document) ∉ rest := by
        intro hmem
        exact hkey (List.mem_map.mpr ⟨_, hmem, rfl⟩)
      simp [hfresh, eq_comm]
    · simp [hname, beq_false_of_ne hname, ih hrest]

lemma lookup_eq_none_iff : members.lookup name = none ↔ name ∉ members.map (·.1) := by
  induction members with
  | nil => simp
  | cons first rest ih =>
    rw [List.lookup_cons, List.map_cons, List.mem_cons, not_or, ← ih]
    by_cases hname : name = first.1
    · simp [hname]
    · simp [hname, beq_false_of_ne hname]

lemma covers_lookup_iff (part : Part) (hnodup : (members.map (·.1)).Nodup) :
    part.Covers (members.lookup part.name) ↔
      (∃ document, (part.name, document) ∈ members ∧ part.spells document) ∨
        part.omissible ∧ part.name ∉ members.map (·.1) := by
  simp only [← lookup_eq_some_iff hnodup, ← lookup_eq_none_iff]
  cases members.lookup part.name <;> simp [Part.Covers]

lemma map_range_succ (count : Nat) (items : List Document) :
    (List.range (count + 1)).map (fun place => items[place]?) =
      items[0]? :: (List.range count).map fun place => items.tail[place]? := by
  rw [List.range_succ_eq_map, List.map_cons, List.map_map]
  simp only [Function.comp_def, List.getElem?_tail]

/-- The items of an array stand for its first fields, and nothing stands for the others. -/
lemma forall₂_covers_items_iff (hlength : items.length ≤ parts.length) :
    List.Forall₂ Part.Covers parts ((List.range parts.length).map fun place => items[place]?) ↔
      ∃ written omitted, parts = written ++ omitted ∧ List.Forall₂ Part.spells written items ∧
        ∀ part ∈ omitted, part.omissible := by
  induction parts generalizing items with
  | nil =>
    obtain rfl : items = [] := List.length_eq_zero_iff.mp (Nat.le_zero.mp hlength)
    exact ⟨fun _ => ⟨[], [], rfl, .nil, nofun⟩, fun _ => .nil⟩
  | cons part parts ih =>
    -- Once the items are at an end, so are their tails, and the rest is left out as well.
    have htail : items.tail.length ≤ parts.length := by
      rw [List.length_tail]
      exact Nat.sub_le_of_le_add hlength
    rw [List.length_cons, map_range_succ, List.forall₂_cons, ih htail]
    cases items with
    | nil =>
      constructor
      · rintro ⟨hpart, written, omitted, rfl, hwritten, homitted⟩
        obtain rfl := List.forall₂_nil_right_iff.mp hwritten
        exact ⟨[], part :: omitted, rfl, .nil, List.forall_mem_cons.mpr ⟨hpart, homitted⟩⟩
      · rintro ⟨written, omitted, hparts, hwritten, homitted⟩
        obtain rfl := List.forall₂_nil_right_iff.mp hwritten
        obtain rfl : part :: parts = omitted := hparts
        obtain ⟨hpart, hrest⟩ := List.forall_mem_cons.mp homitted
        exact ⟨hpart, [], parts, rfl, .nil, hrest⟩
    | cons item items =>
      constructor
      · rintro ⟨hpart, written, omitted, rfl, hwritten, homitted⟩
        exact ⟨part :: written, omitted, rfl, .cons hpart hwritten, homitted⟩
      · rintro ⟨written, omitted, hparts, hwritten, homitted⟩
        obtain ⟨first, written, hfirst, hrest, rfl⟩ := List.forall₂_cons_right_iff.mp hwritten
        obtain ⟨rfl, rfl⟩ := List.cons.inj hparts
        exact ⟨hfirst, written, omitted, rfl, hrest, homitted⟩

lemma Spells.exists_fields (h : Spells parts document) :
    ∃ fields, document.fields? (parts.map (·.name)) = some fields ∧
      List.Forall₂ Part.Covers parts fields := by
  cases h with
  | object hnodup hparts =>
    refine ⟨_, rfl, ?_⟩
    rw [List.map_map, List.forall₂_map_right_iff, List.forall₂_same]
    intro part hmem
    exact (covers_lookup_iff part hnodup).mpr (hparts part hmem)
  | @array written omitted items hparts hitems homitted =>
    have hlength : items.length ≤ parts.length := by
      rw [hparts, List.length_append, hitems.length_eq]
      exact Nat.le_add_right _ _
    refine ⟨(List.range parts.length).map fun place => items[place]?, ?_, ?_⟩
    · rw [fields?, List.length_map, if_pos hlength]
    · exact (forall₂_covers_items_iff hlength).mpr ⟨written, omitted, hparts, hitems, homitted⟩

lemma WellFormed.spells (h : document.WellFormed)
    (hfields : document.fields? (parts.map (·.name)) = some fields)
    (hcovers : List.Forall₂ Part.Covers parts fields) : Spells parts document := by
  cases h with
  | @object members hnodup =>
    refine .object hnodup ?_
    cases hfields
    rw [List.map_map, List.forall₂_map_right_iff, List.forall₂_same] at hcovers
    intro part hmem
    exact (covers_lookup_iff part hnodup).mp (hcovers part hmem)
  | @array items =>
    rw [fields?, List.length_map] at hfields
    split_ifs at hfields with hlength
    cases hfields
    obtain ⟨written, omitted, hparts, hitems, homitted⟩ :=
      (forall₂_covers_items_iff hlength).mp hcovers
    exact .array hparts hitems homitted
  | _ => cases hfields

lemma WellFormed.of_mem_fields {names : List String} (h : document.WellFormed)
    (hfields : document.fields? names = some fields) {part : Document}
    (hmem : some part ∈ fields) : part.WellFormed := by
  cases h with
  | @object members hnodup hmembers =>
    cases hfields
    obtain ⟨name, -, hpart⟩ := List.mem_map.mp hmem
    exact hmembers _ ((lookup_eq_some_iff hnodup).mp hpart)
  | @array items hitems =>
    rw [fields?] at hfields
    split_ifs at hfields
    cases hfields
    obtain ⟨place, -, hpart⟩ := List.mem_map.mp hmem
    exact hitems _ (List.mem_of_getElem? hpart)
  | _ => cases hfields

/-! ### Values -/

variable {α : Type} {read : Document → Option α} {value default : α} {field : Option Document}
  {spells : Document → Prop}

lemma required_eq_some_iff
    (hread : ∀ document, field = some document → (read document = some value ↔ spells document)) :
    required read field = some value ↔ Part.Covers ⟨name, spells, False⟩ field := by
  cases field with
  | none => exact ⟨nofun, nofun⟩
  | some document => exact hread document rfl

lemma withDefault_eq_some_iff
    (hread : ∀ document, field = some document → (read document = some value ↔ spells document)) :
    withDefault default read field = some value ↔
      Part.Covers ⟨name, spells, value = default⟩ field := by
  cases field with
  | none => simp [withDefault, Part.Covers, eq_comm]
  | some document => exact hread document rfl

lemma string?_eq_some_iff {text : String} :
    document.string? = some text ↔ document = .string text := by
  cases document <;> simp [string?]

lemma bool?_eq_some_iff {flag : Bool} : document.bool? = some flag ↔ document = .bool flag := by
  cases document <;> simp [bool?]

lemma below?_eq_some_iff {bound number : Nat} :
    document.below? bound = some number ↔ number < bound ∧ document = .integer number := by
  cases document with
  | integer value =>
    simp only [below?, Document.integer.injEq]
    split_ifs with hvalue
    · rw [Option.some.injEq]
      omega
    · simp only [false_iff]
      omega
  | _ => simp [below?]

lemma uint8?_eq_some_iff {number : UInt8} :
    document.uint8? = some number ↔ document = .integer number.toNat := by
  simp only [uint8?, Option.map_eq_some_iff, below?_eq_some_iff]
  constructor
  · rintro ⟨read, ⟨hlt, rfl⟩, rfl⟩
    rw [UInt8.toNat_ofNat_of_lt' hlt]
  · rintro rfl
    exact ⟨number.toNat, ⟨number.toNat_lt_size, rfl⟩, UInt8.ofNat_toNat⟩

lemma uint32?_eq_some_iff {number : UInt32} :
    document.uint32? = some number ↔ document = .integer number.toNat := by
  simp only [uint32?, Option.map_eq_some_iff, below?_eq_some_iff]
  constructor
  · rintro ⟨read, ⟨hlt, rfl⟩, rfl⟩
    rw [UInt32.toNat_ofNat_of_lt' hlt]
  · rintro rfl
    exact ⟨number.toNat, ⟨number.toNat_lt_size, rfl⟩, UInt32.ofNat_toNat⟩

end Document

open Document

variable {document : Document}

lemma mapM_eq_some_iff {α β : Type} {read : α → Option β} {items : List α} {values : List β} :
    items.mapM read = some values ↔
      List.Forall₂ (fun value item => read item = some value) values items := by
  induction items generalizing values with
  | nil => simp [eq_comm]
  | cons item items ih =>
    simp only [List.mapM_cons, Option.bind_eq_bind, Option.bind_eq_some_iff, Option.pure_def,
      Option.some.injEq, List.forall₂_cons_right_iff, ih]
    constructor
    · rintro ⟨value, hvalue, values, hvalues, rfl⟩
      exact ⟨value, values, hvalue, hvalues, rfl⟩
    · rintro ⟨value, values, hvalue, hvalues, rfl⟩
      exact ⟨value, hvalue, values, hvalues, rfl⟩

/-! ### Layouts -/

/-- A layout is spelled by its name, alone or with a null. -/
def Layout.Spelled (layout : Layout) (document : Document) : Prop :=
  document = .string layout.name ∨ document = .object [(layout.name, .null)]

lemma Layout.ofName?_eq_some_iff {name : String} {layout : Layout} :
    ofName? name = some layout ↔ name = layout.name := by
  cases layout <;> grind [ofName?, Layout.name]

lemma Layout.read?_eq_some_iff {layout : Layout} :
    read? document = some layout ↔ layout.Spelled document := by
  unfold read? Spelled
  split
  · simp [ofName?_eq_some_iff]
  · simp [ofName?_eq_some_iff]
  · next hstring hobject =>
    simp only [reduceCtorEq, false_iff, not_or]
    exact ⟨hstring _, hobject _⟩

/-! ### Engines -/

namespace EngineSetup

variable {setup : EngineSetup}

def parts (setup : EngineSetup) : List Part := [
  ⟨"id", fun document => document = .integer setup.engine.number.toNat, False⟩,
  ⟨"name", fun document => document = .string setup.name, False⟩,
  ⟨"layout", setup.layout.Spelled, setup.layout = .compact⟩,
  ⟨"enabled", fun document => document = .bool setup.enabled, setup.enabled = true⟩]

/-- Does the document spell the engine, as an object or as an array? -/
def Spelled (setup : EngineSetup) (document : Document) : Prop := Spells setup.parts document

lemma covers_parts_iff {engine name layout enabled : Option Document} :
    List.Forall₂ Part.Covers setup.parts [engine, name, layout, enabled] ↔
      required uint8? engine = some setup.engine.number ∧
      required string? name = some setup.name ∧
      withDefault .compact Layout.read? layout = some setup.layout ∧
      withDefault true bool? enabled = some setup.enabled := by
  rw [parts, List.forall₂_cons, List.forall₂_cons, List.forall₂_cons, List.forall₂_cons,
    ← required_eq_some_iff fun _ _ => uint8?_eq_some_iff,
    ← required_eq_some_iff fun _ _ => string?_eq_some_iff,
    ← withDefault_eq_some_iff fun _ _ => Layout.read?_eq_some_iff,
    ← withDefault_eq_some_iff fun _ _ => bool?_eq_some_iff, and_iff_left List.Forall₂.nil]

lemma read?_eq_some_iff : read? document = some setup ↔
    ∃ fields, document.fields? (setup.parts.map (·.name)) = some fields ∧
      List.Forall₂ Part.Covers setup.parts fields := by
  rw [read?, Option.bind_eq_bind, Option.bind_eq_some_iff]
  refine exists_congr fun fields => and_congr_right fun _ => ?_
  split
  · rw [covers_parts_iff]
    simp only [Option.bind_eq_bind, Option.bind_eq_some_iff, Option.pure_def, Option.some.injEq]
    constructor
    · rintro ⟨_, hengine, _, hname, _, hlayout, _, henabled, rfl⟩
      exact ⟨hengine, hname, hlayout, henabled⟩
    · rintro ⟨hengine, hname, hlayout, henabled⟩
      exact ⟨_, hengine, _, hname, _, hlayout, _, henabled, rfl⟩
  · next hcount =>
    refine ⟨nofun, fun hcovers => ?_⟩
    obtain _ | ⟨_, _ | ⟨_, _ | ⟨_, _ | ⟨_, ⟨⟩⟩⟩⟩⟩ := hcovers
    exact absurd rfl (hcount _ _ _ _)

lemma Spelled.read? (h : setup.Spelled document) : read? document = some setup :=
  read?_eq_some_iff.mpr h.exists_fields

lemma spelled_of_read? (h : document.WellFormed) (hread : EngineSetup.read? document = some setup) :
    setup.Spelled document := by
  obtain ⟨fields, hfields, hcovers⟩ := read?_eq_some_iff.mp hread
  exact h.spells hfields hcovers

lemma spelled_write (setup : EngineSetup) : setup.Spelled setup.write := by
  have hnodup : fieldNames.Nodup := by decide
  refine .object hnodup ?_
  simp [parts, Layout.write, Layout.Spelled]

/-- Does the document spell these engines, one after the other? -/
def SpelledAll (setups : List EngineSetup) (document : Document) : Prop :=
  ∃ items, document = .array items ∧ List.Forall₂ Spelled setups items

end EngineSetup

namespace RingSetup

variable {setup : RingSetup} {engines : List EngineSetup}

lemma readEngines?_of_spelledAll (h : EngineSetup.SpelledAll engines document) :
    readEngines? document = some engines := by
  obtain ⟨items, rfl, hitems⟩ := h
  refine mapM_eq_some_iff.mpr (hitems.imp ?_)
  intro entry item hitem
  exact hitem.read?

lemma spelledAll_of_readEngines? (h : document.WellFormed)
    (hread : readEngines? document = some engines) : EngineSetup.SpelledAll engines document := by
  cases h with
  | @array items hwell =>
    refine ⟨items, rfl, ?_⟩
    have hitems := mapM_eq_some_iff.mp hread
    rw [List.forall₂_iff_zip] at hitems ⊢
    refine ⟨hitems.1, fun {entry item} hmem => ?_⟩
    exact EngineSetup.spelled_of_read? (hwell item (List.of_mem_zip hmem).2) (hitems.2 hmem)
  | _ => cases hread

def parts (setup : RingSetup) : List Part := [
  ⟨"name", fun document => document = .string setup.name, False⟩,
  ⟨"capacity", fun document => document = .integer setup.capacity.toNat, False⟩,
  ⟨"engines", EngineSetup.SpelledAll setup.engines, setup.engines = []⟩]

/-- Does the document spell the ring, as an object or as an array? -/
def Spelled (setup : RingSetup) (document : Document) : Prop := Spells setup.parts document

lemma covers_parts_iff {name capacity engines : Option Document}
    (hengines : ∀ document, engines = some document →
      (readEngines? document = some setup.engines ↔
        EngineSetup.SpelledAll setup.engines document)) :
    List.Forall₂ Part.Covers setup.parts [name, capacity, engines] ↔
      required string? name = some setup.name ∧
      required uint32? capacity = some setup.capacity ∧
      withDefault [] readEngines? engines = some setup.engines := by
  rw [parts, List.forall₂_cons, List.forall₂_cons, List.forall₂_cons,
    ← required_eq_some_iff fun _ _ => string?_eq_some_iff,
    ← required_eq_some_iff fun _ _ => uint32?_eq_some_iff,
    ← withDefault_eq_some_iff hengines, and_iff_left List.Forall₂.nil]

lemma exists_of_covers_parts {fields : List (Option Document)}
    (hcovers : List.Forall₂ Part.Covers setup.parts fields) :
    ∃ name capacity engines, fields = [name, capacity, engines] := by
  obtain _ | ⟨_, _ | ⟨_, _ | ⟨_, ⟨⟩⟩⟩⟩ := hcovers
  exact ⟨_, _, _, rfl⟩

lemma read?_eq_some_iff : read? document = some setup ↔
    ∃ name capacity engines,
      document.fields? (setup.parts.map (·.name)) = some [name, capacity, engines] ∧
        required string? name = some setup.name ∧
        required uint32? capacity = some setup.capacity ∧
        withDefault [] readEngines? engines = some setup.engines := by
  rw [read?, Option.bind_eq_bind, Option.bind_eq_some_iff]
  constructor
  · rintro ⟨fields, hfields, hrest⟩
    split at hrest
    · simp only [Option.bind_eq_bind, Option.bind_eq_some_iff, Option.pure_def,
        Option.some.injEq] at hrest
      obtain ⟨_, hname, _, hcapacity, _, hengines, rfl⟩ := hrest
      exact ⟨_, _, _, hfields, hname, hcapacity, hengines⟩
    · cases hrest
  · rintro ⟨name, capacity, engines, hfields, hname, hcapacity, hengines⟩
    exact ⟨_, hfields, by simp [hname, hcapacity, hengines]⟩

lemma Spelled.read? (h : setup.Spelled document) : read? document = some setup := by
  obtain ⟨fields, hfields, hcovers⟩ := h.exists_fields
  obtain ⟨name, capacity, engines, rfl⟩ := exists_of_covers_parts hcovers
  refine read?_eq_some_iff.mpr ⟨name, capacity, engines, hfields, (covers_parts_iff ?_).mp hcovers⟩
  rintro listed rfl
  obtain _ | ⟨_, _ | ⟨_, _ | ⟨hengines, _⟩⟩⟩ := hcovers
  exact iff_of_true (readEngines?_of_spelledAll hengines) hengines

lemma spelled_of_read? (h : document.WellFormed) (hread : RingSetup.read? document = some setup) :
    setup.Spelled document := by
  obtain ⟨name, capacity, engines, hfields, hparts⟩ := read?_eq_some_iff.mp hread
  refine h.spells hfields ((covers_parts_iff ?_).mpr hparts)
  rintro listed rfl
  have hlisted : listed.WellFormed := h.of_mem_fields hfields (by simp)
  have hread : readEngines? listed = some setup.engines := hparts.2.2
  exact iff_of_true hread (spelledAll_of_readEngines? hlisted hread)

lemma spelled_write (setup : RingSetup) : setup.Spelled setup.write := by
  have hnodup : fieldNames.Nodup := by decide
  have hengines :
      EngineSetup.SpelledAll setup.engines (.array (setup.engines.map EngineSetup.write)) := by
    refine ⟨_, rfl, ?_⟩
    rw [List.forall₂_map_right_iff, List.forall₂_same]
    intro entry _
    exact entry.spelled_write
  refine .object hnodup ?_
  simp [parts, hengines]

/-- What is written for a setup is read as that setup, and so is each of its spellings; a document
whose objects name their members apart is read as a setup only if it spells it. To write what was
read from a document and to read it again changes nothing. -/
theorem read?_spellings (setup : RingSetup) :
    read? setup.write = some setup ∧
    (∀ document, setup.Spelled document → read? document = some setup) ∧
    (∀ document : Document, document.WellFormed → read? document = some setup →
      setup.Spelled document) ∧
    ∀ document, ((read? document).bind fun found => read? found.write) = read? document := by
  have hwrite : ∀ setup : RingSetup, read? setup.write = some setup :=
    fun setup => setup.spelled_write.read?
  refine ⟨hwrite setup, fun _ h => h.read?, fun _ h hread => spelled_of_read? h hread, ?_⟩
  intro document
  cases read? document with
  | none => rfl
  | some found => rw [Option.bind_some, hwrite]

/-- The ring is an array; its engines are an object, whose members are in another order and one is
of no use, an array of all fields, with a layout and a null, and an array of the first two. -/
theorem read?_spellings_mixed :
    let setup : RingSetup := ⟨"ring", 4, [⟨⟨0⟩, "color", .compact, true⟩,
      ⟨⟨1⟩, "depth", .extended, false⟩, ⟨⟨2⟩, "alpha", .compact, true⟩]⟩
    let mixed : Document := .array [.string "ring", .integer 4, .array [
      .object [("name", .string "color"), ("note", .null), ("id", .integer 0)],
      .array [.integer 1, .string "depth", .object [("extended", .null)], .bool false],
      .array [.integer 2, .string "alpha"]]]
    mixed.WellFormed ∧ setup.Spelled mixed ∧ read? mixed = some setup := by
  intro setup mixed
  obtain ⟨-, hread, hspelled, -⟩ := read?_spellings setup
  have hcolor : EngineSetup.Spelled ⟨⟨0⟩, "color", .compact, true⟩
      (.object [("name", .string "color"), ("note", .null), ("id", .integer 0)]) :=
    .object (by decide) (by simp [EngineSetup.parts])
  have hdepth : EngineSetup.Spelled ⟨⟨1⟩, "depth", .extended, false⟩
      (.array [.integer 1, .string "depth", .object [("extended", .null)], .bool false]) :=
    .array (List.append_nil _).symm
      (.cons rfl (.cons rfl (.cons (.inr rfl) (.cons rfl .nil)))) nofun
  have halpha : EngineSetup.Spelled ⟨⟨2⟩, "alpha", .compact, true⟩
      (.array [.integer 2, .string "alpha"]) :=
    .array (List.take_append_drop 2 _).symm (.cons rfl (.cons rfl .nil))
      (by simp [EngineSetup.parts])
  have hmixed : setup.Spelled mixed :=
    .array (List.append_nil _).symm
      (.cons rfl (.cons rfl (.cons ⟨_, rfl, .cons hcolor (.cons hdepth (.cons halpha .nil))⟩ .nil)))
      nofun
  have hwell : mixed.WellFormed := by
    simp [mixed, WellFormed.null, WellFormed.bool, WellFormed.integer, WellFormed.string]
  exact ⟨hwell, hspelled mixed hwell (by rfl), hread mixed hmixed⟩

end RingSetup

end CompletionRing
