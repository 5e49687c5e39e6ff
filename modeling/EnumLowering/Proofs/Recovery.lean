import EnumLowering.Json.Reader
import EnumLowering.Proofs.WrittenText

/-!
Readers that recover what was written. A reader gives a value back from the tree of its
JSON form exactly when the containers it may still open are enough for that form; when
they are not, the text counts as malformed and no other fault is reported.

The reader of a recursive type is a family that goes down a number of levels. It is
trusted only at depths below that number, so the statement about a reader carries the
number of levels for which it is known, and every container adds one to it.
-/

namespace EnumLowering.Json

variable {α β : Type}

mutual

/-- How many objects and arrays stand inside one another. -/
def nesting : Json → Nat
  | .null | .boolean _ | .integer _ | .string _ => 0
  | .array items => nestingItems items + 1
  | .object entries => nestingEntries entries + 1

def nestingItems : List Json → Nat
  | [] => 0
  | item :: items => max (nesting item) (nestingItems items)

def nestingEntries : List (String × Json) → Nat
  | [] => 0
  | (_, value) :: entries => max (nesting value) (nestingEntries entries)

end

theorem nesting_entries_append (first second : List (String × Json)) :
    nestingEntries (first ++ second) = max (nestingEntries first) (nestingEntries second) := by
  induction first with
  | nil => rw [nestingEntries, List.nil_append, Nat.zero_max]
  | cons entry first induction =>
      rw [List.cons_append, nestingEntries, nestingEntries, induction, Nat.max_assoc]

theorem entries_exact_append (first second : List (String × Json)) :
    EntriesExact (first ++ second) ↔ EntriesExact first ∧ EntriesExact second := by
  induction first with
  | nil => rw [EntriesExact, List.nil_append, true_and]
  | cons entry first induction =>
      rw [List.cons_append, EntriesExact, EntriesExact, induction, and_assoc]

/-- The value, unless it nests deeper than is allowed. -/
def within (nesting depth : Nat) (value : α) : Except ReadError α :=
  if nesting ≤ depth then .ok value else .error .malformed

theorem within_ok {nesting depth : Nat} {value : α} (fits : nesting ≤ depth) :
    within nesting depth value = .ok value :=
  if_pos fits

theorem within_error {nesting depth : Nat} {value : α} (deep : ¬ nesting ≤ depth) :
    within nesting depth value = .error .malformed :=
  if_neg deep

theorem map_within (make : α → β) (nesting depth : Nat) (value : α) :
    (within nesting depth value).map make = within nesting depth (make value) := by
  unfold within
  split_ifs <;> rfl

theorem within_succ (nesting depth : Nat) (value : α) :
    within (nesting + 1) (depth + 1) value = within nesting depth value := by
  simp only [within, Nat.add_le_add_iff_right]

/-- At every depth below `levels` the reader gives the value back from its JSON form, if
the form does not nest too deep. -/
structure Recovers (levels : Nat) (read : Reader α) (json : Json) (value : α) : Prop where
  exact : json.nesting < levels → json.IsExact
  reads : ∀ depth < levels, read depth json.toTree = within json.nesting depth value

namespace Recovers

variable {levels : Nat} {read : Reader α} {json : Json} {value : α}

theorem zero : Recovers 0 read json value where
  exact below := absurd below (Nat.not_lt_zero _)
  reads _ below := absurd below (Nat.not_lt_zero _)

theorem lower (recovers : Recovers (levels + 1) read json value) :
    Recovers levels read json value where
  exact below := recovers.exact (Nat.lt_succ_of_lt below)
  reads depth below := recovers.reads depth (Nat.lt_succ_of_lt below)

theorem map (make : α → β) (recovers : Recovers levels read json value) :
    Recovers levels (fun depth tree => (read depth tree).map make) json (make value) where
  exact := recovers.exact
  reads depth below := by
    rw [recovers.reads depth below, map_within]

/-- A family of readers, each known at its own number of levels, is known at all of them
when it is called with one level to spare. -/
theorem of_levels {family : Nat → Reader α}
    (recovers : ∀ levels, Recovers levels (family levels) json value) :
    Recovers levels (fun depth => family (depth + 1) depth) json value where
  exact _ := (recovers (json.nesting + 1)).exact (Nat.lt_succ_self _)
  reads depth _ := (recovers (depth + 1)).reads depth (Nat.lt_succ_self _)

/-- A form without containers is read at any depth. -/
theorem scalar (flat : json.nesting = 0) (exact : json.IsExact)
    (reads : ∀ depth, read depth json.toTree = .ok value) : Recovers levels read json value where
  exact _ := exact
  reads depth _ := by
    rw [reads, flat, within_ok (Nat.zero_le depth)]

theorem string (text : String) : Recovers levels readString (.string text) text :=
  scalar (by rw [nesting]) (by rw [IsExact]; trivial) fun depth => by rw [toTree]; rfl

theorem boolean (flag : Bool) : Recovers levels readBoolean (.boolean flag) flag :=
  scalar (by rw [nesting]) (by rw [IsExact]; trivial) fun depth => by rw [toTree]; rfl

theorem uint32 (number : UInt32) :
    Recovers levels readUInt32 (.ofNat number.toNat) number := by
  have small : number.toNat < UInt32.size := number.toNat_lt
  have exact : IsExactInteger number.toNat := by
    have low : Int64.minValue.toInt = -9223372036854775808 := by decide
    have high : UInt32.size ≤ UInt64.size := by decide
    refine ⟨?_, ?_⟩ <;> omega
  refine scalar (by rw [ofNat, nesting]) (by rwa [ofNat, IsExact]) fun depth => ?_
  have fits : (0 ≤ (number.toNat : Int) && (number.toNat : Int) < UInt32.size) = true := by
    simp only [Bool.and_eq_true, decide_eq_true_eq]
    omega
  rw [ofNat, toTree, readUInt32, if_pos fits, Int.toNat_natCast, UInt32.ofNat_toNat]

theorem int64 (number : Int64) : Recovers levels readInt64 (.integer number.toInt) number := by
  have low := number.minValue_le_toInt
  have high := number.toInt_le
  have exact : IsExactInteger number.toInt := by
    have bound : Int64.maxValue.toInt < UInt64.size := by decide
    exact ⟨low, by omega⟩
  refine scalar (by rw [nesting]) (by rwa [IsExact]) fun depth => ?_
  have fits :
      (Int64.minValue.toInt ≤ number.toInt && number.toInt ≤ Int64.maxValue.toInt) = true := by
    simp only [Bool.and_eq_true, decide_eq_true_eq]
    exact ⟨low, high⟩
  rw [toTree, readInt64, if_pos fits, Int64.ofInt_toInt]

theorem to_tree_ne_null {json : Json} (isValue : json ≠ .null) : json.toTree ≠ .null := by
  cases json with
  | null => exact absurd rfl isValue
  | boolean | integer | string | array | object => rw [toTree]; exact Tree.noConfusion

/-- A form other than null is read as the value it stands for. -/
theorem some (isValue : json ≠ .null) (recovers : Recovers levels read json value) :
    Recovers levels (readOption read) json (some value) where
  exact := recovers.exact
  reads depth below := by
    rw [readOption, recovers.reads depth below, map_within]
    exact to_tree_ne_null isValue

theorem option {encode : α → Json} (isValue : ∀ value, encode value ≠ .null)
    (recovers : ∀ value, Recovers levels read (encode value) value) (value : Option α) :
    Recovers levels (readOption read) (ofOption encode value) value := by
  cases value with
  | none =>
      exact scalar (by rw [ofOption, nesting]) (by rw [ofOption, IsExact]; trivial)
        fun depth => by rw [ofOption, toTree, readOption]
  | some value => exact (recovers value).some (isValue value)

theorem items {encode : α → Json} {values : List α}
    (recovers : ∀ value ∈ values, Recovers levels read (encode value) value) :
    (nestingItems (values.map encode) < levels → ItemsExact (values.map encode)) ∧
      ∀ depth < levels, readItems (read depth) (toTreeItems (values.map encode)) =
        within (nestingItems (values.map encode)) depth values := by
  induction values with
  | nil =>
      refine ⟨fun _ => ?_, fun depth _ => ?_⟩
      · rw [List.map_nil, ItemsExact]; trivial
      · rw [List.map_nil, toTreeItems, readItems, nestingItems]
        exact (within_ok (Nat.zero_le depth)).symm
  | cons value values induction =>
      have first := recovers value List.mem_cons_self
      have ⟨exact, reads⟩ := induction fun later member =>
        recovers later (List.mem_cons_of_mem _ member)
      refine ⟨fun below => ?_, fun depth below => ?_⟩
      · rw [List.map_cons, nestingItems] at below
        rw [List.map_cons, ItemsExact]
        exact ⟨first.exact (by omega), exact (by omega)⟩
      · rw [List.map_cons, toTreeItems, readItems, first.reads depth below, reads depth below,
          nestingItems]
        by_cases fits : (encode value).nesting ≤ depth
        · by_cases restFits : nestingItems (values.map encode) ≤ depth
          · rw [within_ok fits, within_ok restFits, within_ok (Nat.max_le.mpr ⟨fits, restFits⟩)]
            rfl
          · rw [within_ok fits, within_error restFits,
              within_error fun both => restFits (Nat.max_le.mp both).2]
            rfl
        · rw [within_error fits, within_error fun both => fits (Nat.max_le.mp both).1]

theorem list {encode : α → Json} {values : List α}
    (recovers : ∀ value ∈ values, Recovers levels read (encode value) value) :
    Recovers (levels + 1) (readList read) (.array (values.map encode)) values where
  exact below := by
    rw [nesting] at below
    rw [IsExact]
    exact (items recovers).1 (Nat.lt_of_succ_lt_succ below)
  reads depth below := by
    rw [toTree, nesting]
    cases depth with
    | zero => rfl
    | succ depth =>
        rw [readList, (items recovers).2 depth (Nat.lt_of_succ_lt_succ below), within_succ]
        by_cases fits : nestingItems (values.map encode) ≤ depth
        · rw [within_ok fits]
          rfl
        · rw [within_error fits]

/-- A variant that is nothing but its name. -/
theorem bare {variants : List (String × Body α)} {tag : String}
    (known : variants.lookup tag = Option.some (.bare value)) :
    Recovers levels (readVariant variants) (.string tag) value :=
  scalar (by rw [nesting]) (by rw [IsExact]; trivial) fun depth => by
    rw [toTree, readVariant, variantBody?, known]
    rfl

/-- A variant with a body, as an object with its name as the only key. -/
theorem tagged {variants : List (String × Body α)} {tag : String} {body : Body α}
    (known : variants.lookup tag = Option.some body)
    (recovers : Recovers levels body.read json value) :
    Recovers (levels + 1) (readVariant variants) (.object [(tag, json)]) value where
  exact below := by
    rw [nesting, nestingEntries] at below
    rw [IsExact, EntriesExact, EntriesExact]
    exact ⟨recovers.exact (by omega), trivial⟩
  reads depth below := by
    rw [toTree, toTreeEntries, toTreeEntries, nesting, nestingEntries, nestingEntries,
      Nat.max_zero]
    cases depth with
    | zero => rfl
    | succ depth =>
        rw [readVariant, variantBody?, known, within_succ]
        dsimp only [Except.bind]
        rw [recovers.reads depth (Nat.lt_of_succ_lt_succ below)]
        by_cases fits : json.nesting ≤ depth
        · rw [within_ok fits]
          rfl
        · rw [within_error fits]

end Recovers

/-! Records -/

theorem entry_at?_to_tree_entries (name : String) (place : Nat) (entries : List (String × Json)) :
    (entryAt? name place (toTreeEntries entries)).map Prod.snd =
      (entries.lookup name).map toTree := by
  induction entries generalizing place with
  | nil => rfl
  | cons entry entries induction =>
      obtain ⟨key, value⟩ := entry
      rw [toTreeEntries, entryAt?]
      by_cases same : key = name
      · rw [if_pos same, List.lookup_cons, same, beq_self_eq_true]
        rfl
      · rw [if_neg same, induction, List.lookup_cons, beq_false_of_ne (Ne.symm same)]

theorem object_fault?_to_tree_entries (names seen : List String) (place : Nat)
    (entries : List (String × Json)) (known : ∀ key ∈ entries.map Prod.fst, key ∈ names)
    (unseen : ∀ key ∈ entries.map Prod.fst, key ∉ seen)
    (distinct : (entries.map Prod.fst).Nodup) :
    objectFault? names true seen place (toTreeEntries entries) = none := by
  induction entries generalizing seen place with
  | nil => rw [toTreeEntries, objectFault?, if_pos rfl]
  | cons entry entries induction =>
      obtain ⟨key, value⟩ := entry
      rw [List.map_cons] at known unseen distinct
      have ⟨isNew, restDistinct⟩ := List.nodup_cons.mp distinct
      have isKnown : names.contains key = true :=
        List.contains_iff_mem.mpr (known key List.mem_cons_self)
      have isUnseen : ¬ seen.contains key = true := fun isSeen =>
        unseen key List.mem_cons_self (List.contains_iff_mem.mp isSeen)
      rw [toTreeEntries, objectFault?, if_pos isKnown, if_neg isUnseen]
      refine induction (key :: seen) (place + 1)
        (fun later member => known later (List.mem_cons_of_mem _ member))
        (fun later member isSeen => ?_) restDistinct
      rcases List.mem_cons.mp isSeen with rfl | isSeen
      · exact isNew member
      · exact unseen later (List.mem_cons_of_mem _ member) isSeen

/-- The value is read if it fits, and otherwise the text counts as malformed somewhere. -/
def Settles (fits : Prop) (value : α) (result : Except Fault α) : Prop :=
  (fits → result = .ok value) ∧
    (¬ fits → ∃ place, result = .error { place, error := .malformed })

theorem Settles.and {fits otherFits : Prop} {leftValue : α} {rightValue : β} {left : Fields α}
    {right : Fields β} {depth : Nat} {object : List (Option String × Tree)}
    (leftSettles : Settles fits leftValue (left.read depth (objectSlots left.names object)))
    (rightSettles :
      Settles otherFits rightValue (right.read depth (objectSlots right.names object))) :
    Settles (fits ∧ otherFits) (leftValue, rightValue)
      ((left.and right).read depth (objectSlots (left.and right).names object)) := by
  have ⟨leftReads, leftFails⟩ := leftSettles
  have ⟨rightReads, rightFails⟩ := rightSettles
  have slots : objectSlots (left.and right).names object =
      objectSlots left.names object ++ objectSlots right.names object := List.map_append
  have count : left.names.length = (objectSlots left.names object).length :=
    (List.length_map _).symm
  rw [slots]
  unfold Fields.and
  dsimp only
  rw [count, List.take_left, List.drop_left]
  refine ⟨fun ⟨leftFits, rightFits⟩ => ?_, fun deep => ?_⟩
  · rw [leftReads leftFits, rightReads rightFits]
  · by_cases leftFits : fits
    · obtain ⟨place, rightFault⟩ := rightFails fun rightFits => deep ⟨leftFits, rightFits⟩
      exact ⟨place, by rw [leftReads leftFits, rightFault]⟩
    · obtain ⟨place, leftFault⟩ := leftFails leftFits
      by_cases rightFits : otherFits
      · exact ⟨place, by rw [leftFault, rightReads rightFits]⟩
      · obtain ⟨other, rightFault⟩ := rightFails rightFits
        rw [leftFault, rightFault]
        dsimp only
        split_ifs
        · exact ⟨other, rfl⟩
        · exact ⟨place, rfl⟩

theorem lookup_eq_none {entries : List (String × Json)} {name : String}
    (unnamed : name ∉ entries.map Prod.fst) : entries.lookup name = none := by
  rw [List.lookup_eq_none_iff]
  intro entry member
  refine bne_iff_ne.mpr fun same => unnamed ?_
  rw [same]
  exact List.mem_map_of_mem member

namespace Fields

/-- The fields give the value back from any object that agrees with `entries` on their
names. -/
structure Recovers (levels : Nat) (fields : Fields α) (entries : List (String × Json))
    (value : α) : Prop where
  keys : (entries.map Prod.fst).Sublist fields.names
  exact : nestingEntries entries < levels → EntriesExact entries
  reads : fields.names.Nodup → ∀ depth < levels, ∀ object : List (Option String × Tree),
    (∀ name ∈ fields.names,
      (entryAt? name 0 object).map Prod.snd = (entries.lookup name).map toTree) →
    Settles (nestingEntries entries ≤ depth) value
      (fields.read depth (objectSlots fields.names object))

namespace Recovers

variable {levels : Nat}

theorem field {name : String} {absent : Option α} {read : Reader α} {json : Json} {value : α}
    (recovers : Json.Recovers levels read json value) :
    Recovers levels (Fields.field name absent read) [(name, json)] value where
  keys := List.Sublist.refl _
  exact below := by
    rw [nestingEntries] at below
    rw [EntriesExact, EntriesExact]
    exact ⟨recovers.exact (by omega), trivial⟩
  reads _ depth below object agrees := by
    have found := agrees name List.mem_cons_self
    rw [List.lookup_cons, beq_self_eq_true] at found
    obtain ⟨⟨place, tree⟩, isEntry, isTree⟩ := Option.map_eq_some_iff.mp found
    obtain rfl : tree = json.toTree := isTree
    have read : (Fields.field name absent read).read depth
        (objectSlots (Fields.field name absent read).names object) =
          (within json.nesting depth value).mapError fun error => { place, error } := by
      rw [← recovers.reads depth below]
      simp only [objectSlots, Fields.field, List.map_cons, isEntry]
    rw [read, nestingEntries, nestingEntries, Nat.max_zero]
    refine ⟨fun fits => ?_, fun deep => ⟨place, ?_⟩⟩
    · rw [within_ok fits]
      rfl
    · rw [within_error deep]
      rfl

theorem absent {name : String} {read : Reader α} (value : α) :
    Recovers levels (Fields.defaulted name value read) [] value where
  keys := List.nil_sublist _
  exact _ := by rw [EntriesExact]; trivial
  reads _ depth _ object agrees := by
    have found := agrees name List.mem_cons_self
    have isAbsent : entryAt? name 0 object = none := by simpa using found
    refine ⟨fun _ => ?_, fun deep => absurd (Nat.zero_le depth) ?_⟩
    · simp only [objectSlots, Fields.defaulted, Fields.field, List.map_cons, isAbsent]
    · rwa [nestingEntries] at deep

theorem present {name : String} {read : Reader α} {json : Json} {value : α}
    (isValue : json ≠ .null) (recovers : Json.Recovers levels read json value) :
    Recovers levels (Fields.optional name read) [(name, json)] (some value) := by
  unfold Fields.optional Fields.defaulted
  exact field (recovers.some isValue)

theorem optional {name : String} {read : Reader α} {encode : α → Json}
    (isValue : ∀ value, encode value ≠ .null) (value : Option α)
    (recovers : ∀ inner ∈ value, Json.Recovers levels read (encode inner) inner) :
    Recovers levels (Fields.optional name read) (optionalEntry name encode value) value := by
  cases value with
  | none => exact absent none
  | some inner => exact present (isValue inner) (recovers inner rfl)

theorem map {make : α → β} {fields : Fields α} {entries : List (String × Json)} {value : α}
    {result : β} (made : make value = result) (recovers : Recovers levels fields entries value) :
    Recovers levels (fields.map make) entries result where
  keys := recovers.keys
  exact := recovers.exact
  reads distinct depth below object agrees := by
    have ⟨reads, fails⟩ := recovers.reads distinct depth below object agrees
    refine ⟨fun fits => ?_, fun deep => ?_⟩
    · change (fields.read depth (objectSlots fields.names object)).map make = _
      rw [reads fits, ← made]
      rfl
    · obtain ⟨place, isFault⟩ := fails deep
      refine ⟨place, ?_⟩
      change (fields.read depth (objectSlots fields.names object)).map make = _
      rw [isFault]
      rfl

theorem and {left : Fields α} {right : Fields β} {first second : List (String × Json)}
    {leftValue : α} {rightValue : β} (leftRecovers : Recovers levels left first leftValue)
    (rightRecovers : Recovers levels right second rightValue) :
    Recovers levels (left.and right) (first ++ second) (leftValue, rightValue) where
  keys := by
    rw [List.map_append]
    exact leftRecovers.keys.append rightRecovers.keys
  exact below := by
    rw [nesting_entries_append] at below
    exact (entries_exact_append first second).mpr
      ⟨leftRecovers.exact (by omega), rightRecovers.exact (by omega)⟩
  reads distinct depth below object agrees := by
    have ⟨leftDistinct, rightDistinct, apart⟩ := List.nodup_append.mp distinct
    have leftSettles := leftRecovers.reads leftDistinct depth below object fun name member => by
      have unnamed : second.lookup name = none := lookup_eq_none fun isKey =>
        apart name member name (rightRecovers.keys.subset isKey) rfl
      rw [agrees name (List.mem_append_left _ member), List.lookup_append, unnamed, Option.or_none]
    have rightSettles := rightRecovers.reads rightDistinct depth below object fun name member => by
      have unnamed : first.lookup name = none := lookup_eq_none fun isKey =>
        apart name (leftRecovers.keys.subset isKey) name member rfl
      rw [agrees name (List.mem_append_right _ member), List.lookup_append, unnamed, Option.none_or]
    rw [nesting_entries_append, Nat.max_le]
    exact leftSettles.and rightSettles

theorem field_and {name : String} {absent : Option α} {read : Reader α} {json : Json} {value : α}
    {right : Fields β} {entries : List (String × Json)} {rest : β}
    (recovers : Json.Recovers levels read json value)
    (restRecovers : Recovers levels right entries rest) :
    Recovers levels ((Fields.field name absent read).and right) ((name, json) :: entries)
      (value, rest) :=
  and (field recovers) restRecovers

end Recovers

end Fields

/-- The names of a record are closed even where its readers are not, so that they differ is
found by computing. -/
theorem Recovers.record {levels : Nat} {description : String} {fields : Fields α}
    {entries : List (String × Json)} {value : α} (differ : decide fields.names.Nodup = true)
    (recovers : fields.Recovers levels entries value) :
    Recovers (levels + 1) (readRecord description fields) (.object entries) value where
  exact below := by
    rw [nesting] at below
    rw [IsExact]
    exact recovers.exact (Nat.lt_of_succ_lt_succ below)
  reads depth below := by
    rw [toTree, nesting]
    cases depth with
    | zero => rfl
    | succ depth =>
        have distinct := of_decide_eq_true differ
        have noFault := object_fault?_to_tree_entries fields.names [] 0 entries
          (fun key member => recovers.keys.subset member)
          (fun _ _ => List.not_mem_nil) (distinct.sublist recovers.keys)
        have ⟨reads, fails⟩ := recovers.reads distinct depth (Nat.lt_of_succ_lt_succ below)
          (toTreeEntries entries) fun name _ => entry_at?_to_tree_entries name 0 entries
        rw [readRecord, noFault, within_succ]
        by_cases fits : nestingEntries entries ≤ depth
        · rw [reads fits, within_ok fits]
          rfl
        · obtain ⟨place, isFault⟩ := fails fits
          rw [isFault, within_error fits]
          rfl

/-- A reader that knows the form at every number of levels reads any text of the form. -/
theorem read_text_write {style : Style} (blank : style.IsBlank) {read : Reader α} {json : Json}
    {value : α} (recovers : ∀ levels, Recovers levels read json value) :
    readText read (String.ofList (json.write style 0 [])) =
      within json.nesting nestingLimit value := by
  have exact : json.IsExact := (recovers (json.nesting + 1)).exact (Nat.lt_succ_self _)
  have reads := (recovers (nestingLimit + 1)).reads nestingLimit (Nat.lt_succ_self _)
  rw [readText, tree_of_text_write blank exact]
  dsimp only
  rw [reads]
  by_cases fits : json.nesting ≤ nestingLimit
  · rw [within_ok fits]
    rfl
  · rw [within_error fits]

end EnumLowering.Json
