import FilterSql.Mapped.Sample
import FilterSql.Proofs.InsertionOrder
import FilterSql.Repository.Planner

/-!
# Reading back what was written

A value of a mapped type is written column by column and read column by column. It is read back as it
was when each column is read as the shape that it was written as, and when a null that stands for
nothing can be told from what is there. A sample is such a value.

## Main definitions

* `Shape.toValue`: the value that something of a shape is written as;
* `Shape.Readable`: whatever is written as a shape can be read as it;
* `Mapped.Lawful`: the values of a mapped type are read back from their rows.

## Main results

* `Shape.as?_toValue`, `Record.read_ofList`: a member is read back as its shape;
* `Sample.lawful`: samples are read back;
* `Mapped.Lawful.mapRows_write`: so are the rows of a result.
-/

namespace FilterSql

namespace Shape

/-- The value that something of a shape is written as. Nothing is written as a null. -/
def toValue : (shape : Shape) → shape.Carrier → Value
  | any, v => v
  | int64, n => .int n
  | int32, n => .int (Int64.ofInt n.toInt)
  | float, x => .float x
  | bool, b => .bool b
  | text, s => .text s
  | bytes, bs => .bytes bs
  | optional inner, x => (Option.map inner.toValue x).getD .null

/-- Some values of a shape are written as a null. -/
def Nullable : Shape → Bool
  | any | optional _ => true
  | _ => false

/-- Whatever is written as a shape can be read as it: nothing and something are not written alike. -/
def Readable : Shape → Bool
  | optional inner => !inner.Nullable && inner.Readable
  | _ => true

/-- Where no null is written, the value is none. -/
theorem isNull_toValue {shape : Shape} (h : shape.Nullable = false) (x : shape.Carrier) :
    (shape.toValue x).isNull = false := by
  cases shape with
  | any | optional => simp [Nullable] at h
  | int64 | int32 | float | bool | text | bytes => rfl

/-- An integer of thirty-two bits is kept by the wider ones. -/
theorem asInt32?_ofInt_toInt (n : Int32) : (Value.int (Int64.ofInt n.toInt)).asInt32? = some n := by
  have hwide : (Int64.ofInt n.toInt).toInt = n.toInt := by
    apply Int64.toInt_ofInt_of_le
    · exact (by decide : -2 ^ 63 ≤ Int32.minValue.toInt).trans n.minValue_le_toInt
    · exact n.toInt_le.trans_lt (by decide)
  have hbounds : Int32.minValue.toInt ≤ n.toInt ∧ n.toInt ≤ Int32.maxValue.toInt :=
    ⟨n.minValue_le_toInt, n.toInt_le⟩
  simp only [Value.asInt32?, Value.asInt64?, Option.bind_some, hwide, if_pos hbounds, Int32.ofInt_toInt]

/-- What is written as a shape is read as it. -/
theorem as?_toValue {shape : Shape} (h : shape.Readable = true) (x : shape.Carrier) :
    (shape.toValue x).as? shape = some x := by
  induction shape with
  | any | int64 | float | bool | text | bytes => rfl
  | int32 => exact asInt32?_ofInt_toInt x
  | optional inner ih =>
    simp only [Readable, Bool.and_eq_true, Bool.not_eq_true'] at h
    obtain ⟨hnullable, hreadable⟩ := h
    cases x with
    | none => rfl
    | some x =>
      -- something is not written as a null, by which nothing is written
      show (if (inner.toValue x).isNull then some none else ((inner.toValue x).as? inner).map some) = _
      rw [isNull_toValue hnullable, ih hreadable]
      rfl

end Shape

namespace Record

variable {pairs : List (String × Value)} {name : String}

/-- Among pairs with distinct names, each is found by its name. -/
theorem get?_ofList_of_mem (h : (pairs.map (·.1)).Nodup) {v : Value} (hmem : (name, v) ∈ pairs) :
    (ofList pairs).get? name = some v := by
  rw [get?_eq_lookup, entries_ofList h]
  induction pairs with
  | nil => cases hmem
  | cons pair pairs ih =>
    obtain ⟨hnew, hrest⟩ := List.nodup_cons.1 h
    rw [lookup_cons]
    rcases List.mem_cons.1 hmem with rfl | hmem
    · exact if_pos rfl
    · -- the name is not that of the first pair, since no other pair has that name
      have hne : name ≠ pair.1 := by
        rintro rfl
        exact hnew (List.mem_map.2 ⟨_, hmem, rfl⟩)
      rw [if_neg hne]
      exact ih hrest hmem

/-- A member that was written as a shape is read as it. -/
theorem read_ofList (h : (pairs.map (·.1)).Nodup) {shape : Shape} (hshape : shape.Readable = true)
    {x : shape.Carrier} (hmem : (name, shape.toValue x) ∈ pairs) :
    (ofList pairs).read name shape = .ok x := by
  unfold read
  rw [get?_ofList_of_mem h hmem]
  simp only [Shape.as?_toValue hshape]

end Record

/-- The values of a mapped type are read back from the rows that are written of them, and these have the
columns of the entity. -/
structure Mapped.Lawful (α : Type) [Mapped α] : Prop where
  /-- The columns of the entity are written in their order. -/
  columns : ∀ a : α, (write a).names = (entity α).properties.map (·.columnName)
  /-- What is written is read back. -/
  read_write : ∀ a : α, read (write a) = .ok a

namespace Mapped.Lawful

variable {α : Type} [Mapped α]

/-- The rows of a result that were written of some values are read as these values. -/
theorem mapRows_write (h : Lawful α) (values : List α) :
    Planner.mapRows read (values.map write) = .ok values := by
  have hrows : (values.map write).mapM (read : Record → Except MappingError α) = .ok values := by
    induction values with
    | nil => rfl
    | cons a values ih =>
      rw [List.map_cons, List.mapM_cons, h.read_write, ih]
      rfl
  rw [Planner.mapRows, hrows]
  rfl

end Mapped.Lawful

namespace Sample

/-- The columns of a sample with what they are written as. -/
theorem entries_write (s : Sample) : s.write.entries = [
    ("Id", Shape.int64.toValue s.id), ("full_name", Shape.text.toValue s.name),
    ("Region", (Shape.optional .text).toValue s.region), ("Active", Shape.bool.toValue s.active),
    ("Score", Shape.float.toValue s.score), ("Small", Shape.int32.toValue s.small),
    ("Data", (Shape.optional .bytes).toValue s.data), ("Extra", Shape.any.toValue s.extra)] :=
  Record.entries_ofList (by simp)

/-- Samples are read back from their rows. -/
theorem lawful : Mapped.Lawful Sample where
  columns s := by
    show s.write.entries.map _ = _
    rw [entries_write]
    rfl
  read_write s := by
    have hread (name : String) (shape : Shape) (x : shape.Carrier) (hshape : shape.Readable = true)
        (hmem : (name, shape.toValue x) ∈ s.write.entries) : s.write.read name shape = .ok x :=
      Record.read_ofList (by simp) hshape hmem
    -- each column is read as the shape that it was written as
    have hid := hread "Id" .int64 s.id rfl (by simp [entries_write])
    have hname := hread "full_name" .text s.name rfl (by simp [entries_write])
    have hregion := hread "Region" (.optional .text) s.region rfl (by simp [entries_write])
    have hactive := hread "Active" .bool s.active rfl (by simp [entries_write])
    have hscore := hread "Score" .float s.score rfl (by simp [entries_write])
    have hsmall := hread "Small" .int32 s.small rfl (by simp [entries_write])
    have hdata := hread "Data" (.optional .bytes) s.data rfl (by simp [entries_write])
    have hextra := hread "Extra" .any s.extra rfl (by simp [entries_write])
    show Sample.read s.write = _
    simp only [Sample.read, hid, hname, hregion, hactive, hscore, hsmall, hdata, hextra]
    rfl

end Sample

end FilterSql
