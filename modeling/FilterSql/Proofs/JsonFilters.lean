import FilterSql.Filter.Json
import FilterSql.Proofs.InsertionOrder
import FilterSql.Proofs.Offences

/-!
# Which JSON values are filters

A JSON value is a filter when it is a scalar other than null, an object whose members hold no object,
or an array of conditions. A condition is given by name in an object or by position in an array, and
the two forms are read in the same way: a part that is left out counts as null, a missing operator as
equality. Every other value is refused for its shape. What is read has the members and the conditions
of the value in order, and a condition that is written in either form is read back.

## Main definitions

* `Json.HoldsObject`: an object occurs somewhere in a value;
* `Json.IsFilter`, `Json.IsCondition`: the values that are filters, and those that are conditions;
* `Json.StandsFor`, `Filter.ReadFrom`: what these values stand for;
* `Condition.Written`: the ways of writing a condition.

## Main results

* `Value.ofJson?_eq_none_iff`: the values that nothing can be bound to are those that hold an object;
* `Filter.conditionOfJson_eq_ok_iff`: when an element is read, and as which condition;
* `Filter.ofJson_eq_ok_iff`, `Filter.exists_ofJson_iff`: when a value is read, and as which filter;
* `Filter.ofJson_exact`: all of this together, and that written conditions are read back.
-/

namespace FilterSql

/-! ### Values -/

/-- An object occurs in the value: it is one, or one of its elements holds one. -/
inductive Json.HoldsObject : Json → Prop
  | object (members : List (String × Json)) : HoldsObject (.object members)
  | element {items : List Json} {v : Json} (hv : v ∈ items) (h : HoldsObject v) :
      HoldsObject (.array items)

namespace Value

mutual

/-- The values that nothing can be bound to are those that hold an object. -/
theorem ofJson?_eq_none_iff : ∀ v : Json, ofJson? v = none ↔ v.HoldsObject
  | .object members => by simp [ofJson?, Json.HoldsObject.object members]
  | .array items => by
    rw [ofJson?, Option.map_eq_none_iff, ofJsonItems?_eq_none_iff items]
    constructor
    · rintro ⟨v, hv, h⟩
      exact .element hv h
    · rintro (_ | ⟨hv, h⟩)
      exact ⟨_, hv, h⟩
  | .null | .bool _ | .real _ | .text _ => by
    constructor
    · intro h
      simp [ofJson?] at h
    · nofun
  | .integer n => by
    constructor
    · intro h
      rw [ofJson?] at h
      split at h <;> cases h
    · nofun

/-- Several values can be bound when none of them holds an object. -/
theorem ofJsonItems?_eq_none_iff :
    ∀ items : List Json, ofJsonItems? items = none ↔ ∃ v ∈ items, v.HoldsObject
  | [] => by simp [ofJsonItems?]
  | v :: vs => by
    rw [ofJsonItems?, List.exists_mem_cons_iff, ← ofJson?_eq_none_iff v,
      ← ofJsonItems?_eq_none_iff vs]
    cases ofJson? v <;> simp

end

/-- A value can be bound when it holds no object. -/
theorem exists_ofJson?_iff {v : Json} : (∃ x, ofJson? v = some x) ↔ ¬ v.HoldsObject := by
  rw [← ofJson?_eq_none_iff, ← Option.isSome_iff_exists, Option.isSome_iff_ne_none]

mutual

/-- The value has a counterpart in JSON: it is made of nulls, booleans, integers, finite floats, texts
and lists. -/
def expressible : Value → Bool
  | .bytes _ => false
  | .float x => Decimal.isFinite x
  | .list items => expressibleAll items
  | .null | .bool _ | .int _ | .text _ => true

/-- All of the values have counterparts in JSON. -/
def expressibleAll : List Value → Bool
  | [] => true
  | v :: vs => expressible v && expressibleAll vs

end

mutual

/-- A value with a counterpart in JSON is read back from it. -/
theorem ofJson?_toJson : ∀ v : Value, v.expressible = true → ofJson? v.toJson = some v
  | .null, _ | .bool _, _ | .float _, _ | .text _, _ => by simp only [toJson, ofJson?]
  | .int n, _ => by
    rw [toJson, ofJson?, if_pos ⟨n.minValue_le_toInt, n.toInt_le⟩, Int64.ofInt_toInt]
  | .bytes _, h => by simp [expressible] at h
  | .list items, h => by
    rw [expressible] at h
    rw [toJson, ofJson?, ofJsonItems?_toJsonItems items h, Option.map_some]

/-- Several values with counterparts in JSON are read back from them. -/
theorem ofJsonItems?_toJsonItems : ∀ items : List Value, expressibleAll items = true →
    ofJsonItems? (toJsonItems items) = some items
  | [], _ => rfl
  | v :: vs, h => by
    rw [expressibleAll, Bool.and_eq_true] at h
    rw [toJsonItems, ofJsonItems?, ofJson?_toJson v h.1, ofJsonItems?_toJsonItems vs h.2]
    rfl

end

end Value

/-! ### Operators -/

namespace Operator

/-- A name that stands for the operator: its own, or its short one. -/
def Called (op : Operator) (name : String) : Prop :=
  name = op.name ∨ op.alias? = some name

/-- An operator is found by the names that stand for it. -/
theorem ofName?_eq_some_iff {name : String} {op : Operator} :
    ofName? name = some op ↔ op.Called name := by
  constructor
  · intro h
    have hname := List.find?_some h
    simp only [Bool.or_eq_true, decide_eq_true_eq] at hname
    exact hname.imp Eq.symm id
  · rintro (rfl | h)
    · exact ofName?_name op
    · -- no two operators share a short name
      cases op <;> cases h <;> decide

/-- The ways of giving an operator: equality by leaving it out or by null, and any operator by one of
its names, alone or as the only member of an object. -/
inductive GivenBy : Operator → Option Json → Prop
  | absent : GivenBy .equal none
  | null : GivenBy .equal (some .null)
  | text {op : Operator} {name : String} (h : op.Called name) : GivenBy op (some (.text name))
  | member {op : Operator} {name : String} (h : op.Called name) :
      GivenBy op (some (.object [(name, .null)]))

end Operator

namespace Filter

/-- A name is accepted when it stands for an operator. -/
theorem namedOperator_eq_ok_iff {name : String} {op : Operator} :
    namedOperator name = .ok op ↔ op.Called name := by
  rw [← Operator.ofName?_eq_some_iff]
  unfold namedOperator
  cases Operator.ofName? name <;> simp

/-- A part that is not null is given. -/
theorem eq_some_of_getD {part : Option Json} {v : Json} (h : part.getD .null = v) (hv : v ≠ .null) :
    part = some v := by
  cases part with
  | none => exact absurd h.symm hv
  | some _ => exact congrArg some h

/-- An operator is read from the ways of giving it. -/
theorem operatorForm_eq_ok_iff {part : Option Json} {op : Operator} :
    (∃ operator, operatorForm (part.getD .null) = .ok operator ∧ operator.getD .equal = op) ↔
      op.GivenBy part := by
  constructor
  · rintro ⟨operator, h, rfl⟩
    unfold operatorForm at h
    split at h
    case h_1 hnull =>
      obtain rfl := Except.ok.inj h
      -- a part that is left out is read like null
      cases part with
      | none => exact .absent
      | some v =>
        obtain rfl : v = .null := hnull
        exact .null
    case h_2 name htext =>
      obtain ⟨op, hop, rfl⟩ := map_eq_ok_iff.1 h
      obtain rfl := eq_some_of_getD htext (by nofun)
      exact .text (namedOperator_eq_ok_iff.1 hop)
    case h_3 name argument hobject =>
      obtain ⟨op, hop, hnext⟩ := bind_eq_ok_iff.1 h
      obtain rfl := eq_some_of_getD hobject (by nofun)
      split at hnext
      · obtain rfl := Except.ok.inj hnext
        exact .member (namedOperator_eq_ok_iff.1 hop)
      · cases hnext
    case h_4 | h_5 => cases h
  · intro h
    cases h with
    | absent | null => exact ⟨none, rfl, rfl⟩
    | text h => exact ⟨some op, by simp [operatorForm, namedOperator_eq_ok_iff.2 h], rfl⟩
    | member h =>
      refine ⟨some op, ?_, rfl⟩
      simp only [Option.getD_some, operatorForm, namedOperator_eq_ok_iff.2 h]
      rfl

end Filter

/-! ### Conditions -/

namespace Json

/-- The part of a condition that an object gives by its name and an array by its position. -/
def part? (element : Json) (position : Nat) (name : String) : Option Json :=
  match element with
  | .object members => members.lookup name
  | .array entries => entries[position]?
  | _ => none

/-- The value has the parts of a condition: it is an object or an array of at most three entries. -/
def IsRecord : Json → Prop
  | .object _ => True
  | .array entries => entries.length ≤ 3
  | _ => False

/-- The value is a condition: its field is a text, its operator is given in one of the ways, and its
value, if there is one, holds no object. -/
structure IsCondition (element : Json) : Prop where
  /-- The parts are given by name or by position. -/
  record : element.IsRecord
  /-- The field is a text. -/
  field : ∃ name, element.part? 0 "field" = some (.text name)
  /-- The operator may be left out. -/
  operator : ∃ op : Operator, op.GivenBy (element.part? 1 "operator")
  /-- The value may be left out. -/
  value : ∀ v ∈ element.part? 2 "value", ¬ v.HoldsObject

/-- The value stands for the condition: its parts give the parts of the condition, which has neither a
declared kind nor an escape character. -/
structure StandsFor (element : Json) (c : Condition) : Prop where
  /-- The parts are given by name or by position. -/
  record : element.IsRecord
  /-- The field is named by a text. -/
  field : element.part? 0 "field" = some (.text c.field.name)
  /-- No kind is declared. -/
  kind : c.field.kind = none
  /-- The operator may be left out, which means equality. -/
  operator : c.operator.GivenBy (element.part? 1 "operator")
  /-- The value may be left out, which means null. -/
  value : Value.ofJson? ((element.part? 2 "value").getD .null) = some c.value
  /-- No escape character is declared. -/
  escape : c.escape = none

/-- The values that stand for some condition are those that are conditions. -/
theorem exists_standsFor_iff {element : Json} :
    (∃ c, element.StandsFor c) ↔ element.IsCondition := by
  have hvalue : (∀ v ∈ element.part? 2 "value", ¬ v.HoldsObject) ↔
      ∃ x, Value.ofJson? ((element.part? 2 "value").getD .null) = some x := by
    rw [Value.exists_ofJson?_iff]
    cases element.part? 2 "value" with
    | none => exact ⟨fun _ => nofun, fun _ => nofun⟩
    | some v => simp
  constructor
  · rintro ⟨c, h⟩
    exact ⟨h.record, ⟨_, h.field⟩, ⟨_, h.operator⟩, hvalue.2 ⟨_, h.value⟩⟩
  · rintro ⟨hrecord, ⟨name, hfield⟩, ⟨op, hop⟩, hplain⟩
    obtain ⟨x, hx⟩ := hvalue.1 hplain
    exact ⟨{ field := { name }, operator := op, value := x }, hrecord, hfield, rfl, hop, hx, rfl⟩

end Json

namespace Filter

/-- A field is named by a text. -/
theorem fieldName_eq_ok_iff {v : Json} {name : String} :
    fieldName v = .ok name ↔ v = .text name := by
  cases v <;> simp [fieldName]

/-- The parts of a condition are read by position from an array of at most three entries. -/
theorem formOfEntries_eq_ok_iff {entries : List Json} {form : ConditionForm} :
    formOfEntries entries = .ok form ↔
      entries.length ≤ 3 ∧ entries[0]? = some (.text form.field) ∧
        operatorForm (entries[1]?.getD .null) = .ok form.operator ∧
        entries[2]?.getD .null = form.value := by
  cases entries with
  | nil => simp [formOfEntries]
  | cons first rest =>
    obtain ⟨field, operator, value⟩ := form
    -- entries are taken from the front, so the parts have to be put back in their positions
    have hsecond : rest.headD .null = (first :: rest)[1]?.getD .null := by
      cases rest <;> rfl
    have hthird : rest.tail.headD .null = (first :: rest)[2]?.getD .null := by
      rcases rest with _ | ⟨_, _ | _⟩ <;> rfl
    rw [formOfEntries, hsecond, hthird]
    constructor
    · intro h
      obtain ⟨name, hfield, hnext⟩ := bind_eq_ok_iff.1 h
      obtain ⟨given, hoperator, hform⟩ := bind_eq_ok_iff.1 hnext
      split at hform
      · cases hform
      · next hlength =>
        obtain ⟨rfl, rfl, rfl⟩ := ConditionForm.mk.inj (Except.ok.inj hform)
        refine ⟨by rw [List.length_cons]; omega, ?_, hoperator, rfl⟩
        rw [fieldName_eq_ok_iff.1 hfield]
        rfl
    · rintro ⟨hlength, hfield, hoperator, rfl⟩
      have hfirst : fieldName first = .ok field :=
        fieldName_eq_ok_iff.2 (Option.some.inj hfield)
      refine bind_eq_ok_iff.2 ⟨field, hfirst, bind_eq_ok_iff.2 ⟨operator, hoperator, ?_⟩⟩
      rw [List.length_cons] at hlength
      exact if_neg (by omega)

/-- The parts of a condition are read by name from an object. -/
theorem formOfMembers_eq_ok_iff {members : List (String × Json)} {form : ConditionForm} :
    formOfMembers members = .ok form ↔
      members.lookup "field" = some (.text form.field) ∧
        operatorForm ((members.lookup "operator").getD .null) = .ok form.operator ∧
        (members.lookup "value").getD .null = form.value := by
  obtain ⟨field, operator, value⟩ := form
  unfold formOfMembers
  cases members.lookup "field" with
  | none =>
    -- the operator may be at fault as well, but without a field nothing is read
    constructor
    · intro h
      obtain ⟨_, hnone, hnext⟩ := bind_eq_ok_iff.1 h
      obtain rfl := Except.ok.inj hnone
      obtain ⟨_, -, hform⟩ := bind_eq_ok_iff.1 hnext
      cases hform
    · rintro ⟨hfield, -⟩
      cases hfield
  | some v =>
    constructor
    · intro h
      obtain ⟨_, hsome, hnext⟩ := bind_eq_ok_iff.1 h
      obtain ⟨name, hfield, rfl⟩ := map_eq_ok_iff.1 hsome
      obtain ⟨given, hoperator, hform⟩ := bind_eq_ok_iff.1 hnext
      obtain ⟨rfl, rfl, rfl⟩ := ConditionForm.mk.inj (Except.ok.inj hform)
      exact ⟨congrArg some (fieldName_eq_ok_iff.1 hfield), hoperator, rfl⟩
    · rintro ⟨hfield, hoperator, rfl⟩
      have hname : fieldName v = .ok field := fieldName_eq_ok_iff.2 (Option.some.inj hfield)
      refine bind_eq_ok_iff.2 ⟨some field, map_eq_ok_iff.2 ⟨field, hname, rfl⟩, ?_⟩
      exact bind_eq_ok_iff.2 ⟨operator, hoperator, rfl⟩

/-- The parts of a condition are read by name or by position. -/
theorem conditionForm_eq_ok_iff {element : Json} {form : ConditionForm} :
    conditionForm element = .ok form ↔
      element.IsRecord ∧ element.part? 0 "field" = some (.text form.field) ∧
        operatorForm ((element.part? 1 "operator").getD .null) = .ok form.operator ∧
        (element.part? 2 "value").getD .null = form.value := by
  unfold conditionForm
  split
  · rw [formOfMembers_eq_ok_iff]
    simp [Json.IsRecord, Json.part?]
  · rw [formOfEntries_eq_ok_iff]
    simp [Json.IsRecord, Json.part?]
  · next v hobject harray =>
    cases v <;> simp_all [Json.IsRecord]

/-- An element of a list of conditions is read as the condition that it stands for. -/
theorem conditionOfJson_eq_ok_iff {element : Json} {c : Condition} :
    conditionOfJson element = .ok c ↔ element.StandsFor c := by
  unfold conditionOfJson
  constructor
  · intro h
    split at h
    · cases h
    · next form hform =>
      obtain ⟨hrecord, hfield, hoperator, hvalue⟩ := conditionForm_eq_ok_iff.1 hform
      split at h
      · cases h
      · next value hread =>
        obtain rfl := Except.ok.inj h
        have hgiven := operatorForm_eq_ok_iff.1 ⟨_, hoperator, rfl⟩
        exact ⟨hrecord, hfield, rfl, hgiven, by rw [hvalue, hread], rfl⟩
  · intro h
    obtain ⟨operator, hoperator, hop⟩ := operatorForm_eq_ok_iff.2 h.operator
    have hform : conditionForm element =
        .ok ⟨c.field.name, operator, (element.part? 2 "value").getD .null⟩ :=
      conditionForm_eq_ok_iff.2 ⟨h.record, h.field, hoperator, rfl⟩
    simp only [hform, h.value, hop]
    -- the condition has no other parts than those that are read
    obtain ⟨⟨name, kind⟩, op, value, escape⟩ := c
    obtain rfl : kind = none := h.kind
    obtain rfl : escape = none := h.escape
    rfl

/-- An element that is no condition is refused for its shape. -/
theorem conditionOfJson_eq_error {element : Json} {err : QueryError}
    (h : conditionOfJson element = .error err) : ∃ fault, err = .unsupportedFilterShape fault := by
  unfold conditionOfJson at h
  split at h
  · exact ⟨_, (Except.error.inj h).symm⟩
  · split at h
    · exact ⟨_, (Except.error.inj h).symm⟩
    · cases h

end Filter

/-! ### Filters -/

namespace Json

/-- The value is a scalar other than null. -/
def IsScalar : Json → Prop
  | .bool _ | .integer _ | .real _ | .text _ => True
  | .null | .array _ | .object _ => False

/-- The values that are filters. -/
inductive IsFilter : Json → Prop
  | scalar {v : Json} (h : v.IsScalar) : IsFilter v
  | members {members : List (String × Json)} (h : ∀ m ∈ members, ¬ m.2.HoldsObject) :
      IsFilter (.object members)
  | conditions {elements : List Json} (h : ∀ element ∈ elements, element.IsCondition) :
      IsFilter (.array elements)

/-- No two members of the value have the same name. -/
def DistinctNames : Json → Prop
  | .object members => (members.map (·.1)).Nodup
  | _ => True

end Json

namespace Filter

/-- The pairs have the names of the members, in order, and the values that theirs stand for. -/
def SameMembers (members : List (String × Json)) (pairs : List (String × Value)) : Prop :=
  List.Forall₂ (fun m pair => pair.1 = m.1 ∧ Value.ofJson? m.2 = some pair.2) members pairs

/-- The filter that a value stands for: the members and the conditions are those of the value, in
order. -/
inductive ReadFrom : Filter → Json → Prop
  | scalar {v : Json} {x : Value} (h : v.IsScalar) (hvalue : Value.ofJson? v = some x) :
      ReadFrom (.key x) v
  | members {members : List (String × Json)} {record : Record}
      (h : SameMembers members record.entries) : ReadFrom (.dynamic record) (.object members)
  | conditions {elements : List Json} {cs : List Condition}
      (h : List.Forall₂ Json.StandsFor elements cs) : ReadFrom (.conditions cs) (.array elements)

/-- The pairs have the names of the members. -/
theorem SameMembers.names_eq {members : List (String × Json)} {pairs : List (String × Value)}
    (h : SameMembers members pairs) : pairs.map (·.1) = members.map (·.1) := by
  induction h with
  | nil => rfl
  | cons head _ ih => rw [List.map_cons, List.map_cons, head.1, ih]

/-- A member is read when its value stands for something, and keeps its name. -/
theorem memberOfJson_eq_ok_iff {m : String × Json} {pair : String × Value} :
    memberOfJson m = .ok pair ↔ pair.1 = m.1 ∧ Value.ofJson? m.2 = some pair.2 := by
  obtain ⟨name, v⟩ := m
  obtain ⟨name', x⟩ := pair
  simp only [memberOfJson]
  cases Value.ofJson? v with
  | none => simp [refuse]
  | some y => simp [eq_comm]

/-- A member that holds an object is refused for its shape. -/
theorem memberOfJson_eq_error {m : String × Json} {err : QueryError}
    (h : memberOfJson m = .error err) : ∃ fault, err = .unsupportedFilterShape fault := by
  obtain ⟨name, v⟩ := m
  simp only [memberOfJson] at h
  split at h
  · cases h
  · exact ⟨_, (Except.error.inj h).symm⟩

/-- A scalar is read as the key that has its value. -/
theorem ofJson_eq_ok_iff_of_isScalar {v : Json} {f : Filter} (hscalar : v.IsScalar) :
    ofJson v = .ok f ↔ ∃ x, Value.ofJson? v = some x ∧ f = .key x := by
  cases v with
  | null | array | object => exact hscalar.elim
  | integer n =>
    obtain ⟨x, hx⟩ := Value.exists_ofJson?_iff.2 (show ¬ (Json.integer n).HoldsObject by nofun)
    simp [ofJson, hx, eq_comm]
  | bool | real | text => simp [ofJson, Value.ofJson?, eq_comm]

/-- An object is read as the record of its members when all of them are read. -/
theorem ofJson_object_eq_ok_iff {members : List (String × Json)} {f : Filter} :
    ofJson (.object members) = .ok f ↔
      ∃ pairs, SameMembers members pairs ∧ .dynamic (Record.ofList pairs) = f := by
  refine map_eq_ok_iff.trans (exists_congr fun pairs => and_congr_left fun _ => ?_)
  simp only [mapM_eq_ok_iff, memberOfJson_eq_ok_iff, SameMembers]

/-- An array is read as the conditions that its elements stand for. -/
theorem ofJson_array_eq_ok_iff {elements : List Json} {f : Filter} :
    ofJson (.array elements) = .ok f ↔
      ∃ cs, List.Forall₂ Json.StandsFor elements cs ∧ .conditions cs = f := by
  refine map_eq_ok_iff.trans (exists_congr fun cs => and_congr_left fun _ => ?_)
  simp only [mapM_eq_ok_iff, conditionOfJson_eq_ok_iff]

/-- A value is read as the filter that it stands for. -/
theorem ofJson_eq_ok_iff {v : Json} {f : Filter} (hnames : v.DistinctNames) :
    ofJson v = .ok f ↔ f.ReadFrom v := by
  cases v with
  | object members =>
    rw [ofJson_object_eq_ok_iff]
    constructor
    · rintro ⟨pairs, h, rfl⟩
      -- a record overwrites a name that comes again, which is where distinct names are needed
      have hentries : (Record.ofList pairs).entries = pairs :=
        Record.entries_ofList (by rw [h.names_eq]; exact hnames)
      exact .members (by rwa [hentries])
    · intro hread
      cases hread with
      | scalar h => exact h.elim
      | @members _ record h =>
        have hentries : (Record.ofList record.entries).entries = record.entries :=
          Record.entries_ofList (by rw [h.names_eq]; exact hnames)
        exact ⟨record.entries, h, congrArg (Filter.dynamic ⟨·⟩) hentries⟩
  | array elements =>
    rw [ofJson_array_eq_ok_iff]
    constructor
    · rintro ⟨cs, h, rfl⟩
      exact .conditions h
    · intro hread
      cases hread with
      | scalar h => exact h.elim
      | conditions h => exact ⟨_, h, rfl⟩
  | null =>
    constructor
    · nofun
    · intro hread
      cases hread with
      | scalar h => exact h.elim
  | bool | integer | real | text =>
    rw [ofJson_eq_ok_iff_of_isScalar (by trivial)]
    constructor
    · rintro ⟨x, hx, rfl⟩
      exact .scalar trivial hx
    · intro hread
      cases hread with
      | scalar _ hx => exact ⟨_, hx, rfl⟩

/-- A value is read when it is a filter. -/
theorem exists_ofJson_iff {v : Json} : (∃ f, ofJson v = .ok f) ↔ v.IsFilter := by
  cases v with
  | object members =>
    have hmembers : (∃ pairs, SameMembers members pairs) ↔ ∀ m ∈ members, ¬ m.2.HoldsObject := by
      refine exists_forall₂_iff.trans (forall₂_congr fun m _ => ?_)
      rw [← Value.exists_ofJson?_iff]
      exact ⟨fun ⟨pair, _, hx⟩ => ⟨pair.2, hx⟩, fun ⟨x, hx⟩ => ⟨(m.1, x), rfl, hx⟩⟩
    constructor
    · rintro ⟨f, h⟩
      obtain ⟨pairs, hpairs, -⟩ := ofJson_object_eq_ok_iff.1 h
      exact .members (hmembers.1 ⟨pairs, hpairs⟩)
    · intro h
      cases h with
      | scalar h => exact h.elim
      | members h =>
        obtain ⟨pairs, hpairs⟩ := hmembers.2 h
        exact ⟨_, ofJson_object_eq_ok_iff.2 ⟨pairs, hpairs, rfl⟩⟩
  | array elements =>
    have helements : (∃ cs, List.Forall₂ Json.StandsFor elements cs) ↔
        ∀ element ∈ elements, element.IsCondition :=
      exists_forall₂_iff.trans (forall₂_congr fun _ _ => Json.exists_standsFor_iff)
    constructor
    · rintro ⟨f, h⟩
      obtain ⟨cs, hcs, -⟩ := ofJson_array_eq_ok_iff.1 h
      exact .conditions (helements.1 ⟨cs, hcs⟩)
    · intro h
      cases h with
      | scalar h => exact h.elim
      | conditions h =>
        obtain ⟨cs, hcs⟩ := helements.2 h
        exact ⟨_, ofJson_array_eq_ok_iff.2 ⟨cs, hcs, rfl⟩⟩
  | null =>
    constructor
    · rintro ⟨_, ⟨⟩⟩
    · intro h
      cases h with
      | scalar h => exact h.elim
  | bool | integer | real | text =>
    exact ⟨fun _ => .scalar trivial, fun _ => ⟨_, rfl⟩⟩

/-- A value that is not read is refused for its shape. -/
theorem ofJson_eq_error {v : Json} {err : QueryError} (h : ofJson v = .error err) :
    ∃ fault, err = .unsupportedFilterShape fault := by
  cases v with
  | null => exact ⟨_, (Except.error.inj h).symm⟩
  | bool | integer | real | text => cases h
  | array elements =>
    obtain ⟨element, -, herror⟩ := mapM_eq_error_iff.1 (map_eq_error_iff.1 h)
    exact conditionOfJson_eq_error herror
  | object members =>
    obtain ⟨m, -, herror⟩ := mapM_eq_error_iff.1 (map_eq_error_iff.1 h)
    exact memberOfJson_eq_error herror

end Filter

namespace Condition

/-- The ways of writing a condition: by name or by position, with either name of the operator. -/
inductive Written (c : Condition) : Json → Prop
  | members {operator : String} (h : c.operator.Called operator) :
      Written c (.object [("field", .text c.field.name), ("operator", .text operator),
        ("value", c.value.toJson)])
  | entries {operator : String} (h : c.operator.Called operator) :
      Written c (.array [.text c.field.name, .text operator, c.value.toJson])

/-- The condition without the kind of its field, which is not written. -/
def untyped (c : Condition) : Condition :=
  { c with field := { name := c.field.name } }

/-- A condition without a declared kind is written as a whole. -/
theorem untyped_eq_self {c : Condition} (h : c.field.kind = none) : c.untyped = c := by
  obtain ⟨⟨name, kind⟩, _, _, _⟩ := c
  obtain rfl : kind = none := h
  rfl

/-- What is written of a condition stands for the condition, up to the kind of its field. -/
theorem Written.standsFor {c : Condition} {element : Json} (h : c.Written element)
    (hescape : c.escape = none) (hvalue : c.value.expressible = true) :
    element.StandsFor c.untyped := by
  have hread := Value.ofJson?_toJson c.value hvalue
  cases h with
  | members hoperator =>
    exact ⟨trivial, rfl, rfl, .text hoperator, hread, hescape⟩
  | entries hoperator =>
    exact ⟨Nat.le_refl 3, rfl, rfl, .text hoperator, hread, hescape⟩

end Condition

namespace Filter

/-- Conditions that are written one by one are read back. -/
theorem ofJson_written {cs : List Condition} {elements : List Json}
    (hwritten : List.Forall₂ Condition.Written cs elements)
    (hplain : ∀ c ∈ cs, c.escape = none ∧ c.value.expressible = true) :
    ofJson (.array elements) = .ok (.conditions (cs.map Condition.untyped)) := by
  refine ofJson_array_eq_ok_iff.2 ⟨_, List.forall₂_map_right_iff.2 ?_, rfl⟩
  have hboth := (List.forall₂_and_left _ _).2 ⟨hplain, hwritten⟩
  exact hboth.flip.imp fun element c ⟨⟨hescape, hvalue⟩, h⟩ => h.standsFor hescape hvalue

/-- Which JSON values are read as filters, and as which. A value is read exactly when it is a filter,
and refused for its shape otherwise. What is read has the members or the conditions of the value in
order. Conditions without escape character and with values that JSON can express are read back from
what is written of them; where no kind is declared, exactly as they were. -/
theorem ofJson_exact (v : Json) :
    ((∃ f, ofJson v = .ok f) ↔ v.IsFilter) ∧
      (¬ v.IsFilter → ∃ fault, ofJson v = .error (.unsupportedFilterShape fault)) ∧
      (v.DistinctNames → ∀ f, ofJson v = .ok f ↔ f.ReadFrom v) ∧
      ∀ cs elements, v = .array elements → List.Forall₂ Condition.Written cs elements →
        (∀ c ∈ cs, c.escape = none ∧ c.value.expressible = true) →
        ofJson v = .ok (.conditions (cs.map Condition.untyped)) ∧
          ((∀ c ∈ cs, c.field.kind = none) → ofJson v = .ok (.conditions cs)) := by
  refine ⟨exists_ofJson_iff, fun h => ?_, fun hnames f => ofJson_eq_ok_iff hnames, ?_⟩
  · cases hread : ofJson v with
    | ok f => exact absurd (exists_ofJson_iff.1 ⟨f, hread⟩) h
    | error err =>
      obtain ⟨fault, rfl⟩ := ofJson_eq_error hread
      exact ⟨fault, rfl⟩
  · rintro cs elements rfl hwritten hplain
    have hback := ofJson_written hwritten hplain
    refine ⟨hback, fun hkinds => ?_⟩
    have huntyped : cs.map Condition.untyped = cs.map id :=
      List.map_congr_left fun c hc => Condition.untyped_eq_self (hkinds c hc)
    rwa [huntyped, List.map_id] at hback

/-- One condition is given by name and one by position, with a short and a long name of the operator.
Members keep their order, and null is refused. -/
theorem ofJson_exact_forms :
    ofJson (.array [
        .object [("field", .text "Id"), ("operator", .text "gt"), ("value", .integer 5)],
        .array [.text "Name", .text "in", .array [.text "a", .null]]]) =
      .ok (.conditions [
        { field := { name := "Id" }, operator := .greaterThan, value := .int 5 },
        { field := { name := "Name" }, operator := .isIn, value := .list [.text "a", .null] }]) ∧
    ofJson (.object [("B", .bool true), ("A", .null)]) =
      .ok (.dynamic ⟨[("B", .bool true), ("A", .null)]⟩) ∧
    ∃ fault, ofJson .null = .error (.unsupportedFilterShape fault) := by
  refine ⟨?_, ?_, ?_⟩
  · refine ((ofJson_exact _).2.2.2 _ _ rfl (.cons ?_ (.cons ?_ .nil)) ?_).2 ?_
    · exact .members (show Operator.greaterThan.Called "gt" from .inr rfl)
    · exact .entries (show Operator.isIn.Called "in" from .inl rfl)
    · simp [Value.expressible, Value.expressibleAll]
    · simp
  · have hdistinct : (Json.object [("B", .bool true), ("A", .null)]).DistinctNames := by
      show ["B", "A"].Nodup
      decide
    refine ((ofJson_exact _).2.2.1 hdistinct _).2 (.members ?_)
    exact .cons ⟨rfl, rfl⟩ (.cons ⟨rfl, rfl⟩ .nil)
  · exact (ofJson_exact .null).2.1 fun h => by
      cases h with
      | scalar h => exact h

end Filter

end FilterSql
