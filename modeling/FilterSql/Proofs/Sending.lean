import FilterSql.Proofs.Offences
import FilterSql.Proofs.Parameters
import FilterSql.Store.Coercion
import FilterSql.Store.Hint

/-!
# Sending the parameters of a statement

A statement that is run sends a cell for each of its parameters. As long as the database reads all of
the statement, none of them is refused: every parameter has its placeholder, and a value that is no list
can be sent as any type. Of the type it only matters which of four classes it belongs to.

## Main definitions

* `DbClass`, `Value.cellAs`: the ways in which a value is sent;
* `Value.sent`: the cell that is stored for a value that is sent as a type;
* `Parameter.Placed`: the database finds a placeholder for a parameter;
* `Member.cell`: the cell that is stored for a member of a merged record.

## Main results

* `Value.coerce_eq_some`: what is sent for a value;
* `Statement.cells_eq_ok`: every parameter of a statement is sent when each has its placeholder;
* `Builder.cells_run`: in particular those of a statement that was built and is read as a whole.
-/

namespace FilterSql

/-- The ways in which a value can be sent for its type. -/
inductive DbClass where
  | open | textual | integral | floating
deriving DecidableEq

/-- The class of a declared type. -/
def DbClass.of : Option DbType → DbClass
  | none => .open
  | some t =>
    if t.isTextual then .textual
    else if t.isIntegral then .integral
    else if t.isFloating then .floating
    else .open

namespace Value

/-- The stored form of a value that is sent for a class of types. -/
def cellAs (v : Value) : DbClass → Cell
  | .open => v.plainCell
  | .textual => v.textualCell
  | .integral => v.integralCell
  | .floating => v.floatingCell

/-- A scalar value is sent, whatever its type. -/
theorem coerce_eq_some {v : Value} (h : v.isList = false) (t : Option DbType) :
    v.coerce t = some (v.cellAs (.of t)) := by
  unfold coerce DbClass.of
  rw [if_neg (by simp [h])]
  cases t with
  | none => rfl
  | some t =>
    dsimp only
    split_ifs <;> rfl

end Value

/-- The cell that is stored for a value that is sent as a type. -/
def Value.sent (v : Value) (dbType : Option DbType) : Cell :=
  ((v.coerce dbType).getD .null).stored

/-- Nothing but null is sent for null. -/
theorem Value.sent_of_isNull {v : Value} (h : v.isNull = true) (dbType : Option DbType) :
    v.sent dbType = .null := by
  obtain rfl : v = .null := by
    cases v <;> first | rfl | cases h
  rw [sent, coerce_eq_some rfl]
  cases DbClass.of dbType <;> rfl

/-- Mapping a function that always succeeds. -/
theorem mapM_eq_ok {ε α β : Type} {f : α → Except ε β} {g : α → β} {xs : List α}
    (h : ∀ x ∈ xs, f x = .ok (g x)) : xs.mapM f = .ok (xs.map g) := by
  induction xs with
  | nil => rfl
  | cons x xs ih =>
    rw [List.mapM_cons, h x List.mem_cons_self, ih fun y hy => h y (List.mem_cons_of_mem x hy)]
    rfl

/-- Mapping the elements of an enumeration is mapping those of the list. -/
theorem map_fst_zipIdx {α β : Type} (f : α → β) (xs : List α) :
    (xs.zipIdx.map fun (x, _) => f x) = xs.map f := by
  conv_rhs => rw [← List.zipIdx_map_fst 0 xs, List.map_map]
  rfl

/-- The database finds a placeholder for a parameter at a position. -/
def Parameter.Placed (p : Parameter) (d : Dialect) (placeholders : List String) (index : Nat) : Prop :=
  if d = .mysql then index < placeholders.length else d.placeholder p.name index ∈ placeholders

/-- What is sent for a parameter with a placeholder depends on its value alone. -/
theorem Parameter.bind_of_placed {p : Parameter} {d : Dialect} {placeholders : List String}
    {index : Nat} (h : p.Placed d placeholders index) :
    p.bind d placeholders index = p.cell.map Cell.stored := by
  unfold Placed at h
  unfold bind
  split
  · next hd =>
    rw [if_pos hd] at h
    -- the value is looked at before the position
    cases p.cell with
    | error fault => rfl
    | ok cell => exact if_pos h
  · next hd =>
    rw [if_neg hd] at h
    rw [if_pos h]
    cases p.cell <;> rfl

/-- A parameter with a placeholder and a scalar value is sent. -/
theorem Parameter.bind_eq_ok {p : Parameter} {d : Dialect} {placeholders : List String} {index : Nat}
    (hplaced : p.Placed d placeholders index) (hscalar : p.value.isList = false) :
    p.bind d placeholders index = .ok (p.value.sent p.dbType) := by
  have hcell : p.cell = .ok (p.value.cellAs (.of p.dbType)) := by
    rw [cell, Value.coerce_eq_some hscalar]
  rw [bind_of_placed hplaced, hcell, Value.sent, Value.coerce_eq_some hscalar]
  rfl

/-- No list is sent. -/
theorem Parameter.cell_of_list {p : Parameter} {vs : List Value} (h : p.value = .list vs) :
    p.cell = .error (.unsupportedValue p.name) := by
  have hcoerce : p.value.coerce p.dbType = none := by
    rw [h]
    rfl
  rw [cell, hcoerce]

namespace Statement

variable {st : Statement}

/-- The placeholders that the database finds are those among the tokens. -/
theorem filterMap_placeholder? (d : Dialect) (ts : List Token) :
    ts.filterMap (Store.placeholder? d) = (Token.placeholders ts).filterMap (Store.placeholder? d) := by
  fun_induction Token.placeholders ts with
  | case1 => rfl
  | case2 name index ts ih => exact congrArg (d.placeholder name index :: ·) ih
  | case3 t ts hparam ih =>
    rw [← ih]
    cases t with
    | param name index => exact absurd rfl (hparam name index)
    | _ => rfl

/-- In a statement whose placeholders are those of its positions, the database finds these. -/
theorem placeholders_whole (hplaceholders : Token.placeholders st.tokens =
      (List.range st.parameters.length).map Token.slot) :
    st.placeholders .whole = (List.range st.parameters.length).map fun i =>
      st.dialect.placeholder (parameterName i) i := by
  rw [placeholders, read, filterMap_placeholder?, hplaceholders, List.filterMap_map]
  exact congrFun List.filterMap_eq_map _

/-- A statement whose placeholders are those of its positions, and whose parameters are named by them,
has a placeholder for every parameter. -/
theorem placed_of_mem (hplaceholders : Token.placeholders st.tokens =
      (List.range st.parameters.length).map Token.slot)
    (hnames : st.parameters.map (·.name) = (List.range st.parameters.length).map parameterName)
    {p : Parameter} {i : Nat} (hp : (p, i) ∈ st.parameters.zipIdx) :
    p.Placed st.dialect (st.placeholders .whole) i := by
  obtain ⟨hi, rfl⟩ : ∃ hi : i < st.parameters.length, p = st.parameters[i] := by
    rw [List.mem_zipIdx_iff_getElem?, List.getElem?_eq_some_iff] at hp
    exact ⟨hp.1, hp.2.symm⟩
  have hname : st.parameters[i].name = parameterName i := by
    have hget := congrArg (·[i]?) hnames
    simpa [hi] using hget
  rw [Parameter.Placed, placeholders_whole hplaceholders, hname]
  split
  · rwa [List.length_map, List.length_range]
  · exact List.mem_map_of_mem (List.mem_range.2 hi)

/-- Every parameter of a statement is sent, when each has its placeholder and a scalar value. -/
theorem cells_eq_ok {placeholders : List String}
    (hplaced : ∀ q ∈ st.parameters.zipIdx, q.1.Placed st.dialect placeholders q.2)
    (hscalars : ∀ p ∈ st.parameters, p.value.isList = false) :
    st.cells placeholders = .ok (st.parameters.map fun p => p.value.sent p.dbType) := by
  rw [cells, ← map_fst_zipIdx]
  refine mapM_eq_ok ?_
  rintro ⟨p, i⟩ hp
  have hmem : p ∈ st.parameters := (List.mem_zipIdx' hp).2 ▸ List.getElem_mem _
  exact Parameter.bind_eq_ok (hplaced _ hp) (hscalars p hmem)

end Statement

/-- The values that a valid condition binds are no lists. -/
theorem Condition.isList_operands {c : Condition} (h : c.fault? = none) :
    ∀ v ∈ c.operands, v.isList = false := by
  have hsuits := fault?_eq_none_iff.1 h
  unfold Suits at hsuits
  intro v hv
  cases hop : c.operator with
  | isIn | notIn =>
    rw [hop] at hsuits
    obtain ⟨items, hvalue, hscalars⟩ := hsuits
    exact hscalars v (by simpa [operands, hop, hvalue] using hv)
  | between | notBetween =>
    rw [hop] at hsuits
    obtain ⟨low, high, hvalue, hscalars⟩ := hsuits
    exact (hscalars v (by simpa [operands, hop, hvalue] using hv)).2
  | isNull | isNotNull => simp [operands, hop] at hv
  | equal | notEqual =>
    rw [hop] at hsuits
    -- a test for equality with null binds nothing
    have hv : v = c.value := by cases hvalue : c.value <;> simp_all [operands]
    exact hv ▸ hsuits
  | _ =>
    rw [hop] at hsuits
    obtain rfl : v = c.value := by simpa [operands, hop] using hv
    exact hsuits

/-- The parameters of some leaves hold no lists. -/
theorem Settled.isList_value {start : Nat} {cs : List (Condition × Column)} {ts : List Test}
    {ps : List Parameter} (h : Settled start cs ts ps) : ∀ p ∈ ps, p.value.isList = false := by
  induction h with
  | nil => simp
  | cons valid nonempty tail ih =>
    intro p hp
    rcases List.mem_append.1 hp with hp | hp
    · have hvalue := List.mem_map_of_mem (f := (·.value)) hp
      rw [Parameter.map_value_number] at hvalue
      exact Condition.isList_operands valid _ hvalue
    · exact ih p hp

namespace Builder

variable {b : Builder} {r : Request} {types types' : TypeChain} {st : Statement}

/-- The parameters of a statement that was built are named by their positions. -/
theorem map_name_run (h : b.run r types = (.ok st, types')) :
    st.parameters.map (·.name) = (List.range st.parameters.length).map parameterName := by
  rw [parameters_eq_numbered h, Parameter.map_name_numbered, Parameter.length_numbered,
    List.range_eq_range']

/-- The parameters of a statement that was built hold no lists. -/
theorem isList_run (h : b.run r types = (.ok st, types')) :
    ∀ p ∈ st.parameters, p.value.isList = false := by
  by_cases hmerge : ∃ spec, r.operation = .merge spec
  · -- a merge with a list is not planned
    obtain ⟨spec, hop⟩ := hmerge
    obtain ⟨u, -, hplanned⟩ := run_merge h hop
    obtain ⟨hscalars, -, -, -, hplan⟩ := MergeSpec.plan_eq_ok hplanned
    intro p hp
    rw [MergeSpec.parameters_plan hplan] at hp
    simp only [Parameter.numbered, List.mem_map, Prod.exists] at hp
    obtain ⟨v, dbType, i, hbound, rfl⟩ := hp
    obtain ⟨entry, hentry, hv⟩ := List.mem_map.1 (List.fst_mem_of_mem_zipIdx hbound)
    obtain ⟨rfl, -⟩ := Prod.mk.inj hv
    exact hscalars entry (List.mem_of_mem_filter hentry)
  · obtain ⟨children, -, hbind⟩ := run_filter h (not_exists.1 hmerge)
    exact (Node.settled_bindAllFrom hbind).isList_value

/-- All parameters of a statement that was built are sent, when the database reads all of it. -/
theorem cells_run (h : b.run r types = (.ok st, types')) :
    st.cells (st.placeholders .whole) = .ok (st.parameters.map fun p => p.value.sent p.dbType) :=
  Statement.cells_eq_ok (fun _ hq => Statement.placed_of_mem (placeholders_run h) (map_name_run h) hq)
    (isList_run h)

end Builder

/-- The values and types of the parameters for some members are theirs. -/
theorem Parameter.map_ofMembers {α : Type} (f : Value → Option DbType → α) (members : List Member) :
    (ofMembers members).map (fun p => f p.value p.dbType) =
      members.map fun m => f m.value m.column.dbType := by
  rw [ofMembers, List.map_map]
  exact map_fst_zipIdx (fun m : Member => f m.value m.column.dbType) members

/-- The cell that is stored for a member. -/
def Member.cell (m : Member) : Cell :=
  m.value.sent m.column.dbType

end FilterSql
