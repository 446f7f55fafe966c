import FilterSql.Proofs.LetterCase

/-!
# Readings in other spellings

The names of a reading are looked up in several places: in the conditions when they are bound, in
the columns of the result and in the ordering. Each of them finds the same column for a known name
and for its lower case form, so a request and its lower case form lead to the same statement and fill
the cache of the type chain alike. Together with what normalizing does, this makes the letter case of
known names irrelevant.

## Main definitions

* `Building.UpToCase`: two computations have the same outcome up to letter case and leave the same
  chain;
* `Inquiry`: a reading with its filter as the caller gives it;
* `Inquiry.caseless`: the reading with all names in lower case.

## Main results

* `Group.upToCase_bind`: the condition of a statement is bound alike;
* `Builder.upToCase_build`: requests are built alike when their names are known;
* `Inquiry.build_of_caseless_eq`: readings that differ in letter case alone have the same outcome.
-/

namespace FilterSql

open FieldCase (fold)

/-- Elements that are computed alike in two forms are computed alike one after another. -/
theorem mapM_map_eq {α β : Type} {f : α → StateM TypeChain β} {change : α → α}
    {xs : List α} (h : ∀ x ∈ xs, f (change x) = f x) : (xs.map change).mapM f = xs.mapM f := by
  induction xs with
  | nil => rfl
  | cons x xs ih =>
    rw [List.forall_mem_cons] at h
    rw [List.map_cons, List.mapM_cons, List.mapM_cons, h.1, ih h.2]

/-- Two computations of statements have the same outcome up to letter case and leave the same
chain. -/
structure Building.UpToCase {α : Type} (x y : Building α) : Prop where
  /-- The outcomes are the same up to letter case. -/
  outcome : ∀ types, FilterSql.UpToCase Eq (x.run.run types).1 (y.run.run types).1
  /-- The chains that are left are the same. -/
  chain : ∀ types, (x.run.run types).2 = (y.run.run types).2

namespace Building.UpToCase

variable {α β : Type}

/-- A computation is the same as itself. -/
theorem refl (x : Building α) : UpToCase x x :=
  ⟨fun _ => .refl _, fun _ => rfl⟩

/-- Sameness of computations goes both ways. -/
theorem symm {x y : Building α} (h : UpToCase x y) : UpToCase y x :=
  ⟨fun types => (h.outcome types).symm, fun types => (h.chain types).symm⟩

/-- Computations that are the same as a third one are the same. -/
theorem trans {x y z : Building α} (h : UpToCase x y) (h' : UpToCase y z) : UpToCase x z :=
  ⟨fun types => (h.outcome types).trans (h'.outcome types),
    fun types => (h.chain types).trans (h'.chain types)⟩

/-- Checks with the same outcome up to letter case are the same. -/
theorem check {x y : Except QueryError α} (h : FilterSql.UpToCase Eq x y) :
    UpToCase (ExceptT.mk (pure x)) (ExceptT.mk (pure y)) :=
  ⟨fun _ => h, fun _ => rfl⟩

/-- Computations are the same when checks before them have related outcomes, and they are the same
on related results. -/
theorem check_bind {γ : Type} {R : α → γ → Prop} {x : Except QueryError α}
    {y : Except QueryError γ} (h : FilterSql.UpToCase R x y) {f : α → Building β}
    {g : γ → Building β} (hnext : ∀ a c, x = .ok a → y = .ok c → R a c → UpToCase (f a) (g c)) :
    UpToCase ((ExceptT.mk (pure x) : Building α) >>= f)
      ((ExceptT.mk (pure y) : Building γ) >>= g) := by
  cases h with
  | ok h => exact hnext _ _ rfl rfl h
  | error herr => exact ⟨fun _ => .error herr, fun _ => rfl⟩

/-- One computation after another is the same when each of them is. -/
theorem bind {x y : Building α} {f g : α → Building β} (h : UpToCase x y)
    (hnext : ∀ a, UpToCase (f a) (g a)) : UpToCase (x >>= f) (y >>= g) := by
  have hboth : ∀ types,
      FilterSql.UpToCase Eq ((x >>= f).run.run types).1 ((y >>= g).run.run types).1 ∧
        ((x >>= f).run.run types).2 = ((y >>= g).run.run types).2 := by
    intro types
    have houtcome := h.outcome types
    have hchain := h.chain types
    rw [run_bind, run_bind]
    rcases hx : x.run.run types with ⟨rx, types₁⟩
    rcases hy : y.run.run types with ⟨ry, types₂⟩
    rw [hx, hy] at houtcome hchain
    obtain rfl : types₁ = types₂ := hchain
    cases houtcome with
    | ok ha =>
      obtain rfl := ha
      exact ⟨(hnext _).outcome types₁, (hnext _).chain types₁⟩
    | error herr => exact ⟨.error herr, rfl⟩
  exact ⟨fun types => (hboth types).1, fun types => (hboth types).2⟩

end Building.UpToCase

/-- The list of a valid condition is refused as that of its lower case form is. -/
theorem Condition.upToCase_checkItems {c : Condition} (h : c.fault? = none) :
    UpToCase Eq c.caseless.checkItems c.checkItems := by
  have hcaseless : c.caseless.fault? = none := h
  rw [checkItems_of_valid h, checkItems_of_valid hcaseless,
    show c.caseless.isEmptyMembership = c.isEmptyMembership from rfl]
  split
  · exact .error (by simp [QueryError.caseless, Condition.caseless, Field.caseless])
  · exact .refl _

/-- A condition on a known name is bound as its lower case form is. -/
theorem Condition.upToCase_bind {s : Scope} (hcase : s.fieldCase = .insensitive) {c : Condition}
    (hknown : s.entity.Knows c.field.name) (start : Nat) :
    Building.UpToCase (c.caseless.bind s start) (c.bind s start) := by
  have hcolumn : c.caseless.column s = c.column s := Scope.column_fold hcase hknown _
  unfold bind
  rw [hcolumn]
  refine .check_bind c.upToCase_validate fun _ _ _ hvalid _ => ?_
  refine (Building.UpToCase.refl _).bind fun column => ?_
  have hitems := upToCase_checkItems ((c.validate_eq_ok_iff).1 hvalid)
  exact (Building.UpToCase.check hitems).bind fun _ => .refl _

namespace Node

variable {s : Scope}

mutual

/-- A tree of known names is bound as its lower case form is. -/
theorem upToCase_bind (hcase : s.fieldCase = .insensitive) : ∀ (start : Nat) (n : Node Condition),
    (∀ c ∈ n.leaves, s.entity.Knows c.field.name) →
      Building.UpToCase (bind s start (n.map Condition.caseless)) (bind s start n)
  | start, leaf c, hknown => by
    rw [Node.map, bind, bind]
    exact (Condition.upToCase_bind hcase (hknown c (by simp [leaves])) start).bind fun _ => .refl _
  | start, group _ _ children, hknown => by
    rw [Node.map, bind, bind]
    rw [leaves] at hknown
    exact (upToCase_bindAll hcase start children hknown).bind fun _ => .refl _

/-- Several trees of known names are bound as their lower case forms are. -/
theorem upToCase_bindAll (hcase : s.fieldCase = .insensitive) :
    ∀ (start : Nat) (ns : List (Node Condition)),
      (∀ c ∈ leavesOf ns, s.entity.Knows c.field.name) →
        Building.UpToCase (bindAll s start (mapAll Condition.caseless ns)) (bindAll s start ns)
  | _, [], _ => by
    rw [mapAll]
    exact .refl _
  | start, child :: rest, hknown => by
    simp only [leavesOf, List.mem_append] at hknown
    rw [mapAll, bindAll, bindAll]
    apply (upToCase_bind hcase start child fun c hc => hknown c (.inl hc)).bind
    rintro ⟨test, ps⟩
    -- the rest starts behind the parameters of the first tree, which are the same
    exact (upToCase_bindAll hcase (start + ps.length) rest fun c hc => hknown c (.inr hc)).bind
      fun _ => .refl _

end

end Node

/-- The condition of a statement is bound as its lower case form is, when its names are known. -/
theorem Group.upToCase_bind {s : Scope} {g : Group Condition} (hcase : s.fieldCase = .insensitive)
    (hknown : ∀ c ∈ g.leaves, s.entity.Knows c.field.name) :
    Building.UpToCase (g.caseless.bind s) (g.bind s) :=
  (Node.upToCase_bindAll hcase 0 g.children hknown).bind fun _ => .refl _

/-- The names of a request. -/
def Request.names (r : Request) : List String :=
  r.columns.map (·.name) ++ r.filter.leaves.map (·.field.name) ++ r.order.map (·.field.name)

namespace Builder

variable {b : Builder} {r r' : Request}

/-- The columns of the result are resolved as their lower case forms are. -/
theorem projection_caseless {s : Scope} (hcase : s.fieldCase = .insensitive)
    (hknown : ∀ f ∈ r.columns, s.entity.Knows f.name) :
    projection r.caseless s = projection r s := by
  have hfields : (r.columns.map Field.caseless).mapM (fun f => return (← s.fieldColumn f).name) =
      r.columns.mapM (fun f => return (← s.fieldColumn f).name) := by
    refine mapM_map_eq fun f hf => ?_
    have hcolumn : s.fieldColumn f.caseless = s.fieldColumn f :=
      Scope.column_fold hcase (hknown f hf) f.kind
    rw [hcolumn]
  simp only [projection, Request.caseless, hfields, List.isEmpty_map]

/-- The columns of the ordering are resolved as their lower case forms are. -/
theorem ordering_caseless {s : Scope} (hcase : s.fieldCase = .insensitive)
    (hknown : ∀ term ∈ r.order, s.entity.Knows term.field.name) :
    ordering r.caseless s = ordering r s := by
  refine mapM_map_eq fun term hterm => ?_
  have hcolumn : s.fieldColumn term.caseless.field = s.fieldColumn term.field :=
    Scope.column_fold hcase (hknown term hterm) term.field.kind
  rw [hcolumn]
  rfl

/-- A page is ordered when its lower case form is. -/
theorem checkOrder_caseless (b : Builder) (r : Request) :
    b.checkOrder r.caseless = b.checkOrder r := by
  simp only [checkOrder, Request.caseless, List.isEmpty_map]

/-- A request is built as its lower case form is, when its names are known. -/
theorem upToCase_build_caseless (hcase : b.fieldCase = .insensitive)
    (hknown : ∀ name ∈ r.names, r.entity.Knows name) :
    Building.UpToCase (b.build r.caseless) (b.build r) := by
  simp only [Request.names, List.mem_append, List.mem_map, or_imp, forall_and] at hknown
  obtain ⟨⟨hcolumns, hfilter⟩, horder⟩ := hknown
  have hbind : Building.UpToCase (r.caseless.filter.bind (b.scope r.entity))
      (r.filter.bind (b.scope r.entity)) :=
    Group.upToCase_bind hcase fun c hc => hfilter _ ⟨c, hc, rfl⟩
  have hselect : Building.UpToCase (b.select r.caseless) (b.select r) := by
    unfold select
    rw [checkOrder_caseless, show window r.caseless = window r from rfl]
    refine (Building.UpToCase.refl _).bind fun _ => (Building.UpToCase.refl _).bind fun _ => ?_
    have hprojection := projection_caseless (s := b.scope r.entity) hcase fun f hf =>
      hcolumns _ ⟨f, hf, rfl⟩
    have hordering := ordering_caseless (s := b.scope r.entity) hcase fun term hterm =>
      horder _ ⟨term, hterm, rfl⟩
    rw [show r.caseless.entity = r.entity from rfl, hprojection, hordering]
    exact (Building.UpToCase.refl _).bind fun _ => hbind.bind fun _ => .refl _
  have hcount : Building.UpToCase (b.count r.caseless) (b.count r) := by
    unfold count
    exact hbind.bind fun _ => .refl _
  unfold build
  rw [show r.caseless.operation = r.operation from rfl]
  cases r.operation with
  | query | page => exact hselect.bind fun _ => .refl _
  | count => exact hcount.bind fun _ => .refl _
  | merge spec => exact .refl _

/-- Requests that differ in letter case alone are built alike, when their names are known. -/
theorem upToCase_build (hcase : b.fieldCase = .insensitive) (h : r.caseless = r'.caseless)
    (hknown : ∀ name ∈ r.names, r.entity.Knows name)
    (hknown' : ∀ name ∈ r'.names, r'.entity.Knows name) :
    Building.UpToCase (b.build r) (b.build r') := by
  have hr := upToCase_build_caseless hcase hknown
  have hr' := upToCase_build_caseless hcase hknown'
  rw [← h] at hr'
  exact hr.symm.trans hr'

end Builder

/-! ### Readings -/

/-- A reading of rows with the filter that the caller gives. -/
structure Inquiry where
  /-- The entity that is read. -/
  entity : Entity
  /-- What is to be read. -/
  operation : Operation
  /-- The columns of the result. -/
  columns : List Field := []
  /-- Which rows are wanted; without a filter, all of them. -/
  filter : Option Filter := none
  /-- The ordering of the result. -/
  order : List OrderTerm := []
  /-- At most how many rows a plain query returns. -/
  top : Option Nat := none
  /-- A table hint, passed on as it is. -/
  hint : Option String := none

namespace Inquiry

/-- The condition tree of the filter. -/
def tree (x : Inquiry) (fieldCase : FieldCase) : Except QueryError (Group Condition) :=
  match x.filter with
  | some f => f.normalize x.entity fieldCase
  | none => .ok {}

/-- The request with a given condition tree. -/
def request (x : Inquiry) (tree : Group Condition) : Request :=
  { entity := x.entity, operation := x.operation, columns := x.columns, filter := tree
    order := x.order, top := x.top, hint := x.hint }

/-- Normalize the filter and build the statement. -/
def build (x : Inquiry) (b : Builder) : Building Statement := do
  let tree ← ExceptT.mk (pure (x.tree b.fieldCase))
  b.build (x.request tree)

/-- The reading with all names in lower case. -/
def caseless (x : Inquiry) : Inquiry :=
  { x with
    columns := x.columns.map Field.caseless
    filter := x.filter.map Filter.caseless
    order := x.order.map OrderTerm.caseless }

/-- The names of a reading, without those that a predicate looks up by itself. -/
def names (x : Inquiry) : List String :=
  x.columns.map (·.name) ++ x.filter.toList.flatMap Filter.unresolved ++
    x.order.map (·.field.name)

variable {b : Builder} {x y : Inquiry}

/-- The names of the lower case form are the lower case forms of the names. -/
theorem names_caseless (x : Inquiry) : x.caseless.names = x.names.map fold := by
  obtain ⟨_, _, columns, filter, order, _, _⟩ := x
  cases filter <;>
    simp [caseless, names, Field.caseless, OrderTerm.caseless, Filter.unresolved_caseless,
      Function.comp_def]

/-- Readings that differ in letter case alone are about the same entity. -/
theorem entity_eq (h : x.caseless = y.caseless) : x.entity = y.entity := by
  have hentity : x.caseless.entity = y.caseless.entity := by rw [h]
  exact hentity

/-- Of two readings that differ in letter case alone, the names of one are known when those of the
other are. -/
theorem knows_of_caseless_eq (h : x.caseless = y.caseless)
    (hknown : ∀ name ∈ x.names, x.entity.Knows name) :
    ∀ name ∈ y.names, y.entity.Knows name := by
  intro name hname
  have hfold : fold name ∈ x.names.map fold := by
    rw [← names_caseless, h, names_caseless]
    exact List.mem_map_of_mem hname
  obtain ⟨given, hgiven, hsame⟩ := List.mem_map.1 hfold
  rw [← Entity.knows_fold, ← hsame, Entity.knows_fold, ← entity_eq h]
  exact hknown given hgiven

/-- The trees of readings that differ in letter case alone do so too. -/
theorem upToCase_tree (h : x.caseless = y.caseless) :
    UpToCase (fun g g' => g.caseless = g'.caseless) (x.tree .insensitive)
      (y.tree .insensitive) := by
  have hfilter : x.caseless.filter = y.caseless.filter := by rw [h]
  change x.filter.map Filter.caseless = y.filter.map Filter.caseless at hfilter
  unfold tree
  cases hx : x.filter with
  | none =>
    rw [hx, Option.map_none, eq_comm, Option.map_eq_none_iff] at hfilter
    rw [hfilter]
    exact .ok rfl
  | some f =>
    rw [hx, Option.map_some, eq_comm, Option.map_eq_some_iff] at hfilter
    obtain ⟨f', hy, hf⟩ := hfilter
    rw [hy, entity_eq h]
    exact Filter.upToCase_normalize hf.symm

/-- The names of a request are known when those of the reading are. -/
theorem knows_request {g : Group Condition} (hg : x.tree .insensitive = .ok g)
    (hknown : ∀ name ∈ x.names, x.entity.Knows name) :
    ∀ name ∈ (x.request g).names, (x.request g).entity.Knows name := by
  simp only [names, List.mem_append, or_imp, forall_and] at hknown
  obtain ⟨⟨hcolumns, hfilter⟩, horder⟩ := hknown
  simp only [Request.names, List.mem_append, or_imp, forall_and]
  refine ⟨⟨hcolumns, ?_⟩, horder⟩
  rintro _ hname
  obtain ⟨c, hc, rfl⟩ := List.mem_map.1 hname
  unfold tree at hg
  split at hg
  · next f hf =>
    refine Filter.knows_of_normalize hg (fun name hname => hfilter name ?_) c hc
    simpa [hf] using hname
  · obtain rfl := Except.ok.inj hg
    exact absurd hc (by simp [request, Group.leaves, Node.leavesOf])

/-- Under the insensitive policy, readings that differ in the letter case of known names alone have
the same outcome under every chain: the same statement, or errors that differ at most in the letter
case of the names that they quote. The chain that is left is the same too. -/
theorem build_of_caseless_eq (hcase : b.fieldCase = .insensitive) (h : x.caseless = y.caseless)
    (hknown : ∀ name ∈ x.names, x.entity.Knows name) (types : TypeChain) :
    (∃ st types', (x.build b).run.run types = (.ok st, types') ∧
        (y.build b).run.run types = (.ok st, types')) ∨
      ∃ err err' types', (x.build b).run.run types = (.error err, types') ∧
        (y.build b).run.run types = (.error err', types') ∧ err.caseless = err'.caseless := by
  have hknown' := knows_of_caseless_eq h hknown
  have hbuild : Building.UpToCase (x.build b) (y.build b) := by
    unfold build
    rw [hcase]
    -- the trees need not be the same, since they keep the spelling of their fields
    refine .check_bind (upToCase_tree h) fun g g' hg hg' hsame => ?_
    have hrequest : (x.request g).caseless = (y.request g').caseless := by
      change x.caseless.request g.caseless = y.caseless.request g'.caseless
      rw [h, hsame]
    exact Builder.upToCase_build hcase hrequest (knows_request hg hknown)
      (knows_request hg' hknown')
  have houtcome := hbuild.outcome types
  have hchain := hbuild.chain types
  rcases hx : (x.build b).run.run types with ⟨rx, types'⟩
  rcases hy : (y.build b).run.run types with ⟨ry, types''⟩
  rw [hx, hy] at houtcome hchain
  obtain rfl : types' = types'' := hchain
  cases houtcome with
  | ok hst => exact .inl ⟨_, types', rfl, by rw [hst]⟩
  | error herr => exact .inr ⟨_, _, types', rfl, rfl, herr⟩

/-- The filter goes by the name of a property and the ordering by its column, in two spellings each. -/
theorem build_of_caseless_eq_spelled :
    let e : Entity :=
      { name := "E", table := { name := "E" },
        properties := [{ name := "Id", kind := .int },
                       { name := "Name", column := some "Id2", kind := .text }] }
    let x : Inquiry :=
      { entity := e, operation := .query, columns := [{ name := "ID" }],
        filter := some (.dynamic ⟨[("name", .text "N")]⟩)
        order := [{ field := { name := "iD2" } }] }
    let y : Inquiry :=
      { entity := e, operation := .query, columns := [{ name := "id" }],
        filter := some (.dynamic ⟨[("NAME", .text "N")]⟩)
        order := [{ field := { name := "Id2" } }] }
    let b : Builder := { dialect := .sqlite, fieldCase := .insensitive }
    ∃ st types', (x.build b).run.run {} = (.ok st, types') ∧
      (y.build b).run.run {} = (.ok st, types') ∧
      st.sql = "SELECT \"Id\" FROM \"E\" WHERE \"Id2\" = @p0 ORDER BY \"Id2\" ASC" := by
  intro e x y b
  have hspelled : x.caseless = y.caseless := rfl
  have hknown : ∀ name ∈ x.names, x.entity.Knows name := by decide
  have hrun : (x.build b).run.run {} = (.ok _, _) := rfl
  -- the first reading is built, so neither of the two is refused
  rcases build_of_caseless_eq (b := b) rfl hspelled hknown {} with
    ⟨st, types', hx, hy⟩ | ⟨err, _, _, hx, -⟩
  · rw [hrun] at hx
    obtain ⟨hst, rfl⟩ := Prod.mk.inj hx
    obtain rfl := Except.ok.inj hst
    exact ⟨_, _, hrun, hy, by decide +kernel⟩
  · rw [hrun] at hx
    cases hx

end Inquiry

end FilterSql
