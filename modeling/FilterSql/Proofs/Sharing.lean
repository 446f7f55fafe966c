import FilterSql.Proofs.Merging
import FilterSql.Proofs.Offences

/-!
# Builds that share a type chain

One chain may serve any number of builders, and keeps its answers from one build to the next, whether
or not the build comes to a statement: a build that is refused at one of its conditions has asked for
the columns up to there. Entities may share a name and differ in their declarations, but an answer is
kept under everything that it depends on. So each build comes to what it comes to on a chain that has
not been asked anything yet.

## Main definitions

* `Condition.inquired`: the conditions whose columns are asked for;
* `TypeMapper.answer`: what a mapper says to a question;
* `TypeChain.Sound`: every answer that a chain keeps is the one that the mapper gives;
* `Builder.buildAll`: builds made one after another on one chain.

## Main results

* `Node.chain_bindAll`: the chain that binding a tree leaves, also where the tree is refused;
* `Builder.invisible_build`: a request is built by the answers of the chain alone;
* `TypeChain.sound_iff_run`: a chain is sound exactly when no build can tell it from a fresh one;
* `Builder.buildAll_fresh`: a sequence of builds gives what the builds give on fresh chains, and
  leaves a sound chain.
-/

namespace FilterSql

/-- What a mapper says to a question: the declared type, else the property's own mapping, else the
mapping of its kind. -/
def TypeMapper.answer (m : TypeMapper) (q : TypeQuestion) : Option DbType :=
  q.annotation.or ((m.property? q.key).or (m.kind? q.kind))

namespace TypeChain

/-- Every answer that a chain keeps is the one that the mapper gives. -/
def Sound (c : TypeChain) (m : TypeMapper) : Prop :=
  ∀ q answer, c.cache.get? q = some answer → answer = m.answer q

/-- Every question is asked by some property. -/
theorem exists_question (q : TypeQuestion) : ∃ entity p, TypeQuestion.of entity p = q :=
  ⟨q.key.entity, { name := q.key.property, kind := q.kind, dbType := q.annotation }, rfl⟩

variable {c : TypeChain} {m : TypeMapper}

/-- A chain that answers as its mapper does keeps sound answers. -/
theorem Agree.sound (h : c.Agree { mapper := m }) : c.Sound m := by
  intro q answer hcache
  obtain ⟨entity, p, rfl⟩ := exists_question q
  have htype := h.typeOf entity p
  rw [typeOf_eq, typeOf_eq, hcache] at htype
  exact htype

/-- A chain that keeps sound answers answers as its mapper does. -/
theorem Sound.agree (h : c.Sound c.mapper) : c.Agree { mapper := c.mapper } := by
  refine ⟨fun entity p => ?_, fun _ => rfl⟩
  rw [typeOf_eq, typeOf_eq]
  cases hcache : c.cache.get? (.of entity p) with
  | none => rfl
  | some answer => exact h _ _ hcache

end TypeChain

/-! ### What binding asks for -/

namespace Condition

/-- The conditions whose columns are asked for when they are bound one after another: those in front of
the first one with an unsuitable value, or up to the first test for membership in an empty list. -/
def inquired : List Condition → List Condition
  | [] => []
  | c :: rest =>
    if c.fault? ≠ none then []
    else if c.isEmptyMembership then [c]
    else c :: inquired rest

/-- A condition passes when its value suits the operator and it is no empty membership test. -/
theorem check_eq_ok_iff_fault? {c : Condition} :
    c.check = .ok () ↔ c.fault? = none ∧ c.isEmptyMembership = false := by
  rw [check_eq_ok_iff, fault?_eq_none_iff, ← Bool.not_eq_true, isEmptyMembership_iff, not_and]
  exact ⟨fun h => ⟨h.suits, h.nonempty⟩, fun h => ⟨h.1, h.2⟩⟩

/-- All of the conditions that pass are asked for, and then those behind them. -/
theorem inquired_append {cs : List Condition} (h : ∀ c ∈ cs, c.check = .ok ()) (cs' : List Condition) :
    inquired (cs ++ cs') = cs ++ inquired cs' := by
  induction cs with
  | nil => rfl
  | cons c cs ih =>
    rw [List.forall_mem_cons] at h
    obtain ⟨hvalid, hnonempty⟩ := check_eq_ok_iff_fault?.1 h.1
    simp [inquired, hvalid, hnonempty, ih h.2]

/-- Nothing is asked for behind conditions of which one does not pass. -/
theorem inquired_append_of_refused {cs : List Condition} (h : ¬ ∀ c ∈ cs, c.check = .ok ())
    (cs' : List Condition) : inquired (cs ++ cs') = inquired cs := by
  induction cs with
  | nil => simp at h
  | cons c cs ih =>
    rw [List.forall_mem_cons, not_and, check_eq_ok_iff_fault?] at h
    rw [List.cons_append, inquired, inquired]
    split
    · rfl
    next hvalid =>
      split
      · rfl
      · next hnonempty => rw [ih (h ⟨not_not.1 hvalid, Bool.eq_false_iff.2 hnonempty⟩)]

/-- The chain after the columns of some conditions have been asked for. -/
def ask (s : Scope) (cs : List Condition) (types : TypeChain) : TypeChain :=
  cs.foldl (fun types c => ((c.column s).run types).2) types

/-- Binding a condition asks for its column if its value suits the operator. -/
theorem chain_bind (s : Scope) (start : Nat) (c : Condition) (types : TypeChain) :
    ((c.bind s start).run.run types).2 = ask s (inquired [c]) types := by
  unfold bind
  rw [Building.run_bind_mk]
  cases hvalid : c.validate with
  | error e =>
    have hfault : c.fault? ≠ none := by
      rw [Ne, ← validate_eq_ok_iff, hvalid]
      exact fun h => (nomatch h)
    rw [inquired, if_pos hfault]
    rfl
  | ok u =>
    have hfault : c.fault? = none := (validate_eq_ok_iff c).1 hvalid
    have hinquired : inquired [c] = [c] := by simp [inquired, hfault]
    dsimp only
    rw [Building.run_bind_lift, Building.run_bind_mk, hinquired]
    cases c.checkItems <;> rfl

end Condition

namespace Node

variable (s : Scope)

mutual

/-- Binding a tree leaves the chain as asking for the columns of its conditions does, up to the one that
is refused. -/
theorem chain_bind : ∀ (start : Nat) (n : Node Condition) (types : TypeChain),
    ((bind s start n).run.run types).2 = Condition.ask s (Condition.inquired n.leaves) types
  | start, leaf c, types => by
    rw [bind, leaves, ← c.chain_bind s start, Building.run_bind]
    rcases (c.bind s start).run.run types with ⟨_ | _, _⟩ <;> rfl
  | start, group _ _ children, types => by
    rw [bind, leaves, ← chain_bindAll start children, Building.run_bind]
    rcases (bindAll s start children).run.run types with ⟨_ | _, _⟩ <;> rfl

/-- Binding several trees leaves the chain as asking for the columns of their conditions does, up to the
one that is refused. -/
theorem chain_bindAll : ∀ (start : Nat) (ns : List (Node Condition)) (types : TypeChain),
    ((bindAll s start ns).run.run types).2 =
      Condition.ask s (Condition.inquired (leavesOf ns)) types
  | _, [], _ => by
    rw [bindAll]
    rfl
  | start, child :: rest, types => by
    have hchild := chain_bind start child types
    have hcheck : ((((bind s start child).run.run types).1).map fun _ => ()) = .ok () ↔
        ∀ c ∈ child.leaves, c.check = .ok () := by
      rw [bind_fst, check_bindFrom, leaves_map, forM_eq_ok_iff, List.forall_mem_map]
      rfl
    rw [bindAll, leavesOf, Building.run_bind]
    generalize (bind s start child).run.run types = r at hchild hcheck
    obtain ⟨outcome, types₁⟩ := r
    cases outcome with
    | error e =>
      -- a refused condition is the end
      rw [Condition.inquired_append_of_refused fun h => nomatch hcheck.2 h]
      exact hchild
    | ok result =>
      have hall := hcheck.1 rfl
      have hself : Condition.inquired child.leaves = child.leaves := by
        simpa [Condition.inquired] using Condition.inquired_append hall []
      rw [hself] at hchild
      rw [Condition.inquired_append hall, Condition.ask, List.foldl_append]
      -- the rest is bound under the chain that the first tree leaves
      change _ = Condition.ask s _ (Condition.ask s child.leaves types)
      rw [← hchild, ← chain_bindAll (start + result.2.length) rest types₁]
      dsimp only
      rw [Building.run_bind]
      rcases (bindAll s (start + result.2.length) rest).run.run types₁ with ⟨_ | _, _⟩ <;> rfl

end

end Node

/-! ### Builds -/

namespace Builder

variable (b : Builder) (r : Request)

/-- A `SELECT` is built by the answers of the chain alone. -/
theorem invisible_select : Invisible (b.select r).run := by
  unfold select
  refine Building.invisible_bind (Building.invisible_mk _) fun _ => ?_
  refine Building.invisible_bind (Building.invisible_mk _) fun _ => ?_
  refine Building.invisible_bind (Building.invisible_lift (invisible_projection r _)) fun _ => ?_
  refine Building.invisible_bind (r.filter.invisible_bind _) fun _ => ?_
  exact Building.invisible_bind (Building.invisible_lift (invisible_ordering r _)) fun _ => .pure _

/-- A `SELECT COUNT(*)` is built by the answers of the chain alone. -/
theorem invisible_count : Invisible (b.count r).run := by
  unfold count
  exact Building.invisible_bind (r.filter.invisible_bind _) fun _ => .pure _

/-- A request is built, or refused, by the answers of the chain alone. -/
theorem invisible_build : Invisible (b.build r).run := by
  cases hop : r.operation with
  | query | page =>
    unfold build
    rw [hop]
    exact Building.invisible_bind (b.invisible_select r) fun _ => .pure _
  | count =>
    unfold build
    rw [hop]
    exact Building.invisible_bind (b.invisible_count r) fun _ => .pure _
  | merge spec => exact b.invisible_build_merge hop

/-- Chains that give the same answers lead to the same statement, or to the same error. -/
theorem run_congr {types types' : TypeChain} (h : types.Agree types') :
    (b.run r types).1 = (b.run r types').1 :=
  (b.invisible_build r).result h

end Builder

/-- A count of the rows that have some value of a property. -/
def Request.probe (entity : String) (p : Property) : Request :=
  { entity := { name := entity, table := { name := entity }, properties := [p] }
    operation := .count
    filter := { children :=
      [.leaf { field := { name := p.name }, operator := .equal, value := .int 0 }] } }

/-- Counting the rows that have some value of a property shows the type that the chain answers for the
property. -/
theorem Builder.run_probe (b : Builder) (c : TypeChain) (entity : String) (p : Property) :
    (b.run (.probe entity p) c).1.map (fun st => st.parameters.map (·.dbType)) =
      .ok [c.typeOf entity p] := by
  have hproperty : (Request.probe entity p).entity.property? b.fieldCase p.name = some p := by
    simp [Entity.property?, Request.probe]
  have htype := (b.scope (Request.probe entity p).entity).column_dbType hproperty (some .int) c
  change _ = Except.ok [c.typeOf (b.scope (Request.probe entity p).entity).entity.name p]
  rw [← htype]
  rfl

/-- A chain keeps sound answers exactly when every build comes to the same on it as on a fresh chain
with its mapper. -/
theorem TypeChain.sound_iff_run (c : TypeChain) :
    c.Sound c.mapper ↔
      ∀ (b : Builder) (r : Request), (b.run r c).1 = (b.run r { mapper := c.mapper }).1 := by
  refine ⟨fun hsound b r => b.run_congr r hsound.agree, fun hrun => ?_⟩
  refine Agree.sound ⟨fun entity p => ?_, fun _ => rfl⟩
  -- a type that differs would be seen in the parameter of a count
  have hprobe := Builder.run_probe { dialect := .sqlite } c entity p
  rw [hrun, Builder.run_probe] at hprobe
  simpa using hprobe.symm

namespace Builder

/-- Build requests one after another, each on the chain that the one before it leaves. -/
def buildAll (builds : List (Builder × Request)) :
    StateM TypeChain (List (Except QueryError Statement)) :=
  builds.mapM fun (b, r) => (b.build r).run

/-- On a chain that no one has asked anything yet, a sequence of builds comes to what each of them
comes to on a chain of its own, in whatever order they are made, and every answer that is kept at the
end is the one that the mapper gives. Keeping such answers is the same as not being noticed by any
build. -/
theorem buildAll_fresh (m : TypeMapper) (builds : List (Builder × Request)) :
    ((buildAll builds).run { mapper := m }).1 =
        builds.map (fun (b, r) => (b.run r { mapper := m }).1) ∧
      ((buildAll builds).run { mapper := m }).2.Sound m ∧
      (∀ builds' : List (Builder × Request), builds'.Perm builds →
        (builds'.zip ((buildAll builds').run { mapper := m }).1).Perm
          (builds.zip ((buildAll builds).run { mapper := m }).1)) ∧
      ∀ c : TypeChain, c.mapper = m →
        (c.Sound m ↔ ∀ (b : Builder) (r : Request), (b.run r c).1 = (b.run r { mapper := m }).1) := by
  have hbuild (build : Builder × Request) : Invisible (build.1.build build.2).run :=
    build.1.invisible_build build.2
  have hresults (builds : List (Builder × Request)) :
      ((buildAll builds).run { mapper := m }).1 =
        builds.map (fun (b, r) => (b.run r { mapper := m }).1) :=
    Invisible.mapM_fst hbuild { mapper := m } builds
  refine ⟨hresults builds, ((Invisible.mapM hbuild builds).agree _).symm.sound, ?_, ?_⟩
  · intro builds' hperm
    rw [hresults, hresults, ← List.map_id builds', ← List.map_id builds, List.map_map, List.map_map,
      List.zip_map', List.zip_map']
    exact hperm.map _
  · rintro c rfl
    exact c.sound_iff_run

/-- Two entities share a name and a property, which only one of them gives a type. The first build is
refused at its second condition, when the column of the first one has been asked for. -/
theorem buildAll_fresh_shared_name :
    let m : TypeMapper := TypeMapper.empty.mapKind .text .string
    let p : Property := { name := "Code", kind := .text }
    let q : Property := { name := "Note", kind := .text }
    let b : Builder := { dialect := .sqlite }
    let refused : Request :=
      { entity := { name := "Customer", table := { name := "Customer" }, properties := [p, q] }
        operation := .count
        filter := { children := [.leaf (.eq { name := "Code" } (.text "A")),
          .leaf { field := { name := "Note" }, operator := .between, value := .null }] } }
    let r := Request.probe "Customer" p
    let r' := Request.probe "Customer" { p with dbType := some .ansiString }
    let builds := [(b, refused), (b, r), (b, r')]
    let c := ((buildAll builds).run { mapper := m }).2
    (b.run refused { mapper := m }).1 =
        .error (.invalidOperatorArgument "Note" .between .notTwoValues) ∧
      (b.run refused { mapper := m }).2.cache.get? (.of "Customer" p) = some (some .string) ∧
      (b.run refused { mapper := m }).2.cache.get? (.of "Customer" q) = none ∧
      [(b, r), (b, r'), (b, refused)].Perm builds ∧ c.mapper = m ∧
      ((buildAll builds).run { mapper := m }).1 =
        builds.map (fun (b, r) => (b.run r { mapper := m }).1) ∧
      ([(b, r), (b, r'), (b, refused)].zip
        ((buildAll [(b, r), (b, r'), (b, refused)]).run { mapper := m }).1).Perm
          (builds.zip ((buildAll builds).run { mapper := m }).1) ∧
      c.Sound m ∧ (b.run r' c).1 = (b.run r' { mapper := m }).1 := by
  intro m p q b refused r r' builds c
  have hperm : [(b, r), (b, r'), (b, refused)].Perm builds :=
    @List.perm_append_comm _ [(b, r), (b, r')] [(b, refused)]
  have hmapper : c.mapper = m := rfl
  obtain ⟨hresults, hsound, hpermuted, hunnoticed⟩ := buildAll_fresh m builds
  exact ⟨rfl, rfl, rfl, hperm, hmapper, hresults, hpermuted _ hperm, hsound,
    (hunnoticed c hmapper).1 hsound b r'⟩

end Builder

end FilterSql
