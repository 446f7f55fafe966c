import FilterSql.Proofs.Binding
import FilterSql.Proofs.First
import FilterSql.Settings
import Mathlib.Data.List.Nodup

/-!
# Type mappings of settings

Settings list type mappings under names. A name of the first listing has to be that of a kind, and a
name of the second one a property of an entity, which starts behind the last dot. Distinct names
stand for distinct kinds and properties, so what is listed is mapped as it is listed: nothing is
lost, nothing is replaced, and nothing is added.

## Main definitions

* `PropertyKey.Unambiguous`: the identities of properties that their texts are read back as;
* `Keyed`, `Assoc.registerAll`: the entries of a listing under what their names stand for, and
  registering these.

## Main results

* `PropertyKey.parse_eq_some_iff`: what a text is read as, and which texts are refused;
* `Assoc.get?_registerAll`: what is registered under distinct names is looked up by them;
* `Settings.exists_typeMapper_iff`, `Settings.typeMapper_eq_error_iff`: when there is a mapper, and
  which name is reported otherwise;
* `Settings.typeMapper_lossless`: all of this together, and what the mapper answers.
-/

namespace FilterSql

namespace Text

/-- A text is cut at its first separator. -/
theorem splitFirst_eq_some_iff {sep : Char} {cs a b : List Char} :
    splitFirst sep cs = some (a, b) ↔ cs = a ++ sep :: b ∧ sep ∉ a := by
  refine ⟨splitFirst_eq_some, ?_⟩
  rintro ⟨rfl, ha⟩
  induction a with
  | nil => simp [splitFirst]
  | cons c a ih =>
    rw [List.mem_cons, not_or] at ha
    simp [splitFirst, Ne.symm ha.1, ih ha.2]

/-- A text is cut at its last separator. -/
theorem splitLast_eq_some_iff {sep : Char} {cs a b : List Char} :
    splitLast sep cs = some (a, b) ↔ cs = a ++ sep :: b ∧ sep ∉ b := by
  simp only [splitLast, Option.map_eq_some_iff, Prod.exists, Prod.mk.injEq, splitFirst_eq_some_iff]
  constructor
  · rintro ⟨x, y, ⟨hcs, hx⟩, rfl, rfl⟩
    exact ⟨by simpa using congrArg List.reverse hcs, by simpa using hx⟩
  · rintro ⟨rfl, hb⟩
    exact ⟨b.reverse, a.reverse, by simpa using hb, by simp, by simp⟩

end Text

/-! ### Names -/

/-- A kind is found by its name and by no other. -/
theorem ValueKind.ofName?_eq_some_iff {s : String} {kind : ValueKind} :
    ofName? s = some kind ↔ kind.name = s := by
  constructor
  · intro h
    simpa using List.find?_some h
  · rintro rfl
    exact ofName?_name kind

namespace PropertyKey

/-- Neither part is empty, and the last dot of the text is the one between them. -/
def Unambiguous (k : PropertyKey) : Prop :=
  k.entity ≠ "" ∧ k.property ≠ "" ∧ '.' ∉ k.property.toList

instance (k : PropertyKey) : Decidable k.Unambiguous :=
  inferInstanceAs (Decidable (_ ∧ _ ∧ _))

/-- A text is read as the unambiguous identity that it is the text of. -/
theorem parse_eq_some_iff {s : String} {k : PropertyKey} :
    parse s = some k ↔ k.Unambiguous ∧ k.display = s := by
  have hdisplay : k.display = s ↔ s.toList = k.entity.toList ++ '.' :: k.property.toList := by
    rw [← String.toList_inj, display, eq_comm]
    simp
  rw [hdisplay, parse, Option.bind_eq_some_iff, Prod.exists]
  constructor
  · rintro ⟨a, b, hsplit, hk⟩
    obtain ⟨hs, hb⟩ := Text.splitLast_eq_some_iff.1 hsplit
    obtain ⟨hne, hk⟩ := Option.ite_none_left_eq_some.1 hk
    obtain rfl := Option.some.inj hk
    rw [Bool.or_eq_true, not_or, List.isEmpty_iff, List.isEmpty_iff] at hne
    exact ⟨⟨by simpa using hne.1, by simpa using hne.2, by simpa using hb⟩, by simpa using hs⟩
  · rintro ⟨⟨he, hp, hdot⟩, hs⟩
    refine ⟨_, _, Text.splitLast_eq_some_iff.2 ⟨hs, hdot⟩, ?_⟩
    simp [he, hp]

/-- A text is refused when it is not that of an unambiguous identity. -/
theorem parse_eq_none_iff {s : String} :
    parse s = none ↔ ¬ ∃ k : PropertyKey, k.Unambiguous ∧ k.display = s := by
  simp only [Option.eq_none_iff_forall_ne_some, ne_eq, parse_eq_some_iff, not_exists]

end PropertyKey

/-! ### Registering what is listed -/

/-- Steps that each read something and take it in succeed together when everything can be read, and
then it is all taken in. -/
theorem foldlM_eq_map_mapM {ε σ α β : Type} {step : σ → α → Except ε σ} {read : α → Except ε β}
    {take : σ → β → σ} (h : ∀ m x, step m x = (read x).map (take m)) (xs : List α) (m : σ) :
    xs.foldlM step m = (xs.mapM read).map fun ys => ys.foldl take m := by
  induction xs generalizing m with
  | nil => rfl
  | cons x xs ih =>
    rw [List.foldlM_cons, List.mapM_cons, h]
    cases read x with
    | error e => rfl
    | ok y =>
      refine (ih (take m y)).trans ?_
      cases xs.mapM read <;> rfl

section

variable {κ : Type} {read : String → Option κ} {fail : String → SettingsError}

/-- The entries of a listing come under the keys that their names stand for. -/
def Keyed (read : String → Option κ) (es : List (String × DbType)) (ks : List (κ × DbType)) :
    Prop :=
  List.Forall₂ (fun e k => read e.1 = some k.1 ∧ e.2 = k.2) es ks

/-- The mappings with some more, each in place of an earlier one of its key. -/
def Assoc.registerAll [DecidableEq κ] (m : Assoc κ DbType) (ks : List (κ × DbType)) :
    Assoc κ DbType :=
  ks.foldl (fun m k => m.insert k.1 k.2) m

/-- The entry of a listing under the key that its name stands for. -/
def keyedEntry (read : String → Option κ) (fail : String → SettingsError) (e : String × DbType) :
    Except SettingsError (κ × DbType) :=
  match read e.1 with
  | some key => .ok (key, e.2)
  | none => .error (fail e.1)

/-- An entry comes under the key that its name stands for. -/
theorem keyedEntry_eq_ok_iff {e : String × DbType} {k : κ × DbType} :
    keyedEntry read fail e = .ok k ↔ read e.1 = some k.1 ∧ e.2 = k.2 := by
  unfold keyedEntry
  cases read e.1 <;> simp [Prod.ext_iff]

/-- An entry whose name stands for no key is an error. -/
theorem keyedEntry_eq_error_iff {e : String × DbType} {err : SettingsError} :
    keyedEntry read fail e = .error err ↔ read e.1 = none ∧ err = fail e.1 := by
  unfold keyedEntry
  cases read e.1 <;> simp [eq_comm]

/-- Some entries have keys when each of their names stands for one. -/
theorem exists_mapM_keyedEntry_iff {es : List (String × DbType)} :
    (∃ ks, es.mapM (keyedEntry read fail) = .ok ks) ↔ ∀ e ∈ es, ∃ key, read e.1 = some key := by
  simp only [mapM_eq_ok_iff, exists_forall₂_iff, keyedEntry_eq_ok_iff, Prod.exists]
  exact forall₂_congr fun e _ => ⟨fun ⟨key, _, h, _⟩ => ⟨key, h⟩, fun ⟨key, h⟩ => ⟨key, _, h, rfl⟩⟩

/-- The first entry whose name stands for no key is the one that is reported. -/
theorem mapM_keyedEntry_eq_error_iff {es : List (String × DbType)} {err : SettingsError} :
    es.mapM (keyedEntry read fail) = .error err ↔
      ∃ e, FirstWith (fun e => read e.1 = none) es e ∧ err = fail e.1 := by
  simp only [mapM_eq_error_iff, keyedEntry_eq_error_iff]
  simp only [exists_and_left, exists_eq, and_true]
  exact exists_congr fun e => ⟨fun h => ⟨h.1, h.2.2⟩, fun h => ⟨h.1, h.1.1, h.2⟩⟩

variable {name : κ → String}

/-- Distinct names stand for distinct keys. -/
theorem Keyed.nodup_keys {es : List (String × DbType)} {ks : List (κ × DbType)}
    (hkeyed : Keyed read es ks) (hread : ∀ {s key}, read s = some key → name key = s)
    (hdistinct : (es.map Prod.fst).Nodup) : (ks.map Prod.fst).Nodup := by
  have hnames : (ks.map Prod.fst).map name = es.map Prod.fst := by
    clear hdistinct
    induction hkeyed with
    | nil => rfl
    | cons he _ ih => simp only [List.map_cons, ih, hread he.1]
  exact List.Nodup.of_map name (hnames ▸ hdistinct)

variable [DecidableEq κ] {Named : κ → Prop} [DecidablePred Named]

/-- Keys that are registered under distinct names are looked up by their names: a key has the type
that is listed under its name, and one without a name keeps what it had. -/
theorem Assoc.get?_registerAll (hread : ∀ {s key}, read s = some key ↔ Named key ∧ name key = s)
    {es : List (String × DbType)} {ks : List (κ × DbType)}
    (hkeyed : Keyed read es ks) (hdistinct : (es.map Prod.fst).Nodup) (m : Assoc κ DbType)
    (key : κ) :
    (m.registerAll ks).get? key =
      if Named key then (es.lookup (name key)).or (m.get? key) else m.get? key := by
  induction hkeyed generalizing m with
  | nil => simp [registerAll]
  | @cons e k es ks he _ ih =>
    obtain ⟨s, t⟩ := e
    obtain ⟨key', t'⟩ := k
    obtain ⟨hs, rfl⟩ : read s = some key' ∧ t = t' := he
    obtain ⟨hnotMem, hrest⟩ := List.nodup_cons.1 hdistinct
    obtain ⟨hnamed', rfl⟩ := hread.1 hs
    change ((m.insert key' t).registerAll ks).get? key = _
    rw [ih hrest, get?_insert]
    by_cases hkey : key = key'
    · -- no later entry has the name of the key
      subst hkey
      have hlater : es.lookup (name key) = none :=
        List.lookup_eq_none_iff.2 fun e he => by
          simpa using fun heq => hnotMem (List.mem_map.2 ⟨e, he, heq.symm⟩)
      simp [hnamed', hlater]
    · -- another key with a name has another name
      by_cases hnamed : Named key
      · have hname : name key ≠ name key' := fun heq =>
          hkey (Option.some.inj ((hread.2 ⟨hnamed, heq⟩).symm.trans hs))
        rw [if_pos hnamed, if_pos hnamed, if_neg hkey, List.lookup_cons,
          beq_eq_false_iff_ne.2 hname]
      · simp [hkey, hnamed]

/-- Distinct keys that are registered make as many pairs. -/
theorem Assoc.length_registerAll {ks : List (κ × DbType)} (hdistinct : (ks.map Prod.fst).Nodup)
    (m : Assoc κ DbType) (hnew : ∀ k ∈ ks, m.get? k.1 = none) :
    (m.registerAll ks).length = ks.length + m.length := by
  induction ks generalizing m with
  | nil => simp [registerAll]
  | cons k ks ih =>
    obtain ⟨hnotMem, hdistinct⟩ := List.nodup_cons.1 hdistinct
    obtain ⟨hk, hnew⟩ := List.forall_mem_cons.1 hnew
    change ((m.insert k.1 k.2).registerAll ks).length = _
    rw [ih hdistinct]
    · simp [insert, erase_of_get?_eq_none hk]
      omega
    · intro k' hk'
      have hne : k'.1 ≠ k.1 := fun heq => hnotMem (List.mem_map.2 ⟨k', hk', heq⟩)
      rw [get?_insert, if_neg hne, hnew k' hk']

end

namespace TypeMapper

/-- Registering kinds touches their mappings only. -/
theorem foldl_mapKind (ks : List (ValueKind × DbType)) (m : TypeMapper) :
    ks.foldl (fun m k => m.mapKind k.1 k.2) m =
      { m with kinds := m.kinds.registerAll ks } := by
  induction ks generalizing m with
  | nil => rfl
  | cons k ks ih => exact ih (m.mapKind k.1 k.2)

/-- Registering properties touches their mappings only. -/
theorem foldl_mapProperty (ks : List (PropertyKey × DbType)) (m : TypeMapper) :
    ks.foldl (fun m k => m.mapProperty k.1 k.2) m =
      { m with properties := m.properties.registerAll ks } := by
  induction ks generalizing m with
  | nil => rfl
  | cons k ks ih => exact ih (m.mapProperty k.1 k.2)

end TypeMapper

/-! ### The mapper of settings -/

/-- No name is listed twice. -/
theorem Listing.nodup_names (l : Listing) : (l.entries.map Prod.fst).Nodup :=
  List.pairwise_map.2 (l.ascending.imp fun h => String.ne_of_lt h)

namespace Settings

variable {s : Settings}

/-- The mapper of settings registers the keys of the one listing and then those of the other. -/
theorem typeMapper_eq (s : Settings) :
    s.typeMapper = (do
      let kinds ← s.types.entries.mapM (keyedEntry ValueKind.ofName? .unknownKind)
      let properties ← s.properties.entries.mapM (keyedEntry PropertyKey.parse .notAProperty)
      return { kinds := Assoc.registerAll [] kinds
               properties := Assoc.registerAll [] properties }) := by
  have hkind (m : TypeMapper) (e : String × DbType) :
      mapKind m e = (keyedEntry ValueKind.ofName? .unknownKind e).map fun k =>
        m.mapKind k.1 k.2 := by
    obtain ⟨name, t⟩ := e
    simp only [mapKind, keyedEntry]
    cases ValueKind.ofName? name <;> rfl
  have hproperty (m : TypeMapper) (e : String × DbType) :
      mapProperty m e = (keyedEntry PropertyKey.parse .notAProperty e).map fun k =>
        m.mapProperty k.1 k.2 := by
    obtain ⟨name, t⟩ := e
    simp only [mapProperty, keyedEntry]
    cases PropertyKey.parse name <;> rfl
  simp only [typeMapper, foldlM_eq_map_mapM hkind, foldlM_eq_map_mapM hproperty,
    TypeMapper.foldl_mapKind, TypeMapper.foldl_mapProperty]
  cases s.types.entries.mapM (keyedEntry ValueKind.ofName? .unknownKind) with
  | error e => rfl
  | ok kinds => cases s.properties.entries.mapM (keyedEntry PropertyKey.parse .notAProperty) <;> rfl

/-- The listed kinds have keys when every name is that of a kind. -/
theorem exists_kinds_iff :
    (∃ ks, s.types.entries.mapM (keyedEntry ValueKind.ofName? .unknownKind) = .ok ks) ↔
      ∀ e ∈ s.types.entries, ∃ kind : ValueKind, kind.name = e.1 := by
  simp only [exists_mapM_keyedEntry_iff, ValueKind.ofName?_eq_some_iff]

/-- The listed properties have keys when every name is that of a property. -/
theorem exists_properties_iff :
    (∃ ks, s.properties.entries.mapM (keyedEntry PropertyKey.parse .notAProperty) = .ok ks) ↔
      ∀ e ∈ s.properties.entries,
        ∃ key : PropertyKey, key.Unambiguous ∧ key.display = e.1 := by
  simp only [exists_mapM_keyedEntry_iff, PropertyKey.parse_eq_some_iff]

/-- There is a mapper when every name of the one listing is that of a kind, and every name of the
other that of a property. -/
theorem exists_typeMapper_iff :
    (∃ m, s.typeMapper = .ok m) ↔
      (∀ e ∈ s.types.entries, ∃ kind : ValueKind, kind.name = e.1) ∧
        ∀ e ∈ s.properties.entries,
          ∃ key : PropertyKey, key.Unambiguous ∧ key.display = e.1 := by
  rw [← exists_kinds_iff, ← exists_properties_iff, typeMapper_eq]
  simp only [bind_eq_ok_iff]
  constructor
  · rintro ⟨m, kinds, hkinds, properties, hproperties, -⟩
    exact ⟨⟨kinds, hkinds⟩, properties, hproperties⟩
  · rintro ⟨⟨kinds, hkinds⟩, properties, hproperties⟩
    exact ⟨_, kinds, hkinds, properties, hproperties, rfl⟩

/-- The first name that cannot be understood is reported, those of kinds before those of
properties. -/
theorem typeMapper_eq_error_iff {err : SettingsError} :
    s.typeMapper = .error err ↔
      (∃ e, FirstWith (fun e => ¬ ∃ kind : ValueKind, kind.name = e.1) s.types.entries e ∧
        err = .unknownKind e.1) ∨
      (∀ e ∈ s.types.entries, ∃ kind : ValueKind, kind.name = e.1) ∧
        ∃ e, FirstWith (fun e => ¬ ∃ key : PropertyKey, key.Unambiguous ∧ key.display = e.1)
          s.properties.entries e ∧ err = .notAProperty e.1 := by
  have hkind (e : String × DbType) :
      (¬ ∃ kind : ValueKind, kind.name = e.1) = (ValueKind.ofName? e.1 = none) := by
    simp [Option.eq_none_iff_forall_ne_some, ValueKind.ofName?_eq_some_iff]
  have hproperty (e : String × DbType) :
      (¬ ∃ key : PropertyKey, key.Unambiguous ∧ key.display = e.1) =
        (PropertyKey.parse e.1 = none) := propext PropertyKey.parse_eq_none_iff.symm
  rw [← exists_kinds_iff, typeMapper_eq]
  simp only [hkind, hproperty, ← mapM_keyedEntry_eq_error_iff, bind_eq_error_iff]
  refine or_congr_right ⟨?_, ?_⟩
  · rintro ⟨kinds, hkinds, herror | ⟨_, _, hpure⟩⟩
    · exact ⟨⟨kinds, hkinds⟩, herror⟩
    · cases hpure
  · rintro ⟨⟨kinds, hkinds⟩, herror⟩
    exact ⟨kinds, hkinds, .inl herror⟩

/-- The mapper of settings has the keys that the names of both listings stand for. -/
theorem typeMapper_eq_ok {m : TypeMapper} (h : s.typeMapper = .ok m) :
    ∃ kinds properties, Keyed ValueKind.ofName? s.types.entries kinds ∧
      Keyed PropertyKey.parse s.properties.entries properties ∧
      m.kinds = Assoc.registerAll [] kinds ∧
      m.properties = Assoc.registerAll [] properties := by
  rw [typeMapper_eq] at h
  obtain ⟨kinds, hkinds, h⟩ := bind_eq_ok_iff.1 h
  obtain ⟨properties, hproperties, h⟩ := bind_eq_ok_iff.1 h
  obtain rfl := Except.ok.inj h
  simp only [mapM_eq_ok_iff, keyedEntry_eq_ok_iff] at hkinds hproperties
  exact ⟨kinds, properties, hkinds, hproperties, rfl, rfl⟩

/-- Settings lose no mapping. There is a mapper exactly when every name of the one listing is that
of a kind, and every name of the other one has a last dot with a text on both sides of it; otherwise
the first name that is not so is reported. The mapper gives each kind the type that is listed under
its name, and each property the type that is listed under its text, if that is read back as the
property. It has as many mappings as are listed. A text that is read as a property is the text of
it, and the text of a property is read back when neither part is empty and the property has no dot.
-/
theorem typeMapper_lossless (s : Settings) :
    ((∃ m, s.typeMapper = .ok m) ↔
      (∀ e ∈ s.types.entries, ∃ kind : ValueKind, kind.name = e.1) ∧
        ∀ e ∈ s.properties.entries,
          ∃ key : PropertyKey, key.Unambiguous ∧ key.display = e.1) ∧
    (∀ err, s.typeMapper = .error err ↔
      (∃ e, FirstWith (fun e => ¬ ∃ kind : ValueKind, kind.name = e.1) s.types.entries e ∧
        err = .unknownKind e.1) ∨
      (∀ e ∈ s.types.entries, ∃ kind : ValueKind, kind.name = e.1) ∧
        ∃ e, FirstWith (fun e => ¬ ∃ key : PropertyKey, key.Unambiguous ∧ key.display = e.1)
          s.properties.entries e ∧ err = .notAProperty e.1) ∧
    (∀ m, s.typeMapper = .ok m →
      (∀ kind, m.kind? kind = s.types.get? kind.name) ∧
      (∀ key, m.property? key =
        if key.Unambiguous then s.properties.get? key.display else none) ∧
      m.kinds.length = s.types.entries.length ∧
      m.properties.length = s.properties.entries.length) ∧
    (∀ text key, PropertyKey.parse text = some key → key.display = text) ∧
    ∀ key : PropertyKey, PropertyKey.parse key.display = some key ↔ key.Unambiguous := by
  refine ⟨exists_typeMapper_iff, fun _ => typeMapper_eq_error_iff, fun m hm => ?_,
    fun text key h => (PropertyKey.parse_eq_some_iff.1 h).2,
    fun key => PropertyKey.parse_eq_some_iff.trans (and_iff_left rfl)⟩
  obtain ⟨kinds, properties, hkinds, hproperties, hk, hp⟩ := typeMapper_eq_ok hm
  refine ⟨fun kind => ?_, fun key => ?_, ?_, ?_⟩
  · -- every kind has a name
    have hread {s : String} {kind : ValueKind} :
        ValueKind.ofName? s = some kind ↔ True ∧ kind.name = s := by
      rw [ValueKind.ofName?_eq_some_iff, true_and]
    rw [TypeMapper.kind?, hk, Assoc.get?_registerAll hread hkinds s.types.nodup_names]
    simp [Listing.get?]
  · rw [TypeMapper.property?, hp,
      Assoc.get?_registerAll PropertyKey.parse_eq_some_iff hproperties s.properties.nodup_names]
    simp [Listing.get?]
  · have hdistinct := hkinds.nodup_keys ValueKind.ofName?_eq_some_iff.1 s.types.nodup_names
    rw [hk, Assoc.length_registerAll hdistinct [] (by simp), hkinds.length_eq]
    rfl
  · have hdistinct := hproperties.nodup_keys (fun h => (PropertyKey.parse_eq_some_iff.1 h).2)
      s.properties.nodup_names
    rw [hp, Assoc.length_registerAll hdistinct [] (by simp), hproperties.length_eq]
    rfl

/-- A property starts behind the last dot: `A.B.C` is the property `C` of `A.B`. -/
theorem typeMapper_lossless_dotted :
    let s : Settings :=
      { types := .ofList [("text", .ansiString)]
        properties := .ofList [("A.B.C", .string), ("A.B", .xml)] }
    ∃ m, s.typeMapper = .ok m ∧ m.kind? .text = some .ansiString ∧ m.kind? .int = none ∧
      m.property? ⟨"A.B", "C"⟩ = some .string ∧ m.property? ⟨"A", "B.C"⟩ = none ∧
      m.property? ⟨"A", "B"⟩ = some .xml := by
  intro s
  obtain ⟨m, hm⟩ : ∃ m, s.typeMapper = .ok m := ⟨_, rfl⟩
  obtain ⟨hkind, hproperty, -⟩ := (typeMapper_lossless s).2.2.1 m hm
  refine ⟨m, hm, (hkind _).trans ?_, (hkind _).trans ?_, (hproperty _).trans ?_,
    (hproperty _).trans ?_, (hproperty _).trans ?_⟩ <;> decide

end Settings

end FilterSql
