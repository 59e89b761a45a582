/-
The relational store behind `table.rs`: the `warehouse`, `namespace` and `"table"` rows,
the three-way join every query of the file starts from, and the schema's constraints.

A query's result is a list in the order the rows are stored; SQL promises no order without
`ORDER BY`, and a theorem over every store covers every order. `fetch_one` is `head?`, with
`none` standing for `sqlx::Error::RowNotFound`. Connection and I/O failures of a statement are
outside the model, and so is one refusal of PostgreSQL's: a `text`, `text[]` or `jsonb`
parameter holding a NUL character is refused with SQLSTATE 22021 before the statement runs.
Strings here are any Lean strings, so a theorem that a call succeeds speaks of the code only for
names, locations and metadata free of NUL. Every other failure of a statement that PostgreSQL
makes (a constraint, the syntax error of an empty `VALUES` list) is modelled where it arises.

The constraints are those of the spec's schema (§6): a primary key on each table's id,
`(warehouse_id, namespace_name)` and `unique_table_name_per_namespace` unique, and the two
foreign keys. `Catalog` carries them, so every store a theorem quantifies over is one the
database can hold. A statement that writes `"table"` goes through `with_tables`, which refuses
a result that breaks a constraint of that table, as PostgreSQL does.
-/
import IcebergCatalog.Metadata
import Mathlib.Data.List.Forall2
import Mathlib.Data.List.Dedup

set_option autoImplicit false

namespace IcebergCatalog

/-! ## Rows -/

/-- `warehouse.status`. -/
inductive WarehouseStatus where
  | active
  | inactive
  deriving DecidableEq, Repr

/-- A row of `warehouse`: the columns the table queries read. -/
structure WarehouseRow where
  warehouse_id : Nat
  storage_profile : StorageProfile
  storage_secret_id : Option Nat
  status : WarehouseStatus
  deriving DecidableEq, Repr

/-- A row of `namespace`. -/
structure NamespaceRow where
  namespace_id : Nat
  warehouse_id : Nat
  namespace_name : List String
  deriving DecidableEq, Repr

/-- A row of `"table"`. A row whose `metadata_location` is `none` is staged. -/
structure TableRow where
  table_id : Nat
  namespace_id : Nat
  table_name : String
  metadata : TableMetadata
  metadata_location : Option String
  table_location : String
  deriving DecidableEq, Repr

/-- The three tables. -/
structure CatalogState where
  warehouses : List WarehouseRow
  namespaces : List NamespaceRow
  tables : List TableRow
  deriving DecidableEq, Repr

/-- One row of `"table" t INNER JOIN namespace n ON t.namespace_id = n.namespace_id
INNER JOIN warehouse w ON n.warehouse_id = w.warehouse_id`. -/
structure Joined where
  t : TableRow
  n : NamespaceRow
  w : WarehouseRow
  deriving DecidableEq, Repr

namespace CatalogState

/-- The join, in the order of the table rows. -/
def joined (c : CatalogState) : List Joined :=
  c.tables.flatMap fun t =>
    (c.namespaces.filter fun n => n.namespace_id = t.namespace_id).flatMap fun n =>
      (c.warehouses.filter fun w => w.warehouse_id = n.warehouse_id).map fun w => ⟨t, n, w⟩

theorem mem_joined {c : CatalogState} {j : Joined} :
    j ∈ c.joined ↔ j.t ∈ c.tables ∧ j.n ∈ c.namespaces ∧ j.w ∈ c.warehouses ∧
      j.n.namespace_id = j.t.namespace_id ∧ j.w.warehouse_id = j.n.warehouse_id := by
  obtain ⟨t, n, w⟩ := j
  simp only [joined, List.mem_flatMap, List.mem_filter, List.mem_map, decide_eq_true_eq]
  constructor
  · rintro ⟨t', ht, n', ⟨hn, hnt⟩, w', ⟨hw, hwn⟩, h⟩
    cases h
    exact ⟨ht, hn, hw, hnt, hwn⟩
  · rintro ⟨ht, hn, hw, hnt, hwn⟩
    exact ⟨t, ht, n, ⟨hn, hnt⟩, w, ⟨hw, hwn⟩, rfl⟩

/-- `$id IN (SELECT warehouse_id FROM warehouse WHERE status = 'active')`. -/
def warehouse_active (c : CatalogState) (warehouse_id : Nat) : Prop :=
  ∃ w ∈ c.warehouses, w.warehouse_id = warehouse_id ∧ w.status = .active

instance (c : CatalogState) (warehouse_id : Nat) : Decidable (c.warehouse_active warehouse_id) :=
  inferInstanceAs (Decidable (∃ w ∈ c.warehouses, _))

/-- `create_table`'s `EXISTS (SELECT 1 FROM warehouse w INNER JOIN namespace n ... WHERE
n.namespace_id = $2 AND w.status = 'active')`, which is also `drop_table`'s `namespace_id IN
(SELECT namespace_id FROM namespace WHERE warehouse_id IN (active warehouses))`. -/
def namespace_active (c : CatalogState) (namespace_id : Nat) : Prop :=
  ∃ n ∈ c.namespaces, n.namespace_id = namespace_id ∧ c.warehouse_active n.warehouse_id

instance (c : CatalogState) (namespace_id : Nat) : Decidable (c.namespace_active namespace_id) :=
  inferInstanceAs (Decidable (∃ n ∈ c.namespaces, _))

/-- A statement's new `"table"` rows, checked against that table's constraints. -/
def with_tables (c : CatalogState) (tables : List TableRow) : Except DbError CatalogState :=
  if ¬(tables.map (·.table_id)).Nodup then .error (.UniqueViolation "table_pkey")
  else if ¬(tables.map fun t => (t.namespace_id, t.table_name)).Nodup then
    .error (.UniqueViolation "unique_table_name_per_namespace")
  else if ¬∀ t ∈ tables, ∃ n ∈ c.namespaces, n.namespace_id = t.namespace_id then
    .error (.ForeignKeyViolation "table_namespace_id_fkey")
  else .ok { c with tables }

end CatalogState

/-! ## The schema's constraints -/

/-- The constraints of the spec's schema (§6) that the table queries rely on. -/
structure CatalogState.Wf (c : CatalogState) : Prop where
  warehouse_pkey : (c.warehouses.map (·.warehouse_id)).Nodup
  namespace_pkey : (c.namespaces.map (·.namespace_id)).Nodup
  unique_namespace_name : (c.namespaces.map fun n => (n.warehouse_id, n.namespace_name)).Nodup
  table_pkey : (c.tables.map (·.table_id)).Nodup
  unique_table_name_per_namespace : (c.tables.map fun t => (t.namespace_id, t.table_name)).Nodup
  namespace_fkey : ∀ n ∈ c.namespaces, ∃ w ∈ c.warehouses, w.warehouse_id = n.warehouse_id
  table_fkey : ∀ t ∈ c.tables, ∃ n ∈ c.namespaces, n.namespace_id = t.namespace_id

instance (c : CatalogState) : Decidable c.Wf :=
  decidable_of_iff ((c.warehouses.map (·.warehouse_id)).Nodup ∧
      (c.namespaces.map (·.namespace_id)).Nodup ∧
      (c.namespaces.map fun n => (n.warehouse_id, n.namespace_name)).Nodup ∧
      (c.tables.map (·.table_id)).Nodup ∧
      (c.tables.map fun t => (t.namespace_id, t.table_name)).Nodup ∧
      (∀ n ∈ c.namespaces, ∃ w ∈ c.warehouses, w.warehouse_id = n.warehouse_id) ∧
      ∀ t ∈ c.tables, ∃ n ∈ c.namespaces, n.namespace_id = t.namespace_id)
    ⟨fun ⟨h₁, h₂, h₃, h₄, h₅, h₆, h₇⟩ => ⟨h₁, h₂, h₃, h₄, h₅, h₆, h₇⟩,
     fun ⟨h₁, h₂, h₃, h₄, h₅, h₆, h₇⟩ => ⟨h₁, h₂, h₃, h₄, h₅, h₆, h₇⟩⟩

/-- A store the database can hold. -/
structure Catalog extends CatalogState where
  wf : toCatalogState.Wf

namespace CatalogState

variable {c c' : CatalogState} {ts : List TableRow}

theorem with_tables_eq_ok (h : c.with_tables ts = .ok c') : c' = { c with tables := ts } := by
  unfold with_tables at h
  split_ifs at h
  cases h; rfl

theorem with_tables_eq_ok_iff :
    c.with_tables ts = .ok { c with tables := ts } ↔
      (ts.map (·.table_id)).Nodup ∧ (ts.map fun t => (t.namespace_id, t.table_name)).Nodup ∧
        ∀ t ∈ ts, ∃ n ∈ c.namespaces, n.namespace_id = t.namespace_id := by
  unfold with_tables
  split_ifs <;> simp_all

/-- **A statement that passes the checks keeps every constraint.** The warehouse and namespace
constraints hold because it touches neither table. -/
theorem Wf.with_tables (hc : c.Wf) (h : c.with_tables ts = .ok c') : c'.Wf := by
  obtain rfl := with_tables_eq_ok h
  obtain ⟨hpk, hname, hfk⟩ := with_tables_eq_ok_iff.1 h
  exact ⟨hc.warehouse_pkey, hc.namespace_pkey, hc.unique_namespace_name, hpk, hname,
    hc.namespace_fkey, hfk⟩

/-- New rows with distinct ids, distinct names per namespace and existing namespaces keep every
constraint. -/
theorem Wf.of_tables (hc : c.Wf) (hpk : (ts.map (·.table_id)).Nodup)
    (hname : (ts.map fun t => (t.namespace_id, t.table_name)).Nodup)
    (hfk : ∀ t ∈ ts, ∃ n ∈ c.namespaces, n.namespace_id = t.namespace_id) :
    { c with tables := ts }.Wf :=
  ⟨hc.warehouse_pkey, hc.namespace_pkey, hc.unique_namespace_name, hpk, hname, hc.namespace_fkey,
    hfk⟩

/-- A `DELETE` keeps every constraint. -/
theorem Wf.filter_tables (hc : c.Wf) (p : TableRow → Prop) [DecidablePred p] :
    { c with tables := c.tables.filter p }.Wf :=
  hc.of_tables (hc.table_pkey.sublist ((List.filter_sublist _).map _))
    (hc.unique_table_name_per_namespace.sublist ((List.filter_sublist _).map _))
    fun t ht => hc.table_fkey t (List.mem_filter.1 ht).1

/-- An `UPDATE` of columns outside every constraint keeps every constraint. -/
theorem Wf.map_tables (hc : c.Wf) {f : TableRow → TableRow}
    (hid : ∀ t, (f t).table_id = t.table_id) (hns : ∀ t, (f t).namespace_id = t.namespace_id)
    (hname : ∀ t, (f t).table_name = t.table_name) : { c with tables := c.tables.map f }.Wf := by
  refine hc.of_tables ?_ ?_ fun t ht => ?_
  · simpa only [List.map_map, Function.comp_def, hid] using hc.table_pkey
  · simpa only [List.map_map, Function.comp_def, hns, hname] using
      hc.unique_table_name_per_namespace
  · obtain ⟨t', ht', rfl⟩ := List.mem_map.1 ht
    simpa only [hns] using hc.table_fkey t' ht'

/-! ## What the constraints give the queries -/

theorem Wf.table_eq_of_id (hc : c.Wf) {t t' : TableRow} (ht : t ∈ c.tables)
    (ht' : t' ∈ c.tables) (h : t.table_id = t'.table_id) : t = t' :=
  List.inj_on_of_nodup_map hc.table_pkey ht ht' h

theorem Wf.table_eq_of_name (hc : c.Wf) {t t' : TableRow} (ht : t ∈ c.tables)
    (ht' : t' ∈ c.tables) (hn : t.namespace_id = t'.namespace_id)
    (h : t.table_name = t'.table_name) : t = t' :=
  List.inj_on_of_nodup_map hc.unique_table_name_per_namespace ht ht' (by rw [hn, h])

theorem Wf.namespace_eq_of_id (hc : c.Wf) {n n' : NamespaceRow} (hn : n ∈ c.namespaces)
    (hn' : n' ∈ c.namespaces) (h : n.namespace_id = n'.namespace_id) : n = n' :=
  List.inj_on_of_nodup_map hc.namespace_pkey hn hn' h

theorem Wf.namespace_eq_of_name (hc : c.Wf) {n n' : NamespaceRow} (hn : n ∈ c.namespaces)
    (hn' : n' ∈ c.namespaces) (hw : n.warehouse_id = n'.warehouse_id)
    (h : n.namespace_name = n'.namespace_name) : n = n' :=
  List.inj_on_of_nodup_map hc.unique_namespace_name hn hn' (by rw [hw, h])

theorem Wf.warehouse_eq_of_id (hc : c.Wf) {w w' : WarehouseRow} (hw : w ∈ c.warehouses)
    (hw' : w' ∈ c.warehouses) (h : w.warehouse_id = w'.warehouse_id) : w = w' :=
  List.inj_on_of_nodup_map hc.warehouse_pkey hw hw' h

/-- Under the primary keys a table row has one namespace and one warehouse in the join. -/
theorem Wf.joined_eq_of_t (hc : c.Wf) {j j' : Joined} (hj : j ∈ c.joined)
    (hj' : j' ∈ c.joined) (h : j.t = j'.t) : j = j' := by
  obtain ⟨t, n, w⟩ := j
  obtain ⟨t', n', w'⟩ := j'
  obtain ⟨-, hn, hw, hnt, hwn⟩ := mem_joined.1 hj
  obtain ⟨-, hn', hw', hnt', hwn'⟩ := mem_joined.1 hj'
  dsimp only at *
  subst h
  obtain rfl := hc.namespace_eq_of_id hn hn' (hnt.trans hnt'.symm)
  obtain rfl := hc.warehouse_eq_of_id hw hw' (hwn.trans hwn'.symm)
  rfl

theorem Wf.joined_eq_of_id (hc : c.Wf) {j j' : Joined} (hj : j ∈ c.joined)
    (hj' : j' ∈ c.joined) (h : j.t.table_id = j'.t.table_id) : j = j' :=
  hc.joined_eq_of_t hj hj' (hc.table_eq_of_id (mem_joined.1 hj).1 (mem_joined.1 hj').1 h)

/-- A warehouse, a namespace name and a table name pick at most one row of the join. -/
theorem Wf.joined_eq_of_name (hc : c.Wf) {j j' : Joined} (hj : j ∈ c.joined)
    (hj' : j' ∈ c.joined) (hw : j.n.warehouse_id = j'.n.warehouse_id)
    (hns : j.n.namespace_name = j'.n.namespace_name) (ht : j.t.table_name = j'.t.table_name) :
    j = j' := by
  obtain ⟨htm, hn, -, hnt, -⟩ := mem_joined.1 hj
  obtain ⟨htm', hn', -, hnt', -⟩ := mem_joined.1 hj'
  have hnn := hc.namespace_eq_of_name hn hn' hw hns
  exact hc.joined_eq_of_t hj hj' (hc.table_eq_of_name htm htm' (by rw [← hnt, ← hnt', hnn]) ht)

end CatalogState

/-- `fetch_one` on a result holding at most one row: the row, if there is one. -/
theorem List.head?_eq_some_of_subsingleton {α : Type} {l : List α} {x : α}
    (h : ∀ a ∈ l, ∀ b ∈ l, a = b) (hx : x ∈ l) : l.head? = some x := by
  cases l with
  | nil => cases hx
  | cons y ys => rw [h y (List.mem_cons_self y ys) x hx]; rfl

/-- A loop with `?` whose every step succeeds is the plain loop. -/
theorem List.foldlM_except_eq_ok {α β ε : Type} {f : β → α → Except ε β} (g : β → α → β)
    {l : List α} (h : ∀ a ∈ l, ∀ b, f b a = .ok (g b a)) (b : β) :
    l.foldlM f b = .ok (l.foldl g b) := by
  induction l generalizing b with
  | nil => rfl
  | cons a l ih =>
    rw [List.foldlM_cons, h a (List.mem_cons_self a l) b, List.foldl_cons]
    exact ih (fun a' ha' => h a' (List.mem_cons_of_mem a ha')) _

/-- A `map` with `?` that succeeds relates each element to its image. -/
theorem List.forall₂_of_mapM_eq_ok {α β ε : Type} {f : α → Except ε β} :
    ∀ {l : List α} {l' : List β}, l.mapM f = .ok l' → List.Forall₂ (fun a b => f a = .ok b) l l'
  | [], l', h => by
    rw [List.mapM_nil] at h
    cases h
    exact .nil
  | a :: l, l', h => by
    rw [List.mapM_cons] at h
    cases ha : f a with
    | error e => rw [ha] at h; cases h
    | ok b =>
      cases hl : l.mapM f with
      | error e => rw [ha, hl] at h; cases h
      | ok bs =>
        rw [ha, hl] at h
        cases h
        exact .cons ha (List.forall₂_of_mapM_eq_ok hl)

/-- A `map` with `?` succeeds exactly when every element does. -/
theorem List.mapM_except_eq_ok_iff {α β ε : Type} {f : α → Except ε β} {l : List α}
    {l' : List β} : l.mapM f = .ok l' ↔ List.Forall₂ (fun a b => f a = .ok b) l l' := by
  refine ⟨List.forall₂_of_mapM_eq_ok, fun h => ?_⟩
  induction h with
  | nil => rfl
  | cons ha _ ih => rw [List.mapM_cons, ha, ih]; rfl

/-- A loop of checks with `?` succeeds exactly when every check does. -/
theorem List.forM_except_eq_ok_iff {α ε : Type} {f : α → Except ε Unit} {l : List α} :
    l.forM f = .ok () ↔ ∀ a ∈ l, f a = .ok () := by
  induction l with
  | nil => exact ⟨fun _ _ h => absurd h (List.not_mem_nil _), fun _ => rfl⟩
  | cons a l ih =>
    rw [List.forM_cons', List.forall_mem_cons, ← ih]
    cases f a with
    | error e => exact ⟨(fun h => by cases h), fun h => by cases h.1⟩
    | ok u => exact ⟨fun h => ⟨rfl, h⟩, fun h => h.2⟩

/-- Two lists related pointwise by equal images have equal maps. -/
theorem List.map_eq_map_of_forall₂ {α β γ : Type} {f : α → γ} {g : β → γ} {l : List α}
    {l' : List β} (h : List.Forall₂ (fun a b => f a = g b) l l') : l.map f = l'.map g := by
  induction h with
  | nil => rfl
  | cons h _ ih => rw [List.map_cons, List.map_cons, h, ih]

theorem List.Forall₂.exists_of_mem_right {α β : Type} {R : α → β → Prop} {l : List α}
    {l' : List β} (h : List.Forall₂ R l l') {b : β} (hb : b ∈ l') : ∃ a ∈ l, R a b := by
  induction h with
  | nil => cases hb
  | cons hr _ ih =>
    rcases List.mem_cons.1 hb with rfl | hb
    · exact ⟨_, List.mem_cons_self _ _, hr⟩
    · obtain ⟨a, ha, h⟩ := ih hb
      exact ⟨a, List.mem_cons_of_mem _ ha, h⟩

/-- The counting argument behind a `RETURNING` check: when the keys of the rows are distinct,
as many rows have a key in `ids` as `ids` has entries exactly when the entries of `ids` are
distinct and each is the key of a row. -/
theorem List.length_filter_mem_eq_iff {α β : Type} [DecidableEq β] {f : α → β} {l : List α}
    (hl : (l.map f).Nodup) (ids : List β) :
    (l.filter fun a => f a ∈ ids).length = ids.length ↔
      ids.Nodup ∧ ∀ x ∈ ids, ∃ a ∈ l, f a = x := by
  have hS : ((l.filter fun a => f a ∈ ids).map f).Nodup :=
    hl.sublist ((List.filter_sublist l).map f)
  have hmem : ∀ x, x ∈ (l.filter fun a => f a ∈ ids).map f ↔ x ∈ ids ∧ ∃ a ∈ l, f a = x := by
    intro x
    simp only [List.mem_map, List.mem_filter, decide_eq_true_eq]
    constructor
    · rintro ⟨a, ⟨ha, hx⟩, rfl⟩
      exact ⟨hx, a, ha, rfl⟩
    · rintro ⟨hx, a, ha, rfl⟩
      exact ⟨a, ⟨ha, hx⟩, rfl⟩
  constructor
  · intro hlen
    have hperm : List.Perm ((l.filter fun a => f a ∈ ids).map f) ids :=
      (List.subperm_of_subset hS fun x hx => ((hmem x).1 hx).1).perm_of_length_le
        (by rw [List.length_map, hlen])
    exact ⟨hperm.nodup_iff.1 hS, fun x hx => ((hmem x).1 (hperm.mem_iff.2 hx)).2⟩
  · rintro ⟨hnd, hids⟩
    have hperm : List.Perm ((l.filter fun a => f a ∈ ids).map f) ids :=
      (List.perm_ext_iff_of_nodup hS hnd).2 fun x =>
        ⟨fun hx => ((hmem x).1 hx).1, fun hx => (hmem x).2 ⟨hx, hids x hx⟩⟩
    rw [← hperm.length_eq, List.length_map]

/-- `find?` of a predicate that only `x` satisfies. -/
theorem List.find?_eq_some_of_unique {α : Type} {l : List α} {p : α → Bool} {x : α}
    (hx : x ∈ l) (hp : p x = true) (h : ∀ a ∈ l, p a = true → a = x) : l.find? p = some x := by
  cases hf : l.find? p with
  | none => exact absurd hp (by simpa using List.find?_eq_none.1 hf x hx)
  | some a => rw [h a (List.mem_of_find?_eq_some hf) (List.find?_some hf)]

/-- `fetch_one` after a filter that keeps at most one row. -/
theorem List.head?_filter_eq_some_iff {α : Type} {l : List α} {p : α → Bool} {x : α}
    (h : ∀ a ∈ l, ∀ b ∈ l, p a = true → p b = true → a = b) :
    (l.filter p).head? = some x ↔ x ∈ l ∧ p x = true := by
  refine ⟨fun hx => List.mem_filter.1 (List.mem_of_mem_head? hx), fun hx => ?_⟩
  refine List.head?_eq_some_of_subsingleton (fun a ha b hb => ?_) (List.mem_filter.2 hx)
  rw [List.mem_filter] at ha hb
  exact h a ha.1 b hb.1 ha.2 hb.2

/-! ## Hash maps and sets

A `HashMap` is the list of its bindings, newest first, and a `HashSet` the list of its
elements: the code only inserts into them, looks keys up, and iterates. -/

section Maps

variable {K V α : Type} [DecidableEq K]

/-- `HashMap::insert`: the new binding replaces any old one of its key. -/
def map_insert (m : List (K × V)) (k : K) (v : V) : List (K × V) :=
  (k, v) :: m.filter fun p => p.1 ≠ k

/-- `HashMap::get`. -/
def map_get (m : List (K × V)) (k : K) : Option V :=
  (m.find? fun p => p.1 = k).map Prod.snd

@[simp] theorem map_get_nil (k : K) : map_get ([] : List (K × V)) k = none := rfl

theorem map_get_mem {m : List (K × V)} {k : K} {v : V} (h : map_get m k = some v) :
    v ∈ m.map Prod.snd := by
  obtain ⟨p, hp, rfl⟩ := Option.map_eq_some'.1 h
  exact List.mem_map_of_mem _ (List.mem_of_find?_eq_some hp)

@[simp] theorem map_get_insert (m : List (K × V)) (k k' : K) (v : V) :
    map_get (map_insert m k v) k' = if k' = k then some v else map_get m k' := by
  by_cases h : k' = k
  · subst h; simp [map_get, map_insert]
  · have hp : (fun a : K × V => !decide (a.1 = k) && decide (a.1 = k')) =
        fun a => decide (a.1 = k') := by
      funext a
      by_cases ha : a.1 = k' <;> simp [ha, h]
    simp [map_get, map_insert, h, Ne.symm h, hp]

/-- Building a map by inserting the elements of a list: a key is bound to the last element
that carries it, or to what the map had before. -/
theorem map_get_foldl_insert (l : List α) (key : α → K) (val : α → V) (m : List (K × V))
    (k : K) :
    map_get (l.foldl (fun m a => map_insert m (key a) (val a)) m) k =
      ((l.reverse.find? fun a => key a = k).map val).or (map_get m k) := by
  induction l generalizing m with
  | nil => simp
  | cons a l ih =>
    rw [List.foldl_cons, ih, map_get_insert]
    by_cases h : key a = k
    · cases hf : l.reverse.find? (fun a => key a = k) <;> simp [List.find?_append, h, hf]
    · simp [List.find?_append, h, Ne.symm h]

/-- When the elements that share a key agree on its value, the map built from them binds `k`
to `v` exactly when some element does. -/
theorem map_get_foldl_insert_eq_some {l : List α} {key : α → K} {val : α → V} {k : K} {v : V}
    (hl : ∀ a ∈ l, ∀ b ∈ l, key a = key b → val a = val b) :
    map_get (l.foldl (fun m a => map_insert m (key a) (val a)) []) k = some v ↔
      ∃ a ∈ l, key a = k ∧ val a = v := by
  rw [map_get_foldl_insert]
  constructor
  · intro h
    cases hf : l.reverse.find? (fun a => key a = k) with
    | none => simp [hf] at h
    | some a =>
      simp only [hf, Option.map_some', Option.or_some, Option.some.injEq] at h
      exact ⟨a, List.mem_reverse.1 (List.mem_of_find?_eq_some hf),
        by simpa using List.find?_some hf, h⟩
  · rintro ⟨a, ha, rfl, rfl⟩
    cases hf : l.reverse.find? (fun b => key b = key a) with
    | none =>
      have := List.find?_eq_none.1 hf a (List.mem_reverse.2 ha)
      simp at this
    | some b =>
      have hb := List.mem_reverse.1 (List.mem_of_find?_eq_some hf)
      simp [hl b hb a ha (by simpa using List.find?_some hf)]

/-- `HashSet`: a list without repetitions. -/
structure HashSet (α : Type) where
  elems : List α
  nodup : elems.Nodup

end Maps

end IcebergCatalog
