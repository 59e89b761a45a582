/-
The read paths of `table.rs`: `table_ident_to_id`, `table_idents_to_ids`, `list_tables`,
`get_table_metadata_by_id` and `load_table`.

Each is a filter over the join followed by `fetch_one` or a loop over the rows. They are
written separately in the source, each with its own staged filter and its own active-warehouse
filter; what they share is one notion, `Visible`: the row holds the asked-for table of the
asked-for warehouse, that warehouse is active, and the row is committed unless staged rows are
asked for. The four `_iff` lemmas below say that each path sees exactly the `Visible` rows,
and `visibility_agrees` assembles them.

The constraints of `Catalog` are what make `fetch_one` safe here: under them a name, or an id,
picks at most one row of the join, so the first row is the only one.
-/
import IcebergCatalog.Store

set_option autoImplicit false

namespace IcebergCatalog

/-- `MAX_PARAMETERS`: the bind-parameter budget of one statement. -/
def MAX_PARAMETERS : Nat := 30000

/-! ## Results and errors -/

/-- `LoadTableResult`. -/
structure LoadTableResult where
  table_id : Nat
  namespace_id : Nat
  table_metadata : TableMetadata
  metadata_location : Option String
  storage_secret_ident : Option Nat
  storage_profile : StorageProfile
  deriving DecidableEq

/-- `GetTableMetadataResult`. -/
structure GetTableMetadataResult where
  table : TableIdent
  table_id : Nat
  warehouse_id : Nat
  location : String
  metadata_location : Option String
  storage_secret_ident : Option Nat
  storage_profile : StorageProfile
  deriving DecidableEq

/-- The `NotFound` every by-name and by-id lookup returns when no row matches. -/
def table_not_found : ErrorModel :=
  { code := 404, message := "Table not found", type := "NoSuchTableError", stack := none }

/-- The `NotFound` of a by-id or by-location lookup that finds a staged row. -/
def table_staged : ErrorModel :=
  { code := 404, message := "Table is staged and not yet created", type := "TableStaged",
    stack := none }

/-- The error of a stored `namespace_name` that `NamespaceIdent::from_vec` refuses. -/
def namespace_parse_error (e : String) : ErrorModel :=
  { code := 500, message := "Error parsing namespace", type := "NamespaceParseError",
    stack := some [e] }

/-- `table_idents_to_ids`'s refusal of a batch over the parameter budget. -/
def too_many_tables : ErrorModel :=
  { code := 400, message := "Too many tables to fetch", type := "TooManyTables", stack := none }

/-- `NamespaceIdent::from_vec(row.namespace_name).map_err(...)`, which every query that
returns an identifier runs on each row. -/
def namespace_of (j : Joined) : Except ErrorModel NamespaceIdent :=
  (NamespaceIdent.from_vec j.n.namespace_name).mapError namespace_parse_error

theorem namespace_of_eq_ok {j : Joined} {ns : NamespaceIdent}
    (h : j.n.namespace_name = ns.parts) : namespace_of j = .ok ns := by
  simp [namespace_of, h, Except.mapError]

theorem namespace_of_eq_ok_iff {j : Joined} {ns : NamespaceIdent} :
    namespace_of j = .ok ns ↔ j.n.namespace_name = ns.parts := by
  refine ⟨fun h => ?_, namespace_of_eq_ok⟩
  unfold namespace_of Except.mapError at h
  split at h
  · cases h
  · cases h; exact (NamespaceIdent.from_vec_eq_ok ‹_›).symm

/-! ## The queries -/

/-- `table_ident_to_id`. A missing row is `Ok(None)`, and so is a staged one unless
`include_staged`. -/
def table_ident_to_id (c : CatalogState) (warehouse_id : Nat) (table : TableIdent)
    (include_staged : Bool) : Option Nat :=
  match (c.joined.filter fun j => j.n.namespace_name = table.namespace.parts ∧
      j.t.table_name = table.name ∧ j.n.warehouse_id = warehouse_id ∧
      j.w.status = .active).head? with
  | none => none
  | some j => if j.t.metadata_location.isNone && !include_staged then none else some j.t.table_id

/-- One iteration of `table_idents_to_ids`'s loop over the fetched rows. -/
def table_idents_to_ids_step (include_staged : Bool) (table_map : List (TableIdent × Option Nat))
    (j : Joined) : Except ErrorModel (List (TableIdent × Option Nat)) :=
  match namespace_of j with
  | .error e => .error e
  | .ok ns =>
    .ok (if j.t.metadata_location.isSome || include_staged then
      map_insert table_map ⟨ns, j.t.table_name⟩ (some j.t.table_id) else table_map)

/-- `table_idents_to_ids`: one query for a set of identifiers, then `None` for every
identifier no visible row answered. -/
def table_idents_to_ids (c : CatalogState) (warehouse_id : Nat) (tables : HashSet TableIdent)
    (include_staged : Bool) : Except ErrorModel (List (TableIdent × Option Nat)) :=
  if tables.elems.isEmpty then .ok []
  else if tables.elems.length > MAX_PARAMETERS / 2 then .error too_many_tables
  else
    let rows := c.joined.filter fun j => j.w.status = .active ∧
      j.n.warehouse_id = warehouse_id ∧
      (j.n.namespace_name, j.t.table_name) ∈ tables.elems.map fun t => (t.namespace.parts, t.name)
    match rows.foldlM (table_idents_to_ids_step include_staged) [] with
    | .error e => .error e
    | .ok table_map =>
      .ok (tables.elems.foldl (fun table_map table =>
        if (map_get table_map table).isSome then table_map else map_insert table_map table none)
        table_map)

/-- One iteration of `list_tables`'s loop over the fetched rows. -/
def list_tables_step (table_map : List (Nat × TableIdent)) (j : Joined) :
    Except ErrorModel (List (Nat × TableIdent)) :=
  match namespace_of j with
  | .error e => .error e
  | .ok ns => .ok (map_insert table_map j.t.table_id ⟨ns, j.t.table_name⟩)

/-- `list_tables`: the visible rows of one namespace, by id. -/
def list_tables (c : CatalogState) (warehouse_id : Nat) («namespace» : NamespaceIdent)
    (include_staged : Bool) : Except ErrorModel (List (Nat × TableIdent)) :=
  (c.joined.filter fun j => j.n.warehouse_id = warehouse_id ∧
      j.n.namespace_name = «namespace».parts ∧ j.w.status = .active ∧
      (j.t.metadata_location.isSome ∨ include_staged)).foldlM list_tables_step []

/-- The result `get_table_metadata_by_id` and `get_table_metadata_by_s3_location` build from
the row they fetched. -/
def GetTableMetadataResult.of (warehouse_id : Nat) (j : Joined) (ns : NamespaceIdent) :
    GetTableMetadataResult :=
  { table := ⟨ns, j.t.table_name⟩, table_id := j.t.table_id, warehouse_id := warehouse_id,
    location := j.t.table_location, metadata_location := j.t.metadata_location,
    storage_secret_ident := j.w.storage_secret_id, storage_profile := j.w.storage_profile }

/-- The tail both metadata lookups share: the staged check, then the namespace. -/
def metadata_result (warehouse_id : Nat) (include_staged : Bool) (j : Joined) :
    Except ErrorModel GetTableMetadataResult :=
  if !include_staged && j.t.metadata_location.isNone then .error table_staged
  else match namespace_of j with
    | .error e => .error e
    | .ok ns => .ok (GetTableMetadataResult.of warehouse_id j ns)

/-- `get_table_metadata_by_id`. -/
def get_table_metadata_by_id (c : CatalogState) (warehouse_id : Nat) (table : Nat)
    (include_staged : Bool) : Except ErrorModel GetTableMetadataResult :=
  match (c.joined.filter fun j => j.w.warehouse_id = warehouse_id ∧ j.t.table_id = table ∧
      j.w.status = .active).head? with
  | none => .error table_not_found
  | some j => metadata_result warehouse_id include_staged j

/-- `load_table`: committed rows only. -/
def load_table (c : CatalogState) (warehouse_id : Nat) (table : TableIdent) :
    Except ErrorModel LoadTableResult :=
  match (c.joined.filter fun j => j.w.warehouse_id = warehouse_id ∧
      j.n.namespace_name = table.namespace.parts ∧ j.t.table_name = table.name ∧
      j.w.status = .active ∧ j.t.metadata_location.isSome).head? with
  | none => .error table_not_found
  | some j =>
    .ok { table_id := j.t.table_id
          namespace_id := j.t.namespace_id
          table_metadata := j.t.metadata
          metadata_location := j.t.metadata_location
          storage_secret_ident := j.w.storage_secret_id
          storage_profile := j.w.storage_profile }

/-! ## Visibility -/

/-- Row `j` holds `table` in warehouse `warehouse_id`, that warehouse is active, and the row
is committed unless staged rows are asked for. -/
def Visible (warehouse_id : Nat) (table : TableIdent) (include_staged : Bool) (j : Joined) :
    Prop :=
  j.n.warehouse_id = warehouse_id ∧ j.w.status = .active ∧
    j.n.namespace_name = table.namespace.parts ∧ j.t.table_name = table.name ∧
    (j.t.metadata_location.isSome ∨ include_staged)

section Visibility

variable {c : CatalogState} {w x : Nat} {t : TableIdent} {s : Bool}

theorem visible_staged_iff {j : Joined} :
    (j.t.metadata_location.isSome = true ∨ s = true) ↔
      ¬(j.t.metadata_location.isNone && !s) = true := by
  cases j.t.metadata_location <;> cases s <;> simp

theorem table_ident_to_id_eq_some_iff (hc : c.Wf) :
    table_ident_to_id c w t s = some x ↔ ∃ j ∈ c.joined, Visible w t s j ∧ j.t.table_id = x := by
  unfold table_ident_to_id
  split
  · next hn =>
    simp only [List.head?_eq_none_iff, List.filter_eq_nil_iff, decide_eq_true_eq] at hn
    simp only [reduceCtorEq, false_iff, not_exists, not_and]
    rintro j hj ⟨hw, ha, hns, hname, -⟩ -
    exact hn j hj ⟨hns, hname, hw, ha⟩
  · next j hs =>
    rw [List.head?_filter_eq_some_iff fun a ha b hb hpa hpb => by
      simp only [decide_eq_true_eq] at hpa hpb
      exact hc.joined_eq_of_name ha hb (hpa.2.2.1.trans hpb.2.2.1.symm)
        (hpa.1.trans hpb.1.symm) (hpa.2.1.trans hpb.2.1.symm)] at hs
    simp only [decide_eq_true_eq] at hs
    obtain ⟨hj, hns, hname, hw, ha⟩ := hs
    constructor
    · intro h
      split at h
      · cases h
      · cases h
        exact ⟨j, hj, ⟨hw, ha, hns, hname, visible_staged_iff.2 ‹_›⟩, rfl⟩
    · rintro ⟨j', hj', ⟨hw', -, hns', hname', hst⟩, rfl⟩
      obtain rfl := hc.joined_eq_of_name hj hj' (hw.trans hw'.symm) (hns.trans hns'.symm)
        (hname.trans hname'.symm)
      rw [if_neg (visible_staged_iff.1 hst)]

theorem list_tables_maps_iff (hc : c.Wf) :
    (∃ m, list_tables c w t.namespace s = .ok m ∧ map_get m x = some t) ↔
      ∃ j ∈ c.joined, Visible w t s j ∧ j.t.table_id = x := by
  unfold list_tables
  rw [List.foldlM_except_eq_ok
    (fun m j => map_insert m j.t.table_id (⟨t.namespace, j.t.table_name⟩ : TableIdent))
    (fun j hj m => by
      rw [List.mem_filter, decide_eq_true_eq] at hj
      simp [list_tables_step, namespace_of_eq_ok hj.2.2.1]) []]
  simp only [Except.ok.injEq, exists_eq_left']
  rw [map_get_foldl_insert_eq_some fun a ha b hb h => by
    rw [hc.joined_eq_of_id (List.mem_filter.1 ha).1 (List.mem_filter.1 hb).1 h]]
  constructor
  · rintro ⟨j, hj, rfl, hjt⟩
    rw [List.mem_filter, decide_eq_true_eq] at hj
    obtain ⟨hj, hw, hns, ha, hst⟩ := hj
    exact ⟨j, hj, ⟨hw, ha, hns, by rw [← hjt], hst⟩, rfl⟩
  · rintro ⟨j, hj, ⟨hw, ha, hns, hname, hst⟩, rfl⟩
    refine ⟨j, List.mem_filter.2 ⟨hj, by simp [hw, hns, ha, hst]⟩, rfl, ?_⟩
    rw [hname]

theorem metadata_result_table_iff {j : Joined} :
    (∃ r, metadata_result w s j = .ok r ∧ r.table = t) ↔
      (j.t.metadata_location.isSome ∨ s) ∧ j.n.namespace_name = t.namespace.parts ∧
        j.t.table_name = t.name := by
  unfold metadata_result
  split_ifs with hst
  · simp only [reduceCtorEq, false_and, exists_false, false_iff]
    rintro ⟨hst', -⟩
    exact visible_staged_iff.1 hst' (by cases s <;> simp_all)
  · have hst' : j.t.metadata_location.isSome = true ∨ s = true := by
      cases hm : j.t.metadata_location <;> cases s <;> simp_all
    cases hn : namespace_of j with
    | error e =>
      simp only [reduceCtorEq, false_and, exists_false, false_iff, not_and]
      rintro - hns -
      rw [namespace_of_eq_ok hns] at hn
      cases hn
    | ok ns =>
      rw [namespace_of_eq_ok_iff] at hn
      simp only [Except.ok.injEq, exists_eq_left', GetTableMetadataResult.of, hst', true_and, hn]
      constructor
      · rintro rfl; exact ⟨rfl, rfl⟩
      · rintro ⟨h1, h2⟩
        obtain ⟨tns, tname⟩ := t
        dsimp only at h1 h2
        rw [NamespaceIdent.ext h1, h2]

/-- A result of the shared tail is built from its row. -/
theorem metadata_result_eq_ok {j : Joined} {r : GetTableMetadataResult}
    (h : metadata_result w s j = .ok r) : ∃ ns, r = .of w j ns := by
  unfold metadata_result at h
  split_ifs at h
  split at h
  · cases h
  · cases h; exact ⟨_, rfl⟩

theorem get_table_metadata_by_id_table_iff (hc : c.Wf) :
    (∃ r, get_table_metadata_by_id c w x s = .ok r ∧ r.table = t) ↔
      ∃ j ∈ c.joined, Visible w t s j ∧ j.t.table_id = x := by
  unfold get_table_metadata_by_id
  split
  · next hn =>
    simp only [List.head?_eq_none_iff, List.filter_eq_nil_iff, decide_eq_true_eq] at hn
    simp only [reduceCtorEq, false_and, exists_false, false_iff, not_exists, not_and]
    rintro j hj ⟨hw, ha, -, -, -⟩ rfl
    exact hn j hj ⟨(CatalogState.mem_joined.1 hj).2.2.2.2.trans hw, rfl, ha⟩
  · next j hs =>
    rw [List.head?_filter_eq_some_iff fun a ha b hb hpa hpb => by
      simp only [decide_eq_true_eq] at hpa hpb
      exact hc.joined_eq_of_id ha hb (hpa.2.1.trans hpb.2.1.symm)] at hs
    simp only [decide_eq_true_eq] at hs
    obtain ⟨hj, hw, rfl, ha⟩ := hs
    rw [metadata_result_table_iff]
    constructor
    · rintro ⟨hst, hns, hname⟩
      exact ⟨j, hj, ⟨(CatalogState.mem_joined.1 hj).2.2.2.2.symm.trans hw, ha, hns, hname, hst⟩,
        rfl⟩
    · rintro ⟨j', hj', ⟨-, -, hns, hname, hst⟩, hid⟩
      obtain rfl := hc.joined_eq_of_id hj hj' hid.symm
      exact ⟨hst, hns, hname⟩

theorem load_table_table_id_iff (hc : c.Wf) :
    (∃ r, load_table c w t = .ok r ∧ r.table_id = x) ↔
      ∃ j ∈ c.joined, Visible w t false j ∧ j.t.table_id = x := by
  unfold load_table
  split
  · next hn =>
    simp only [List.head?_eq_none_iff, List.filter_eq_nil_iff, decide_eq_true_eq] at hn
    simp only [reduceCtorEq, false_and, exists_false, false_iff, not_exists, not_and]
    rintro j hj ⟨hw, ha, hns, hname, hst⟩ -
    exact hn j hj ⟨(CatalogState.mem_joined.1 hj).2.2.2.2.trans hw, hns, hname, ha,
      by simpa using hst⟩
  · next j hs =>
    rw [List.head?_filter_eq_some_iff fun a ha b hb hpa hpb => by
      simp only [decide_eq_true_eq] at hpa hpb
      exact hc.joined_eq_of_name ha hb
        ((CatalogState.mem_joined.1 ha).2.2.2.2.symm.trans
          (hpa.1.trans (hpb.1.symm.trans (CatalogState.mem_joined.1 hb).2.2.2.2)))
        (hpa.2.1.trans hpb.2.1.symm) (hpa.2.2.1.trans hpb.2.2.1.symm)] at hs
    simp only [decide_eq_true_eq] at hs
    obtain ⟨hj, hw, hns, hname, ha, hst⟩ := hs
    simp only [Except.ok.injEq, exists_eq_left']
    constructor
    · rintro rfl
      exact ⟨j, hj, ⟨(CatalogState.mem_joined.1 hj).2.2.2.2.symm.trans hw, ha, hns, hname,
        .inl hst⟩, rfl⟩
    · rintro ⟨j', hj', ⟨hw', -, hns', hname', -⟩, rfl⟩
      exact congrArg (·.t.table_id) (hc.joined_eq_of_name hj hj'
        (((CatalogState.mem_joined.1 hj).2.2.2.2.symm.trans hw).trans hw'.symm)
        (hns.trans hns'.symm) (hname.trans hname'.symm))

end Visibility

/-- **The read paths agree.** For every store the database can hold, `table_ident_to_id` finds
exactly the `Visible` rows, `list_tables`, `get_table_metadata_by_id` and the committed-only
`load_table` see the same ones, and so a staged row is seen only when asked for and a row of an
inactive warehouse never. -/
theorem visibility_agrees (c : Catalog) (w : Nat) (t : TableIdent) (x : Nat) (s : Bool) :
    (table_ident_to_id c.toCatalogState w t s = some x ↔
      ∃ j ∈ c.joined, Visible w t s j ∧ j.t.table_id = x) ∧
    (table_ident_to_id c.toCatalogState w t s = some x ↔
      ∃ m, list_tables c.toCatalogState w t.namespace s = .ok m ∧ map_get m x = some t) ∧
    (table_ident_to_id c.toCatalogState w t s = some x ↔
      ∃ r, get_table_metadata_by_id c.toCatalogState w x s = .ok r ∧ r.table = t) ∧
    ((∃ r, load_table c.toCatalogState w t = .ok r ∧ r.table_id = x) ↔
      table_ident_to_id c.toCatalogState w t false = some x) := by
  rw [list_tables_maps_iff c.wf, get_table_metadata_by_id_table_iff c.wf,
    load_table_table_id_iff c.wf, table_ident_to_id_eq_some_iff c.wf,
    table_ident_to_id_eq_some_iff c.wf]
  exact ⟨Iff.rfl, Iff.rfl, Iff.rfl, Iff.rfl⟩

/-! ## The batch lookup against the single one -/

section Batch

variable {K V : Type} [DecidableEq K]

theorem map_get_isSome_iff (m : List (K × V)) (k : K) :
    (map_get m k).isSome ↔ k ∈ m.map Prod.fst := by
  simp [map_get, List.find?_isSome]

/-- The second loop of `table_idents_to_ids`: every identifier of `l` the map lacks is bound to
`None`, and nothing else changes. -/
theorem map_get_foldl_fill (l : List K) (m : List (K × Option V)) (k : K) :
    map_get (l.foldl (fun m a => if (map_get m a).isSome then m else map_insert m a none) m) k =
      (map_get m k).or (if k ∈ l then some none else none) := by
  induction l generalizing m with
  | nil => simp
  | cons a l ih =>
    rw [List.foldl_cons, ih]
    by_cases hk : k = a
    · subst hk
      cases h : map_get m k <;> simp [h]
    · simp only [List.mem_cons, hk, false_or]
      split_ifs <;> simp [hk]

end Batch

/-- Row `j` answers identifier `k` of the batch: it bears `k`'s namespace and name, and is
committed unless staged rows are asked for. -/
def answers (include_staged : Bool) (k : TableIdent) (j : Joined) : Prop :=
  j.n.namespace_name = k.namespace.parts ∧ j.t.table_name = k.name ∧
    (j.t.metadata_location.isSome ∨ include_staged)

instance (include_staged : Bool) (k : TableIdent) (j : Joined) :
    Decidable (answers include_staged k j) :=
  inferInstanceAs (Decidable (_ ∧ _ ∧ _))

/-- **The rows' loop of `table_idents_to_ids`**, on rows whose namespace names parse: it
succeeds, and binds each identifier to the id of the last row that answers it, if any. -/
theorem table_idents_to_ids_rows (s : Bool) :
    ∀ (rows : List Joined), (∀ j ∈ rows, j.n.namespace_name ≠ []) →
      ∀ m : List (TableIdent × Option Nat), ∃ m',
        rows.foldlM (table_idents_to_ids_step s) m = .ok m' ∧ ∀ k, map_get m' k =
          ((rows.reverse.find? (answers s k ·)).map fun j => some j.t.table_id).or (map_get m k)
  | [], _, m => ⟨m, rfl, fun k => by simp⟩
  | j :: rows, hrows, m => by
    have hne := hrows j (List.mem_cons_self j rows)
    let key : TableIdent := ⟨⟨j.n.namespace_name, hne⟩, j.t.table_name⟩
    obtain ⟨m', hm', hget⟩ := table_idents_to_ids_rows s rows
      (fun j' hj' => hrows j' (List.mem_cons_of_mem j hj'))
      (if j.t.metadata_location.isSome || s then map_insert m key (some j.t.table_id) else m)
    refine ⟨m', ?_, fun k => ?_⟩
    · have hns : namespace_of j = .ok key.namespace := namespace_of_eq_ok rfl
      simp only [List.foldlM_cons, table_idents_to_ids_step, hns]
      exact hm'
    · rw [hget, List.reverse_cons, List.find?_append]
      cases rows.reverse.find? (answers s k ·) with
      | some j' => rfl
      | none =>
        simp only [Option.map_none', Option.none_or, List.find?_cons, List.find?_nil]
        by_cases hp : answers s k j
        · -- `j` answers `k`: the insert binds it
          have hk : k = key := TableIdent.eq_iff.2 ⟨hp.1.symm, hp.2.1.symm⟩
          have hst : (j.t.metadata_location.isSome || s) = true := by
            rcases hp.2.2 with h | h <;> simp [h]
          simp only [decide_eq_true hp, Option.map_some', Option.or_some]
          simp only [hst, if_true, map_get_insert, hk]
        · -- it does not: either nothing is inserted or the key is another
          simp only [decide_eq_false hp, Option.map_none', Option.none_or]
          split_ifs with hst
          · rw [map_get_insert, if_neg fun hk => hp ?_]
            obtain ⟨h₁, h₂⟩ := TableIdent.eq_iff.1 hk
            exact ⟨h₁.symm, h₂.symm, by simpa using hst⟩
          · rfl

/-- **Past the size check the lookup succeeds.** The rows it fetches match a namespace name of
the set, so every one of them parses, and the loop over them cannot fail. -/
theorem table_idents_to_ids_eq_ok_of_le (c : CatalogState) (w : Nat) (tables : HashSet TableIdent)
    (s : Bool) (hlen : tables.elems.length ≤ MAX_PARAMETERS / 2) :
    ∃ m, table_idents_to_ids c w tables s = .ok m := by
  unfold table_idents_to_ids
  by_cases he : tables.elems.isEmpty
  · exact ⟨[], by rw [if_pos he]⟩
  rw [if_neg he, if_neg (Nat.not_lt.2 hlen)]
  set rows := c.joined.filter fun j => j.w.status = .active ∧ j.n.warehouse_id = w ∧
    (j.n.namespace_name, j.t.table_name) ∈ tables.elems.map fun t => (t.namespace.parts, t.name)
  obtain ⟨m, hm, -⟩ := table_idents_to_ids_rows s rows (fun j hj => by
    obtain ⟨t, -, hpair⟩ := List.mem_map.1 (of_decide_eq_true (List.mem_filter.1 hj).2).2.2
    exact (Prod.mk.inj hpair).1 ▸ t.namespace.ne_nil) []
  simp only [hm]
  exact ⟨_, rfl⟩

theorem find?_answers_eq_some {s : Bool} {t : TableIdent} {rows : List Joined} {j : Joined}
    (hf : rows.reverse.find? (answers s t ·) = some j) : j ∈ rows ∧ answers s t j :=
  have h := List.find?_some hf
  ⟨List.mem_reverse.1 (List.mem_of_find?_eq_some hf), of_decide_eq_true h⟩

/-- Of rows of `w`'s active warehouse that include every row `Visible` for `t`, the last that
answers `t` is the row `table_ident_to_id` finds. -/
theorem find_answers_eq_table_ident_to_id {c : CatalogState} (hc : c.Wf) {w : Nat}
    {t : TableIdent} {s : Bool} {rows : List Joined}
    (hsub : ∀ j ∈ rows, j ∈ c.joined ∧ j.n.warehouse_id = w ∧ j.w.status = .active)
    (hall : ∀ j ∈ c.joined, Visible w t s j → j ∈ rows) :
    (rows.reverse.find? (answers s t ·)).map (·.t.table_id) = table_ident_to_id c w t s := by
  cases hf : rows.reverse.find? (answers s t ·) with
  | some j =>
    obtain ⟨hjr, ha⟩ := find?_answers_eq_some hf
    obtain ⟨hj, hw, hact⟩ := hsub j hjr
    exact ((table_ident_to_id_eq_some_iff hc).2 ⟨j, hj, ⟨hw, hact, ha⟩, rfl⟩).symm
  | none =>
    refine (Option.eq_none_iff_forall_not_mem.2 fun x hx => ?_).symm
    obtain ⟨j, hj, ⟨hw, hact, ha⟩, rfl⟩ := (table_ident_to_id_eq_some_iff hc).1 hx
    exact List.find?_eq_none.1 hf j (List.mem_reverse.2 (hall j hj ⟨hw, hact, ha⟩))
      (decide_eq_true ha)

/-- **The batch lookup agrees with the single one.** For every store, warehouse, flag and set
of identifiers within the size check, `table_idents_to_ids` succeeds; its keys are exactly the
set, and it binds each identifier to what `table_ident_to_id` returns for it. -/
theorem table_idents_to_ids_agrees (c : Catalog) (w : Nat) (tables : HashSet TableIdent)
    (s : Bool) (hlen : tables.elems.length ≤ MAX_PARAMETERS / 2) :
    ∃ m, table_idents_to_ids c.toCatalogState w tables s = .ok m ∧
      (∀ t, t ∈ m.map Prod.fst ↔ t ∈ tables.elems) ∧
      ∀ t ∈ tables.elems, map_get m t = some (table_ident_to_id c.toCatalogState w t s) := by
  unfold table_idents_to_ids
  by_cases he : tables.elems.isEmpty
  · have hnil : tables.elems = [] := List.isEmpty_iff.1 he
    exact ⟨[], by rw [if_pos he], by simp [hnil], by simp [hnil]⟩
  rw [if_neg he, if_neg (Nat.not_lt.2 hlen)]
  -- the fetched rows: active warehouse `w`, and a name pair of the set
  set rows := c.joined.filter fun j => j.w.status = .active ∧ j.n.warehouse_id = w ∧
    (j.n.namespace_name, j.t.table_name) ∈ tables.elems.map fun t => (t.namespace.parts, t.name)
  have hrow : ∀ j ∈ rows, j ∈ c.joined ∧ j.w.status = .active ∧ j.n.warehouse_id = w ∧
      ∃ t ∈ tables.elems, t.namespace.parts = j.n.namespace_name ∧ t.name = j.t.table_name :=
    fun j hj => by simpa [rows] using hj
  obtain ⟨m, hm, hget⟩ := table_idents_to_ids_rows s rows (fun j hj => by
    obtain ⟨-, -, -, t, -, hparts, -⟩ := hrow j hj
    exact hparts ▸ t.namespace.ne_nil) []
  simp only [hm]
  refine ⟨_, rfl, fun t => ?_, fun t ht => ?_⟩
  · rw [← map_get_isSome_iff, map_get_foldl_fill, hget, map_get_nil]
    cases hf : rows.reverse.find? (answers s t ·) with
    | none => by_cases ht : t ∈ tables.elems <;> simp [ht]
    | some j =>
      -- the row that answers `t` was fetched for a pair of the set, and that pair is `t`'s
      obtain ⟨hj, hns, hname, -⟩ := find?_answers_eq_some hf
      obtain ⟨-, -, -, t', ht', hparts, hname'⟩ := hrow j hj
      simp only [Option.map_some', Option.or_some, Option.isSome_some, true_iff]
      exact TableIdent.eq_iff.2 ⟨hparts.trans hns, hname'.trans hname⟩ ▸ ht'
  · have hsub : ∀ j ∈ rows, j ∈ c.joined ∧ j.n.warehouse_id = w ∧ j.w.status = .active :=
      fun j hj => have ⟨hjc, ha, hw, _⟩ := hrow j hj; ⟨hjc, hw, ha⟩
    have hall : ∀ j ∈ c.joined, Visible w t s j → j ∈ rows := fun j hj ⟨hw, ha, hns, hname, _⟩ =>
      List.mem_filter.2 ⟨hj, decide_eq_true ⟨ha, hw, List.mem_map.2 ⟨t, ht, by rw [hns, hname]⟩⟩⟩
    rw [map_get_foldl_fill, hget, map_get_nil, if_pos ht,
      ← find_answers_eq_table_ident_to_id c.wf hsub hall]
    cases rows.reverse.find? (answers s t ·) <;> rfl

theorem table_idents_to_ids_agrees_two_tables :
    let c : Catalog := ⟨⟨[⟨1, ⟨""⟩, none, .active⟩], [⟨10, 1, ["a"]⟩],
      [⟨7, 10, "t", ⟨7, "s3://b/t", ⟨[], [], [], [], 0⟩⟩, some "m", "s3://b/t"⟩,
       ⟨8, 10, "u", ⟨8, "s3://b/u", ⟨[], [], [], [], 0⟩⟩, none, "s3://b/u"⟩]⟩, by decide⟩
    let tables : HashSet TableIdent :=
      ⟨[⟨⟨["a"], by simp⟩, "t"⟩, ⟨⟨["a"], by simp⟩, "u"⟩, ⟨⟨["a"], by simp⟩, "v"⟩], by decide⟩
    tables.elems.length ≤ MAX_PARAMETERS / 2 ∧
    ∃ m, table_idents_to_ids c.toCatalogState 1 tables false = .ok m ∧
      (∀ t, t ∈ m.map Prod.fst ↔ t ∈ tables.elems) ∧
      ∀ t ∈ tables.elems, map_get m t = some (table_ident_to_id c.toCatalogState 1 t false) := by
  intro c tables
  have hlen : tables.elems.length ≤ MAX_PARAMETERS / 2 := by decide
  exact ⟨hlen, table_idents_to_ids_agrees c 1 tables false hlen⟩

end IcebergCatalog
