/-
`create_table` (`table.rs:171-262`): the metadata builder, and the one statement that writes
the row, an `INSERT ... SELECT ... WHERE EXISTS (active namespace)` with
`ON CONFLICT ON CONSTRAINT unique_table_name_per_namespace DO UPDATE ... WHERE
"table"."metadata_location" IS NULL`.

That statement is the whole of the staged/committed protocol on the create side. A name no
row holds gets a new row; a name a staged row holds gets that row overwritten (id, metadata,
metadata location and table location); a name a committed row holds makes the `DO UPDATE`
skip, `RETURNING` yields nothing, and `fetch_one`'s `RowNotFound` becomes
`Conflict/TableAlreadyExists`. An inactive warehouse makes the `SELECT` yield nothing, with the
same error. The database still checks the constraints the statement does not arbitrate on: an
id another row holds is refused by the primary key.

The builder's calls are the aggregate's, on the body; `assign_uuid(table_id)` is the one that
sets the uuid, and since no other call reads or changes it, the uuid is placed when the
document is assembled.
-/
import IcebergCatalog.Lookup

set_option autoImplicit false

namespace IcebergCatalog

/-- `CreateTableRequest`. `stage_create` is decided by the service, which passes no metadata
location for a staged create. -/
structure CreateTableRequest where
  name : String
  location : Option String
  schema : Schema
  partition_spec : Option UnboundPartitionSpec
  write_order : Option SortOrder
  stage_create : Option Bool
  properties : Option (List (String × String))
  deriving DecidableEq, Repr

/-- `CreateTableResult`. -/
structure CreateTableResult where
  table_metadata : TableMetadata
  deriving DecidableEq, Repr

/-- The `Conflict` of a create request without a location. -/
def create_table_location_required : ErrorModel :=
  { code := 409, message := "Table location is required", type := "CreateTableLocationRequired",
    stack := none }

/-- The `Conflict` `create_table` makes of `RowNotFound`. -/
def table_already_exists : ErrorModel :=
  { code := 409, message := "Table already exists in Namespace", type := "TableAlreadyExists",
    stack := none }

/-! ## The builder -/

/-- The body `create_table`'s builder produces: `new(location, schema)`, then the partition
spec and the write order, each installed as default (`-1`), then the properties, then
`build()`. -/
def initial_body (ext : Collaborators) (request : CreateTableRequest) (now_ms : Nat) :
    Except ErrorModel MetadataBody := do
  let body := ext.new_body request.schema
  let body ← match request.partition_spec with
    | some partition_spec => do
      let body ← ext.add_partition_spec partition_spec body
      ext.set_default_partition_spec (-1) body
    | none => pure body
  let body ← match request.write_order with
    | some write_order => do
      let body ← ext.add_sort_order write_order body
      ext.set_default_sort_order (-1) body
    | none => pure body
  let body ← ext.set_properties (request.properties.getD []) body
  ext.build now_ms body

/-- The document `create_table` stores: the built body, at `location`, with uuid `table_id`. -/
def initial_metadata (ext : Collaborators) (location : String) (request : CreateTableRequest)
    (table_id : Nat) (now_ms : Nat) : Except ErrorModel TableMetadata :=
  (initial_body ext request now_ms).map fun body => { uuid := table_id, location, body }

theorem initial_metadata_eq_ok {ext : Collaborators} {location : String}
    {request : CreateTableRequest} {table_id now_ms : Nat} {m : TableMetadata}
    (h : initial_metadata ext location request table_id now_ms = .ok m) :
    m.uuid = table_id ∧ m.location = location := by
  unfold initial_metadata Except.map at h
  split at h
  · cases h
  · cases h; exact ⟨rfl, rfl⟩

/-! ## The statement -/

/-- Row `t` holds the name `row` is created under. -/
def TableRow.same_name (row t : TableRow) : Prop :=
  t.namespace_id = row.namespace_id ∧ t.table_name = row.table_name

instance (row t : TableRow) : Decidable (row.same_name t) :=
  inferInstanceAs (Decidable (_ ∧ _))

/-- The `INSERT ... ON CONFLICT ... DO UPDATE ... WHERE metadata_location IS NULL
RETURNING table_id` of `create_table`, with `fetch_one`. -/
def insert_table (c : CatalogState) (row : TableRow) : Except DbError CatalogState :=
  if c.namespace_active row.namespace_id then
    match c.tables.find? fun t => row.same_name t with
    | none => c.with_tables (c.tables ++ [row])
    | some old =>
      if old.metadata_location.isNone then
        c.with_tables (c.tables.map fun t =>
          if row.same_name t then
            { t with table_id := row.table_id, metadata := row.metadata,
                     metadata_location := row.metadata_location,
                     table_location := row.table_location }
          else t)
      else .error .RowNotFound
  else .error .RowNotFound

/-- The row `create_table` inserts: the `VALUES ($1, ..., $6)` of its statement. -/
def create_row (namespace_id : Nat) (table : TableIdent) (table_id : Nat) (m : TableMetadata)
    (metadata_location : Option String) (location : String) : TableRow :=
  { table_id := table_id, namespace_id := namespace_id, table_name := table.name
    metadata := m, metadata_location := metadata_location, table_location := location }

/-- `create_table`. -/
def create_table (ext : Collaborators) (c : CatalogState) (namespace_id : Nat)
    (table : TableIdent) (table_id : Nat) (request : CreateTableRequest)
    (metadata_location : Option String) (now_ms : Nat) :
    Except ErrorModel (CreateTableResult × CatalogState) :=
  match request.location with
  | none => .error create_table_location_required
  | some location =>
    match initial_metadata ext location request table_id now_ms with
    | .error e => .error e
    | .ok table_metadata =>
      match insert_table c
          (create_row namespace_id table table_id table_metadata metadata_location location) with
      | .ok c' => .ok (⟨table_metadata⟩, c')
      | .error .RowNotFound => .error table_already_exists
      | .error e => .error (ext.into_error_model e "Error creating table")

/-! ## What the statement does -/

section Insert

variable {c c' : CatalogState} {row : TableRow}

/-- The overwrite of a conflicting row is the new row: the two columns it keeps are the
conflict key. -/
theorem overwrite_eq {t : TableRow} (h : row.same_name t) :
    { t with table_id := row.table_id, metadata := row.metadata,
             metadata_location := row.metadata_location,
             table_location := row.table_location } = row := by
  obtain ⟨h1, h2⟩ := h
  cases t; cases row
  simp_all

/-- The rows `create_table` leaves when it overwrites a staged row. -/
def overwritten (row : TableRow) (tables : List TableRow) : List TableRow :=
  tables.map fun t => if row.same_name t then row else t

/-- **What a successful insert does.** The namespace is active, and either no row held the
name and the new row is appended, or a staged row held it and is overwritten by the new row;
the constraints hold of the result. -/
theorem insert_table_eq_ok (h : insert_table c row = .ok c') :
    c.namespace_active row.namespace_id ∧
      ((∀ t ∈ c.tables, ¬row.same_name t) ∧ c.with_tables (c.tables ++ [row]) = .ok c' ∨
        ∃ old ∈ c.tables, row.same_name old ∧ old.metadata_location = none ∧
          c.with_tables (overwritten row c.tables) = .ok c') := by
  unfold insert_table at h
  split_ifs at h with hact
  refine ⟨hact, ?_⟩
  split at h
  · next hf =>
    rw [List.find?_eq_none] at hf
    exact .inl ⟨fun t ht => by simpa using hf t ht, h⟩
  · next old hf =>
    split_ifs at h with hst
    refine .inr ⟨old, List.mem_of_find?_eq_some hf, by simpa using List.find?_some hf,
      Option.isNone_iff_eq_none.1 hst, ?_⟩
    rw [← h, overwritten]
    congr 2
    funext t
    split_ifs with ht
    · exact (overwrite_eq ht).symm
    · rfl

theorem CatalogState.Wf.insert_table (hc : c.Wf) (h : insert_table c row = .ok c') : c'.Wf := by
  obtain ⟨-, ⟨-, h⟩ | ⟨-, -, -, -, h⟩⟩ := insert_table_eq_ok h <;> exact hc.with_tables h

/-- Every row after an insert was there before under another name, or is the new row. -/
theorem mem_of_insert_table (h : insert_table c row = .ok c') {t : TableRow}
    (ht : t ∈ c'.tables) : t ∈ c.tables ∧ ¬row.same_name t ∨ t = row := by
  obtain ⟨-, ⟨hfree, h⟩ | ⟨-, -, -, -, h⟩⟩ := insert_table_eq_ok h <;>
    obtain rfl := CatalogState.with_tables_eq_ok h
  · rcases List.mem_append.1 ht with ht | ht
    · exact .inl ⟨ht, hfree t ht⟩
    · exact .inr (List.mem_singleton.1 ht)
  · obtain ⟨t', ht', rfl⟩ := List.mem_map.1 ht
    split_ifs with hn
    · exact .inr rfl
    · exact .inl ⟨ht', hn⟩

/-- An insert keeps every row that holds another name. -/
theorem mem_insert_table (h : insert_table c row = .ok c') {t : TableRow} (ht : t ∈ c.tables)
    (hn : ¬row.same_name t) : t ∈ c'.tables := by
  obtain ⟨-, ⟨-, h⟩ | ⟨-, -, -, -, h⟩⟩ := insert_table_eq_ok h <;>
    obtain rfl := CatalogState.with_tables_eq_ok h
  · exact List.mem_append_left _ ht
  · exact List.mem_map.2 ⟨t, ht, if_neg hn⟩

/-- A name a committed row holds, or an inactive namespace, makes the insert return
`RowNotFound`. -/
theorem insert_table_committed (hc : c.Wf) {t : TableRow} (ht : t ∈ c.tables)
    (hn : row.same_name t) (hm : t.metadata_location.isSome) :
    insert_table c row = .error .RowNotFound := by
  unfold insert_table
  split_ifs
  · cases hf : c.tables.find? fun t => row.same_name t with
    | none => exact absurd (List.find?_eq_none.1 hf t ht) (by simpa using hn)
    | some old =>
      have hold : row.same_name old := by simpa using List.find?_some hf
      obtain rfl := hc.table_eq_of_name (List.mem_of_find?_eq_some hf) ht
        (hold.1.trans hn.1.symm) (hold.2.trans hn.2.symm)
      obtain ⟨l, hl⟩ := Option.isSome_iff_exists.1 hm
      simp [hl]
  · rfl

end Insert

/-- Replacing the rows a predicate picks, which is at most one row `a`, by a row whose key no
row but `a` carries keeps the keys distinct. -/
theorem List.nodup_map_replace {α β : Type} {l : List α} {key : α → β} {p : α → Prop}
    [DecidablePred p] {a new : α} (hl : (l.map key).Nodup) (hp : ∀ b ∈ l, p b → b = a)
    (hnew : ∀ b ∈ l, key b = key new → b = a) :
    ((l.map fun b => if p b then new else b).map key).Nodup := by
  rw [List.map_map]
  refine List.Nodup.map_on (fun x hx y hy hxy => ?_) (List.Nodup.of_map key hl)
  simp only [Function.comp_apply] at hxy
  by_cases px : p x <;> by_cases py : p y <;> simp only [px, py, if_true, if_false] at hxy
  · rw [hp x hx px, hp y hy py]
  · rw [hp x hx px, hnew y hy hxy.symm]
  · rw [hnew x hx hxy, hp y hy py]
  · exact List.inj_on_of_nodup_map hl hx hy hxy

section Create

variable {ext : Collaborators} {c : CatalogState} {ns : Nat} {table : TableIdent} {x : Nat}
  {req : CreateTableRequest} {ml : Option String} {now : Nat}

/-- **What a successful create does**: the request had a location, the aggregate built the
metadata, and the insert succeeded. -/
theorem create_table_eq_ok {r : CreateTableResult} {c' : CatalogState}
    (h : create_table ext c ns table x req ml now = .ok (r, c')) :
    ∃ location m, req.location = some location ∧ initial_metadata ext location req x now = .ok m ∧
      r = ⟨m⟩ ∧ insert_table c (create_row ns table x m ml location) = .ok c' := by
  unfold create_table at h
  split at h
  · cases h
  · next location hloc =>
    split at h
    · cases h
    · next m hm =>
      split at h
      · next c'' hi => cases h; exact ⟨location, m, hloc, hm, rfl, hi⟩
      · cases h
      · cases h

/-- **A committed name refuses the create.** On a name a committed row holds, `create_table`
fails, so its transaction is left as it was; once the request has a location and the aggregate
builds its metadata, the error is `TableAlreadyExists`, staged request or not. -/
theorem create_table_committed (hc : c.Wf) {t : TableRow} (ht : t ∈ c.tables)
    (hns : t.namespace_id = ns) (hname : t.table_name = table.name)
    (hm : t.metadata_location.isSome) :
    ∃ e, create_table ext c ns table x req ml now = .error e ∧
      ∀ location m, req.location = some location →
        initial_metadata ext location req x now = .ok m → e = table_already_exists := by
  unfold create_table
  split
  · next hloc => exact ⟨_, rfl, fun _ _ h => by rw [hloc] at h; cases h⟩
  · next location hloc =>
    split
    · next e hb => exact ⟨e, rfl, fun _ _ h h' => by cases hloc.symm.trans h; cases hb.symm.trans h'⟩
    · next m hb =>
      rw [insert_table_committed hc ht ⟨hns, hname⟩ hm]
      exact ⟨_, rfl, fun _ _ _ _ => rfl⟩

/-- **A staged name is overwritten.** On a name a staged row `t` of an active namespace holds,
a create whose request has a location, whose metadata the aggregate builds, and whose id no
other row carries, replaces `t`'s id, metadata, metadata location and table location, and
changes no other row. -/
theorem create_table_staged (hc : c.Wf) {t : TableRow} (ht : t ∈ c.tables)
    (hns : t.namespace_id = ns) (hname : t.table_name = table.name)
    (hs : t.metadata_location = none) (hact : c.namespace_active ns) {location : String}
    (hloc : req.location = some location) {m : TableMetadata}
    (hm : initial_metadata ext location req x now = .ok m)
    (hx : ∀ t' ∈ c.tables, t'.table_id = x → t' = t) :
    create_table ext c ns table x req ml now =
      .ok (⟨m⟩, { c with tables := overwritten (create_row ns table x m ml location) c.tables }) := by
  set row := create_row ns table x m ml location
  have hrow : row.same_name t := ⟨hns, hname⟩
  have huniq : ∀ b ∈ c.tables, row.same_name b → b = t := fun b hb hbn =>
    hc.table_eq_of_name hb ht (hbn.1.trans hrow.1.symm) (hbn.2.trans hrow.2.symm)
  have hins : insert_table c row = .ok { c with tables := overwritten row c.tables } := by
    unfold insert_table
    rw [if_pos (show c.namespace_active row.namespace_id from hact)]
    have hf : c.tables.find? (fun b => row.same_name b) = some t := by
      cases hf : c.tables.find? fun b => row.same_name b with
      | none => exact absurd (List.find?_eq_none.1 hf t ht) (by simpa using hrow)
      | some b => rw [huniq b (List.mem_of_find?_eq_some hf) (by simpa using List.find?_some hf)]
    simp only [hf, hs, Option.isNone_none, if_true]
    have hmap : (c.tables.map fun b => if row.same_name b then
        { b with table_id := row.table_id, metadata := row.metadata,
                 metadata_location := row.metadata_location,
                 table_location := row.table_location } else b) = overwritten row c.tables :=
      List.map_congr_left fun b _ => by split_ifs with hb; exacts [overwrite_eq hb, rfl]
    rw [hmap, CatalogState.with_tables_eq_ok_iff]
    refine ⟨List.nodup_map_replace hc.table_pkey huniq fun b hb h => hx b hb h,
      List.nodup_map_replace hc.unique_table_name_per_namespace huniq fun b hb h =>
        huniq b hb ⟨congrArg Prod.fst h, congrArg Prod.snd h⟩, fun b hb => ?_⟩
    obtain ⟨b', hb', rfl⟩ := List.mem_map.1 hb
    split_ifs with hbn
    · obtain ⟨n, hn, hnt⟩ := hc.table_fkey t ht
      exact ⟨n, hn, hnt.trans hrow.1⟩
    · exact hc.table_fkey b' hb'
  simp only [create_table, hloc, hm, hins]

/-- The overwrite of the staged row `t` replaces `t`'s id, metadata, metadata location and table
location, and leaves every other row alone. -/
theorem overwritten_eq_replace (hc : c.Wf) {t : TableRow} (ht : t ∈ c.tables)
    (hns : t.namespace_id = ns) (hname : t.table_name = table.name) {m : TableMetadata}
    {location : String} :
    overwritten (create_row ns table x m ml location) c.tables =
      c.tables.map fun t' => if t' = t then
        { t with table_id := x, metadata := m, metadata_location := ml,
                 table_location := location } else t' := by
  refine List.map_congr_left fun t' ht' => ?_
  by_cases h : t' = t
  · subst h
    rw [if_pos ⟨hns, hname⟩, if_pos rfl]
    exact (overwrite_eq ⟨hns, hname⟩).symm
  · rw [if_neg h, if_neg fun hn => h (hc.table_eq_of_name ht' ht (hn.1.trans hns.symm)
      (hn.2.trans hname.symm))]

end Create

end IcebergCatalog
