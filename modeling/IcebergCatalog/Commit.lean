/-
The commit engine: `get_commit_context`, `apply_commits` and `commit_table_transaction`
(`table.rs:627-852`).

A transaction runs in one database transaction, in this order: one `SELECT` of the current
rows of every referenced id (gated on an active warehouse), the per-change lookups, the bound
on the number of changes, every requirement against the metadata that `SELECT` returned, the
updates (with `AssignUuid` and `SetLocation` checked here and every other update left to the
aggregate), and one bulk `UPDATE ... FROM (VALUES ...)` keyed by the new metadata's uuid,
whose `RETURNING` count must equal the number of responses.

The result is a pair: the function's `Result`, and the transaction's state after it. Every
error but the last leaves that state as it was; the last, `CommitTableUpdateError`, comes after
the `UPDATE`, and it is the caller dropping the transaction that rolls it back.

`Uuid::now_v7()` and the aggregate's clock are the outside world; `mint i` is what the `i`-th
iteration of `apply_commits` draws from it.
-/
import IcebergCatalog.Rename

set_option autoImplicit false

namespace IcebergCatalog

/-! ## Requests, contexts and responses -/

/-- `CommitTableRequest`: one change of a transaction. -/
structure CommitTableRequest where
  identifier : Option TableIdent
  requirements : List TableRequirement
  updates : List TableUpdate
  deriving DecidableEq

/-- `CommitTransactionRequest`. -/
structure CommitTransactionRequest where
  table_changes : List CommitTableRequest
  deriving DecidableEq

/-- `CommitContext`: a change together with the row it was read against. -/
structure CommitContext where
  requirements : List TableRequirement
  updates : List TableUpdate
  storage_profile : StorageProfile
  storage_secret_ident : Option Nat
  namespace_id : Nat
  metadata : TableMetadata
  metadata_location : Option String
  deriving DecidableEq, Repr

/-- `CommitTableResponse`; its `config` is always `None` and is left out. -/
structure CommitTableResponse where
  metadata_location : String
  metadata : TableMetadata
  deriving DecidableEq, Repr

/-- `GetStorageConfigResult`. -/
structure GetStorageConfigResult where
  storage_profile : StorageProfile
  storage_secret_ident : Option Nat
  deriving DecidableEq, Repr

/-- `CommitTableResponseExt`. -/
structure CommitTableResponseExt where
  commit_response : CommitTableResponse
  storage_config : GetStorageConfigResult
  previous_table_metadata : TableMetadata
  deriving DecidableEq, Repr

/-! ## Errors -/

/-- `format!("{:?}", table_ident)`: the derived `Debug` of a `TableIdent`, escapes aside. -/
def TableIdent.debug (t : TableIdent) : String :=
  let quote := fun s => "\"" ++ s ++ "\""
  "TableIdent \x7b namespace: NamespaceIdent([" ++
    ", ".intercalate (t.namespace.parts.map quote) ++ "]), name: " ++ quote t.name ++ " \x7d"

def table_identifier_required : ErrorModel :=
  { code := 400, message := "Table identifier must be specified for all changes",
    type := "TableIdentifierRequired", stack := none }

def table_identifier_not_found (t : TableIdent) : ErrorModel :=
  { code := 400, message := "Table identifier not found", type := "TableIdentifierNotFound",
    stack := some [t.debug] }

/-- The `NotFound` of a change whose table the commit's `SELECT` did not return. -/
def commit_table_not_found (t : TableIdent) : ErrorModel :=
  { code := 404, message := "Table not found", type := "NoSuchTableError",
    stack := some ["Table Ident " ++ t.debug] }

def too_many_tables_for_commit : ErrorModel :=
  { code := 400, message := "Too updates in single commit", type := "TooManyTablesForCommit",
    stack := none }

def assign_uuid_not_allowed : ErrorModel :=
  { code := 400, message := "Cannot assign a new UUID", type := "AssignUuidNotAllowed",
    stack := none }

def set_location_not_allowed : ErrorModel :=
  { code := 400, message := "Cannot change table location", type := "SetLocationNotAllowed",
    stack := none }

/-- The error of a bulk `UPDATE` that returned fewer rows than there are responses. -/
def commit_table_update_error : ErrorModel :=
  { code := 500, message := "Error committing table updates", type := "CommitTableUpdateError",
    stack := none }

/-! ## `get_commit_context` -/

/-- The `SELECT ... WHERE "table_id" = ANY($1) AND w.status = 'active'` over the values of
`table_ids`. -/
def commit_rows (c : CatalogState) (ids : List Nat) : List Joined :=
  c.joined.filter fun j => j.t.table_id ∈ ids ∧ j.w.status = .active

/-- The `CommitContext` of a change, read against the row `record`. -/
def CommitContext.of (change : CommitTableRequest) (record : Joined) : CommitContext :=
  { requirements := change.requirements, updates := change.updates,
    storage_profile := record.w.storage_profile, metadata := record.t.metadata,
    metadata_location := record.t.metadata_location,
    storage_secret_ident := record.w.storage_secret_id,
    namespace_id := record.n.namespace_id }

/-- One iteration of `get_commit_context`'s loop over the changes. -/
def commit_context (rows : List Joined) (table_ids : List (TableIdent × Nat))
    (change : CommitTableRequest) : Except ErrorModel CommitContext :=
  match change.identifier with
  | none => .error table_identifier_required
  | some table_ident =>
    match map_get table_ids table_ident with
    | none => .error (table_identifier_not_found table_ident)
    | some table_id =>
      match rows.find? fun j => j.t.table_id = table_id with
      | none => .error (commit_table_not_found table_ident)
      | some record => .ok (.of change record)

/-- `get_commit_context`. `table_ids` is the `HashMap` of resolved identifiers, as its
bindings. -/
def get_commit_context (c : CatalogState) (request : CommitTransactionRequest)
    (table_ids : List (TableIdent × Nat)) : Except ErrorModel (List CommitContext) :=
  request.table_changes.mapM (commit_context (commit_rows c (table_ids.map Prod.snd)) table_ids)

/-! ## Requirements and updates -/

/-- The requirement check of one context, `r.assert(&metadata, metadata_location.is_some())`
for each requirement, stopping at the first failure. -/
def check_requirements (ext : Collaborators) (context : CommitContext) : Except ErrorModel Unit :=
  context.requirements.forM fun r =>
    r.assert ext context.metadata context.metadata_location.isSome

/-- One step of `apply_commits`' loop over a context's updates. `AssignUuid` and `SetLocation`
are refused when they would change the uuid or the location, and otherwise dropped; every
other update goes to the aggregate. -/
def apply_update (ext : Collaborators) (previous_uuid : Nat) (previous_location : String)
    (body : MetadataBody) : TableUpdate → Except ErrorModel MetadataBody
  | .AssignUuid uuid => if uuid ≠ previous_uuid then .error assign_uuid_not_allowed else .ok body
  | .SetLocation location =>
    if location ≠ previous_location then .error set_location_not_allowed else .ok body
  | update => ext.apply update body

/-- One iteration of `apply_commits`: the new metadata location from the storage profile and
the fresh id, the updates folded over `new_from_metadata`, then `build()`. -/
def apply_commit (ext : Collaborators) (minted : Minted) (context : CommitContext) :
    Except ErrorModel CommitTableResponseExt :=
  let previous_location := context.metadata.location
  let previous_uuid := context.metadata.uuid
  let metadata_location :=
    ext.metadata_location context.storage_profile previous_location minted.metadata_id
  match context.updates.foldlM (apply_update ext previous_uuid previous_location)
      context.metadata.body with
  | .error e => .error e
  | .ok body =>
    match ext.build minted.now_ms body with
    | .error e => .error e
    | .ok body =>
      .ok { commit_response := { metadata_location, metadata := { context.metadata with body } }
            storage_config := ⟨context.storage_profile, context.storage_secret_ident⟩
            previous_table_metadata := context.metadata }

/-- `apply_commits`: the contexts in order, the `i`-th drawing `mint i`. -/
def apply_commits (ext : Collaborators) (mint : Nat → Minted) :
    List CommitContext → Except ErrorModel (List CommitTableResponseExt)
  | [] => .ok []
  | context :: commits =>
    match apply_commit ext (mint 0) context with
    | .error e => .error e
    | .ok response => (apply_commits ext (fun i => mint (i + 1)) commits).map (response :: ·)

/-! ## The bulk `UPDATE` -/

/-- The `(uuid, metadata, metadata_location)` rows of the `VALUES` list, one per response. -/
def commit_values (responses : List CommitTableResponseExt) :
    List (Nat × TableMetadata × String) :=
  responses.map fun r =>
    (r.commit_response.metadata.uuid, r.commit_response.metadata,
      r.commit_response.metadata_location)

/-- `UPDATE "table" as t SET "metadata" = c."metadata", "metadata_location" =
c."metadata_location" FROM (VALUES ...) as c(table_id, metadata, metadata_location) WHERE
c.table_id = t.table_id RETURNING t.table_id`, with `fetch_all`. A row with several matching
`VALUES` rows is updated once, from one of them (PostgreSQL does not say which; here the
first), and returned once. An empty `VALUES` list does not parse. -/
def update_tables (c : CatalogState) (values : List (Nat × TableMetadata × String)) :
    Except DbError (List Nat × CatalogState) :=
  if values = [] then .error .SyntaxError
  else
    .ok ((c.tables.filter fun t => ∃ v ∈ values, v.1 = t.table_id).map (·.table_id),
      { c with tables := c.tables.map fun t =>
          match values.find? fun v => v.1 = t.table_id with
          | some (_, metadata, metadata_location) =>
            { t with metadata, metadata_location := some metadata_location }
          | none => t })

/-! ## `commit_table_transaction` -/

/-- The statements of `commit_table_transaction` before its `UPDATE`: the `SELECT` of the
contexts, the bound, the requirements and the updates. Everything after the `SELECT` is
computed in the process, so the whole is a function of the state the `SELECT` saw. -/
def commit_prepare (ext : Collaborators) (c : CatalogState) (request : CommitTransactionRequest)
    (table_ids : List (TableIdent × Nat)) (mint : Nat → Minted) :
    Except ErrorModel (List CommitTableResponseExt) :=
  match get_commit_context c request table_ids with
  | .error e => .error e
  | .ok contexts =>
    if contexts.length > MAX_PARAMETERS / 4 then .error too_many_tables_for_commit
    else
      match contexts.forM (check_requirements ext) with
      | .error e => .error e
      | .ok () => apply_commits ext mint contexts

/-- The bulk `UPDATE` of `commit_table_transaction` and the check of its `RETURNING` count, on
the state it runs against. -/
def commit_write (ext : Collaborators) (c : CatalogState)
    (responses : List CommitTableResponseExt) :
    Except ErrorModel (List CommitTableResponseExt) × CatalogState :=
  match update_tables c (commit_values responses) with
  | .error e => (.error (ext.into_error_model e "Error committing table updates"), c)
  | .ok (updated, c') =>
    if updated.length ≠ responses.length then (.error commit_table_update_error, c')
    else (.ok responses, c')

/-- `commit_table_transaction`: the function's result, and the transaction's state after it.
The warehouse argument is unused, as in the source. -/
def commit_table_transaction (ext : Collaborators) (c : CatalogState) (_warehouse_id : Nat)
    (request : CommitTransactionRequest) (table_ids : List (TableIdent × Nat))
    (mint : Nat → Minted) : Except ErrorModel (List CommitTableResponseExt) × CatalogState :=
  match commit_prepare ext c request table_ids mint with
  | .error e => (.error e, c)
  | .ok responses => commit_write ext c responses

/-! ## What each stage returns -/

section Stages

variable {ext : Collaborators} {c : CatalogState}

/-- A change's context is read from a row of the `SELECT` whose id its identifier resolves to. -/
theorem commit_context_eq_ok {rows : List Joined} {table_ids : List (TableIdent × Nat)}
    {change : CommitTableRequest} {context : CommitContext}
    (h : commit_context rows table_ids change = .ok context) :
    ∃ ident j, change.identifier = some ident ∧ map_get table_ids ident = some j.t.table_id ∧
      j ∈ rows ∧ context = .of change j := by
  unfold commit_context at h
  split at h
  · cases h
  next ident _ =>
    split at h
    · cases h
    next x hx =>
      split at h
      · cases h
      next j hj =>
        cases h
        have hjx : j.t.table_id = x := by simpa using List.find?_some hj
        exact ⟨ident, j, ‹_›, hjx ▸ hx, List.mem_of_find?_eq_some hj, rfl⟩

/-- **What `get_commit_context` returns**: one context per change, read from a row of an active
warehouse whose id the change's identifier resolves to. -/
theorem get_commit_context_eq_ok {request : CommitTransactionRequest}
    {table_ids : List (TableIdent × Nat)} {contexts : List CommitContext}
    (h : get_commit_context c request table_ids = .ok contexts) :
    List.Forall₂ (fun change context => ∃ ident j, change.identifier = some ident ∧
        map_get table_ids ident = some j.t.table_id ∧ j ∈ c.joined ∧ j.w.status = .active ∧
        context = .of change j)
      request.table_changes contexts :=
  (List.forall₂_of_mapM_eq_ok h).imp fun _ _ hc => by
    obtain ⟨ident, j, hi, hx, hj, rfl⟩ := commit_context_eq_ok hc
    simp only [commit_rows, List.mem_filter, decide_eq_true_eq] at hj
    exact ⟨ident, j, hi, hx, hj.1, hj.2.2, rfl⟩

/-- A response keeps its context's uuid and location; only the body is new. -/
theorem apply_commit_eq_ok {minted : Minted} {context : CommitContext}
    {r : CommitTableResponseExt} (h : apply_commit ext minted context = .ok r) :
    ∃ body, r.commit_response.metadata = { context.metadata with body } ∧
      r.commit_response.metadata_location =
        ext.metadata_location context.storage_profile context.metadata.location
          minted.metadata_id := by
  unfold apply_commit at h
  dsimp only at h
  split at h
  · cases h
  split at h
  · cases h
  cases h
  exact ⟨_, rfl, rfl⟩

theorem apply_commits_eq_mapM_enumFrom (mint : Nat → Minted) (k : Nat)
    (contexts : List CommitContext) :
    apply_commits ext (fun i => mint (k + i)) contexts =
      (contexts.enumFrom k).mapM fun p => apply_commit ext (mint p.1) p.2 := by
  induction contexts generalizing k with
  | nil => rfl
  | cons context contexts ih =>
    have hk : (fun i => mint (k + (i + 1))) = fun i => mint (k + 1 + i) :=
      funext fun i => by rw [Nat.add_comm i 1, Nat.add_assoc]
    simp only [apply_commits, List.enumFrom_cons, List.mapM_cons, Nat.add_zero, hk, ih]
    cases apply_commit ext (mint k) context <;>
      cases (contexts.enumFrom (k + 1)).mapM fun p => apply_commit ext (mint p.1) p.2 <;> rfl

/-- **`apply_commits` is a map**: the `i`-th context is committed on its own, with `mint i`. -/
theorem apply_commits_eq_mapM (mint : Nat → Minted) (contexts : List CommitContext) :
    apply_commits ext mint contexts =
      contexts.enum.mapM fun p => apply_commit ext (mint p.1) p.2 := by
  simpa using @apply_commits_eq_mapM_enumFrom ext mint 0 contexts

theorem apply_commits_eq_ok {mint : Nat → Minted} {contexts : List CommitContext}
    {responses : List CommitTableResponseExt}
    (h : apply_commits ext mint contexts = .ok responses) :
    List.Forall₂
      (fun context r => ∃ body, r.commit_response.metadata = { context.metadata with body })
      contexts responses := by
  rw [apply_commits_eq_mapM] at h
  rw [← List.enum_map_snd contexts]
  exact List.forall₂_map_left_iff.2 <|
    (List.forall₂_of_mapM_eq_ok h).imp fun _ _ hr => (apply_commit_eq_ok hr).imp fun _ => And.left

end Stages

/-! ## Writing the responses -/

/-- Row `t` with the response `r` written to it. -/
def TableRow.with_response (t : TableRow) (r : CommitTableResponseExt) : TableRow :=
  { t with metadata := r.commit_response.metadata,
           metadata_location := some r.commit_response.metadata_location }

/-- Row `t` after the first response of `writes` paired with its id, if any, is written. -/
def TableRow.write (writes : List (Nat × CommitTableResponseExt)) (t : TableRow) : TableRow :=
  match writes.find? fun w => w.1 = t.table_id with
  | some (_, r) => t.with_response r
  | none => t

/-- The rows after each response of `writes` is written to the row of the id it is paired
with. -/
def write_responses (writes : List (Nat × CommitTableResponseExt)) (tables : List TableRow) :
    List TableRow :=
  tables.map (TableRow.write writes)

section Write

variable {writes : List (Nat × CommitTableResponseExt)} {t : TableRow}

@[simp] theorem TableRow.write_table_id : (t.write writes).table_id = t.table_id := by
  unfold TableRow.write; split <;> rfl

@[simp] theorem TableRow.write_namespace_id : (t.write writes).namespace_id = t.namespace_id := by
  unfold TableRow.write; split <;> rfl

@[simp] theorem TableRow.write_table_name : (t.write writes).table_name = t.table_name := by
  unfold TableRow.write; split <;> rfl

@[simp] theorem TableRow.write_table_location :
    (t.write writes).table_location = t.table_location := by
  unfold TableRow.write; split <;> rfl

/-- A row is left alone, or gets a response paired with its id. -/
theorem TableRow.write_cases (t : TableRow) (writes : List (Nat × CommitTableResponseExt)) :
    t.write writes = t ∨ ∃ r, (t.table_id, r) ∈ writes ∧ t.write writes = t.with_response r := by
  unfold TableRow.write
  split
  next x r hf =>
    have hx : x = t.table_id := by simpa using List.find?_some hf
    exact .inr ⟨r, hx ▸ List.mem_of_find?_eq_some hf, rfl⟩
  next => exact .inl rfl

/-- A written row has a metadata location if it had one. -/
theorem TableRow.write_committed (h : t.metadata_location.isSome) :
    (t.write writes).metadata_location.isSome := by
  rcases TableRow.write_cases t writes with hw | ⟨r, -, hw⟩ <;> rw [hw]
  · exact h
  · rfl

/-- With distinct ids, a row paired with a response holds exactly that response. -/
theorem TableRow.write_of_mem (hnd : (writes.map Prod.fst).Nodup) {r : CommitTableResponseExt}
    (h : (t.table_id, r) ∈ writes) : t.write writes = t.with_response r := by
  unfold TableRow.write
  split
  next x r' hf =>
    have hx : x = t.table_id := by simpa using List.find?_some hf
    subst hx
    cases List.inj_on_of_nodup_map hnd (List.mem_of_find?_eq_some hf) h rfl
    rfl
  next hf => exact absurd (List.find?_eq_none.1 hf _ h) (by simp)

/-- A row paired with no response is unchanged. -/
theorem TableRow.write_of_not_mem (h : t.table_id ∉ writes.map Prod.fst) : t.write writes = t := by
  unfold TableRow.write
  split
  next x r hf =>
    have hx : x = t.table_id := by simpa using List.find?_some hf
    exact absurd (List.mem_map.2 ⟨_, List.mem_of_find?_eq_some hf, hx⟩) h
  next => rfl

/-- With distinct ids, the order of the responses does not matter. -/
theorem write_responses_perm {writes' : List (Nat × CommitTableResponseExt)}
    (hnd : (writes.map Prod.fst).Nodup) (hp : List.Perm writes writes') (tables : List TableRow) :
    write_responses writes tables = write_responses writes' tables := by
  have hnd' := (hp.map Prod.fst).nodup_iff.1 hnd
  refine List.map_congr_left fun t _ => ?_
  by_cases hk : t.table_id ∈ writes.map Prod.fst
  · obtain ⟨⟨x, r⟩, hmem, hx⟩ := List.mem_map.1 hk
    subst hx
    rw [TableRow.write_of_mem hnd hmem, TableRow.write_of_mem hnd' (hp.subset hmem)]
  · rw [TableRow.write_of_not_mem hk,
      TableRow.write_of_not_mem fun h => hk ((hp.map Prod.fst).mem_iff.2 h)]

/-- Writing two batches of distinct ids one after the other is writing them together. -/
theorem TableRow.write_write {writes' : List (Nat × CommitTableResponseExt)}
    (hdisj : ∀ x ∈ writes.map Prod.fst, x ∉ writes'.map Prod.fst) :
    (t.write writes).write writes' = t.write (writes ++ writes') := by
  cases hf : writes.find? fun w => w.1 = t.table_id with
  | none =>
    have ht : t.write writes = t := by simp only [TableRow.write, hf]
    rw [ht]
    simp only [TableRow.write, List.find?_append, hf, Option.none_or]
  | some w =>
    obtain ⟨x, r⟩ := w
    have hx : x = t.table_id := by simpa using List.find?_some hf
    have ht : t.write writes = t.with_response r := by simp only [TableRow.write, hf]
    have hr : (t.with_response r).write writes' = t.with_response r :=
      TableRow.write_of_not_mem (hdisj _ (List.mem_map.2 ⟨_, List.mem_of_find?_eq_some hf, hx⟩))
    rw [ht, hr]
    simp only [TableRow.write, List.find?_append, hf, Option.or_some]

/-- Writing responses touches no column of a constraint. -/
theorem CatalogState.Wf.write_responses {c : CatalogState} (hc : c.Wf)
    (writes : List (Nat × CommitTableResponseExt)) :
    { c with tables := write_responses writes c.tables }.Wf :=
  hc.map_tables (fun _ => TableRow.write_table_id) (fun _ => TableRow.write_namespace_id)
    (fun _ => TableRow.write_table_name)

end Write

/-- The bulk `UPDATE` over the responses' rows: it returns the ids of the rows whose id is the
uuid of some response, and writes to each row the first response of its uuid. -/
theorem update_tables_commit_values_eq (c : CatalogState) {responses : List CommitTableResponseExt}
    (h : responses ≠ []) :
    update_tables c (commit_values responses) =
      .ok ((c.tables.filter fun t =>
          t.table_id ∈ responses.map (·.commit_response.metadata.uuid)).map (·.table_id),
        { c with
          tables := write_responses
            (responses.map fun r => (r.commit_response.metadata.uuid, r)) c.tables }) := by
  unfold update_tables
  rw [if_neg (by simpa [commit_values] using h)]
  congr 3
  · exact List.filter_congr fun t _ => by simp [commit_values]
  · refine List.map_congr_left fun t _ => ?_
    simp only [TableRow.write, commit_values, List.find?_map, Function.comp_def]
    cases responses.find? fun r => decide (r.commit_response.metadata.uuid = t.table_id) <;> rfl

theorem update_tables_commit_values {c c' : CatalogState} {responses : List CommitTableResponseExt}
    {updated : List Nat} (h : update_tables c (commit_values responses) = .ok (updated, c')) :
    updated = (c.tables.filter fun t =>
        t.table_id ∈ responses.map (·.commit_response.metadata.uuid)).map (·.table_id) ∧
      c' = { c with
        tables := write_responses
          (responses.map fun r => (r.commit_response.metadata.uuid, r)) c.tables } := by
  have hne : responses ≠ [] := by
    rintro rfl
    cases h
  rw [update_tables_commit_values_eq c hne] at h
  cases h
  exact ⟨rfl, rfl⟩

/-! ## The transaction -/

section Transaction

variable {ext : Collaborators} {c : CatalogState} {w : Nat} {request : CommitTransactionRequest}
  {table_ids : List (TableIdent × Nat)} {mint : Nat → Minted} {c' : CatalogState}

theorem commit_prepare_eq_ok {responses : List CommitTableResponseExt}
    (h : commit_prepare ext c request table_ids mint = .ok responses) :
    ∃ contexts, get_commit_context c request table_ids = .ok contexts ∧
      contexts.length ≤ MAX_PARAMETERS / 4 ∧ contexts.forM (check_requirements ext) = .ok () ∧
      apply_commits ext mint contexts = .ok responses := by
  unfold commit_prepare at h
  split at h
  · cases h
  next contexts hctx =>
    split_ifs at h with hlen
    split at h
    · cases h
    next hreq => exact ⟨contexts, hctx, Nat.le_of_not_gt hlen, hreq, h⟩

theorem commit_write_eq_ok {responses responses' : List CommitTableResponseExt}
    (h : commit_write ext c responses = (.ok responses', c')) :
    responses' = responses ∧
      ∃ updated, update_tables c (commit_values responses) = .ok (updated, c') ∧
        updated.length = responses.length := by
  unfold commit_write at h
  split at h
  · cases h
  next updated _ hupd =>
    split_ifs at h with hcount
    · cases h
    · simp only [Prod.mk.injEq, Except.ok.injEq] at h
      obtain ⟨rfl, rfl⟩ := h
      exact ⟨rfl, updated, hupd, not_not.1 hcount⟩

/-- **What the `UPDATE` with its count check accepts**: responses whose uuids are distinct ids of
rows, each of whose rows gets its response. -/
theorem commit_write_eq_ok_iff (hc : c.Wf) {responses responses' : List CommitTableResponseExt} :
    commit_write ext c responses = (.ok responses', c') ↔
      responses' = responses ∧ responses ≠ [] ∧
      (responses.map (·.commit_response.metadata.uuid)).Nodup ∧
      (∀ x ∈ responses.map (·.commit_response.metadata.uuid), ∃ t ∈ c.tables, t.table_id = x) ∧
      c' = { c with
        tables := write_responses
          (responses.map fun r => (r.commit_response.metadata.uuid, r)) c.tables } := by
  have hcount := List.length_filter_mem_eq_iff hc.table_pkey
    (responses.map (·.commit_response.metadata.uuid))
  rw [List.length_map] at hcount
  constructor
  · intro h
    obtain ⟨rfl, updated, hupd, hlen⟩ := commit_write_eq_ok h
    obtain ⟨rfl, rfl⟩ := update_tables_commit_values hupd
    have hne : responses' ≠ [] := by
      rintro rfl
      cases hupd
    rw [List.length_map] at hlen
    exact ⟨rfl, hne, hcount.1 hlen |>.1, hcount.1 hlen |>.2, rfl⟩
  · rintro ⟨rfl, hne, hnd, hids, rfl⟩
    unfold commit_write
    rw [update_tables_commit_values_eq c hne]
    simp only [List.length_map, hcount.2 ⟨hnd, hids⟩, ne_eq, not_true_eq_false, if_false]

/-- **What a successful transaction did**, stage by stage. -/
theorem commit_table_transaction_eq_ok {responses : List CommitTableResponseExt}
    (h : commit_table_transaction ext c w request table_ids mint = (.ok responses, c')) :
    ∃ contexts updated, get_commit_context c request table_ids = .ok contexts ∧
      contexts.length ≤ MAX_PARAMETERS / 4 ∧ contexts.forM (check_requirements ext) = .ok () ∧
      apply_commits ext mint contexts = .ok responses ∧
      update_tables c (commit_values responses) = .ok (updated, c') ∧
      updated.length = responses.length := by
  unfold commit_table_transaction at h
  split at h
  · cases h
  next prepared hprep =>
    obtain ⟨rfl, updated, hupd, hcount⟩ := commit_write_eq_ok h
    obtain ⟨contexts, hctx, hlen, hreq, happ⟩ := commit_prepare_eq_ok hprep
    exact ⟨contexts, updated, hctx, hlen, hreq, happ, hupd, hcount⟩

/-- **What a successful transaction writes**: each row gets the first response carrying its id
as uuid, if any, and every response is the metadata of a row with a new body. -/
theorem commit_table_transaction_writes {responses : List CommitTableResponseExt}
    (h : commit_table_transaction ext c w request table_ids mint = (.ok responses, c')) :
    c' = { c with
        tables := write_responses
          (responses.map fun r => (r.commit_response.metadata.uuid, r)) c.tables } ∧
      ∀ r ∈ responses, ∃ t ∈ c.tables, ∃ body,
        r.commit_response.metadata = { t.metadata with body } := by
  obtain ⟨contexts, updated, hctx, -, -, happ, hupd, -⟩ := commit_table_transaction_eq_ok h
  refine ⟨(update_tables_commit_values hupd).2, fun r hr => ?_⟩
  obtain ⟨context, hc, body, hb⟩ := List.Forall₂.exists_of_mem_right (apply_commits_eq_ok happ) hr
  obtain ⟨_, -, _, j, -, -, hj, -, rfl⟩ :=
    List.Forall₂.exists_of_mem_right (get_commit_context_eq_ok hctx) hc
  exact ⟨j.t, (CatalogState.mem_joined.1 hj).1, body, hb⟩

/-- Every error but `CommitTableUpdateError` is returned before the `UPDATE`, with the
transaction's state as it was. -/
theorem commit_table_transaction_eq_error {e : ErrorModel}
    (h : commit_table_transaction ext c w request table_ids mint = (.error e, c'))
    (he : e ≠ commit_table_update_error) : c' = c := by
  unfold commit_table_transaction commit_write at h
  split at h
  · cases h; rfl
  split at h
  · cases h; rfl
  split_ifs at h
  · cases h; exact absurd rfl he
  · cases h

end Transaction

/-- **A transaction commits every change or none.** On a store where every row's uuid is its
id: on `Ok`, the changes resolve to pairwise distinct ids, one response each, and the new state
writes each response to the row of its change's id and changes nothing else (see
`TableRow.write_of_mem` and `TableRow.write_of_not_mem`); every error but
`CommitTableUpdateError` leaves the state as it was.

Two changes of one table read the same row, so their responses carry the same uuid; the
`UPDATE` writes that row once and returns it once, and the `RETURNING` count falls short. -/
theorem commit_table_transaction_all_or_nothing (ext : Collaborators) (c : Catalog)
    (hu : ∀ t ∈ c.tables, t.metadata.uuid = t.table_id) (w : Nat)
    (request : CommitTransactionRequest) (table_ids : List (TableIdent × Nat))
    (mint : Nat → Minted) :
    (∀ responses c',
      commit_table_transaction ext c.toCatalogState w request table_ids mint = (.ok responses, c') →
      ∃ ids, ids.Nodup ∧ (∀ x ∈ ids, ∃ t ∈ c.tables, t.table_id = x) ∧
        List.Forall₂ (fun change x => ∃ ident, change.identifier = some ident ∧
          map_get table_ids ident = some x) request.table_changes ids ∧
        responses.length = ids.length ∧
        c' = { c.toCatalogState with tables := write_responses (ids.zip responses) c.tables }) ∧
    (∀ e c',
      commit_table_transaction ext c.toCatalogState w request table_ids mint = (.error e, c') →
      e ≠ commit_table_update_error → c' = c.toCatalogState) := by
  refine ⟨fun responses c' h => ?_, fun e c' h he => commit_table_transaction_eq_error h he⟩
  obtain ⟨contexts, updated, hctx, -, -, happ, hupd, hcount⟩ := commit_table_transaction_eq_ok h
  -- each context is read from a row of the store, whose uuid is its id
  have hrow : List.Forall₂ (fun change context => ∃ ident, change.identifier = some ident ∧
      map_get table_ids ident = some context.metadata.uuid) request.table_changes contexts :=
    (get_commit_context_eq_ok hctx).imp fun _ _ ⟨ident, j, hi, hx, hj, _, hj'⟩ => by
      subst hj'
      exact ⟨ident, hi, (hu j.t (CatalogState.mem_joined.1 hj).1).symm ▸ hx⟩
  have huuid : contexts.map (·.metadata.uuid) = responses.map (·.commit_response.metadata.uuid) :=
    List.map_eq_map_of_forall₂ ((apply_commits_eq_ok happ).imp fun _ _ ⟨_, hb⟩ => by rw [hb])
  obtain ⟨rfl, rfl⟩ := update_tables_commit_values hupd
  have hlen : responses.length = (contexts.map (·.metadata.uuid)).length := by
    rw [huuid, List.length_map]
  -- the `RETURNING` count leaves no room for a repeated id or an id with no row
  have hids := (List.length_filter_mem_eq_iff c.wf.table_pkey (contexts.map (·.metadata.uuid))).1
    (by rw [huuid, List.length_map, ← hcount, List.length_map])
  refine ⟨contexts.map (·.metadata.uuid), hids.1, hids.2,
    List.forall₂_map_right_iff.2 hrow, hlen, ?_⟩
  have hzip := List.zip_map' (·.commit_response.metadata.uuid) id responses
  rw [List.map_id] at hzip
  rw [huuid, hzip]
  rfl

theorem commit_table_transaction_all_or_nothing_one_change :
    let c : Catalog := ⟨⟨[⟨1, ⟨""⟩, none, .active⟩], [⟨10, 1, ["a"]⟩],
      [⟨7, 10, "t", ⟨7, "s3://b/t", ⟨[], [], [], [], 0⟩⟩, some "m", "s3://b/t"⟩]⟩, by decide⟩
    let t : TableIdent := ⟨⟨["a"], by simp⟩, "t"⟩
    let request : CommitTransactionRequest := ⟨[⟨some t, [], [.SetProperties [("a", "1")]]⟩]⟩
    let mint : Nat → Minted := fun _ => ⟨100, 1⟩
    let m : TableMetadata := ⟨7, "s3://b/t", ⟨[], [], [], [("a", "1")], 1⟩⟩
    let ml := Collaborators.reference.metadata_location ⟨""⟩ "s3://b/t" 100
    let response : CommitTableResponseExt := ⟨⟨ml, m⟩, ⟨⟨""⟩, none⟩,
      ⟨7, "s3://b/t", ⟨[], [], [], [], 0⟩⟩⟩
    let c' : CatalogState := ⟨c.warehouses, c.namespaces, [⟨7, 10, "t", m, some ml, "s3://b/t"⟩]⟩
    (∀ r ∈ c.tables, r.metadata.uuid = r.table_id) ∧
    commit_table_transaction .reference c.toCatalogState 1 request [(t, 7)] mint =
      (.ok [response], c') ∧
    ∃ ids, ids.Nodup ∧ (∀ x ∈ ids, ∃ r ∈ c.tables, r.table_id = x) ∧
      List.Forall₂ (fun change x => ∃ ident, change.identifier = some ident ∧
        map_get [(t, 7)] ident = some x) request.table_changes ids ∧
      [response].length = ids.length ∧
      c' = { c.toCatalogState with tables := write_responses (ids.zip [response]) c.tables } := by
  intro c t request mint m ml response c'
  have hu : ∀ r ∈ c.tables, r.metadata.uuid = r.table_id := by decide
  have h : commit_table_transaction .reference c.toCatalogState 1 request [(t, 7)] mint =
      (.ok [response], c') := rfl
  exact ⟨hu, h,
    (commit_table_transaction_all_or_nothing .reference c hu 1 request [(t, 7)] mint).1 _ _ h⟩

end IcebergCatalog
