/-
The two statements `table.rs` assembles with `sqlx::QueryBuilder`: the `IN` list of
`table_idents_to_ids` (`table.rs:104-126`) and the `UPDATE ... FROM (VALUES ...)` of
`commit_table_transaction` (`table.rs:801-834`).

A builder is the statement so far, as pieces: text from `push`, and a placeholder from
`push_bind`, which `build()` numbers `$1, $2, ...` in order and binds to the value it carries.
Both loops have one shape, `for (i, item) in items.iter().enumerate()` pushing the item's
parenthesised tuple and then `", "` when `i != items.len() - 1`; it is `push_tuples` here,
and what it emits is the tuples joined by `", "` (`List.intercalate`).

What the statements do when run is modelled where they are run (`table_idents_to_ids`,
`update_tables`); this module ties those to the text and parameters the code builds. Two
things follow from the text alone. The lookup binds one parameter before its loop and two per
identifier, so its size check `len > MAX_PARAMETERS / 2` lets through `1 + MAX_PARAMETERS`
parameters. And only the lookup returns early on an empty set: a commit with no changes
reaches its loop with no responses and sends `FROM (VALUES ) as c(...)`, which PostgreSQL
refuses as a syntax error.
-/
import IcebergCatalog.Commit

set_option autoImplicit false

namespace IcebergCatalog

/-! ## `QueryBuilder` -/

/-- A value `push_bind` binds, by its type in the source. -/
inductive SqlArg where
  /-- A `Uuid`: a warehouse or table id. -/
  | uuid (id : Nat)
  /-- A `String`. -/
  | text (s : String)
  /-- A `Vec<String>`: a namespace's parts. -/
  | text_array (parts : List String)
  /-- The `serde_json::Value` of a table's metadata. -/
  | json (metadata : TableMetadata)
  deriving DecidableEq, Repr

/-- A piece of a statement: text from `push`, or a placeholder from `push_bind`. -/
inductive SqlPiece where
  | text (s : String)
  | param (arg : SqlArg)
  deriving DecidableEq, Repr

/-- The value a piece binds, if it is a placeholder. -/
def SqlPiece.arg? : SqlPiece → Option SqlArg
  | .text _ => none
  | .param arg => some arg

/-- `sqlx::QueryBuilder<Postgres>`: the statement so far. -/
structure QueryBuilder where
  sql : List SqlPiece
  deriving DecidableEq, Repr

/-- `QueryBuilder::new`. -/
def QueryBuilder.new (init : String) : QueryBuilder := ⟨[.text init]⟩

/-- `QueryBuilder::push`. -/
def QueryBuilder.push (q : QueryBuilder) (s : String) : QueryBuilder := ⟨q.sql ++ [.text s]⟩

/-- `QueryBuilder::push_bind`. -/
def QueryBuilder.push_bind (q : QueryBuilder) (arg : SqlArg) : QueryBuilder :=
  ⟨q.sql ++ [.param arg]⟩

/-- The values `build()` binds, in the order of their placeholders. -/
def QueryBuilder.arguments (q : QueryBuilder) : List SqlArg := q.sql.filterMap SqlPiece.arg?

@[simp] theorem QueryBuilder.new_sql (init : String) : (QueryBuilder.new init).sql = [.text init] :=
  rfl

@[simp] theorem QueryBuilder.push_sql (q : QueryBuilder) (s : String) :
    (q.push s).sql = q.sql ++ [.text s] := rfl

@[simp] theorem QueryBuilder.push_bind_sql (q : QueryBuilder) (arg : SqlArg) :
    (q.push_bind arg).sql = q.sql ++ [.param arg] := rfl

/-! ## The separated loop -/

/-- One iteration of the loops: the item's tuple, then `", "` unless `i` is the last index of
`len` items. -/
def QueryBuilder.push_tuple {α : Type} (push_item : QueryBuilder → α → QueryBuilder) (len : Nat)
    (q : QueryBuilder) : Nat × α → QueryBuilder
  | (i, item) =>
    let q := push_item q item
    if i ≠ len - 1 then q.push ", " else q

/-- `for (i, item) in items.iter().enumerate() { ... }`. -/
def QueryBuilder.push_tuples {α : Type} (q : QueryBuilder)
    (push_item : QueryBuilder → α → QueryBuilder) (items : List α) : QueryBuilder :=
  items.enum.foldl (QueryBuilder.push_tuple push_item items.length) q

theorem intercalate_cons_cons {α : Type} (sep a b : List α) (l : List (List α)) :
    List.intercalate sep (a :: b :: l) = a ++ sep ++ List.intercalate sep (b :: l) := by
  simp [List.intercalate, List.append_assoc]

section Loop

variable {α : Type} (push_item : QueryBuilder → α → QueryBuilder) (tuple : α → List SqlPiece)

/-- The loop from index `k` of `n` items on: the remaining tuples, each followed by `", "` but
the last. -/
theorem QueryBuilder.foldl_push_tuple_sql (h : ∀ q x, (push_item q x).sql = q.sql ++ tuple x)
    (n : Nat) : ∀ (items : List α) (k : Nat) (q : QueryBuilder), k + items.length = n →
      ((items.enumFrom k).foldl (push_tuple push_item n) q).sql =
        q.sql ++ List.intercalate [.text ", "] (items.map tuple)
  | [], _, q, _ => by simp [List.intercalate]
  | [x], k, q, hk => by
    have hlast : ¬k ≠ n - 1 := by simp at hk; omega
    simp [push_tuple, hlast, h, List.intercalate]
  | x :: y :: items, k, q, hk => by
    have hsep : k ≠ n - 1 := by simp at hk; omega
    rw [List.enumFrom_cons, List.foldl_cons,
      foldl_push_tuple_sql h n (y :: items) (k + 1) _ (by simp at hk ⊢; omega)]
    simp [push_tuple, hsep, h, intercalate_cons_cons]

/-- **The loop emits its items' tuples separated by `", "`**: `n` tuples and `n - 1`
separators, for every `n`. -/
theorem QueryBuilder.push_tuples_sql (h : ∀ q x, (push_item q x).sql = q.sql ++ tuple x)
    (q : QueryBuilder) (items : List α) :
    (q.push_tuples push_item items).sql =
      q.sql ++ List.intercalate [.text ", "] (items.map tuple) :=
  foldl_push_tuple_sql push_item tuple h _ items 0 q (Nat.zero_add _)

end Loop

example : ((QueryBuilder.new "(").push_tuples (fun q (id : Nat) => q.push_bind (.uuid id))
    [1, 2, 3]).sql =
      [.text "(", .param (.uuid 1), .text ", ", .param (.uuid 2), .text ", ", .param (.uuid 3)] := by
  decide

/-- The separators bind nothing: the values bound in a separated list are its tuples'. -/
theorem filterMap_arg_intercalate :
    ∀ ts : List (List SqlPiece), (List.intercalate [.text ", "] ts).filterMap SqlPiece.arg? =
      ts.flatMap (·.filterMap SqlPiece.arg?)
  | [] => rfl
  | [t] => by simp [List.intercalate]
  | t :: u :: ts => by
    rw [intercalate_cons_cons, List.filterMap_append, List.filterMap_append,
      filterMap_arg_intercalate (u :: ts)]
    simp [SqlPiece.arg?]

/-! ## The `IN` list of `table_idents_to_ids` -/

/-- The text `table_idents_to_ids` starts its builder with. -/
def table_idents_to_ids_select : String :=
  "\n        SELECT t.\"table_id\", n.namespace_name as \"namespace\", t.table_name, " ++
    "t.\"metadata_location\"\n        FROM \"table\" t\n" ++
    "        INNER JOIN namespace n ON t.namespace_id = n.namespace_id\n" ++
    "        INNER JOIN warehouse w ON n.warehouse_id = w.warehouse_id\n" ++
    "        WHERE w.status = \x27active\x27 and n.\"warehouse_id\" = "

/-- The body of `table_idents_to_ids`' loop before its separator. -/
def push_table_ident (q : QueryBuilder) (table : TableIdent) : QueryBuilder :=
  q.push "(" |>.push_bind (.text_array table.namespace.parts) |>.push ", "
    |>.push_bind (.text table.name) |>.push ")"

/-- `table_idents_to_ids`' statement, past its two early returns, for the identifiers in the
set's iteration order. -/
def table_idents_to_ids_query (warehouse_id : Nat) (tables : HashSet TableIdent) :
    QueryBuilder :=
  QueryBuilder.new table_idents_to_ids_select
    |>.push_bind (.uuid warehouse_id)
    |>.push " AND (n.namespace_name, t.table_name) IN "
    |>.push "("
    |>.push_tuples push_table_ident tables.elems
    |>.push ")"

/-- The tuple of one identifier: `($i, $j)` over its namespace's parts and its name. -/
def table_ident_tuple (table : TableIdent) : List SqlPiece :=
  [.text "(", .param (.text_array table.namespace.parts), .text ", ", .param (.text table.name),
    .text ")"]

/-- The statement up to the `IN` list's first tuple. -/
def table_idents_to_ids_head (warehouse_id : Nat) : List SqlPiece :=
  [.text table_idents_to_ids_select, .param (.uuid warehouse_id),
    .text " AND (n.namespace_name, t.table_name) IN ", .text "("]

theorem table_idents_to_ids_query_sql (warehouse_id : Nat) (tables : HashSet TableIdent) :
    (table_idents_to_ids_query warehouse_id tables).sql =
      table_idents_to_ids_head warehouse_id ++
        List.intercalate [.text ", "] (tables.elems.map table_ident_tuple) ++ [.text ")"] := by
  simp only [table_idents_to_ids_query, QueryBuilder.push_sql,
    QueryBuilder.push_tuples_sql push_table_ident table_ident_tuple (fun _ _ => by
      simp [push_table_ident, table_ident_tuple])]
  simp [table_idents_to_ids_head]

/-- The lookup binds the warehouse, then each identifier's namespace and name: the pairs its
`IN` list holds are the pairs `table_idents_to_ids` filters its rows by. -/
theorem table_idents_to_ids_query_arguments (warehouse_id : Nat) (tables : HashSet TableIdent) :
    (table_idents_to_ids_query warehouse_id tables).arguments =
      .uuid warehouse_id ::
        tables.elems.flatMap fun t => [.text_array t.namespace.parts, .text t.name] := by
  simp [QueryBuilder.arguments, table_idents_to_ids_query_sql, table_idents_to_ids_head,
    filterMap_arg_intercalate, table_ident_tuple, SqlPiece.arg?, List.flatMap_map]

theorem length_flatMap_const {β γ : Type} (f : β → List γ) (k : Nat)
    (hf : ∀ b, (f b).length = k) (l : List β) : (l.flatMap f).length = k * l.length := by
  induction l with
  | nil => rfl
  | cons b l ih => rw [List.flatMap_cons, List.length_append, ih, hf, List.length_cons,
      Nat.mul_succ, Nat.add_comm]

/-- The lookup binds `1 + 2n` parameters for `n` identifiers. -/
theorem table_idents_to_ids_query_arguments_length (warehouse_id : Nat)
    (tables : HashSet TableIdent) :
    (table_idents_to_ids_query warehouse_id tables).arguments.length =
      1 + 2 * tables.elems.length := by
  rw [table_idents_to_ids_query_arguments, List.length_cons, length_flatMap_const _ 2,
    Nat.add_comm]
  exact fun _ => rfl

/-! ## The `VALUES` list of `commit_table_transaction` -/

/-- The text `commit_table_transaction` starts its builder with. -/
def commit_table_transaction_update : String :=
  "\n        UPDATE \"table\" as t\n" ++
    "        SET \"metadata\" = c.\"metadata\", \"metadata_location\" = c.\"metadata_location\"\n" ++
    "        FROM (VALUES\n        "

/-- The body of `commit_table_transaction`'s loop before its separator. Serializing the
metadata cannot fail here: the model's `TableMetadata` has no map with non-string keys. -/
def push_commit_response (q : QueryBuilder) (response : CommitTableResponseExt) : QueryBuilder :=
  q.push "(" |>.push_bind (.uuid response.commit_response.metadata.uuid) |>.push ", "
    |>.push_bind (.json response.commit_response.metadata) |>.push ", "
    |>.push_bind (.text response.commit_response.metadata_location) |>.push ")"

/-- `commit_table_transaction`'s bulk `UPDATE`, over the responses `apply_commits` returned. -/
def commit_table_transaction_query (responses : List CommitTableResponseExt) : QueryBuilder :=
  QueryBuilder.new commit_table_transaction_update
    |>.push_tuples push_commit_response responses
    |>.push ") as c(table_id, metadata, metadata_location) WHERE c.table_id = t.table_id"
    |>.push " RETURNING t.table_id"

/-- The tuple of one response: `($i, $j, $k)` over its uuid, metadata and metadata location. -/
def commit_response_tuple (response : CommitTableResponseExt) : List SqlPiece :=
  [.text "(", .param (.uuid response.commit_response.metadata.uuid), .text ", ",
    .param (.json response.commit_response.metadata), .text ", ",
    .param (.text response.commit_response.metadata_location), .text ")"]

/-- The statement after the `VALUES` list's last tuple. -/
def commit_table_transaction_tail : List SqlPiece :=
  [.text ") as c(table_id, metadata, metadata_location) WHERE c.table_id = t.table_id",
    .text " RETURNING t.table_id"]

theorem commit_table_transaction_query_sql (responses : List CommitTableResponseExt) :
    (commit_table_transaction_query responses).sql =
      .text commit_table_transaction_update ::
        List.intercalate [.text ", "] (responses.map commit_response_tuple) ++
          commit_table_transaction_tail := by
  simp only [commit_table_transaction_query, QueryBuilder.push_sql,
    QueryBuilder.push_tuples_sql push_commit_response commit_response_tuple (fun _ _ => by
      simp [push_commit_response, commit_response_tuple])]
  simp [commit_table_transaction_tail]

/-- The `UPDATE` binds the rows `update_tables` runs over: three values per response, the
`commit_values` of the responses in order. -/
theorem commit_table_transaction_query_arguments (responses : List CommitTableResponseExt) :
    (commit_table_transaction_query responses).arguments =
      (commit_values responses).flatMap fun v => [.uuid v.1, .json v.2.1, .text v.2.2] := by
  simp [QueryBuilder.arguments, commit_table_transaction_query_sql, commit_table_transaction_tail,
    filterMap_arg_intercalate, commit_response_tuple, SqlPiece.arg?, commit_values,
    List.flatMap_map]

/-- The `UPDATE` binds `3n` parameters for `n` responses. -/
theorem commit_table_transaction_query_arguments_length (responses : List CommitTableResponseExt) :
    (commit_table_transaction_query responses).arguments.length = 3 * responses.length := by
  rw [commit_table_transaction_query_arguments, length_flatMap_const _ 3, commit_values,
    List.length_map]
  exact fun _ => rfl

/-! ## What reaches the two statements -/

/-- An `UPDATE` over a `VALUES` list is refused as a syntax error exactly when the list is
empty, which is when there are no responses. -/
theorem update_tables_commit_values_eq_error_iff (c : CatalogState)
    (responses : List CommitTableResponseExt) :
    update_tables c (commit_values responses) = .error .SyntaxError ↔ responses = [] := by
  by_cases h : responses = []
  · subst h; exact iff_of_true rfl rfl
  · simp [update_tables, commit_values, h]

/-- The responses that reach the `UPDATE`: one per change, at most `MAX_PARAMETERS / 4`. -/
theorem commit_prepare_length {ext : Collaborators} {c : CatalogState}
    {request : CommitTransactionRequest} {table_ids : List (TableIdent × Nat)}
    {mint : Nat → Minted} {responses : List CommitTableResponseExt}
    (h : commit_prepare ext c request table_ids mint = .ok responses) :
    responses.length = request.table_changes.length ∧ responses.length ≤ MAX_PARAMETERS / 4 := by
  obtain ⟨contexts, hctx, hlen, -, happ⟩ := commit_prepare_eq_ok h
  have hchanges := (get_commit_context_eq_ok hctx).length_eq
  have hresponses := (apply_commits_eq_ok happ).length_eq
  omega

/-- **What the bulk statements bind.** The lookup binds the warehouse and then, pair by pair,
the `(namespace, name)` pairs its filter matches rows against: `1 + 2n` parameters for `n`
identifiers, within `MAX_PARAMETERS` exactly when `n < MAX_PARAMETERS / 2`. Its size check lets
`n = MAX_PARAMETERS / 2` through: a set of that size reaches the statement, in every store, and
binds `MAX_PARAMETERS + 1`. The commit binds `3n` for the `n` responses that reach its `UPDATE`,
within `MAX_PARAMETERS`. -/
theorem bulk_statements_bind_count (ext : Collaborators) (c : CatalogState)
    (request : CommitTransactionRequest) (table_ids : List (TableIdent × Nat))
    (mint : Nat → Minted) :
    (∀ (warehouse_id : Nat) (tables : HashSet TableIdent),
      (table_idents_to_ids_query warehouse_id tables).arguments =
          .uuid warehouse_id :: (tables.elems.map fun t => (t.namespace.parts, t.name)).flatMap
            (fun p => [.text_array p.1, .text p.2]) ∧
        (table_idents_to_ids_query warehouse_id tables).arguments.length =
          1 + 2 * tables.elems.length ∧
        ((table_idents_to_ids_query warehouse_id tables).arguments.length ≤ MAX_PARAMETERS ↔
          tables.elems.length < MAX_PARAMETERS / 2)) ∧
    (∃ tables : HashSet TableIdent, tables.elems.length = MAX_PARAMETERS / 2 ∧
      ∀ warehouse_id, (table_idents_to_ids_query warehouse_id tables).arguments.length =
          MAX_PARAMETERS + 1 ∧
        ∀ (d : CatalogState) (include_staged : Bool),
          ∃ m, table_idents_to_ids d warehouse_id tables include_staged = .ok m) ∧
    ∀ responses, commit_prepare ext c request table_ids mint = .ok responses →
      (commit_table_transaction_query responses).arguments.length = 3 * responses.length ∧
        (commit_table_transaction_query responses).arguments.length ≤ MAX_PARAMETERS := by
  let name (i : Nat) : TableIdent := ⟨⟨["a"], List.cons_ne_nil _ _⟩, ⟨List.replicate i 'a'⟩⟩
  have hname : Function.Injective name := fun i j h => by
    simpa [name] using congrArg (fun t : TableIdent => t.name.length) h
  let tables : HashSet TableIdent :=
    ⟨(List.range (MAX_PARAMETERS / 2)).map name, (List.nodup_range _).map hname⟩
  have hlen : tables.elems.length = MAX_PARAMETERS / 2 := by simp [tables]
  refine ⟨fun warehouse_id tables => ?_, ⟨tables, hlen, fun warehouse_id => ⟨?_,
    fun d s => table_idents_to_ids_eq_ok_of_le d warehouse_id tables s hlen.le⟩⟩,
    fun responses h => ?_⟩
  · rw [table_idents_to_ids_query_arguments_length, table_idents_to_ids_query_arguments,
      List.flatMap_map]
    exact ⟨rfl, rfl, by unfold MAX_PARAMETERS; omega⟩
  · rw [table_idents_to_ids_query_arguments_length, hlen]
    rfl
  · have hlen := (commit_prepare_length h).2
    rw [commit_table_transaction_query_arguments_length]
    exact ⟨rfl, by unfold MAX_PARAMETERS at hlen ⊢; omega⟩

/-- **The bulk lists hold one tuple per item; only the lookup's is never empty.** For every
input, the lookup's `IN` list is its identifiers' tuples separated by `", "`, and on an empty set
`table_idents_to_ids` returns before building it. The commit's `VALUES` list is its responses'
tuples separated by `", "`, the responses that reach it are one per change, and the `UPDATE` is
refused exactly when there are none. A request with no changes reaches it with none, and
`commit_table_transaction` returns the refusal. -/
theorem bulk_lists_one_tuple_per_item (ext : Collaborators) (c : CatalogState) (w : Nat)
    (table_ids : List (TableIdent × Nat)) (mint : Nat → Minted) :
    (∀ (warehouse_id : Nat) (tables : HashSet TableIdent) (include_staged : Bool),
      (table_idents_to_ids_query warehouse_id tables).sql =
          table_idents_to_ids_head warehouse_id ++
            List.intercalate [.text ", "] (tables.elems.map table_ident_tuple) ++ [.text ")"] ∧
        (tables.elems = [] → table_idents_to_ids c warehouse_id tables include_staged = .ok [])) ∧
    (∀ responses : List CommitTableResponseExt,
      (commit_table_transaction_query responses).sql =
          .text commit_table_transaction_update ::
            List.intercalate [.text ", "] (responses.map commit_response_tuple) ++
              commit_table_transaction_tail ∧
        (update_tables c (commit_values responses) = .error .SyntaxError ↔ responses = [])) ∧
    (∀ (request : CommitTransactionRequest) (responses : List CommitTableResponseExt),
      commit_prepare ext c request table_ids mint = .ok responses →
        responses.length = request.table_changes.length) ∧
    commit_prepare ext c ⟨[]⟩ table_ids mint = .ok [] ∧
    commit_table_transaction ext c w ⟨[]⟩ table_ids mint =
      (.error (ext.into_error_model .SyntaxError "Error committing table updates"), c) :=
  ⟨fun warehouse_id tables _ => ⟨table_idents_to_ids_query_sql warehouse_id tables,
      fun h => by simp [table_idents_to_ids, h]⟩,
    fun responses => ⟨commit_table_transaction_query_sql responses,
      update_tables_commit_values_eq_error_iff c responses⟩,
    fun _ _ h => (commit_prepare_length h).1, rfl, rfl⟩

end IcebergCatalog
