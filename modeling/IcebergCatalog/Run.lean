/-
Runs of the store: sequences of `create_table`, `rename_table`, `drop_table` and
`commit_table_transaction` calls, each in a transaction of its own.

Each call's transaction is committed when the call returns `Ok` and dropped, so rolled back,
when it returns an error. That wrapper is the service's, which is not part of the crate here;
`Op.exec` states it. The outside world's choices (fresh ids, clocks, the metadata location a
create is given) are arguments of the calls.

Every operation keeps the schema's constraints, so a run stays inside `CatalogState.Wf`; the
invariants of the runs below are each stated once for one step and then carried along a run by
one induction.
-/
import IcebergCatalog.Commit

set_option autoImplicit false

namespace IcebergCatalog

/-- One call of the table store, with everything it is passed: `create` is `create_table`,
`rename` is `rename_table`, `drop` is `drop_table` and `commit` is
`commit_table_transaction`. -/
inductive Op where
  | create (namespace_id : Nat) (table : TableIdent) (table_id : Nat)
      (request : CreateTableRequest) (metadata_location : Option String) (now_ms : Nat)
  | rename (warehouse_id source_id : Nat) (source destination : TableIdent)
  | drop (warehouse_id table_id : Nat)
  | commit (warehouse_id : Nat) (request : CommitTransactionRequest)
      (table_ids : List (TableIdent × Nat)) (mint : Nat → Minted)

/-- Modelled from the spec: the transaction around each call (§ Transactions: every mutating
operation runs in one transaction, and a failure rolls all of it back). The call's writes are
kept on `Ok`, and dropped on an error. -/
def Op.exec (ext : Collaborators) (c : CatalogState) : Op → CatalogState
  | .create namespace_id table table_id request metadata_location now_ms =>
    match create_table ext c namespace_id table table_id request metadata_location now_ms with
    | .ok (_, c') => c'
    | .error _ => c
  | .rename warehouse_id source_id source destination =>
    match rename_table ext c warehouse_id source_id source destination with
    | .ok c' => c'
    | .error _ => c
  | .drop warehouse_id table_id =>
    match drop_table c warehouse_id table_id with
    | .ok c' => c'
    | .error _ => c
  | .commit warehouse_id request table_ids mint =>
    match commit_table_transaction ext c warehouse_id request table_ids mint with
    | (.ok _, c') => c'
    | (.error _, _) => c

/-- The store after a sequence of calls. -/
def run (ext : Collaborators) (c : CatalogState) (ops : List Op) : CatalogState :=
  ops.foldl (Op.exec ext) c

@[simp] theorem run_nil (ext : Collaborators) (c : CatalogState) : run ext c [] = c := rfl

@[simp] theorem run_cons (ext : Collaborators) (c : CatalogState) (op : Op) (ops : List Op) :
    run ext c (op :: ops) = run ext (op.exec ext c) ops := rfl

/-- A property every call of a kind keeps holds after every run of such calls. -/
theorem run_induction_on (ext : Collaborators) (P : CatalogState → Prop) (Q : Op → Prop)
    (step : ∀ c (op : Op), Q op → P c → P (op.exec ext c)) :
    ∀ (ops : List Op) (c : CatalogState), (∀ op ∈ ops, Q op) → P c → P (run ext c ops)
  | [], _, _, h => h
  | op :: ops, c, hq, h =>
    run_induction_on ext P Q step ops _ (fun o ho => hq o (List.mem_cons_of_mem op ho))
      (step c op (hq op (List.mem_cons_self op ops)) h)

/-- A property every call keeps holds after every run. -/
theorem run_induction (ext : Collaborators) (P : CatalogState → Prop)
    (step : ∀ c (op : Op), P c → P (op.exec ext c)) (ops : List Op) (c : CatalogState)
    (h : P c) : P (run ext c ops) :=
  run_induction_on ext P (fun _ => True) (fun c op _ => step c op) ops c (fun _ _ => trivial) h

/-! ## What one call does -/

section Step

/-- **What one call does to the rows.** A committed call is a create that inserts or
overwrites, a rename of one row, a drop, or a commit that writes responses; any other call
leaves the store as it was. -/
theorem Op.exec_cases (ext : Collaborators) (c : CatalogState) (op : Op) :
    op.exec ext c = c ∨
    (∃ ns table x request ml now location m, op = .create ns table x request ml now ∧
      request.location = some location ∧ initial_metadata ext location request x now = .ok m ∧
      insert_table c (create_row ns table x m ml location) = .ok (op.exec ext c)) ∨
    (∃ w x src dst f, op = .rename w x src dst ∧ Renames c w x f ∧
      c.with_tables (c.tables.map f) = .ok (op.exec ext c)) ∨
    (∃ w x, op = .drop w x ∧ (∃ t ∈ c.tables, drop_hit c x t) ∧
      op.exec ext c = { c with tables := c.tables.filter fun t => ¬drop_hit c x t }) ∨
    (∃ w request table_ids mint responses, op = .commit w request table_ids mint ∧
      commit_table_transaction ext c w request table_ids mint =
        (.ok responses, op.exec ext c)) := by
  cases op with
  | create ns table x request ml now =>
    rcases h : create_table ext c ns table x request ml now with e | ⟨r, c'⟩
    · exact .inl (by simp only [Op.exec, h])
    · obtain ⟨location, m, hl, hm, -, hi⟩ := create_table_eq_ok h
      refine .inr (.inl ⟨ns, table, x, request, ml, now, location, m, rfl, hl, hm, ?_⟩)
      simpa only [Op.exec, h] using hi
  | rename w x src dst =>
    rcases h : rename_table ext c w x src dst with e | c'
    · exact .inl (by simp only [Op.exec, h])
    · obtain ⟨f, hf, h'⟩ := rename_table_eq_ok h
      refine .inr (.inr (.inl ⟨w, x, src, dst, f, rfl, hf, ?_⟩))
      simpa only [Op.exec, h] using h'
  | drop w x =>
    rcases h : drop_table c w x with e | c'
    · exact .inl (by simp only [Op.exec, h])
    · refine .inr (.inr (.inr (.inl ⟨w, x, rfl, ?_⟩)))
      simpa only [Op.exec, h] using drop_table_eq_ok h
  | commit w request table_ids mint =>
    rcases h : commit_table_transaction ext c w request table_ids mint with ⟨e | responses, c'⟩
    · exact .inl (by simp only [Op.exec, h])
    · refine .inr (.inr (.inr (.inr ⟨w, request, table_ids, mint, responses, rfl, ?_⟩)))
      simp only [Op.exec, h]

variable {ext : Collaborators} {c : CatalogState}

/-- Every call keeps the schema's constraints. -/
theorem CatalogState.Wf.exec (hc : c.Wf) (op : Op) : (op.exec ext c).Wf := by
  rcases Op.exec_cases ext c op with h | ⟨_, _, _, _, _, _, _, _, -, -, -, h⟩ |
    ⟨_, _, _, _, _, -, -, h⟩ | ⟨_, _, -, -, h⟩ | ⟨_, _, _, _, _, -, h⟩
  · rw [h]; exact hc
  · exact hc.insert_table h
  · exact hc.with_tables h
  · rw [h]; exact hc.filter_tables _
  · rw [(commit_table_transaction_writes h).1]
    exact hc.write_responses _

theorem CatalogState.Wf.run (hc : c.Wf) (ops : List Op) : (run ext c ops).Wf :=
  run_induction ext _ (fun _ op hc => hc.exec op) ops c hc

end Step

/-! ## Every row's metadata names the row -/

/-- Every row's metadata carries the row's id as its uuid and the row's location as its
location. -/
def CatalogState.MetadataAgrees (c : CatalogState) : Prop :=
  ∀ t ∈ c.tables, t.metadata.uuid = t.table_id ∧ t.metadata.location = t.table_location

section Agrees

variable {ext : Collaborators} {c : CatalogState}

/-- A commit writes to a row only metadata read from that row: the response's uuid is the
row's id, and the row the context was read from is the row with that id. -/
theorem MetadataAgrees.commit (hc : c.Wf) (hi : c.MetadataAgrees) {w : Nat}
    {request : CommitTransactionRequest} {table_ids : List (TableIdent × Nat)}
    {mint : Nat → Minted} {responses : List CommitTableResponseExt} {c' : CatalogState}
    (h : commit_table_transaction ext c w request table_ids mint = (.ok responses, c')) :
    c'.MetadataAgrees := by
  obtain ⟨rfl, hr⟩ := commit_table_transaction_writes h
  intro t' ht'
  obtain ⟨t, ht, rfl⟩ := List.mem_map.1 ht'
  rcases TableRow.write_cases t (responses.map fun r => (r.commit_response.metadata.uuid, r))
    with hw | ⟨r, hmem, hw⟩ <;> rw [hw]
  · exact hi t ht
  · obtain ⟨r', hr', hpair⟩ := List.mem_map.1 hmem
    obtain ⟨hid, rfl⟩ := Prod.mk.inj hpair
    obtain ⟨t₀, ht₀, body, hb⟩ := hr r' hr'
    -- the row the response was read from has the written row's id, so it is that row
    have ht₀t : t₀ = t := hc.table_eq_of_id ht₀ ht (by rw [← (hi t₀ ht₀).1, ← hid, hb])
    subst ht₀t
    simp only [TableRow.with_response, hb]
    exact hi t₀ ht₀

/-- **Every call keeps each row's metadata naming the row.** A create writes the id it is given
as uuid and its location to both columns, a rename and a drop touch no metadata, and a commit
writes only metadata read from the row itself. -/
theorem MetadataAgrees.exec (hc : c.Wf) (hi : c.MetadataAgrees) (op : Op) :
    (op.exec ext c).MetadataAgrees := by
  rcases Op.exec_cases ext c op with h | ⟨_, _, _, _, _, _, _, _, -, -, hm, h⟩ |
    ⟨_, _, _, _, _, -, hf, h⟩ | ⟨_, _, -, -, h⟩ | ⟨_, _, _, _, _, -, h⟩
  · rwa [h]
  · intro t ht
    rcases mem_of_insert_table h ht with ⟨ht, -⟩ | rfl
    · exact hi t ht
    · exact ⟨(initial_metadata_eq_ok hm).1, (initial_metadata_eq_ok hm).2⟩
  · rw [CatalogState.with_tables_eq_ok h]
    intro t' ht'
    obtain ⟨t, ht, rfl⟩ := List.mem_map.1 ht'
    rw [hf.metadata, hf.table_id, hf.table_location]
    exact hi t ht
  · rw [h]
    exact fun t ht => hi t (List.mem_filter.1 ht).1
  · exact MetadataAgrees.commit hc hi h

end Agrees

/-- **Every row's metadata names the row, after every run.** From a store with no tables, after
any sequence of `create_table`, `rename_table`, `drop_table` and `commit_table_transaction`
calls, every row's metadata has the row's id as uuid and the row's location as location. -/
theorem metadata_names_row_after_every_run (ext : Collaborators) (c : Catalog)
    (h0 : c.tables = []) (ops : List Op) :
    ∀ t ∈ (run ext c.toCatalogState ops).tables,
      t.metadata.uuid = t.table_id ∧ t.metadata.location = t.table_location :=
  (run_induction ext (fun c => c.Wf ∧ c.MetadataAgrees)
    (fun _ op h => ⟨h.1.exec op, MetadataAgrees.exec h.1 h.2 op⟩) ops c.toCatalogState
    ⟨c.wf, fun t ht => by rw [h0] at ht; cases ht⟩).2

theorem metadata_names_row_after_create :
    let c : Catalog := ⟨⟨[⟨1, ⟨""⟩, none, .active⟩], [⟨10, 1, ["a"]⟩], []⟩, by decide⟩
    let ops := [Op.create 10 ⟨⟨["a"], by simp⟩, "t"⟩ 7
      ⟨"t", some "s3://b/t", ⟨""⟩, none, none, none, none⟩ (some "m") 0]
    c.tables = [] ∧
      ∀ t ∈ (run .reference c.toCatalogState ops).tables,
        t.metadata.uuid = t.table_id ∧ t.metadata.location = t.table_location := by
  intro c ops
  exact ⟨rfl, metadata_names_row_after_every_run .reference c rfl ops⟩


/-! ## Committed rows stay committed -/

/-- The call is a `drop_table` of id `x` that deletes a row of `c`: one whose namespace is in an
active warehouse. A drop of `x` that finds no such row deletes nothing. -/
def Op.deletes (c : CatalogState) (x : Nat) : Op → Prop
  | .drop _ table_id => table_id = x ∧ ∃ t ∈ c.tables, drop_hit c x t
  | _ => False

instance (c : CatalogState) (x : Nat) : (op : Op) → Decidable (op.deletes c x)
  | .drop _ table_id => inferInstanceAs (Decidable (table_id = x ∧ ∃ t ∈ c.tables, drop_hit c x t))
  | .create .. => inferInstanceAs (Decidable False)
  | .rename .. => inferInstanceAs (Decidable False)
  | .commit .. => inferInstanceAs (Decidable False)

section Committed

variable {ext : Collaborators} {c : CatalogState}

/-- Row `x` is there, with a metadata location. -/
def CatalogState.committed (c : CatalogState) (x : Nat) : Prop :=
  ∃ t ∈ c.tables, t.table_id = x ∧ t.metadata_location.isSome

/-- **Only a drop that deletes it ends a committed row.** A create does not overwrite it, since
the `DO UPDATE` only fires on a staged row; a rename keeps its metadata location; a commit only
writes a present one. -/
theorem CatalogState.committed.exec (hc : c.Wf) {x : Nat} (hx : c.committed x) (op : Op)
    (hop : ¬op.deletes c x) : (op.exec ext c).committed x := by
  obtain ⟨t, ht, rfl, hm⟩ := hx
  rcases Op.exec_cases ext c op with h | ⟨ns, table, y, _, ml, _, location, m, -, -, -, h⟩ |
    ⟨_, _, _, _, _, -, hf, h⟩ | ⟨_, y, rfl, -, h⟩ | ⟨_, _, _, _, _, -, h⟩
  · rw [h]; exact ⟨t, ht, rfl, hm⟩
  · by_cases hn : (create_row ns table y m ml location).same_name t
    · cases (insert_table_committed hc ht hn hm).symm.trans h
    · exact ⟨t, mem_insert_table h ht hn, rfl, hm⟩
  · rw [CatalogState.with_tables_eq_ok h]
    exact ⟨_, List.mem_map_of_mem _ ht, hf.table_id t, (hf.metadata_location t).symm ▸ hm⟩
  · rw [h]
    exact ⟨t, List.mem_filter.2 ⟨ht, decide_eq_true fun hd => hop ⟨hd.1.symm, t, ht, rfl, hd.2⟩⟩,
      rfl, hm⟩
  · rw [(commit_table_transaction_writes h).1]
    exact ⟨_, List.mem_map_of_mem _ ht, TableRow.write_table_id, TableRow.write_committed hm⟩

/-- So along a run in which no call, in the store it runs in, deletes row `x`, a committed row
`x` stays committed. -/
theorem CatalogState.committed.run {x : Nat} : ∀ (ops : List Op) {d : CatalogState}, d.Wf →
    d.committed x → (∀ pre op post, ops = pre ++ op :: post → ¬op.deletes (run ext d pre) x) →
    (run ext d ops).committed x
  | [], _, _, hx, _ => hx
  | op :: ops, _, hd, hx, h =>
    CatalogState.committed.run ops (hd.exec op) (hx.exec hd op (h [] op ops rfl))
      fun pre o post he => h (op :: pre) o post (congrArg (op :: ·) he)

end Committed

end IcebergCatalog
