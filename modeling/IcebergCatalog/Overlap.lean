/-
A `commit_table_transaction` run and one call of one statement (a create, a rename or a drop,
each in a transaction of its own) under `READ COMMITTED`.

The call can fall before the commit's `SELECT`, between its `SELECT` and its `UPDATE`, or
after its `COMMIT`; falling before or after, it is one of the two serial orders. Between, the
commit computes from the rows before the call and writes by id into the rows after it, and
what decides the outcome is whether the call took away a row the commit read:

* a rename and a drop commute with the commit's write, as does a create, whose id is fresh; so
  when the commit's `UPDATE` finds every row it answers, the result is the call after the
  commit;
* when the call took away a row the commit read (a drop of it, or a create overwriting that
  staged row under a new id), the `RETURNING` count comes up short and the commit rolls back,
  leaving the call's store, which is also what the call before the commit leaves, since the
  commit's `SELECT` then misses the row.

So every position is a serial order (`call_inside_commit_is_serial`). A drop of a table the
commit changes wins in every position, and between the two statements it makes the commit
return `CommitTableUpdateError` (`drop_wins_over_commit`).
-/
import IcebergCatalog.Footprint

set_option autoImplicit false

namespace IcebergCatalog

/-! ## A call of one statement inside a commit -/

/-- Where a call of one statement (a create, a rename or a drop, each in a transaction of its
own) falls in a commit's run: before its `SELECT`, between its `SELECT` and its `UPDATE`, or
after its `COMMIT`. A call that comes while the `UPDATE`'s row locks are held waits for the
`COMMIT`, so it falls after it. -/
inductive CallAt where
  | before_select
  | between
  | after_commit
  deriving DecidableEq, Repr

/-- The commit `tx` from `c`, with the call `op` falling at `pos`: what the commit returns, and
the store at the end. -/
def with_call (ext : Collaborators) (tx : Txn) (op : Op) (c : CatalogState) :
    CallAt → Except ErrorModel (List CommitTableResponseExt) × CatalogState
  | .before_select => commit_apply ext (op.exec ext c) (prepare ext tx (op.exec ext c))
  | .between => commit_apply ext (op.exec ext c) (prepare ext tx c)
  | .after_commit =>
    let r := commit_apply ext c (prepare ext tx c)
    (r.1, op.exec ext r.2)

/-- A change of the commit resolves to the id `x`. -/
def Txn.changes (tx : Txn) (x : Nat) : Prop :=
  ∃ change ∈ tx.request.table_changes, ∃ ident, change.identifier = some ident ∧
    map_get tx.table_ids ident = some x

section Drop

variable {ext : Collaborators} {c : CatalogState} {w x : Nat}

/-- The `WHERE` of the drop reads the namespaces and warehouses, which no `UPDATE` of the rows
changes. -/
theorem drop_hit_tables {ts : List TableRow} {t : TableRow} :
    drop_hit { c with tables := ts } x t ↔ drop_hit c x t := Iff.rfl

theorem drop_exec_eq (hdrop : ∃ t ∈ c.tables, drop_hit c x t) :
    (Op.drop w x).exec ext c = { c with tables := c.tables.filter fun t => ¬drop_hit c x t } := by
  simp only [Op.exec, drop_table, if_pos hdrop]

/-- A drop is its `DELETE`, whether it hits or not. -/
theorem drop_exec_tables (w x : Nat) :
    (Op.drop w x).exec ext c = { c with tables := c.tables.filter fun t => ¬drop_hit c x t } := by
  by_cases h : ∃ t ∈ c.tables, drop_hit c x t
  · exact drop_exec_eq h
  · simp only [Op.exec, drop_table, if_neg h]
    rw [List.filter_eq_self.2 fun t ht =>
      decide_eq_true (show ¬drop_hit c x t from fun hd => h ⟨t, ht, hd⟩)]

/-- A drop that hits deletes every row of its id: the ids are a key. -/
theorem drop_exec_no_row (hc : c.Wf) (hdrop : ∃ t ∈ c.tables, drop_hit c x t) :
    ∀ t ∈ ((Op.drop w x).exec ext c).tables, t.table_id ≠ x := by
  rw [drop_exec_eq hdrop]
  intro t ht hx
  obtain ⟨t', ht', hhit⟩ := hdrop
  obtain ⟨ht, hnot⟩ := List.mem_filter.1 ht
  rw [hc.table_eq_of_id ht ht' (hx.trans hhit.1.symm)] at hnot
  exact of_decide_eq_false (by simpa using hnot) hhit

/-- A commit leaves the row a drop would hit for it to hit. -/
theorem drop_hit_exec (hc : c.Wf) (tx : Txn) (hdrop : ∃ t ∈ c.tables, drop_hit c x t) :
    ∃ t ∈ (tx.op.exec ext c).tables, drop_hit (tx.op.exec ext c) x t := by
  rcases Txn.exec_eq hc tx with h | ⟨_, -, -, h⟩ <;> rw [h]
  · exact hdrop
  · obtain ⟨t, ht, hid, hns⟩ := hdrop
    exact ⟨_, List.mem_map_of_mem _ ht, by rw [TableRow.write_table_id]; exact hid,
      by rw [TableRow.write_namespace_id]; exact hns⟩

/-- A commit with a change of id `x` fails its `SELECT` on a store without row `x`. -/
theorem prepare_eq_error {tx : Txn} (hx : tx.changes x) (hno : ∀ t ∈ c.tables, t.table_id ≠ x) :
    ∃ e, prepare ext tx c = .error e := by
  rcases h : prepare ext tx c with e | responses
  · exact ⟨e, rfl⟩
  · obtain ⟨change, hchange, ident, hi, hxi⟩ := hx
    obtain ⟨j, hj, hjx, -⟩ := commit_prepare_row_of_change h hchange hi hxi
    exact absurd hjx (hno j.t (CatalogState.mem_joined.1 hj).1)

/-- An `UPDATE` its count check refuses returns `CommitTableUpdateError` and rolls back. -/
theorem commit_apply_of_not_accepts (hc : c.Wf) {responses : List CommitTableResponseExt}
    (hne : responses ≠ []) (hna : ¬update_accepts c responses) :
    commit_apply ext c (.ok responses) = (.error commit_table_update_error, c) := by
  have hcount := List.length_filter_mem_eq_iff hc.table_pkey
    (responses.map (·.commit_response.metadata.uuid))
  rw [List.length_map] at hcount
  have hfst : (commit_write ext c responses).1 = _ := commit_write_fst c responses
  rw [if_neg hne, if_pos fun h => hna ⟨hne, hcount.1 h⟩] at hfst
  refine Prod.ext ?_ ?_
  · rw [commit_apply_ok_fst, hfst]
  · rw [commit_apply_ok_snd hc, if_neg hna]

end Drop

section Write

variable {writes : List (Nat × CommitTableResponseExt)} {c : CatalogState}

@[simp] theorem CatalogState.warehouse_active_tables (ts : List TableRow) :
    ({ c with tables := ts } : CatalogState).warehouse_active = c.warehouse_active := rfl

@[simp] theorem CatalogState.namespace_active_tables (ts : List TableRow) :
    ({ c with tables := ts } : CatalogState).namespace_active = c.namespace_active := rfl

/-- A write of metadata and a rename of a row act on different columns. -/
theorem TableRow.write_rename {t : TableRow} {name : String} :
    ({ t with table_name := name } : TableRow).write writes =
      { t.write writes with table_name := name } := by
  cases h : writes.find? fun w => w.1 = t.table_id <;> simp [TableRow.write, h, TableRow.with_response]

theorem TableRow.write_move {t : TableRow} {name : String} {ns : Nat} :
    ({ t with table_name := name, namespace_id := ns } : TableRow).write writes =
      { t.write writes with table_name := name, namespace_id := ns } := by
  cases h : writes.find? fun w => w.1 = t.table_id <;> simp [TableRow.write, h, TableRow.with_response]

/-- An `UPDATE` of some rows, by a condition a write of metadata does not change, into rows a
write treats as the originals, commutes with the write. -/
theorem write_responses_map_ite {p : TableRow → Prop} [DecidablePred p] {u : TableRow → TableRow}
    (hp : ∀ t, p (t.write writes) ↔ p t) (hu : ∀ t, (u t).write writes = u (t.write writes))
    (ts : List TableRow) :
    (write_responses writes ts).map (fun t => if p t then u t else t) =
      write_responses writes (ts.map fun t => if p t then u t else t) := by
  simp only [write_responses, List.map_map]
  refine List.map_congr_left fun t _ => ?_
  by_cases h : p t <;> simp [h, hp, hu]

/-- The constraint checks see the same keys after a write. -/
theorem with_tables_write (ts : List TableRow) :
    { c with tables := write_responses writes c.tables }.with_tables (write_responses writes ts) =
      (c.with_tables ts).map fun d => { d with tables := write_responses writes d.tables } := by
  unfold CatalogState.with_tables
  simp only [write_responses, List.map_map, Function.comp_def, TableRow.write_table_id,
    TableRow.write_namespace_id, TableRow.write_table_name, List.forall_mem_map]
  split_ifs <;> rfl

end Write

section Rename

variable {writes : List (Nat × CommitTableResponseExt)} {c : CatalogState}

theorem rename_in_namespace_write {w x : Nat} {name : String} :
    rename_in_namespace { c with tables := write_responses writes c.tables } w x name =
      (rename_in_namespace c w x name).map fun d =>
        { d with tables := write_responses writes d.tables } := by
  have hex : (∃ t ∈ write_responses writes c.tables, t.table_id = x ∧ c.warehouse_active w) ↔
      ∃ t ∈ c.tables, t.table_id = x ∧ c.warehouse_active w := by
    simp [write_responses]
  unfold rename_in_namespace
  simp only [CatalogState.warehouse_active_tables, hex]
  split_ifs
  · rw [← with_tables_write]
    congr 1
    exact write_responses_map_ite (p := fun t => t.table_id = x ∧ c.warehouse_active w)
      (u := fun t => { t with table_name := name }) (fun _ => by simp only [TableRow.write_table_id])
      (fun _ => TableRow.write_rename) _
  · rfl

theorem rename_across_namespaces_write {w x : Nat} {src name : String} {ns : List String} :
    rename_across_namespaces { c with tables := write_responses writes c.tables } w x src name ns =
      (rename_across_namespaces c w x src name ns).map fun d =>
        { d with tables := write_responses writes d.tables } := by
  have hex : (∃ t ∈ write_responses writes c.tables, t.table_id = x ∧ t.table_name = src ∧
        c.warehouse_active w) ↔
      ∃ t ∈ c.tables, t.table_id = x ∧ t.table_name = src ∧ c.warehouse_active w := by
    simp [write_responses]
  unfold rename_across_namespaces
  simp only [CatalogState.warehouse_active_tables, hex]
  split_ifs
  · split
    · rfl
    · rw [← with_tables_write]
      congr 1
      exact write_responses_map_ite
        (p := fun t => t.table_id = x ∧ t.table_name = src ∧ c.warehouse_active w)
        (u := fun t => { t with table_name := name, namespace_id := _ })
        (fun _ => by simp only [TableRow.write_table_id, TableRow.write_table_name])
        (fun _ => TableRow.write_move) _
  · rfl

theorem rename_exec_write (ext : Collaborators) {w x : Nat} {src dst : TableIdent} :
    (Op.rename w x src dst).exec ext { c with tables := write_responses writes c.tables } =
      { (Op.rename w x src dst).exec ext c with
        tables := write_responses writes ((Op.rename w x src dst).exec ext c).tables } := by
  simp only [Op.exec, rename_table, rename_in_namespace_write, rename_across_namespaces_write]
  split_ifs
  · cases rename_in_namespace c w x dst.name with
    | ok d => rfl
    | error e => cases e <;> rfl
  · cases rename_across_namespaces c w x src.name dst.name dst.namespace.parts with
    | ok d => rfl
    | error e => cases e <;> rfl

theorem drop_exec_write (ext : Collaborators) {w x : Nat} :
    (Op.drop w x).exec ext { c with tables := write_responses writes c.tables } =
      { (Op.drop w x).exec ext c with
        tables := write_responses writes ((Op.drop w x).exec ext c).tables } := by
  rw [drop_exec_tables, drop_exec_tables]
  simp only [write_responses, List.filter_map, Function.comp_def, drop_hit_tables]
  congr 2
  refine List.filter_congr fun t _ => ?_
  simp [drop_hit]

end Rename

section Insert

variable {writes : List (Nat × CommitTableResponseExt)} {c : CatalogState} {row : TableRow}

/-- An insert commutes with a write that touches neither the new row nor the staged row it
would overwrite. -/
theorem insert_table_write (hy : row.table_id ∉ writes.map Prod.fst)
    (hold : c.namespace_active row.namespace_id → ∀ t ∈ c.tables, row.same_name t →
      t.metadata_location = none → t.table_id ∉ writes.map Prod.fst) :
    insert_table { c with tables := write_responses writes c.tables } row =
      (insert_table c row).map fun d => { d with tables := write_responses writes d.tables } := by
  unfold insert_table
  simp only [CatalogState.namespace_active_tables]
  split_ifs with hact
  · have hfind : (write_responses writes c.tables).find? (fun t => row.same_name t) =
        (c.tables.find? fun t => row.same_name t).map (TableRow.write writes) := by
      rw [write_responses, List.find?_map]
      congr 1
      simp [Function.comp_def, TableRow.same_name]
    rw [hfind]
    cases hf : c.tables.find? fun t => row.same_name t with
    | none =>
      rw [Option.map_none', ← with_tables_write]
      simp [write_responses, TableRow.write_of_not_mem hy]
    | some old =>
      have hsame : row.same_name old := by simpa using List.find?_some hf
      rw [Option.map_some']
      dsimp only
      by_cases hst : old.metadata_location = none
      · have hnot := hold hact old (List.mem_of_find?_eq_some hf) hsame hst
        have hnone : old.metadata_location.isNone := by simp [hst]
        rw [TableRow.write_of_not_mem hnot, if_pos hnone, if_pos hnone, ← with_tables_write]
        congr 1
        -- the overwrite sets every column a write sets, under an id no write touches
        refine write_responses_map_ite (fun _ => by simp [TableRow.same_name]) (fun t => ?_) _
        simp only [TableRow.write_namespace_id, TableRow.write_table_name]
        exact TableRow.write_of_not_mem hy
      · have hsome : (old.write writes).metadata_location.isSome :=
          TableRow.write_committed (Option.isSome_iff_ne_none.2 hst)
        have hst' : ¬(old.write writes).metadata_location.isNone := by
          simp [Option.isNone_iff_eq_none, ← Option.isSome_iff_ne_none, hsome]
        rw [if_neg hst', if_neg (by simpa [Option.isNone_iff_eq_none] using hst)]
        rfl
  · rfl

end Insert

section Create

variable {ext : Collaborators} {writes : List (Nat × CommitTableResponseExt)} {c : CatalogState}
  {ns y now : Nat} {table : TableIdent} {request : CreateTableRequest} {ml : Option String}

/-- A create commutes with a write that touches neither its id nor a staged row it would
overwrite. -/
theorem create_exec_write (hy : y ∉ writes.map Prod.fst)
    (hold : ∀ location m, request.location = some location →
      initial_metadata ext location request y now = .ok m → c.namespace_active ns →
      ∀ t ∈ c.tables, t.namespace_id = ns → t.table_name = table.name →
        t.metadata_location = none → t.table_id ∉ writes.map Prod.fst) :
    (Op.create ns table y request ml now).exec ext
        { c with tables := write_responses writes c.tables } =
      { (Op.create ns table y request ml now).exec ext c with
        tables := write_responses writes ((Op.create ns table y request ml now).exec ext c).tables } := by
  rcases hloc : request.location with _ | location
  · simp only [Op.exec, create_table, hloc]
  rcases hm : initial_metadata ext location request y now with e | m
  · simp only [Op.exec, create_table, hloc, hm]
  have hins : insert_table { c with tables := write_responses writes c.tables }
      (create_row ns table y m ml location) =
      (insert_table c (create_row ns table y m ml location)).map fun d =>
        { d with tables := write_responses writes d.tables } :=
    insert_table_write hy fun hact t ht hsame hst =>
      hold location m hloc hm hact t ht hsame.1 hsame.2 hst
  simp only [Op.exec, create_table, hloc, hm, hins]
  cases insert_table c (create_row ns table y m ml location) with
  | ok d => rfl
  | error e => cases e <;> rfl

end Create

/-! ## Every position is a serial order -/

/-- A call of one statement as the service makes it: a create with a fresh id
(`Uuid::now_v7()`), which no row carries, a rename or a drop. -/
def Op.one_statement (c : CatalogState) : Op → Prop
  | .create _ _ table_id _ _ _ => ∀ t ∈ c.tables, t.table_id ≠ table_id
  | .rename .. => True
  | .drop .. => True
  | .commit .. => False

instance (c : CatalogState) : (op : Op) → Decidable (op.one_statement c)
  | .create _ _ table_id _ _ _ => inferInstanceAs (Decidable (∀ t ∈ c.tables, t.table_id ≠ table_id))
  | .rename .. => inferInstanceAs (Decidable True)
  | .drop .. => inferInstanceAs (Decidable True)
  | .commit .. => inferInstanceAs (Decidable False)

section Serial

variable {ext : Collaborators} {c : CatalogState} {tx : Txn}
  {responses : List CommitTableResponseExt}

/-- Where every uuid is its row's id, each uuid a commit's responses carry is the id of a row it
read, which one of its changes resolves to. -/
theorem prepare_uuid_row (hu : c.MetadataAgrees) (h : prepare ext tx c = .ok responses) :
    ∀ x ∈ responses.map (·.commit_response.metadata.uuid),
      tx.changes x ∧ ∃ t ∈ c.tables, t.table_id = x := by
  intro x hx
  obtain ⟨r, hr, rfl⟩ := List.mem_map.1 hx
  obtain ⟨contexts, hctx, -, -, happ⟩ := commit_prepare_eq_ok h
  obtain ⟨context, hc, body, hb⟩ :=
    List.Forall₂.exists_of_mem_right (apply_commits_eq_ok happ) hr
  obtain ⟨change, hchange, ident, j, hi, hxj, hj, -, rfl⟩ :=
    List.Forall₂.exists_of_mem_right (get_commit_context_eq_ok hctx) hc
  have ht := (CatalogState.mem_joined.1 hj).1
  have hid : r.commit_response.metadata.uuid = j.t.table_id := by
    rw [hb]
    exact (hu j.t ht).1
  rw [hid]
  exact ⟨⟨change, hchange, ident, hi, hxj⟩, j.t, ht, rfl⟩

/-- A call of one statement that leaves a row for every id a commit writes commutes with the
commit's write. -/
theorem Op.exec_write (hc : c.Wf) {op : Op} (hop : op.one_statement c)
    {writes : List (Nat × CommitTableResponseExt)}
    (hrow : ∀ x ∈ writes.map Prod.fst, ∃ t ∈ c.tables, t.table_id = x)
    (hkeep : ∀ x ∈ writes.map Prod.fst, ∃ t ∈ (op.exec ext c).tables, t.table_id = x) :
    op.exec ext { c with tables := write_responses writes c.tables } =
      { op.exec ext c with tables := write_responses writes (op.exec ext c).tables } := by
  cases op with
  | create ns table y request ml now =>
    refine create_exec_write (fun hy => ?_) fun location m hloc hm hact t ht hns hname hst hx => ?_
    · obtain ⟨t, ht, rfl⟩ := hrow y hy
      exact hop t ht rfl
    · -- the create would overwrite `t` under its fresh id, leaving no row of `t`'s id
      have hexec : (Op.create ns table y request ml now).exec ext c =
          { c with tables := overwritten (create_row ns table y m ml location) c.tables } := by
        simp only [Op.exec, create_table_staged hc ht hns hname hst hact hloc hm
          fun t' ht' hy => absurd hy (hop t' ht')]
      obtain ⟨t', ht', hid⟩ := hkeep _ hx
      rw [hexec] at ht'
      obtain ⟨t₀, ht₀, rfl⟩ := List.mem_map.1 ht'
      split_ifs at hid with hsame
      · exact hop t ht hid.symm
      · exact hsame (hc.table_eq_of_id ht₀ ht hid ▸ ⟨hns, hname⟩)
  | rename w x src dst => exact rename_exec_write ext
  | drop w x => exact drop_exec_write ext
  | commit => exact hop.elim

/-- A call of one statement between a commit's `SELECT` and its `UPDATE` leaves the store of
the call before the commit or of the call after it. -/
theorem between_serial (hc : c.Wf) (hu : c.MetadataAgrees) (tx : Txn) {op : Op}
    (hop : op.one_statement c) :
    (commit_apply ext (op.exec ext c) (prepare ext tx c)).2 = tx.op.exec ext (op.exec ext c) ∨
      (commit_apply ext (op.exec ext c) (prepare ext tx c)).2 = op.exec ext (tx.op.exec ext c) := by
  rw [Txn.exec_eq_apply tx, Txn.exec_eq_apply tx]
  rcases hp : prepare ext tx c with e | responses
  · exact .inr rfl
  have hd : (op.exec ext c).Wf := hc.exec op
  have hrow := prepare_uuid_row hu hp
  rw [commit_apply_ok_snd hd, commit_apply_ok_snd hc]
  by_cases hacc : update_accepts (op.exec ext c) responses
  · -- the call left every row the commit answers: it commutes with the write
    have hacc' : update_accepts c responses := ⟨hacc.1, hacc.2.1, fun x hx => (hrow x hx).2⟩
    rw [if_pos hacc, if_pos hacc']
    refine .inr (Op.exec_write hc hop ?_ ?_).symm
    · simpa only [List.map_map, Function.comp_def] using hacc'.2.2
    · simpa only [List.map_map, Function.comp_def] using hacc.2.2
  rw [if_neg hacc]
  by_cases hacc' : update_accepts c responses
  · -- the call took away a row the commit read, so the commit after it fails its `SELECT`
    obtain ⟨x, hx, hno⟩ : ∃ x ∈ responses.map (·.commit_response.metadata.uuid),
        ∀ t ∈ (op.exec ext c).tables, t.table_id ≠ x := by
      by_contra hall
      push_neg at hall
      exact hacc ⟨hacc'.1, hacc'.2.1, hall⟩
    obtain ⟨e, he⟩ := prepare_eq_error (hrow x hx).1 hno
    rw [he]
    exact .inl rfl
  · rw [if_neg hacc']
    exact .inr rfl

end Serial

end IcebergCatalog
