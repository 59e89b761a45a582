/-
What a `commit_table_transaction` run reads and writes, and what follows for two runs that
overlap under `READ COMMITTED`.

The run's `SELECT` (`get_commit_context`) reads the rows whose ids its `table_ids` map holds,
with their warehouse's status. Its `UPDATE ... FROM (VALUES ...)` writes the metadata columns of
the rows whose id is a response's uuid, and what the `UPDATE` with its `RETURNING` count returns
depends on the rows only through their ids. On a store where every row's uuid is its id (every
store a run reaches, by `MetadataAgrees.exec`), the uuids it writes are ids it read.

So two commits whose `table_ids` name disjoint sets of ids never see each other: every one of
the six interleavings ends in the store of the two calls one after the other, in either order,
and each run returns what it returns alone. Where the ids are shared, the overlapped orders
lose an update (`Concurrent`).

Within one run the footprint is exact: every change was read from the row its identifier
resolves to, and answered with that row's uuid, so two changes of one table leave a repeated
uuid that the `RETURNING` count refuses.
-/
import IcebergCatalog.Concurrent

set_option autoImplicit false

namespace IcebergCatalog

/-! ## What a commit reads and writes -/

section Commit

variable {ext : Collaborators} {c : CatalogState}

/-- The `SELECT` of a commit reads only the rows of the ids it is given: writing rows of other
ids changes nothing it reads. -/
theorem commit_rows_write {writes : List (Nat × CommitTableResponseExt)} {ids : List Nat}
    (hdisj : ∀ x ∈ writes.map Prod.fst, x ∉ ids) :
    commit_rows { c with tables := write_responses writes c.tables } ids = commit_rows c ids := by
  simp only [commit_rows, CatalogState.joined, write_responses, List.flatMap_map,
    List.filter_flatMap]
  refine List.flatMap_congr fun t _ => ?_
  by_cases ht : t.table_id ∈ ids
  · rw [TableRow.write_of_not_mem fun h => hdisj _ h ht]
  · simp [List.filter_map, Function.comp_def, ht]

/-- So a commit prepares alike on a store where rows of ids outside its `table_ids` were
written. -/
theorem commit_prepare_write {writes : List (Nat × CommitTableResponseExt)}
    {request : CommitTransactionRequest} {table_ids : List (TableIdent × Nat)}
    {mint : Nat → Minted} (hdisj : ∀ x ∈ writes.map Prod.fst, x ∉ table_ids.map Prod.snd) :
    commit_prepare ext { c with tables := write_responses writes c.tables } request table_ids mint =
      commit_prepare ext c request table_ids mint := by
  simp only [commit_prepare, get_commit_context, commit_rows_write hdisj]

variable {request : CommitTransactionRequest} {table_ids : List (TableIdent × Nat)}
  {mint : Nat → Minted} {responses : List CommitTableResponseExt}

/-- A prepared commit read, for each change, the row of the id its identifier resolves to, and
answered it with a response carrying that row's uuid. -/
theorem commit_prepare_row_of_change (h : commit_prepare ext c request table_ids mint = .ok responses)
    {change : CommitTableRequest} (hchange : change ∈ request.table_changes) {ident : TableIdent}
    {x : Nat} (hi : change.identifier = some ident) (hx : map_get table_ids ident = some x) :
    ∃ j ∈ c.joined, j.t.table_id = x ∧
      j.t.metadata.uuid ∈ responses.map (·.commit_response.metadata.uuid) := by
  obtain ⟨contexts, hctx, -, -, happ⟩ := commit_prepare_eq_ok h
  obtain ⟨context, hc, ident', j, hi', hx', hj, -, rfl⟩ :=
    List.Forall₂.exists_of_mem_right (get_commit_context_eq_ok hctx).flip hchange
  obtain rfl : ident' = ident := Option.some.inj (hi'.symm.trans hi)
  obtain ⟨r, hr, body, hb⟩ := List.Forall₂.exists_of_mem_right (apply_commits_eq_ok happ).flip hc
  exact ⟨j, hj, Option.some.inj (hx'.symm.trans hx), List.mem_map.2 ⟨r, hr, by rw [hb]; rfl⟩⟩

/-- Where every uuid is its row's id, a commit's responses carry ids of its `table_ids`. -/
theorem commit_prepare_uuid_mem (hu : c.MetadataAgrees)
    (h : commit_prepare ext c request table_ids mint = .ok responses) :
    ∀ r ∈ responses, r.commit_response.metadata.uuid ∈ table_ids.map Prod.snd := by
  obtain ⟨contexts, hctx, -, -, happ⟩ := commit_prepare_eq_ok h
  intro r hr
  obtain ⟨context, hc, body, hb⟩ :=
    List.Forall₂.exists_of_mem_right (apply_commits_eq_ok happ) hr
  obtain ⟨_, -, _, j, -, hx, hj, -, rfl⟩ :=
    List.Forall₂.exists_of_mem_right (get_commit_context_eq_ok hctx) hc
  rw [hb]
  exact (hu j.t (CatalogState.mem_joined.1 hj).1).1 ▸ map_get_mem hx

/-- What the `UPDATE` with its count check returns: a syntax error on no responses,
`CommitTableUpdateError` when fewer rows than responses carry a response's uuid, and `Ok`
otherwise. -/
theorem commit_write_fst (c : CatalogState) (responses : List CommitTableResponseExt) :
    (commit_write ext c responses).1 =
      if responses = [] then
        .error (ext.into_error_model .SyntaxError "Error committing table updates")
      else if (c.tables.filter fun t =>
          t.table_id ∈ responses.map (·.commit_response.metadata.uuid)).length ≠ responses.length
      then .error commit_table_update_error
      else .ok responses := by
  by_cases h : responses = []
  · subst h; rfl
  · simp only [commit_write, update_tables_commit_values_eq c h, List.length_map, if_neg h]
    split_ifs <;> rfl

/-- Writes to disjoint sets of ids commute. -/
theorem write_responses_comm {writes writes' : List (Nat × CommitTableResponseExt)}
    (hdisj : ∀ x ∈ writes.map Prod.fst, x ∉ writes'.map Prod.fst) (tables : List TableRow) :
    write_responses writes (write_responses writes' tables) =
      write_responses writes' (write_responses writes tables) := by
  simp only [write_responses, List.map_map]
  refine List.map_congr_left fun t _ => ?_
  by_cases h : t.table_id ∈ writes.map Prod.fst
  · simp only [Function.comp_apply, TableRow.write_of_not_mem (hdisj _ h),
      TableRow.write_of_not_mem (t := t.write writes) (by simpa using hdisj _ h)]
  · simp only [Function.comp_apply, TableRow.write_of_not_mem h,
      TableRow.write_of_not_mem (t := t.write writes') (by simpa using h)]

end Commit

/-! ## The `UPDATE` and its `COMMIT` -/

/-- The responses the `UPDATE` with its count check accepts on a store: some, with distinct
uuids, each the id of a row (`commit_write_eq_ok_iff`). -/
def update_accepts (c : CatalogState) (responses : List CommitTableResponseExt) : Prop :=
  responses ≠ [] ∧ (responses.map (·.commit_response.metadata.uuid)).Nodup ∧
    ∀ x ∈ responses.map (·.commit_response.metadata.uuid), ∃ t ∈ c.tables, t.table_id = x

instance (c : CatalogState) (responses : List CommitTableResponseExt) :
    Decidable (update_accepts c responses) :=
  inferInstanceAs (Decidable (_ ∧ _ ∧ _))

section Apply

variable {ext : Collaborators} {c : CatalogState}

theorem update_accepts_write {writes : List (Nat × CommitTableResponseExt)}
    {responses : List CommitTableResponseExt} :
    update_accepts { c with tables := write_responses writes c.tables } responses ↔
      update_accepts c responses := by
  simp [update_accepts, write_responses]

theorem commit_apply_ok_fst (c : CatalogState) (responses : List CommitTableResponseExt) :
    (commit_apply ext c (.ok responses)).1 = (commit_write ext c responses).1 := by
  rcases h : commit_write ext c responses with ⟨_ | _, _⟩ <;> simp [commit_apply, h]

/-- What a commit's `UPDATE` returns depends on the rows only through their ids. -/
theorem commit_apply_fst_map {f : TableRow → TableRow} (hf : ∀ t, (f t).table_id = t.table_id)
    (p : Except ErrorModel (List CommitTableResponseExt)) :
    (commit_apply ext { c with tables := c.tables.map f } p).1 = (commit_apply ext c p).1 := by
  cases p with
  | error e => rfl
  | ok responses =>
    rw [commit_apply_ok_fst, commit_apply_ok_fst, commit_write_fst, commit_write_fst,
      List.filter_map, List.length_map]
    simp only [Function.comp_def, hf]

/-- The store after a commit's `UPDATE` and its `COMMIT`, or its rollback. -/
theorem commit_apply_ok_snd (hc : c.Wf) (responses : List CommitTableResponseExt) :
    (commit_apply ext c (.ok responses)).2 =
      if update_accepts c responses then
        { c with
          tables := write_responses
            (responses.map fun r => (r.commit_response.metadata.uuid, r)) c.tables }
      else c := by
  rcases h : commit_write ext c responses with ⟨_ | r, c'⟩
  · have hna : ¬update_accepts c responses := fun ⟨hne, hnd, hids⟩ => by
      cases h.symm.trans ((commit_write_eq_ok_iff hc).2 ⟨rfl, hne, hnd, hids, rfl⟩)
    simp [commit_apply, h, hna]
  · obtain ⟨rfl, hne, hnd, hids, rfl⟩ := (commit_write_eq_ok_iff hc).1 h
    have ha : update_accepts c r := ⟨hne, hnd, hids⟩
    simp [commit_apply, h, ha]

theorem prepare_eq (tx : Txn) :
    prepare ext tx c = commit_prepare ext c tx.request tx.table_ids tx.mint := rfl

theorem Txn.exec_eq_apply (tx : Txn) :
    tx.op.exec ext c = (commit_apply ext c (prepare ext tx c)).2 :=
  exec_commit_eq_commit_apply ext c tx

/-- A commit run alone leaves the store as it was, or writes the responses it prepared, which
its `UPDATE` accepts. -/
theorem Txn.exec_eq (hc : c.Wf) (tx : Txn) :
    tx.op.exec ext c = c ∨ ∃ responses, prepare ext tx c = .ok responses ∧
      update_accepts c responses ∧
      tx.op.exec ext c = { c with
        tables := write_responses
          (responses.map fun r => (r.commit_response.metadata.uuid, r)) c.tables } := by
  rw [Txn.exec_eq_apply]
  cases prepare ext tx c with
  | error e => exact .inl rfl
  | ok responses =>
    rw [commit_apply_ok_snd hc]
    by_cases ha : update_accepts c responses
    · exact .inr ⟨responses, rfl, ha, if_pos ha⟩
    · exact .inl (if_neg ha)

theorem commit_table_transaction_fst (w : Nat) (tx : Txn) :
    (commit_table_transaction ext c w tx.request tx.table_ids tx.mint).1 =
      (commit_apply ext c (prepare ext tx c)).1 := by
  unfold commit_table_transaction prepare
  cases commit_prepare ext c tx.request tx.table_ids tx.mint with
  | error e => rfl
  | ok responses => exact (commit_apply_ok_fst c responses).symm

/-- What a commit's `UPDATE` returns is the same after another commit has run. -/
theorem commit_apply_exec_fst (hc : c.Wf) (tx : Txn)
    (p : Except ErrorModel (List CommitTableResponseExt)) :
    (commit_apply ext (tx.op.exec ext c) p).1 = (commit_apply ext c p).1 := by
  rcases Txn.exec_eq hc tx with h | ⟨_, -, -, h⟩ <;> rw [h]
  exact commit_apply_fst_map (fun _ => TableRow.write_table_id) p

end Apply

/-! ## Commits of disjoint tables -/

section Disjoint

variable {ext : Collaborators} {c : CatalogState} {ta tb : Txn}

/-- A commit prepares alike after a commit of disjoint ids. -/
theorem prepare_exec (hc : c.Wf) (hu : c.MetadataAgrees)
    (hdisj : ∀ x ∈ ta.table_ids.map Prod.snd, x ∉ tb.table_ids.map Prod.snd) :
    prepare ext tb (ta.op.exec ext c) = prepare ext tb c := by
  rcases Txn.exec_eq hc ta with h | ⟨responses, hp, -, h⟩ <;> rw [h]
  refine commit_prepare_write fun x hx => ?_
  simp only [List.map_map, Function.comp_def, List.mem_map] at hx
  obtain ⟨r, hr, rfl⟩ := hx
  exact hdisj _ (commit_prepare_uuid_mem hu hp r hr)

/-- Two commits of disjoint ids, each writing over the other's result what it prepared from
`c`, end in the same store in either order. -/
theorem commit_apply_comm (hc : c.Wf) (hu : c.MetadataAgrees)
    (hdisj : ∀ x ∈ ta.table_ids.map Prod.snd, x ∉ tb.table_ids.map Prod.snd) :
    (commit_apply ext (ta.op.exec ext c) (prepare ext tb c)).2 =
      (commit_apply ext (tb.op.exec ext c) (prepare ext ta c)).2 := by
  rw [Txn.exec_eq_apply, Txn.exec_eq_apply]
  cases hpa : prepare ext ta c with
  | error e => rfl
  | ok ra =>
    cases hpb : prepare ext tb c with
    | error e => rfl
    | ok rb =>
      rw [commit_apply_ok_snd hc, commit_apply_ok_snd hc]
      by_cases ha : update_accepts c ra <;> by_cases hb : update_accepts c rb <;>
        simp only [ha, hb, if_true, if_false, commit_apply_ok_snd hc,
          commit_apply_ok_snd (hc.write_responses _), update_accepts_write]
      -- both accepted: the two writes touch disjoint ids
      congr 1
      refine (write_responses_comm (fun x hx hx' => ?_) _).symm
      simp only [List.map_map, Function.comp_def, List.mem_map] at hx hx'
      obtain ⟨r, hr, rfl⟩ := hx
      obtain ⟨r', hr', hrr'⟩ := hx'
      exact hdisj _ (commit_prepare_uuid_mem hu hpa r hr)
        (hrr' ▸ commit_prepare_uuid_mem hu hpb r' hr')

end Disjoint

/-- Two lists related pointwise to a third are related pointwise to each other. -/
theorem List.forall₂_trans {α β γ : Type} {R : α → β → Prop} {S : β → γ → Prop}
    {T : α → γ → Prop} (h : ∀ a b c, R a b → S b c → T a c) :
    ∀ {l₁ : List α} {l₂ : List β} {l₃ : List γ},
      List.Forall₂ R l₁ l₂ → List.Forall₂ S l₂ l₃ → List.Forall₂ T l₁ l₃
  | _, _, _, .nil, .nil => .nil
  | _, _, _, .cons hr h₁, .cons hs h₂ => .cons (h _ _ _ hr hs) (List.forall₂_trans h h₁ h₂)

/-- A pointwise relation holds of members of the right list. -/
theorem List.forall₂_mem_right {α β : Type} {R : α → β → Prop} :
    ∀ {l₁ : List α} {l₂ : List β}, List.Forall₂ R l₁ l₂ →
      List.Forall₂ (fun a b => R a b ∧ b ∈ l₂) l₁ l₂
  | _, _, .nil => .nil
  | _, _, .cons hr h => .cons ⟨hr, List.mem_cons_self _ _⟩
      ((List.forall₂_mem_right h).imp fun _ _ h => ⟨h.1, List.mem_cons_of_mem _ h.2⟩)

/-- A pointwise relation carries a sublist of the left list to a sublist of the right one. -/
theorem List.Forall₂.sublist_left {α β : Type} {R : α → β → Prop} {l l₁ : List α}
    (hs : l.Sublist l₁) : ∀ {l₂ : List β}, List.Forall₂ R l₁ l₂ →
      ∃ l', l'.Sublist l₂ ∧ List.Forall₂ R l l' := by
  induction hs with
  | slnil => exact fun _ => ⟨[], List.nil_sublist _, .nil⟩
  | cons a _ ih =>
    rintro _ (_ | ⟨-, h⟩)
    obtain ⟨l', hl', hf⟩ := ih h
    exact ⟨l', hl'.cons _, hf⟩
  | cons₂ a _ ih =>
    rintro _ (_ | ⟨hr, h⟩)
    obtain ⟨l', hl', hf⟩ := ih h
    exact ⟨_, hl'.cons₂ _, .cons hr hf⟩

section Checked

variable {ext : Collaborators}

/-- The `RETURNING` count of a commit that succeeded leaves no room for a repeated uuid. -/
theorem commit_table_transaction_uuids_nodup {c c' : CatalogState} (hc : c.Wf) {w : Nat}
    {request : CommitTransactionRequest} {table_ids : List (TableIdent × Nat)}
    {mint : Nat → Minted} {responses : List CommitTableResponseExt}
    (h : commit_table_transaction ext c w request table_ids mint = (.ok responses, c')) :
    (responses.map (·.commit_response.metadata.uuid)).Nodup := by
  obtain ⟨-, updated, -, -, -, -, hupd, hcount⟩ := commit_table_transaction_eq_ok h
  obtain ⟨rfl, -⟩ := update_tables_commit_values hupd
  refine ((List.length_filter_mem_eq_iff hc.table_pkey _).1 ?_).1
  rw [List.length_map, ← hcount, List.length_map]

/-- Each response of `apply_commits` is its context's `apply_commit`, with some draw. -/
theorem apply_commits_forall₂ {mint : Nat → Minted} {contexts : List CommitContext}
    {responses : List CommitTableResponseExt} (h : apply_commits ext mint contexts = .ok responses) :
    List.Forall₂ (fun context r => ∃ minted, apply_commit ext minted context = .ok r)
      contexts responses := by
  rw [apply_commits_eq_mapM] at h
  rw [← List.enum_map_snd contexts]
  exact List.forall₂_map_left_iff.2 <| (List.forall₂_of_mapM_eq_ok h).imp fun _ _ hr => ⟨_, hr⟩

end Checked

/-- **One commit cannot change a table twice.** A `commit_table_transaction` in which two
changes resolve to the same table id never succeeds, even when each change alone would: both
changes are answered from that table's row with its uuid, and the `RETURNING` count of the
`UPDATE ... FROM (VALUES ...)` leaves no room for a repeated uuid. The call returns an error,
and the store is left as it was. -/
theorem commit_changing_one_table_twice_fails (ext : Collaborators) (c : Catalog) (w : Nat)
    (request : CommitTransactionRequest) (table_ids : List (TableIdent × Nat))
    (mint : Nat → Minted) (ch₁ ch₂ : CommitTableRequest)
    (hsub : [ch₁, ch₂].Sublist request.table_changes) (ident₁ ident₂ : TableIdent) (x : Nat)
    (hi₁ : ch₁.identifier = some ident₁) (hx₁ : map_get table_ids ident₁ = some x)
    (hi₂ : ch₂.identifier = some ident₂) (hx₂ : map_get table_ids ident₂ = some x) :
    (∃ e, (commit_table_transaction ext c.toCatalogState w request table_ids mint).1 =
        .error e) ∧
      (Op.commit w request table_ids mint).exec ext c.toCatalogState = c.toCatalogState := by
  rcases hct : commit_table_transaction ext c.toCatalogState w request table_ids mint with
    ⟨e | responses, c'⟩
  · exact ⟨⟨e, rfl⟩, by simp only [Op.exec, hct]⟩
  exfalso
  obtain ⟨contexts, -, hctx, -, -, happ, -⟩ := commit_table_transaction_eq_ok hct
  -- each change is answered with the uuid of the row its identifier resolves to
  have hrel : List.Forall₂ (fun change (r : CommitTableResponseExt) => ∃ ident j,
      change.identifier = some ident ∧ map_get table_ids ident = some j.t.table_id ∧
      j ∈ c.joined ∧ r.commit_response.metadata.uuid = j.t.metadata.uuid)
      request.table_changes responses :=
    List.forall₂_trans (fun _ _ _ hc hr => by
      obtain ⟨ident, j, hi, hx, hj, -, rfl⟩ := hc
      obtain ⟨_, hr⟩ := hr
      obtain ⟨body, hb, -⟩ := apply_commit_eq_ok hr
      exact ⟨ident, j, hi, hx, hj, by rw [hb]; rfl⟩)
      (get_commit_context_eq_ok hctx) (apply_commits_forall₂ happ)
  obtain ⟨l, hl, hf⟩ := List.Forall₂.sublist_left hsub hrel
  rcases hf with _ | ⟨⟨_, j₁, hi₁', hx₁', hj₁, hu₁⟩, _ | ⟨⟨_, j₂, hi₂', hx₂', hj₂, hu₂⟩, _ | _⟩⟩
  -- both answers come from row `x`
  obtain rfl := Option.some.inj (hi₁.symm.trans hi₁')
  obtain rfl := Option.some.inj (hi₂.symm.trans hi₂')
  have hrow : j₁.t = j₂.t := c.wf.table_eq_of_id (CatalogState.mem_joined.1 hj₁).1
    (CatalogState.mem_joined.1 hj₂).1 (Option.some.inj (hx₁'.symm.trans (hx₁.trans
      (hx₂.symm.trans hx₂'))))
  have hnd := (commit_table_transaction_uuids_nodup c.wf hct).sublist (hl.map _)
  simp only [List.map_cons, List.map_nil, List.nodup_cons, List.mem_singleton] at hnd
  exact hnd.1 (by rw [hu₁, hu₂, hrow])

theorem commit_changing_one_table_twice_fails_same_change :
    let c : Catalog := ⟨⟨[⟨1, ⟨""⟩, none, .active⟩], [⟨10, 1, ["a"]⟩],
      [⟨7, 10, "t", ⟨7, "s3://b/t", ⟨[], [], [], [], 0⟩⟩, some "m", "s3://b/t"⟩]⟩, by decide⟩
    let t : TableIdent := ⟨⟨["a"], by simp⟩, "t"⟩
    let ch : CommitTableRequest := ⟨some t, [], [.SetProperties [("a", "1")]]⟩
    let request : CommitTransactionRequest := ⟨[ch, ch]⟩
    [ch, ch].Sublist request.table_changes ∧ ch.identifier = some t ∧ map_get [(t, 7)] t = some 7 ∧
      (∃ e, (commit_table_transaction .reference c.toCatalogState 1 request [(t, 7)]
          fun _ => ⟨100, 1⟩).1 = .error e) ∧
        (Op.commit 1 request [(t, 7)] fun _ => ⟨100, 1⟩).exec .reference c.toCatalogState =
          c.toCatalogState := by
  intro c t ch request
  have hsub : [ch, ch].Sublist request.table_changes := List.Sublist.refl _
  have hi : ch.identifier = some t := rfl
  have hx : map_get [(t, 7)] t = some 7 := rfl
  exact ⟨hsub, hi, hx, commit_changing_one_table_twice_fails .reference c 1 request [(t, 7)]
    (fun _ => ⟨100, 1⟩) ch ch hsub t t 7 hi hx hi hx⟩

end IcebergCatalog
