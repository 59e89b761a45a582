/-
The order of a transaction's changes (`commit_table_transaction`, `table.rs:771-852`).

A transaction's changes are read, checked and built one by one, each from its own row and its
own draw of fresh ids, and the bulk `UPDATE` is a join on the uuid. So the order of the changes
only decides which change draws which fresh id and clock reading; with each change keeping its
draw (`batch` of a list of changes paired with their draws), a permutation changes neither
whether the call succeeds nor the rows it leaves.

Committing the changes one request at a time gives the same rows too, but only where every
row's uuid is its id, as on every store the operations reach from an empty one
(`metadata_names_row_after_every_run`): the `UPDATE` writes by uuid, and a change read from one
row but carrying another row's uuid writes that other row, which a later single request then
reads back.
-/
import IcebergCatalog.Run
import Mathlib.Data.List.Perm.Basic

set_option autoImplicit false

namespace IcebergCatalog

/-! ## Changes with their draws -/

/-- The draws of `apply_commits`' iterations, as a list: the `i`-th iteration gets the `i`-th. -/
def mint_of (ms : List Minted) (i : Nat) : Minted :=
  ms.getD i ⟨0, 0⟩

/-- One transaction of `changes`, each change with what its iteration draws. -/
def batch (warehouse_id : Nat) (table_ids : List (TableIdent × Nat))
    (changes : List (CommitTableRequest × Minted)) : Op :=
  .commit warehouse_id ⟨changes.map Prod.fst⟩ table_ids (mint_of (changes.map Prod.snd))

/-- The same changes, each committed as a request of its own. -/
def singles (warehouse_id : Nat) (table_ids : List (TableIdent × Nat))
    (changes : List (CommitTableRequest × Minted)) : List Op :=
  changes.map fun change => batch warehouse_id table_ids [change]

theorem apply_commits_mint_of (ext : Collaborators) (contexts : List CommitContext)
    (ms : List Minted) (h : contexts.length = ms.length) :
    apply_commits ext (mint_of ms) contexts =
      (contexts.zip ms).mapM fun p => apply_commit ext p.2 p.1 := by
  induction contexts generalizing ms with
  | nil => rfl
  | cons context contexts ih =>
    cases ms with
    | nil => cases h
    | cons m ms =>
      have h0 : mint_of (m :: ms) 0 = m := rfl
      have hm : (fun i => mint_of (m :: ms) (i + 1)) = mint_of ms := rfl
      simp only [apply_commits, List.zip_cons_cons, List.mapM_cons, h0, hm,
        ih ms (Nat.succ.inj h)]
      cases apply_commit ext m context <;>
        cases (contexts.zip ms).mapM fun p => apply_commit ext p.2 p.1 <;> rfl

/-- Change `p` read against `c` passes its requirements and builds the response `r`. -/
def Prepared (ext : Collaborators) (c : CatalogState) (table_ids : List (TableIdent × Nat))
    (p : CommitTableRequest × Minted) (r : CommitTableResponseExt) : Prop :=
  ∃ context, commit_context (commit_rows c (table_ids.map Prod.snd)) table_ids p.1 = .ok context ∧
    check_requirements ext context = .ok () ∧ apply_commit ext p.2 context = .ok r

section Prepare

variable {ext : Collaborators} {c : CatalogState} {table_ids : List (TableIdent × Nat)}

/-- **What the statements before the `UPDATE` accept**: few enough changes, each of which is
read, checked and built. Which error a failing transaction reports depends on the order; that
it fails does not. -/
theorem commit_prepare_batch_eq_ok_iff {q : List (CommitTableRequest × Minted)}
    {responses : List CommitTableResponseExt} :
    commit_prepare ext c ⟨q.map Prod.fst⟩ table_ids (mint_of (q.map Prod.snd)) = .ok responses ↔
      q.length ≤ MAX_PARAMETERS / 4 ∧ List.Forall₂ (Prepared ext c table_ids) q responses := by
  constructor
  · intro h
    obtain ⟨contexts, hctx, hlen, hreq, happ⟩ := commit_prepare_eq_ok h
    have h1 := List.forall₂_map_left_iff.1 (List.mapM_except_eq_ok_iff.1 hctx)
    have h2 := List.forM_except_eq_ok_iff.1 hreq
    rw [apply_commits_mint_of ext contexts _ (by rw [← h1.length_eq, List.length_map])] at happ
    have h3 := List.mapM_except_eq_ok_iff.1 happ
    refine ⟨h1.length_eq ▸ hlen, ?_⟩
    clear h hlen hctx hreq happ
    induction h1 generalizing responses with
    | nil => cases h3; exact .nil
    | cons hc _ ih =>
      rw [List.map_cons, List.zip_cons_cons] at h3
      cases h3 with
      | cons ha h3 =>
        exact .cons ⟨_, hc, h2 _ (List.mem_cons_self _ _), ha⟩
          (ih (fun _ h => h2 _ (List.mem_cons_of_mem _ h)) h3)
  · rintro ⟨hlen, h⟩
    obtain ⟨contexts, h1, h2, h3⟩ : ∃ contexts, List.Forall₂ (fun p context =>
          commit_context (commit_rows c (table_ids.map Prod.snd)) table_ids p.1 = .ok context)
          q contexts ∧ (∀ context ∈ contexts, check_requirements ext context = .ok ()) ∧
        List.Forall₂ (fun p r => apply_commit ext p.2 p.1 = .ok r)
          (contexts.zip (q.map Prod.snd)) responses := by
      induction h with
      | nil => exact ⟨[], .nil, fun _ h => absurd h (List.not_mem_nil _), .nil⟩
      | cons hp _ ih =>
        obtain ⟨context, hc, hr, ha⟩ := hp
        obtain ⟨contexts, h1, h2, h3⟩ := ih (Nat.le_of_succ_le hlen)
        exact ⟨context :: contexts, .cons hc h1, List.forall_mem_cons.2 ⟨hr, h2⟩,
          by rw [List.map_cons, List.zip_cons_cons]; exact .cons ha h3⟩
    have hctx : get_commit_context c ⟨q.map Prod.fst⟩ table_ids = .ok contexts :=
      List.mapM_except_eq_ok_iff.2 (List.forall₂_map_left_iff.2 h1)
    have happ : apply_commits ext (mint_of (q.map Prod.snd)) contexts = .ok responses := by
      rw [apply_commits_mint_of ext contexts _ (by rw [← h1.length_eq, List.length_map])]
      exact List.mapM_except_eq_ok_iff.2 h3
    simp only [commit_prepare, hctx, ← h1.length_eq, List.forM_except_eq_ok_iff.2 h2, happ,
      if_neg (Nat.not_lt.2 hlen)]

/-- **What a transaction of changes with their draws does**: it commits exactly when the
statements before the `UPDATE` accept its changes and their responses carry distinct uuids that
are ids of rows, and it then writes each response to the row of its uuid. -/
theorem commit_batch_eq_ok_iff (hc : c.Wf) {w : Nat} {q : List (CommitTableRequest × Minted)}
    {responses : List CommitTableResponseExt} {c' : CatalogState} :
    commit_table_transaction ext c w ⟨q.map Prod.fst⟩ table_ids (mint_of (q.map Prod.snd)) =
        (.ok responses, c') ↔
      q.length ≤ MAX_PARAMETERS / 4 ∧ List.Forall₂ (Prepared ext c table_ids) q responses ∧
      responses ≠ [] ∧ (responses.map (·.commit_response.metadata.uuid)).Nodup ∧
      (∀ x ∈ responses.map (·.commit_response.metadata.uuid), ∃ t ∈ c.tables, t.table_id = x) ∧
      c' = { c with
        tables := write_responses
          (responses.map fun r => (r.commit_response.metadata.uuid, r)) c.tables } := by
  unfold commit_table_transaction
  cases hprep : commit_prepare ext c ⟨q.map Prod.fst⟩ table_ids (mint_of (q.map Prod.snd)) with
  | error e =>
    constructor
    · intro h; cases h
    · rintro ⟨hlen, hf, -⟩
      cases hprep.symm.trans (commit_prepare_batch_eq_ok_iff.2 ⟨hlen, hf⟩)
  | ok prepared =>
    show commit_write ext c prepared = _ ↔ _
    rw [commit_write_eq_ok_iff hc]
    constructor
    · rintro ⟨rfl, hne, hnd, hids, rfl⟩
      obtain ⟨hlen, hf⟩ := commit_prepare_batch_eq_ok_iff.1 hprep
      exact ⟨hlen, hf, hne, hnd, hids, rfl⟩
    · rintro ⟨hlen, hf, hne, hnd, hids, rfl⟩
      cases hprep.symm.trans (commit_prepare_batch_eq_ok_iff.2 ⟨hlen, hf⟩)
      exact ⟨rfl, hne, hnd, hids, rfl⟩

variable {w : Nat} {q : List (CommitTableRequest × Minted)}

theorem exec_batch_eq_of_ok {responses : List CommitTableResponseExt} {c' : CatalogState}
    (h : commit_table_transaction ext c w ⟨q.map Prod.fst⟩ table_ids (mint_of (q.map Prod.snd)) =
      (.ok responses, c')) :
    (batch w table_ids q).exec ext c = c' := by
  simp only [batch, Op.exec, h]

theorem exec_batch_eq_of_error {e : ErrorModel} {c' : CatalogState}
    (h : commit_table_transaction ext c w ⟨q.map Prod.fst⟩ table_ids (mint_of (q.map Prod.snd)) =
      (.error e, c')) :
    (batch w table_ids q).exec ext c = c := by
  simp only [batch, Op.exec, h]

end Prepare

/-! ## Permuting the changes -/

section Perm

variable {ext : Collaborators} {c : CatalogState} {w : Nat} {table_ids : List (TableIdent × Nat)}
  {q q' : List (CommitTableRequest × Minted)}

/-- **A permutation of a successful transaction succeeds**, with the responses permuted and the
same rows: each change is prepared on its own, and the `UPDATE` is a join on the uuid. -/
theorem commit_batch_perm (hc : c.Wf) (hp : List.Perm q q')
    {responses : List CommitTableResponseExt} {c' : CatalogState}
    (h : commit_table_transaction ext c w ⟨q.map Prod.fst⟩ table_ids (mint_of (q.map Prod.snd)) =
      (.ok responses, c')) :
    ∃ responses', List.Perm responses responses' ∧
      commit_table_transaction ext c w ⟨q'.map Prod.fst⟩ table_ids (mint_of (q'.map Prod.snd)) =
        (.ok responses', c') := by
  obtain ⟨hlen, hf, hne, hnd, hids, rfl⟩ := (commit_batch_eq_ok_iff hc).1 h
  obtain ⟨responses', hf', hperm⟩ := List.perm_comp_forall₂ hp.symm hf
  have huuid := hperm.map (·.commit_response.metadata.uuid)
  refine ⟨responses', hperm.symm, (commit_batch_eq_ok_iff hc).2 ⟨hp.length_eq ▸ hlen, hf',
    fun h' => hne (h' ▸ hperm.symm).eq_nil, huuid.nodup_iff.2 hnd,
    fun x hx => hids x (huuid.subset hx), ?_⟩⟩
  rw [write_responses_perm (by rwa [List.map_map]) (hperm.symm.map _)]

/-- A permutation of the changes leaves the same store, whether the transaction commits or is
rolled back. -/
theorem exec_batch_perm (hc : c.Wf) (hp : List.Perm q q') :
    (batch w table_ids q).exec ext c = (batch w table_ids q').exec ext c := by
  rcases h : commit_table_transaction ext c w ⟨q.map Prod.fst⟩ table_ids
    (mint_of (q.map Prod.snd)) with ⟨_ | responses, c'⟩
  · rcases h' : commit_table_transaction ext c w ⟨q'.map Prod.fst⟩ table_ids
      (mint_of (q'.map Prod.snd)) with ⟨_ | responses', c''⟩
    · rw [exec_batch_eq_of_error h, exec_batch_eq_of_error h']
    · obtain ⟨_, -, h''⟩ := commit_batch_perm hc hp.symm h'
      rw [h] at h''
      cases h''
  · obtain ⟨_, -, h'⟩ := commit_batch_perm hc hp h
    rw [exec_batch_eq_of_ok h, exec_batch_eq_of_ok h']

end Perm

/-! ## One change at a time -/

section Singles

variable {ext : Collaborators} {c : CatalogState} {w : Nat} {table_ids : List (TableIdent × Nat)}

theorem write_responses_nil (tables : List TableRow) : write_responses [] tables = tables :=
  List.map_id'' (fun _ => rfl) tables

/-- **A change stays prepared while other rows are written.** Its context is read from the row
of its id, and the response's uuid is that row's uuid, so where every uuid is its row's id the
writes to other ids leave that row, and so the change, as they were. -/
theorem Prepared.of_write (hc : c.Wf) (hu : ∀ t ∈ c.tables, t.metadata.uuid = t.table_id)
    {writes : List (Nat × CommitTableResponseExt)} {p : CommitTableRequest × Minted}
    {r : CommitTableResponseExt} (hp : Prepared ext c table_ids p r)
    (hw : r.commit_response.metadata.uuid ∉ writes.map Prod.fst) :
    Prepared ext { c with tables := write_responses writes c.tables } table_ids p r := by
  obtain ⟨context, hctx, hreq, happ⟩ := hp
  obtain ⟨ident, j, hi, hx, hj, rfl⟩ := commit_context_eq_ok hctx
  simp only [commit_rows, List.mem_filter, decide_eq_true_eq] at hj
  obtain ⟨hj, hid, hactive⟩ := hj
  obtain ⟨ht, hn, hwh, hnt, hwn⟩ := CatalogState.mem_joined.1 hj
  obtain ⟨body, hb, -⟩ := apply_commit_eq_ok happ
  have huuid : r.commit_response.metadata.uuid = j.t.table_id := by
    rw [hb]; exact hu j.t ht
  have hjt : j.t.write writes = j.t := TableRow.write_of_not_mem (huuid ▸ hw)
  set d : CatalogState := { c with tables := write_responses writes c.tables }
  have hd : d.Wf := hc.write_responses writes
  have hjd : j ∈ d.joined :=
    CatalogState.mem_joined.2 ⟨hjt ▸ List.mem_map_of_mem _ ht, hn, hwh, hnt, hwn⟩
  -- the row it was read from is still the only row of its id
  have hfind : (commit_rows d (table_ids.map Prod.snd)).find?
      (fun j' => j'.t.table_id = j.t.table_id) = some j :=
    List.find?_eq_some_of_unique (by simp [commit_rows, hjd, hid, hactive]) (by simp)
      fun j' hj' h' => hd.joined_eq_of_id (List.mem_filter.1 hj').1 hjd (by simpa using h')
  exact ⟨_, by simp only [commit_context, hi, hx, hfind], hreq, happ⟩

/-- Where every uuid is its row's id, a prepared change's uuid is the id of a row. -/
theorem Prepared.exists_row (hu : ∀ t ∈ c.tables, t.metadata.uuid = t.table_id)
    {p : CommitTableRequest × Minted} {r : CommitTableResponseExt}
    (hp : Prepared ext c table_ids p r) :
    ∃ t ∈ c.tables, t.table_id = r.commit_response.metadata.uuid := by
  obtain ⟨context, hctx, -, happ⟩ := hp
  obtain ⟨ident, j, -, -, hj, rfl⟩ := commit_context_eq_ok hctx
  obtain ⟨body, hb, -⟩ := apply_commit_eq_ok happ
  have ht := (CatalogState.mem_joined.1 (List.mem_filter.1 hj).1).1
  exact ⟨j.t, ht, by rw [hb]; exact (hu j.t ht).symm⟩

/-- A single request of a prepared change whose uuid is a row's id writes its response to that
row. -/
theorem exec_batch_single (hc : c.Wf) {p : CommitTableRequest × Minted}
    {r : CommitTableResponseExt} (hp : Prepared ext c table_ids p r)
    (hrow : ∃ t ∈ c.tables, t.table_id = r.commit_response.metadata.uuid) :
    (batch w table_ids [p]).exec ext c =
      { c with tables := write_responses [(r.commit_response.metadata.uuid, r)] c.tables } :=
  exec_batch_eq_of_ok <| (commit_batch_eq_ok_iff hc).2 ⟨by simp [MAX_PARAMETERS], .cons hp .nil,
    List.cons_ne_nil _ _, List.nodup_singleton _, by simpa using hrow, rfl⟩

/-- **The single requests, one after the other**, each write their change's response on top of
what the earlier ones wrote. -/
theorem run_singles (hc : c.Wf) (hu : ∀ t ∈ c.tables, t.metadata.uuid = t.table_id)
    {q : List (CommitTableRequest × Minted)} {responses : List CommitTableResponseExt}
    (hf : List.Forall₂ (Prepared ext c table_ids) q responses)
    (hnd : (responses.map (·.commit_response.metadata.uuid)).Nodup)
    {writes : List (Nat × CommitTableResponseExt)}
    (hw : ∀ x ∈ writes.map Prod.fst, x ∉ responses.map (·.commit_response.metadata.uuid)) :
    run ext { c with tables := write_responses writes c.tables } (singles w table_ids q) =
      { c with
        tables := write_responses
          (writes ++ responses.map fun r => (r.commit_response.metadata.uuid, r)) c.tables } := by
  induction hf generalizing writes with
  | nil => simp only [singles, List.map_nil, run_nil, List.append_nil]
  | @cons p r q responses hp _ ih =>
    rw [List.map_cons, List.nodup_cons] at hnd
    have hr : r.commit_response.metadata.uuid ∉ writes.map Prod.fst :=
      fun h => hw _ h (List.mem_cons_self _ _)
    obtain ⟨t, ht, hx⟩ := hp.exists_row hu
    have hwrite : write_responses [(r.commit_response.metadata.uuid, r)]
        (write_responses writes c.tables) =
          write_responses (writes ++ [(r.commit_response.metadata.uuid, r)]) c.tables := by
      simp only [write_responses, List.map_map, Function.comp_def]
      exact List.map_congr_left fun t _ => TableRow.write_write fun x hx' h' =>
        hr (by simp only [List.map_cons, List.map_nil, List.mem_singleton] at h'; rwa [← h'])
    have hstep : (batch w table_ids [p]).exec ext
          { c with tables := write_responses writes c.tables } =
        { c with
          tables := write_responses
            (writes ++ [(r.commit_response.metadata.uuid, r)]) c.tables } := by
      rw [exec_batch_single (hc.write_responses writes) (hp.of_write hc hu hr)
        ⟨t.write writes, List.mem_map_of_mem _ ht, by simpa using hx⟩, ← hwrite]
    have hw' : ∀ x ∈ (writes ++ [(r.commit_response.metadata.uuid, r)]).map Prod.fst,
        x ∉ responses.map (·.commit_response.metadata.uuid) := by
      simp only [List.map_append, List.mem_append, List.map_cons, List.map_nil,
        List.mem_singleton]
      rintro x (hx' | rfl)
      · exact fun h => hw x hx' (List.mem_cons_of_mem _ h)
      · exact hnd.1
    rw [show singles w table_ids (p :: q) = batch w table_ids [p] :: singles w table_ids q from rfl,
      run_cons, hstep, ih hnd.2 hw']
    simp only [List.map_cons, List.append_assoc, List.singleton_append]

/-- Where every uuid is its row's id, the single requests of a successful transaction's changes
leave the store it leaves. -/
theorem run_singles_eq_of_ok (hc : c.Wf) (hu : ∀ t ∈ c.tables, t.metadata.uuid = t.table_id)
    {q : List (CommitTableRequest × Minted)} {responses : List CommitTableResponseExt}
    {c' : CatalogState}
    (h : commit_table_transaction ext c w ⟨q.map Prod.fst⟩ table_ids (mint_of (q.map Prod.snd)) =
      (.ok responses, c')) :
    run ext c (singles w table_ids q) = c' := by
  obtain ⟨-, hf, -, hnd, -, rfl⟩ := (commit_batch_eq_ok_iff hc).1 h
  have hrun := run_singles (w := w) hc hu hf hnd
    fun x (hx : x ∈ ([] : List (Nat × CommitTableResponseExt)).map Prod.fst) => absurd hx (by simp)
  rwa [write_responses_nil, List.nil_append] at hrun

end Singles

/-! ## The order of the changes -/

/-- **The order of a transaction's changes does not matter**, each change keeping its draw of
fresh ids: a permutation of a successful transaction succeeds, with its responses permuted and
the same rows; a permutation of a failing one fails; and either way the store after the call is
the same. Where every row's uuid is its id (on every store the calls reach from one with no
tables), a successful transaction leaves the rows that its changes leave when committed one
request at a time, in any order. -/
theorem commit_changes_permute (ext : Collaborators) (c : Catalog) (w : Nat)
    (table_ids : List (TableIdent × Nat)) (q q' : List (CommitTableRequest × Minted))
    (hperm : List.Perm q q') :
    (∀ responses c', commit_table_transaction ext c.toCatalogState w ⟨q.map Prod.fst⟩ table_ids
        (mint_of (q.map Prod.snd)) = (.ok responses, c') →
      ∃ responses', List.Perm responses responses' ∧
        commit_table_transaction ext c.toCatalogState w ⟨q'.map Prod.fst⟩ table_ids
          (mint_of (q'.map Prod.snd)) = (.ok responses', c')) ∧
    ((∃ responses c', commit_table_transaction ext c.toCatalogState w ⟨q'.map Prod.fst⟩ table_ids
        (mint_of (q'.map Prod.snd)) = (.ok responses, c')) →
      ∃ responses c', commit_table_transaction ext c.toCatalogState w ⟨q.map Prod.fst⟩ table_ids
        (mint_of (q.map Prod.snd)) = (.ok responses, c')) ∧
    (batch w table_ids q).exec ext c.toCatalogState =
      (batch w table_ids q').exec ext c.toCatalogState ∧
    ((∀ t ∈ c.tables, t.metadata.uuid = t.table_id) →
      (∃ responses c', commit_table_transaction ext c.toCatalogState w ⟨q.map Prod.fst⟩ table_ids
        (mint_of (q.map Prod.snd)) = (.ok responses, c')) →
      run ext c.toCatalogState (singles w table_ids q') =
        (batch w table_ids q).exec ext c.toCatalogState) := by
  refine ⟨fun _ _ h => commit_batch_perm c.wf hperm h, fun ⟨_, _, h⟩ => ?_,
    exec_batch_perm c.wf hperm, fun hu ⟨_, _, h⟩ => ?_⟩
  · obtain ⟨responses, -, h'⟩ := commit_batch_perm c.wf hperm.symm h
    exact ⟨responses, _, h'⟩
  · obtain ⟨_, -, h'⟩ := commit_batch_perm c.wf hperm h
    rw [run_singles_eq_of_ok c.wf hu h', exec_batch_eq_of_ok h]

theorem commit_changes_permute_swap :
    let c : Catalog := ⟨⟨[⟨1, ⟨""⟩, none, .active⟩], [⟨10, 1, ["a"]⟩],
      [⟨7, 10, "t", ⟨7, "s3://b/t", ⟨[], [], [], [], 0⟩⟩, some "m7", "s3://b/t"⟩,
       ⟨8, 10, "u", ⟨8, "s3://b/u", ⟨[], [], [], [], 0⟩⟩, some "m8", "s3://b/u"⟩]⟩, by decide⟩
    let t : TableIdent := ⟨⟨["a"], by simp⟩, "t"⟩
    let u : TableIdent := ⟨⟨["a"], by simp⟩, "u"⟩
    let table_ids := [(t, 7), (u, 8)]
    let q : List (CommitTableRequest × Minted) :=
      [(⟨some t, [], [.SetProperties [("a", "1")]]⟩, ⟨100, 1⟩),
       (⟨some u, [], [.SetProperties [("b", "2")]]⟩, ⟨200, 2⟩)]
    let q' := q.reverse
    List.Perm q q' ∧
    (∀ responses c', commit_table_transaction .reference c.toCatalogState 1 ⟨q.map Prod.fst⟩
        table_ids (mint_of (q.map Prod.snd)) = (.ok responses, c') →
      ∃ responses', List.Perm responses responses' ∧
        commit_table_transaction .reference c.toCatalogState 1 ⟨q'.map Prod.fst⟩ table_ids
          (mint_of (q'.map Prod.snd)) = (.ok responses', c')) ∧
    ((∃ responses c', commit_table_transaction .reference c.toCatalogState 1 ⟨q'.map Prod.fst⟩
        table_ids (mint_of (q'.map Prod.snd)) = (.ok responses, c')) →
      ∃ responses c', commit_table_transaction .reference c.toCatalogState 1 ⟨q.map Prod.fst⟩
        table_ids (mint_of (q.map Prod.snd)) = (.ok responses, c')) ∧
    (batch 1 table_ids q).exec .reference c.toCatalogState =
      (batch 1 table_ids q').exec .reference c.toCatalogState ∧
    ((∀ t ∈ c.tables, t.metadata.uuid = t.table_id) →
      (∃ responses c', commit_table_transaction .reference c.toCatalogState 1 ⟨q.map Prod.fst⟩
        table_ids (mint_of (q.map Prod.snd)) = (.ok responses, c')) →
      run .reference c.toCatalogState (singles 1 table_ids q') =
        (batch 1 table_ids q).exec .reference c.toCatalogState) := by
  intro c t u table_ids q q'
  exact ⟨List.reverse_perm q |>.symm,
    commit_changes_permute .reference c 1 table_ids q q' (List.reverse_perm q).symm⟩

/-- Where a row's uuid is not its id, single requests write elsewhere than the transaction.
Row 1 carries uuid 2 and row 2 uuid 3: the transaction of a change of row 1 and one of row 2
writes rows 2 and 3; committed one at a time, the first writes row 2 with uuid 2, the second
then reads that back from row 2 and writes row 2 again, and row 3 stays staged. -/
theorem singles_write_elsewhere_when_uuid_is_not_id :
    let c : Catalog := ⟨⟨[⟨1, ⟨""⟩, none, .active⟩], [⟨10, 1, ["a"]⟩],
      [⟨1, 10, "x", ⟨2, "s3://b/x", ⟨[], [], [], [], 0⟩⟩, some "mx", "s3://b/x"⟩,
       ⟨2, 10, "y", ⟨3, "s3://b/y", ⟨[], [], [], [], 0⟩⟩, some "my", "s3://b/y"⟩,
       ⟨3, 10, "z", ⟨3, "s3://b/z", ⟨[], [], [], [], 0⟩⟩, none, "s3://b/z"⟩]⟩, by decide⟩
    let x : TableIdent := ⟨⟨["a"], by simp⟩, "x"⟩
    let y : TableIdent := ⟨⟨["a"], by simp⟩, "y"⟩
    let table_ids := [(x, 1), (y, 2)]
    let q : List (CommitTableRequest × Minted) :=
      [(⟨some x, [], []⟩, ⟨100, 1⟩), (⟨some y, [], []⟩, ⟨200, 2⟩)]
    (∃ responses c', commit_table_transaction .reference c.toCatalogState 1 ⟨q.map Prod.fst⟩
        table_ids (mint_of (q.map Prod.snd)) = (.ok responses, c')) ∧
    ((batch 1 table_ids q).exec .reference c.toCatalogState).tables.map (·.metadata_location) =
      [some "mx", some "s3://b/x/metadata/100.metadata.json",
        some "s3://b/y/metadata/200.metadata.json"] ∧
    (run .reference c.toCatalogState (singles 1 table_ids q)).tables.map (·.metadata_location) =
      [some "mx", some "s3://b/x/metadata/200.metadata.json", none] := by
  intro c x y table_ids q
  exact ⟨⟨_, _, rfl⟩, by decide, by decide⟩

end IcebergCatalog
