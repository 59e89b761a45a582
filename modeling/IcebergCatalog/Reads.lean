/-
What each call of the table store does to what the read paths return, and what a run keeps of
it.

A lookup by name, `table_ident_to_id` (and with it `list_tables`, `get_table_metadata_by_id`
and `load_table`, which see the same rows: `visibility_agrees`), answers with the one row that
bears the identifier in an active warehouse, committed unless staged rows are asked for. The
calls write only `"table"`, so what they change is which rows bear which identifier, with
which id, and which rows are committed:

* a drop hides its id from every lookup, in every warehouse, whatever warehouse it is passed,
  and changes nothing else;
* a create binds exactly the identifiers that name its namespace and its name, to its id, and
  reads only the namespace id and the name of the identifier it is passed;
* a commit changes no lookup of staged rows, and publishes to the committed-only lookups
  exactly the rows it wrote; a `load_table` after it returns the metadata it wrote;
* along every run, a lookup that answers a committed row keeps answering it until that row is
  renamed or dropped, a dropped id is answered by no lookup again unless a create draws it, and
  a table keeps the location it was created at.

The metadata lookup by location is the by-id lookup of the row it finds; and on locations kept
prefix-free and free of `LIKE`'s metacharacters, which row it finds does not matter.
-/
import IcebergCatalog.Overlap
import IcebergCatalog.Location

set_option autoImplicit false

namespace IcebergCatalog

/-! ## The rows a lookup answers with -/

/-- `t` names the slot `(namespace_id, name)` in the active warehouse `w`: the namespace is one
of `w`'s and is named `t.namespace`, and the name is `t.name`. A row in the slot bears `t`. -/
def CatalogState.names (c : CatalogState) (w : Nat) (t : TableIdent) (namespace_id : Nat)
    (name : String) : Prop :=
  c.warehouse_active w ∧ name = t.name ∧
    ∃ n ∈ c.namespaces, n.namespace_id = namespace_id ∧ n.warehouse_id = w ∧
      n.namespace_name = t.namespace.parts

instance (c : CatalogState) (w : Nat) (t : TableIdent) (namespace_id : Nat) (name : String) :
    Decidable (c.names w t namespace_id name) :=
  inferInstanceAs (Decidable (_ ∧ _ ∧ _))

section Rows

variable {c : CatalogState} {w x : Nat} {t : TableIdent} {s : Bool}

/-- A lookup answers `x` exactly when a row of id `x` bears the identifier, committed unless
staged rows are asked for. -/
theorem table_ident_to_id_eq_some_iff_row (hc : c.Wf) :
    table_ident_to_id c w t s = some x ↔
      ∃ r ∈ c.tables, c.names w t r.namespace_id r.table_name ∧
        (r.metadata_location.isSome ∨ s) ∧ r.table_id = x := by
  rw [table_ident_to_id_eq_some_iff hc]
  constructor
  · rintro ⟨⟨r, n, wh⟩, hj, ⟨hw, ha, hns, hname, hst⟩, rfl⟩
    obtain ⟨hr, hn, hwh, hnr, hwn⟩ := CatalogState.mem_joined.1 hj
    exact ⟨r, hr, ⟨⟨wh, hwh, hwn.trans hw, ha⟩, hname, n, hn, hnr, hw, hns⟩, hst, rfl⟩
  · rintro ⟨r, hr, ⟨⟨wh, hwh, hwid, ha⟩, hname, n, hn, hnr, hw, hns⟩, hst, rfl⟩
    exact ⟨⟨r, n, wh⟩, CatalogState.mem_joined.2 ⟨hr, hn, hwh, hnr, hwid.trans hw.symm⟩,
      ⟨hw, ha, hns, hname, hst⟩, rfl⟩

/-- Two stores whose rows bear each identifier with the same ids and staged flags answer every
lookup alike. -/
theorem table_ident_to_id_congr {c' : CatalogState} (hc : c.Wf) (hc' : c'.Wf)
    (h : ∀ x, (∃ r ∈ c'.tables, c'.names w t r.namespace_id r.table_name ∧
        (r.metadata_location.isSome ∨ s) ∧ r.table_id = x) ↔
      ∃ r ∈ c.tables, c.names w t r.namespace_id r.table_name ∧
        (r.metadata_location.isSome ∨ s) ∧ r.table_id = x) :
    table_ident_to_id c' w t s = table_ident_to_id c w t s :=
  Option.ext fun x => by
    rw [Option.mem_def, Option.mem_def, table_ident_to_id_eq_some_iff_row hc',
      table_ident_to_id_eq_some_iff_row hc]
    exact h x

/-- The committed-only lookup is the lookup with staged rows, restricted to committed rows. -/
theorem table_ident_to_id_false_iff (hc : c.Wf) :
    table_ident_to_id c w t false = some x ↔
      table_ident_to_id c w t true = some x ∧ c.committed x := by
  rw [table_ident_to_id_eq_some_iff_row hc, table_ident_to_id_eq_some_iff_row hc]
  constructor
  · rintro ⟨r, hr, hn, hst, rfl⟩
    exact ⟨⟨r, hr, hn, .inr rfl, rfl⟩, r, hr, rfl, by simpa using hst⟩
  · rintro ⟨⟨r, hr, hn, -, rfl⟩, r', hr', hid, hsome⟩
    obtain rfl := hc.table_eq_of_id hr' hr hid
    exact ⟨r', hr', hn, .inl hsome, rfl⟩

/-- An identifier names one slot: a warehouse and a namespace name pick one namespace. -/
theorem CatalogState.Wf.names_unique (hc : c.Wf) {ns ns' : Nat} {name name' : String}
    (h : c.names w t ns name) (h' : c.names w t ns' name') : ns = ns' ∧ name = name' := by
  obtain ⟨-, rfl, n, hn, rfl, hw, hnn⟩ := h
  obtain ⟨-, rfl, n', hn', rfl, hw', hnn'⟩ := h'
  exact ⟨congrArg (·.namespace_id)
    (hc.namespace_eq_of_name hn hn' (hw.trans hw'.symm) (hnn.trans hnn'.symm)), rfl⟩

/-- A row that bears an identifier is in an active namespace. -/
theorem CatalogState.names.namespace_active {ns : Nat} {name : String}
    (h : c.names w t ns name) : c.namespace_active ns := by
  obtain ⟨hw, -, n, hn, hns, hnw, -⟩ := h
  exact ⟨n, hn, hns, by rw [hnw]; exact hw⟩

end Rows

/-! ## Calls write only the rows -/

section Exec

variable {ext : Collaborators} {c : CatalogState}

/-- Every call writes `"table"` only. -/
theorem Op.exec_eq_with_tables (op : Op) : ∃ ts, op.exec ext c = { c with tables := ts } := by
  rcases Op.exec_cases ext c op with h | ⟨_, _, _, _, _, _, _, _, -, -, -, h⟩ |
    ⟨_, _, _, _, _, -, -, h⟩ | ⟨_, _, -, -, h⟩ | ⟨_, _, _, _, _, -, h⟩
  · exact ⟨c.tables, h⟩
  · obtain ⟨-, ⟨-, h⟩ | ⟨-, -, -, -, h⟩⟩ := insert_table_eq_ok h <;>
      exact ⟨_, CatalogState.with_tables_eq_ok h⟩
  · exact ⟨_, CatalogState.with_tables_eq_ok h⟩
  · exact ⟨_, h⟩
  · exact ⟨_, (commit_table_transaction_writes h).1⟩

/-- So no call changes which slot an identifier names. -/
theorem Op.names_exec (op : Op) : (op.exec ext c).names = c.names := by
  obtain ⟨ts, h⟩ : ∃ ts, op.exec ext c = { c with tables := ts } := Op.exec_eq_with_tables op
  rw [h]
  rfl

/-- **What a row after a call is**: a row that was there, under its id and at its location, or
the row a create inserted. -/
theorem Op.mem_exec {op : Op} {t : TableRow} (ht : t ∈ (op.exec ext c).tables) :
    (∃ t₀ ∈ c.tables, t.table_id = t₀.table_id ∧ t.table_location = t₀.table_location) ∨
      ∃ ns table y request ml now location m, op = .create ns table y request ml now ∧
        request.location = some location ∧ t = create_row ns table y m ml location := by
  rcases Op.exec_cases ext c op with h | ⟨ns, table, y, request, ml, now, location, m, rfl, hl, -, h⟩ |
    ⟨_, _, _, _, f, -, hf, h⟩ | ⟨_, _, -, -, h⟩ | ⟨_, _, _, _, _, -, h⟩
  · rw [h] at ht
    exact .inl ⟨t, ht, rfl, rfl⟩
  · rcases mem_of_insert_table h ht with ⟨ht, -⟩ | rfl
    · exact .inl ⟨t, ht, rfl, rfl⟩
    · exact .inr ⟨ns, table, y, request, ml, now, location, m, rfl, hl, rfl⟩
  · rw [CatalogState.with_tables_eq_ok h] at ht
    obtain ⟨t₀, ht₀, rfl⟩ := List.mem_map.1 ht
    exact .inl ⟨t₀, ht₀, hf.table_id t₀, hf.table_location t₀⟩
  · rw [h] at ht
    exact .inl ⟨t, (List.mem_filter.1 ht).1, rfl, rfl⟩
  · rw [(commit_table_transaction_writes h).1] at ht
    obtain ⟨t₀, ht₀, rfl⟩ := List.mem_map.1 ht
    exact .inl ⟨t₀, ht₀, TableRow.write_table_id, TableRow.write_table_location⟩

end Exec

/-! ## A drop -/

/-- **A drop hides its id, and nothing else.** After `drop_table` of id `x`, through whichever
warehouse, every lookup answers what it answered before, unless that was `x`: then it answers
nothing. -/
theorem drop_table_hides_its_id (ext : Collaborators) (c : Catalog) (w' x w : Nat)
    (t : TableIdent) (s : Bool) :
    table_ident_to_id ((Op.drop w' x).exec ext c.toCatalogState) w t s =
      (table_ident_to_id c.toCatalogState w t s).filter fun y => y ≠ x := by
  have hd : ((Op.drop w' x).exec ext c.toCatalogState).Wf := c.wf.exec _
  rw [drop_exec_tables] at hd ⊢
  refine Option.ext fun y => ?_
  rw [Option.mem_def, Option.mem_def, Option.filter_eq_some, Option.mem_def,
    table_ident_to_id_eq_some_iff_row hd, table_ident_to_id_eq_some_iff_row c.wf]
  simp only [List.mem_filter, decide_eq_true_eq]
  constructor
  · rintro ⟨r, ⟨hr, hnot⟩, hn, hst, rfl⟩
    exact ⟨⟨r, hr, hn, hst, rfl⟩, fun hx => hnot ⟨hx, hn.namespace_active⟩⟩
  · rintro ⟨⟨r, hr, hn, hst, rfl⟩, hne⟩
    exact ⟨r, ⟨hr, fun hd => hne hd.1⟩, hn, hst, rfl⟩

/-! ## A create -/

section Create

variable {c c' : CatalogState} {row : TableRow}

theorem row_mem_insert_table (h : insert_table c row = .ok c') : row ∈ c'.tables := by
  obtain ⟨-, ⟨-, h⟩ | ⟨old, hold, hsame, -, h⟩⟩ := insert_table_eq_ok h <;>
    rw [CatalogState.with_tables_eq_ok h]
  · exact List.mem_append_right _ (List.mem_singleton_self _)
  · exact List.mem_map.2 ⟨old, hold, if_pos hsame⟩

theorem names_insert_table (h : insert_table c row = .ok c') : c'.names = c.names := by
  obtain ⟨-, ⟨-, h⟩ | ⟨-, -, -, -, h⟩⟩ := insert_table_eq_ok h <;>
    rw [CatalogState.with_tables_eq_ok h] <;> rfl

end Create

/-- **A create binds exactly its own slot.** After a `create_table` of id `x` in namespace `ns`
under `table.name`, the identifiers that name that slot answer `x`, unless the create is staged
and staged rows are not asked for; every other lookup answers what it answered before. The
create reads only the namespace id and the name: the namespace of the identifier it is passed
plays no part. -/
theorem create_table_binds_its_slot (ext : Collaborators) (c : Catalog) (ns : Nat)
    (table : TableIdent) (x : Nat) (request : CreateTableRequest) (ml : Option String)
    (now : Nat) (result : CreateTableResult) (c' : CatalogState)
    (h : create_table ext c.toCatalogState ns table x request ml now = .ok (result, c'))
    (w : Nat) (t : TableIdent) (s : Bool) :
    table_ident_to_id c' w t s =
      if c.names w t ns table.name then (if ml.isSome || s then some x else none)
      else table_ident_to_id c.toCatalogState w t s := by
  obtain ⟨location, m, -, -, -, hi⟩ := create_table_eq_ok h
  have hc' := c.wf.insert_table hi
  refine Option.ext fun y => ?_
  rw [Option.mem_def, Option.mem_def, table_ident_to_id_eq_some_iff_row hc',
    names_insert_table hi]
  by_cases hslot : c.names w t ns table.name
  · -- only the new row is in the slot
    have hrow : ∀ r ∈ c'.tables, c.names w t r.namespace_id r.table_name →
        r = create_row ns table x m ml location := fun r hr hn => by
      rcases mem_of_insert_table hi hr with ⟨-, hnot⟩ | rfl
      · exact absurd (c.wf.names_unique hn hslot) hnot
      · rfl
    have hif : (if ml.isSome || s then some x else none) = some y ↔
        (ml.isSome = true ∨ s = true) ∧ x = y := by
      cases ml <;> cases s <;> simp
    rw [if_pos hslot, hif]
    constructor
    · rintro ⟨r, hr, hn, hst, rfl⟩
      obtain rfl := hrow r hr hn
      exact ⟨hst, rfl⟩
    · rintro ⟨hst, rfl⟩
      exact ⟨_, row_mem_insert_table hi, hslot, hst, rfl⟩
  · rw [if_neg hslot, table_ident_to_id_eq_some_iff_row c.wf]
    constructor
    · rintro ⟨r, hr, hn, hst, rfl⟩
      rcases mem_of_insert_table hi hr with ⟨hr, -⟩ | rfl
      · exact ⟨r, hr, hn, hst, rfl⟩
      · exact absurd hn hslot
    · rintro ⟨r, hr, hn, hst, rfl⟩
      -- a row of the create's slot would put the identifier in it
      have hnot : ¬(create_row ns table x m ml location).same_name r := fun hsame => by
        rw [hsame.1, hsame.2] at hn
        exact hslot hn
      exact ⟨r, mem_insert_table hi hr hnot, hn, hst, rfl⟩

theorem create_table_binds_its_slot_new_name :
    let c : Catalog := ⟨⟨[⟨1, ⟨""⟩, none, .active⟩], [⟨10, 1, ["a"]⟩],
      [⟨7, 10, "t", ⟨7, "s3://b/t", ⟨[], [], [], [], 0⟩⟩, some "m", "s3://b/t"⟩]⟩, by decide⟩
    let u : TableIdent := ⟨⟨["a"], by simp⟩, "u"⟩
    let request : CreateTableRequest := ⟨"u", some "s3://b/u", ⟨""⟩, none, none, none, none⟩
    let m : TableMetadata := ⟨8, "s3://b/u", ⟨[⟨""⟩], [], [], [], 0⟩⟩
    let c' : CatalogState := ⟨c.warehouses, c.namespaces,
      c.tables ++ [⟨8, 10, "u", m, some "n", "s3://b/u"⟩]⟩
    create_table .reference c.toCatalogState 10 u 8 request (some "n") 0 = .ok (⟨m⟩, c') ∧
      table_ident_to_id c' 1 u false =
        if c.names 1 u 10 u.name then (if (some "n").isSome || false then some 8 else none)
        else table_ident_to_id c.toCatalogState 1 u false := by
  intro c u request m c'
  have h : create_table .reference c.toCatalogState 10 u 8 request (some "n") 0 =
      .ok (⟨m⟩, c') := rfl
  exact ⟨h, create_table_binds_its_slot .reference c 10 u 8 request (some "n") 0 ⟨m⟩ c' h 1 u false⟩

/-! ## A commit -/

section Commit

variable {writes : List (Nat × CommitTableResponseExt)} {t : TableRow}

/-- A written row is committed if it was, or if a response was paired with it. -/
theorem TableRow.write_isSome :
    (t.write writes).metadata_location.isSome ↔
      t.metadata_location.isSome ∨ t.table_id ∈ writes.map Prod.fst := by
  unfold TableRow.write
  split
  next x r hf =>
    have hx : x = t.table_id := by simpa using List.find?_some hf
    exact iff_of_true rfl (.inr (List.mem_map.2 ⟨_, List.mem_of_find?_eq_some hf, hx⟩))
  next hf =>
    have hnot : t.table_id ∉ writes.map Prod.fst := fun h => by
      obtain ⟨p, hp, hx⟩ := List.mem_map.1 h
      exact absurd (List.find?_eq_none.1 hf p hp) (by simp [hx])
    simp [hnot]

variable {c : CatalogState}

theorem committed_write_iff {x : Nat} :
    { c with tables := write_responses writes c.tables }.committed x ↔
      ∃ r ∈ c.tables, r.table_id = x ∧
        (r.metadata_location.isSome ∨ x ∈ writes.map Prod.fst) := by
  simp only [CatalogState.committed, write_responses, List.mem_map, exists_exists_and_eq_and,
    TableRow.write_table_id, TableRow.write_isSome]
  constructor <;> rintro ⟨r, hr, rfl, h⟩ <;> exact ⟨r, hr, rfl, h⟩

/-- Writing responses changes no lookup of staged rows: it keeps every id, name and
namespace. -/
theorem table_ident_to_id_write (hc : c.Wf) (w : Nat) (tid : TableIdent) :
    table_ident_to_id { c with tables := write_responses writes c.tables } w tid true =
      table_ident_to_id c w tid true := by
  refine table_ident_to_id_congr hc (hc.write_responses writes) fun y => ?_
  simp only [write_responses, List.mem_map, exists_exists_and_eq_and, TableRow.write_table_id,
    TableRow.write_namespace_id, TableRow.write_table_name, or_true, and_true]
  rfl

end Commit

/-- **A commit publishes exactly what it writes.** It changes no lookup of staged rows; and a
committed-only lookup answers `x` after it exactly when the lookup of staged rows answered `x`
before, and row `x` was committed already or the commit succeeded and wrote it. -/
theorem commit_publishes_what_it_writes (ext : Collaborators) (c : Catalog) (w' : Nat)
    (request : CommitTransactionRequest) (table_ids : List (TableIdent × Nat))
    (mint : Nat → Minted) (w : Nat) (t : TableIdent) (x : Nat) :
    table_ident_to_id ((Op.commit w' request table_ids mint).exec ext c.toCatalogState) w t true =
        table_ident_to_id c.toCatalogState w t true ∧
      (table_ident_to_id ((Op.commit w' request table_ids mint).exec ext c.toCatalogState)
          w t false = some x ↔
        table_ident_to_id c.toCatalogState w t true = some x ∧
          (c.committed x ∨ ∃ responses,
            (commit_table_transaction ext c.toCatalogState w' request table_ids mint).1 =
              .ok responses ∧ x ∈ responses.map (·.commit_response.metadata.uuid))) := by
  have hd : ((Op.commit w' request table_ids mint).exec ext c.toCatalogState).Wf := c.wf.exec _
  rw [table_ident_to_id_false_iff hd]
  rcases hct : commit_table_transaction ext c.toCatalogState w' request table_ids mint with
    ⟨e | responses, c'⟩
  · have he : (Op.commit w' request table_ids mint).exec ext c.toCatalogState =
        c.toCatalogState := by simp only [Op.exec, hct]
    simp [he]
  · have he : (Op.commit w' request table_ids mint).exec ext c.toCatalogState = c' := by
      simp only [Op.exec, hct]
    obtain ⟨rfl, -⟩ := commit_table_transaction_writes hct
    rw [he, table_ident_to_id_write c.wf, committed_write_iff]
    refine ⟨rfl, ⟨fun ⟨hl, r, hr, hid, h⟩ => ⟨hl, ?_⟩, fun ⟨hl, h⟩ => ⟨hl, ?_⟩⟩⟩
    · rcases h with hst | hmem
      · exact .inl ⟨r, hr, hid, hst⟩
      · exact .inr ⟨responses, rfl, by simpa [List.map_map, Function.comp_def] using hmem⟩
    · obtain ⟨r, hr, -, -, rfl⟩ := (table_ident_to_id_eq_some_iff_row c.wf).1 hl
      rcases h with ⟨r', hr', hid, hst⟩ | ⟨_, ⟨⟩, hmem⟩
      · obtain rfl := c.wf.table_eq_of_id hr' hr hid
        exact ⟨r', hr', rfl, .inl hst⟩
      · exact ⟨r, hr, rfl, .inr (by simpa [List.map_map, Function.comp_def] using hmem)⟩

/-! ## Reading a commit back -/

section Load

variable {c : CatalogState} {w : Nat} {t : TableIdent}

/-- `load_table` returns the committed row that bears the identifier. -/
theorem load_table_eq_ok_of_row (hc : c.Wf) {r : TableRow} (hr : r ∈ c.tables)
    (hn : c.names w t r.namespace_id r.table_name) (hs : r.metadata_location.isSome) :
    ∃ l, load_table c w t = .ok l ∧ l.table_id = r.table_id ∧ l.table_metadata = r.metadata ∧
      l.metadata_location = r.metadata_location := by
  obtain ⟨⟨wh, hwh, hwid, ha⟩, hname, n, hn, hnr, hw, hns⟩ := hn
  have hj : (⟨r, n, wh⟩ : Joined) ∈ c.joined :=
    CatalogState.mem_joined.2 ⟨hr, hn, hwh, hnr, hwid.trans hw.symm⟩
  -- the warehouse, the namespace name and the name pick one row of the join
  have hhead : (c.joined.filter fun j => j.w.warehouse_id = w ∧
      j.n.namespace_name = t.namespace.parts ∧ j.t.table_name = t.name ∧
      j.w.status = .active ∧ j.t.metadata_location.isSome).head? = some ⟨r, n, wh⟩ := by
    refine List.head?_eq_some_of_subsingleton (fun a ha b hb => ?_)
      (List.mem_filter.2 ⟨hj, decide_eq_true ⟨hwid, hns, hname, ha, hs⟩⟩)
    obtain ⟨ha, hpa⟩ := List.mem_filter.1 ha
    obtain ⟨hb, hpb⟩ := List.mem_filter.1 hb
    obtain ⟨haw, hans, haname, -⟩ := of_decide_eq_true hpa
    obtain ⟨hbw, hbns, hbname, -⟩ := of_decide_eq_true hpb
    exact hc.joined_eq_of_name ha hb
      (by rw [← (CatalogState.mem_joined.1 ha).2.2.2.2, ← (CatalogState.mem_joined.1 hb).2.2.2.2,
        haw, hbw])
      (hans.trans hbns.symm) (haname.trans hbname.symm)
  exact ⟨_, by rw [load_table, hhead], rfl, rfl, rfl⟩

end Load

/-- The call renames or drops row `x`. -/
def Op.moves (x : Nat) : Op → Prop
  | .rename _ source_id _ _ => source_id = x
  | .drop _ table_id => table_id = x
  | _ => False

instance (x : Nat) : (op : Op) → Decidable (op.moves x)
  | .create .. => inferInstanceAs (Decidable False)
  | .rename _ source_id _ _ => inferInstanceAs (Decidable (source_id = x))
  | .drop _ table_id => inferInstanceAs (Decidable (table_id = x))
  | .commit .. => inferInstanceAs (Decidable False)

section Keep

variable {ext : Collaborators} {c : CatalogState}

/-- A call that neither renames nor drops a committed row keeps it committed, in its slot. -/
theorem committed_row_exec (hc : c.Wf) {r : TableRow} (hr : r ∈ c.tables)
    (hs : r.metadata_location.isSome) (op : Op) (hop : ¬op.moves r.table_id) :
    ∃ r' ∈ (op.exec ext c).tables, r'.table_id = r.table_id ∧
      r'.namespace_id = r.namespace_id ∧ r'.table_name = r.table_name ∧
      r'.metadata_location.isSome := by
  rcases Op.exec_cases ext c op with h | ⟨ns, table, y, _, ml, _, location, m, -, -, -, h⟩ |
    ⟨_, y, _, _, f, rfl, hf, h⟩ | ⟨_, y, rfl, -, h⟩ | ⟨_, _, _, _, _, -, h⟩
  · rw [h]
    exact ⟨r, hr, rfl, rfl, rfl, hs⟩
  · -- a create on the committed row's name fails
    have hnot : ¬(create_row ns table y m ml location).same_name r := fun hn => by
      cases (insert_table_committed hc hr hn hs).symm.trans h
    exact ⟨r, mem_insert_table h hr hnot, rfl, rfl, rfl, hs⟩
  · rw [CatalogState.with_tables_eq_ok h]
    exact ⟨r, List.mem_map.2 ⟨r, hr, hf.other r fun hy => hop hy.symm⟩, rfl, rfl, rfl, hs⟩
  · rw [h]
    exact ⟨r, List.mem_filter.2 ⟨hr, decide_eq_true fun hd => hop hd.1.symm⟩, rfl, rfl, rfl, hs⟩
  · rw [(commit_table_transaction_writes h).1]
    exact ⟨_, List.mem_map_of_mem _ hr, TableRow.write_table_id, TableRow.write_namespace_id,
      TableRow.write_table_name, TableRow.write_committed hs⟩

/-- So a committed-only lookup keeps its answer across such a call. -/
theorem table_ident_to_id_exec {w x : Nat} {t : TableIdent} (hc : c.Wf)
    (h : table_ident_to_id c w t false = some x) (op : Op) (hop : ¬op.moves x) :
    table_ident_to_id (op.exec ext c) w t false = some x := by
  obtain ⟨r, hr, hn, hs, rfl⟩ := (table_ident_to_id_eq_some_iff_row hc).1 h
  obtain ⟨r', hr', hid, hns, hname, hs'⟩ := committed_row_exec hc hr (by simpa using hs) op hop
  refine (table_ident_to_id_eq_some_iff_row (hc.exec op)).2 ⟨r', hr', ?_, .inl hs', hid⟩
  rw [Op.names_exec, hns, hname]
  exact hn

end Keep

/-- The call is a create of id `x`. -/
def Op.creates (x : Nat) : Op → Prop
  | .create _ _ table_id _ _ _ => table_id = x
  | _ => False

instance (x : Nat) : (op : Op) → Decidable (op.creates x)
  | .create _ _ table_id _ _ _ => inferInstanceAs (Decidable (table_id = x))
  | .rename .. => inferInstanceAs (Decidable False)
  | .drop .. => inferInstanceAs (Decidable False)
  | .commit .. => inferInstanceAs (Decidable False)

section Ids

variable {ext : Collaborators} {c : CatalogState} {x : Nat}

/-- A call other than a create of id `x` brings no row of id `x`: a rename and a commit keep
every id, a drop only deletes, and a create's row carries the id it drew. -/
theorem no_row_of_id_exec (h : ∀ t ∈ c.tables, t.table_id ≠ x) (op : Op) (hop : ¬op.creates x) :
    ∀ t ∈ (op.exec ext c).tables, t.table_id ≠ x := by
  intro t ht
  rcases Op.mem_exec ht with ⟨t₀, ht₀, hid, -⟩ | ⟨_, _, _, _, _, _, _, _, rfl, -, rfl⟩
  · rw [hid]
    exact h t₀ ht₀
  · exact hop

/-- A call other than a create of id `x` keeps the location of every row of id `x`. -/
theorem location_of_id_exec {location : String}
    (h : ∀ t ∈ c.tables, t.table_id = x → t.table_location = location) (op : Op)
    (hop : ¬op.creates x) :
    ∀ t ∈ (op.exec ext c).tables, t.table_id = x → t.table_location = location := by
  intro t ht hx
  rcases Op.mem_exec ht with ⟨t₀, ht₀, hid, hloc⟩ | ⟨_, _, _, _, _, _, _, _, rfl, -, rfl⟩
  · rw [hloc]
    exact h t₀ ht₀ (hid ▸ hx)
  · exact absurd hx hop

end Ids

/-- **A dropped table does not come back.** After a `drop_table` of id `x` that deletes a row,
along every run of calls whose creates draw other ids (as `Uuid::now_v7()` does), no row has
id `x`: no lookup by name answers `x`, `load_table` returns no table of id `x`, and
`get_table_metadata_by_id` of `x` returns `NoSuchTableError`. -/
theorem dropped_table_stays_gone (ext : Collaborators) (c : Catalog) (w' x : Nat)
    (hdrop : ∃ t ∈ c.tables, drop_hit c.toCatalogState x t) (ops : List Op)
    (hops : ∀ op ∈ ops, ¬op.creates x) (w : Nat) (t : TableIdent) (s : Bool) :
    let d := run ext c.toCatalogState (.drop w' x :: ops)
    (∀ r ∈ d.tables, r.table_id ≠ x) ∧ table_ident_to_id d w t s ≠ some x ∧
      (∀ l, load_table d w t = .ok l → l.table_id ≠ x) ∧
      get_table_metadata_by_id d w x s = .error table_not_found := by
  intro d
  have hc : d.Wf := c.wf.run _
  have hno : ∀ r ∈ d.tables, r.table_id ≠ x :=
    run_induction_on ext (fun d => ∀ r ∈ d.tables, r.table_id ≠ x) (fun op => ¬op.creates x)
      (fun _ op hop h => no_row_of_id_exec h op hop) ops _ hops (drop_exec_no_row c.wf hdrop)
  refine ⟨hno, fun h => ?_, fun l hl hlx => ?_, ?_⟩
  · obtain ⟨r, hr, -, -, hrx⟩ := (table_ident_to_id_eq_some_iff_row hc).1 h
    exact hno r hr hrx
  · obtain ⟨j, hj, -, hjx⟩ := (load_table_table_id_iff hc).1 ⟨l, hl, hlx⟩
    exact hno j.t (CatalogState.mem_joined.1 hj).1 hjx
  · rw [get_table_metadata_by_id, List.filter_eq_nil_iff.2 fun j hj hp =>
      hno j.t (CatalogState.mem_joined.1 hj).1 (of_decide_eq_true hp).2.1]
    rfl

theorem dropped_table_stays_gone_past_create :
    let c : Catalog := ⟨⟨[⟨1, ⟨""⟩, none, .active⟩], [⟨10, 1, ["a"]⟩],
      [⟨7, 10, "t", ⟨7, "s3://b/t", ⟨[], [], [], [], 0⟩⟩, some "m", "s3://b/t"⟩]⟩, by decide⟩
    let t : TableIdent := ⟨⟨["a"], by simp⟩, "t"⟩
    let ops := [Op.create 10 t 9 ⟨"t", some "s3://b/t", ⟨""⟩, none, none, none, none⟩
      (some "z") 0]
    (∃ r ∈ c.tables, drop_hit c.toCatalogState 7 r) ∧ (∀ op ∈ ops, ¬op.creates 7) ∧
      let d := run .reference c.toCatalogState (.drop 1 7 :: ops)
      (∀ r ∈ d.tables, r.table_id ≠ 7) ∧ table_ident_to_id d 1 t false ≠ some 7 ∧
        (∀ l, load_table d 1 t = .ok l → l.table_id ≠ 7) ∧
        get_table_metadata_by_id d 1 7 false = .error table_not_found := by
  intro c t ops
  have hdrop : ∃ r ∈ c.tables, drop_hit c.toCatalogState 7 r := by decide
  have hops : ∀ op ∈ ops, ¬op.creates 7 := by decide
  exact ⟨hdrop, hops, dropped_table_stays_gone .reference c 1 7 hdrop ops hops 1 t false⟩

/-- **A table keeps its location for its whole life.** Along every run of calls whose creates
draw ids other than `x`, every row of id `x` has the `table_location` row `x` had at the start:
a rename, even into another namespace, keeps it, and a commit writes only the metadata. -/
theorem table_keeps_its_location (ext : Collaborators) (c : Catalog) (x : Nat) (ops : List Op)
    (hops : ∀ op ∈ ops, ¬op.creates x) (r : TableRow) (hr : r ∈ c.tables) (hx : r.table_id = x) :
    ∀ t ∈ (run ext c.toCatalogState ops).tables, t.table_id = x →
      t.table_location = r.table_location :=
  run_induction_on ext
    (fun d => ∀ t ∈ d.tables, t.table_id = x → t.table_location = r.table_location)
    (fun op => ¬op.creates x) (fun _ op hop h => location_of_id_exec h op hop) ops _ hops
    fun t ht htx => by rw [c.wf.table_eq_of_id ht hr (htx.trans hx.symm)]

theorem table_keeps_its_location_across_namespaces :
    let c : Catalog := ⟨⟨[⟨1, ⟨""⟩, none, .active⟩], [⟨10, 1, ["a"]⟩, ⟨11, 1, ["b"]⟩],
      [⟨7, 10, "t", ⟨7, "s3://b/t", ⟨[], [], [], [], 0⟩⟩, some "m", "s3://b/t"⟩]⟩, by decide⟩
    let r : TableRow := ⟨7, 10, "t", ⟨7, "s3://b/t", ⟨[], [], [], [], 0⟩⟩, some "m", "s3://b/t"⟩
    let ops := [Op.rename 1 7 ⟨⟨["a"], by simp⟩, "t"⟩ ⟨⟨["b"], by simp⟩, "u"⟩]
    (∀ op ∈ ops, ¬op.creates 7) ∧ r ∈ c.tables ∧ r.table_id = 7 ∧
      ∀ t ∈ (run .reference c.toCatalogState ops).tables, t.table_id = 7 →
        t.table_location = r.table_location := by
  intro c r ops
  have hops : ∀ op ∈ ops, ¬op.creates 7 := by decide
  have hr : r ∈ c.tables := List.mem_singleton_self _
  exact ⟨hops, hr, rfl, table_keeps_its_location .reference c 7 ops hops r hr rfl⟩

/-! ## The lookup by location -/

/-- **The lookup by location is the lookup by id of what it finds.** Whatever row
`get_table_metadata_by_s3_location` answers with, `get_table_metadata_by_id` of its id in the
same warehouse returns the same result. -/
theorem location_lookup_agrees_with_lookup_by_id (c : Catalog) (w : Nat) (p : String) (s : Bool)
    (r : GetTableMetadataResult)
    (h : get_table_metadata_by_s3_location c.toCatalogState w p s = .ok r) :
    get_table_metadata_by_id c.toCatalogState w r.table_id s = .ok r := by
  unfold get_table_metadata_by_s3_location at h
  split at h
  · cases h
  next j hj =>
    obtain ⟨hjm, hmatch⟩ := List.mem_filter.1 (List.mem_of_mem_head? hj)
    obtain ⟨hjw, -, -, ha⟩ := of_decide_eq_true hmatch
    obtain ⟨ns, rfl⟩ := metadata_result_eq_ok h
    -- the id picks one row of the join
    have hhead : (c.joined.filter fun j' => j'.w.warehouse_id = w ∧
        j'.t.table_id = j.t.table_id ∧ j'.w.status = .active).head? = some j :=
      List.head?_eq_some_of_subsingleton (fun a ha b hb => c.wf.joined_eq_of_id
          (List.mem_filter.1 ha).1 (List.mem_filter.1 hb).1
          ((of_decide_eq_true (List.mem_filter.1 ha).2).2.1.trans
            (of_decide_eq_true (List.mem_filter.1 hb).2).2.1.symm))
        (List.mem_filter.2 ⟨hjm, decide_eq_true ⟨hjw, rfl, ha⟩⟩)
    rw [get_table_metadata_by_id]
    dsimp only [GetTableMetadataResult.of]
    rw [hhead]
    exact h

theorem location_lookup_agrees_with_lookup_by_id_data_file :
    let c : Catalog := ⟨⟨[⟨1, ⟨""⟩, none, .active⟩], [⟨10, 1, ["a"]⟩],
      [⟨7, 10, "t", ⟨7, "s3://b/t", ⟨[], [], [], [], 0⟩⟩, some "m", "s3://b/t"⟩]⟩, by decide⟩
    let r : GetTableMetadataResult := ⟨⟨⟨["a"], by simp⟩, "t"⟩, 7, 1, "s3://b/t", some "m", none,
      ⟨""⟩⟩
    get_table_metadata_by_s3_location c.toCatalogState 1 "s3://b/t/data/x.parquet" false =
        .ok r ∧
      get_table_metadata_by_id c.toCatalogState 1 r.table_id false = .ok r := by
  intro c r
  have h : get_table_metadata_by_s3_location c.toCatalogState 1 "s3://b/t/data/x.parquet" false =
      .ok r := rfl
  exact ⟨h, location_lookup_agrees_with_lookup_by_id c 1 _ false r h⟩

/-! ## Which matching row the location lookup fetches -/

/-- Every row's location is free of `LIKE`'s metacharacters. -/
def CatalogState.LocationsLiteral (c : CatalogState) : Prop :=
  ∀ t ∈ c.tables, ∀ ch ∈ t.table_location.data, like_metachar ch = false

instance (c : CatalogState) : Decidable c.LocationsLiteral :=
  inferInstanceAs (Decidable (∀ t ∈ c.tables, _))

/-- The call brings, if it is a create, a location free of metacharacters. -/
def Op.location_literal : Op → Prop
  | .create _ _ _ request _ _ =>
    ∀ location ∈ request.location, ∀ ch ∈ location.data, like_metachar ch = false
  | _ => True

instance : (op : Op) → Decidable op.location_literal
  | .create _ _ _ request _ _ => inferInstanceAs
    (Decidable (∀ location ∈ request.location, ∀ ch ∈ location.data, like_metachar ch = false))
  | .rename .. => inferInstanceAs (Decidable True)
  | .drop .. => inferInstanceAs (Decidable True)
  | .commit .. => inferInstanceAs (Decidable True)

section Fetch

variable {ext : Collaborators} {c : CatalogState} {w : Nat} {p : String} {s : Bool}

theorem CatalogState.LocationsLiteral.exec (hl : c.LocationsLiteral) (op : Op)
    (hop : op.location_literal) : (op.exec ext c).LocationsLiteral := by
  intro t ht
  rcases Op.mem_exec ht with ⟨t₀, ht₀, -, hloc⟩ | ⟨_, _, _, _, _, _, location, _, rfl, hl', rfl⟩
  · rw [hloc]
    exact hl t₀ ht₀
  · exact hop location hl'

/-- On prefix-free literal locations, at most one row of the join matches a path: two matching
locations are prefixes of the path, so one is a prefix of the other. -/
theorem location_matches_unique (hc : c.Wf) (hp : c.LocationsPrefixFree)
    (hl : c.LocationsLiteral) {j j' : Joined} (hj : j ∈ c.joined) (hj' : j' ∈ c.joined)
    (hm : location_matches w p j) (hm' : location_matches w p j') : j = j' := by
  obtain ⟨hw, hlike, -⟩ := hm
  obtain ⟨hw', hlike', -⟩ := hm'
  obtain ⟨ht, hn, -, hnt, hwn⟩ := CatalogState.mem_joined.1 hj
  obtain ⟨ht', hn', -, hnt', hwn'⟩ := CatalogState.mem_joined.1 hj'
  have hsame : j.n.warehouse_id = j'.n.warehouse_id :=
    (hwn.symm.trans hw).trans (hwn'.symm.trans hw').symm
  refine hc.joined_eq_of_t hj hj' (by_contra fun hne => ?_)
  rcases List.prefix_or_prefix_of_prefix ((like_append_percent_iff _ (hl _ ht)).1 hlike)
      ((like_append_percent_iff _ (hl _ ht')).1 hlike') with h | h
  · exact hp j.t ht j'.t ht' hne j.n hn j'.n hn' hnt hnt' hsame h
  · exact hp j'.t ht' j.t ht (Ne.symm hne) j'.n hn' j.n hn hnt' hnt hsame.symm h

/-- So the lookup answers with whichever row matches. -/
theorem get_table_metadata_by_s3_location_eq_of_match (hc : c.Wf) (hp : c.LocationsPrefixFree)
    (hl : c.LocationsLiteral) {j : Joined} (hj : j ∈ c.joined) (hm : location_matches w p j) :
    get_table_metadata_by_s3_location c w p s = metadata_result w s j := by
  have hhead : (c.joined.filter fun j => location_matches w p j).head? = some j :=
    (List.head?_filter_eq_some_iff fun _ ha _ hb hpa hpb =>
      location_matches_unique hc hp hl ha hb (of_decide_eq_true hpa) (of_decide_eq_true hpb)).2
      ⟨hj, decide_eq_true hm⟩
  rw [get_table_metadata_by_s3_location, hhead]

/-- The store stays well formed, prefix-free and literal along a run whose calls fit. -/
theorem locations_literal_run : ∀ (ops : List Op) {d : CatalogState}, d.Wf →
    d.LocationsPrefixFree → d.LocationsLiteral → locations_fit_along ext d ops →
    (∀ op ∈ ops, op.location_literal) →
      (run ext d ops).Wf ∧ (run ext d ops).LocationsPrefixFree ∧ (run ext d ops).LocationsLiteral
  | [], _, hc, hp, hl, _, _ => ⟨hc, hp, hl⟩
  | op :: ops, _, hc, hp, hl, hfit, hlit =>
    locations_literal_run ops (hc.exec op) (hp.exec hc op hfit.1)
      (hl.exec op (hlit op (List.mem_cons_self _ _))) hfit.2
      fun o ho => hlit o (List.mem_cons_of_mem _ ho)

end Fetch

/-- **The location lookup does not depend on which matching row is fetched.** Its query has no
`ORDER BY`, and `fetch_one` takes whichever matching row the database returns first. From a
store whose locations are prefix-free within each warehouse and free of `LIKE`'s
metacharacters, along every run whose creates bring such locations (and whose renames name rows
of the warehouse they are called with), every row that matches a path gives the lookup's
answer. -/
theorem location_lookup_is_order_independent (ext : Collaborators) (c : Catalog)
    (hp : c.LocationsPrefixFree) (hl : c.LocationsLiteral) (ops : List Op)
    (hfit : locations_fit_along ext c.toCatalogState ops)
    (hlit : ∀ op ∈ ops, op.location_literal) (w : Nat) (p : String) (s : Bool) (j : Joined)
    (hj : j ∈ (run ext c.toCatalogState ops).joined) (hm : location_matches w p j) :
    get_table_metadata_by_s3_location (run ext c.toCatalogState ops) w p s =
      metadata_result w s j := by
  obtain ⟨hc', hp', hl'⟩ := locations_literal_run ops c.wf hp hl hfit hlit
  exact get_table_metadata_by_s3_location_eq_of_match hc' hp' hl' hj hm

theorem location_lookup_is_order_independent_after_drop :
    let c : Catalog := ⟨⟨[⟨1, ⟨""⟩, none, .active⟩], [⟨10, 1, ["a"]⟩],
      [⟨7, 10, "t", ⟨7, "s3://b/t", ⟨[], [], [], [], 0⟩⟩, some "m", "s3://b/t"⟩,
       ⟨8, 10, "u", ⟨8, "s3://b/u", ⟨[], [], [], [], 0⟩⟩, some "n", "s3://b/u"⟩]⟩, by decide⟩
    let ops := [Op.drop 1 8]
    let j : Joined := ⟨⟨7, 10, "t", ⟨7, "s3://b/t", ⟨[], [], [], [], 0⟩⟩, some "m", "s3://b/t"⟩,
      ⟨10, 1, ["a"]⟩, ⟨1, ⟨""⟩, none, .active⟩⟩
    c.LocationsPrefixFree ∧ c.LocationsLiteral ∧
      locations_fit_along .reference c.toCatalogState ops ∧
      (∀ op ∈ ops, op.location_literal) ∧ j ∈ (run .reference c.toCatalogState ops).joined ∧
      location_matches 1 "s3://b/t/x" j ∧
      get_table_metadata_by_s3_location (run .reference c.toCatalogState ops) 1 "s3://b/t/x" false =
        metadata_result 1 false j := by
  intro c ops j
  have hp : c.LocationsPrefixFree := by decide
  have hl : c.LocationsLiteral := by decide
  have hfit : locations_fit_along .reference c.toCatalogState ops := ⟨trivial, trivial⟩
  have hlit : ∀ op ∈ ops, op.location_literal := by decide
  have hj : j ∈ (run .reference c.toCatalogState ops).joined := by decide
  have hm : location_matches 1 "s3://b/t/x" j := by decide
  exact ⟨hp, hl, hfit, hlit, hj, hm, location_lookup_is_order_independent .reference c hp hl ops
    hfit hlit 1 "s3://b/t/x" false j hj hm⟩

end IcebergCatalog
