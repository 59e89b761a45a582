/-
`rename_table` and `drop_table` (`table.rs:508-625`).

A rename is one `UPDATE`, of one of two shapes. Within a namespace it sets `table_name` on the
row with the given id; across namespaces it also sets `namespace_id` from a scalar subquery
over the destination namespace, and requires the row to still bear the source name. Both gate
on `$warehouse IN (SELECT warehouse_id FROM warehouse WHERE status = 'active')`: on the
warehouse passed in, not on the warehouse the row belongs to. `drop_table` ignores the
warehouse it is passed and gates on the row's own namespace instead.

The scalar subquery is `NULL` when the destination namespace does not exist, and `NULL` into
`"table".namespace_id` is refused: the spec's schema (§6) marks the nullable columns with `?`,
and `namespace_id` is not one of them.

A rename of a table found under its source identifier is undone by the reverse rename, within a
namespace or across two (`reverse_rename_restores`).
-/
import IcebergCatalog.Create

set_option autoImplicit false

namespace IcebergCatalog

/-- The `NotFound` of a same-namespace rename that matches no row. -/
def rename_table_id_not_found : ErrorModel :=
  { code := 404, message := "ID of Table to rename not found", type := "RenameTableIdNotFound",
    stack := none }

/-- The `NotFound` of a cross-namespace rename that matches no row. -/
def rename_table_id_or_namespace_not_found : ErrorModel :=
  { code := 404, message := "ID of Table to rename not found or destination namespace not found",
    type := "RenameTableIdOrNamespaceNotFound", stack := none }

/-- `UPDATE "table" SET table_name = $1 WHERE table_id = $2 AND $3 IN (SELECT warehouse_id
FROM warehouse WHERE status = 'active') RETURNING table_id`, with `fetch_one`. -/
def rename_in_namespace (c : CatalogState) (warehouse_id source_id : Nat) (dest_name : String) :
    Except DbError CatalogState :=
  if ∃ t ∈ c.tables, t.table_id = source_id ∧ c.warehouse_active warehouse_id then
    c.with_tables (c.tables.map fun t =>
      if t.table_id = source_id ∧ c.warehouse_active warehouse_id then
        { t with table_name := dest_name } else t)
  else .error .RowNotFound

/-- `UPDATE "table" SET table_name = $1, "namespace_id" = (SELECT namespace_id FROM namespace
WHERE warehouse_id = $2 AND namespace_name = $3) WHERE "table_id" = $4 AND table_name = $5
AND $2 IN (SELECT warehouse_id FROM warehouse WHERE status = 'active') RETURNING "table_id"`,
with `fetch_one`. -/
def rename_across_namespaces (c : CatalogState) (warehouse_id source_id : Nat)
    (source_name dest_name : String) (dest_namespace : List String) :
    Except DbError CatalogState :=
  if ∃ t ∈ c.tables, t.table_id = source_id ∧ t.table_name = source_name ∧
      c.warehouse_active warehouse_id then
    match c.namespaces.find? fun n =>
        n.warehouse_id = warehouse_id ∧ n.namespace_name = dest_namespace with
    | none => .error (.NotNullViolation "namespace_id")
    | some n =>
      c.with_tables (c.tables.map fun t =>
        if t.table_id = source_id ∧ t.table_name = source_name ∧
            c.warehouse_active warehouse_id then
          { t with table_name := dest_name, namespace_id := n.namespace_id } else t)
  else .error .RowNotFound

/-- `rename_table`. -/
def rename_table (ext : Collaborators) (c : CatalogState) (warehouse_id source_id : Nat)
    (source destination : TableIdent) : Except ErrorModel CatalogState :=
  if source.namespace = destination.namespace then
    match rename_in_namespace c warehouse_id source_id destination.name with
    | .ok c' => .ok c'
    | .error .RowNotFound => .error rename_table_id_not_found
    | .error e => .error (ext.into_error_model e "Error renaming table")
  else
    match rename_across_namespaces c warehouse_id source_id source.name destination.name
        destination.namespace.parts with
    | .ok c' => .ok c'
    | .error .RowNotFound => .error rename_table_id_or_namespace_not_found
    | .error e => .error (ext.into_error_model e "Error renaming Table")

/-- A row `drop_table` deletes: the given id, in a namespace of an active warehouse. -/
def drop_hit (c : CatalogState) (table_id : Nat) (t : TableRow) : Prop :=
  t.table_id = table_id ∧ c.namespace_active t.namespace_id

instance (c : CatalogState) (table_id : Nat) (t : TableRow) : Decidable (drop_hit c table_id t) :=
  inferInstanceAs (Decidable (_ ∧ _))

/-- `drop_table`: `DELETE FROM "table" WHERE "table_id" = $1 AND "namespace_id" IN (SELECT
"namespace_id" FROM namespace WHERE "warehouse_id" IN (active warehouses)) RETURNING
"table_id"`, with `fetch_one`. The warehouse argument is unused, as in the source. -/
def drop_table (c : CatalogState) (_warehouse_id : Nat) (table_id : Nat) :
    Except ErrorModel CatalogState :=
  if ∃ t ∈ c.tables, drop_hit c table_id t then
    .ok { c with tables := c.tables.filter fun t => ¬drop_hit c table_id t }
  else .error table_not_found

/-! ## What a rename and a drop change -/

/-- `f` is a rename of row `x` through warehouse `w`: it keeps every column but the name and
the namespace, moves a row only into a namespace of `w`, and leaves the rows of other ids
alone. -/
structure Renames (c : CatalogState) (w x : Nat) (f : TableRow → TableRow) : Prop where
  table_id : ∀ t, (f t).table_id = t.table_id
  metadata : ∀ t, (f t).metadata = t.metadata
  metadata_location : ∀ t, (f t).metadata_location = t.metadata_location
  table_location : ∀ t, (f t).table_location = t.table_location
  namespace_id : ∀ t, (f t).namespace_id = t.namespace_id ∨
    ∃ n ∈ c.namespaces, n.warehouse_id = w ∧ (f t).namespace_id = n.namespace_id
  other : ∀ t, t.table_id ≠ x → f t = t

section Frame

variable {ext : Collaborators} {c c' : CatalogState}

/-- The row function of an `UPDATE ... WHERE table_id = x AND ...` that sets the name, and
perhaps the namespace to one of `w`'s. -/
theorem renames_of_update {w x : Nat} {p : TableRow → Prop} [DecidablePred p]
    (hp : ∀ t, p t → t.table_id = x) (g : TableRow → TableRow)
    (hg : ∀ t, g t = { t with table_name := (g t).table_name, namespace_id := (g t).namespace_id })
    (hns : ∀ t, (g t).namespace_id = t.namespace_id ∨
      ∃ n ∈ c.namespaces, n.warehouse_id = w ∧ (g t).namespace_id = n.namespace_id) :
    Renames c w x fun t => if p t then g t else t := by
  refine ⟨fun t => ?_, fun t => ?_, fun t => ?_, fun t => ?_, fun t => ?_,
    fun t ht => if_neg fun h => ht (hp t h)⟩ <;> split_ifs
  all_goals first | rfl | exact .inl rfl | exact hns t | rw [hg t]

theorem rename_in_namespace_eq_ok {w x : Nat} {name : String}
    (h : rename_in_namespace c w x name = .ok c') :
    ∃ f, Renames c w x f ∧ c.with_tables (c.tables.map f) = .ok c' := by
  unfold rename_in_namespace at h
  split_ifs at h
  exact ⟨_, renames_of_update (fun t ht => ht.1) (fun t => { t with table_name := name })
    (fun _ => rfl) (fun _ => .inl rfl), h⟩

theorem rename_across_namespaces_eq_ok {w x : Nat} {src_name name : String} {ns : List String}
    (h : rename_across_namespaces c w x src_name name ns = .ok c') :
    ∃ f, Renames c w x f ∧ c.with_tables (c.tables.map f) = .ok c' := by
  unfold rename_across_namespaces at h
  split_ifs at h
  split at h
  · cases h
  · next n hn =>
    have hw : n.warehouse_id = w := by
      have := List.find?_some hn
      simp only [decide_eq_true_eq] at this
      exact this.1
    exact ⟨_, renames_of_update (fun t ht => ht.1)
      (fun t => { t with table_name := name, namespace_id := n.namespace_id })
      (fun _ => rfl) (fun _ => .inr ⟨n, List.mem_of_find?_eq_some hn, hw, rfl⟩), h⟩

/-- **What a successful rename does**: it maps the rows by a rename of row `x`, within the
schema's constraints. -/
theorem rename_table_eq_ok {w x : Nat} {src dst : TableIdent}
    (h : rename_table ext c w x src dst = .ok c') :
    ∃ f, Renames c w x f ∧ c.with_tables (c.tables.map f) = .ok c' := by
  unfold rename_table at h
  split_ifs at h <;> split at h <;> cases h
  · exact rename_in_namespace_eq_ok ‹_›
  · exact rename_across_namespaces_eq_ok ‹_›

/-- A rename through an active warehouse's id renames a row of an inactive warehouse: warehouse
`1` is active, warehouse `2` is inactive and holds namespace `20`, `["a"]`, with the committed
table `7`, `t`; renaming it to `t2` with warehouse `1` as the argument succeeds. -/
theorem rename_table_renames_row_of_inactive_warehouse :
    rename_table .reference
      { warehouses := [⟨1, ⟨""⟩, none, .active⟩, ⟨2, ⟨""⟩, none, .inactive⟩],
        namespaces := [⟨20, 2, ["a"]⟩],
        tables := [⟨7, 20, "t", ⟨7, "s3://b/t", ⟨[], [], [], [], 0⟩⟩, some "m", "s3://b/t"⟩] }
      1 7 ⟨⟨["a"], by simp⟩, "t"⟩ ⟨⟨["a"], by simp⟩, "t2"⟩ =
    .ok
      { warehouses := [⟨1, ⟨""⟩, none, .active⟩, ⟨2, ⟨""⟩, none, .inactive⟩],
        namespaces := [⟨20, 2, ["a"]⟩],
        tables := [⟨7, 20, "t2", ⟨7, "s3://b/t", ⟨[], [], [], [], 0⟩⟩, some "m", "s3://b/t"⟩] } :=
  rfl

/-- **What a successful drop does**: it deletes the rows of the id whose namespace is in an
active warehouse, and at least one such row was there. -/
theorem drop_table_eq_ok {w x : Nat} (h : drop_table c w x = .ok c') :
    (∃ t ∈ c.tables, drop_hit c x t) ∧
      c' = { c with tables := c.tables.filter fun t => ¬drop_hit c x t } := by
  unfold drop_table at h
  split_ifs at h with hx
  cases h
  exact ⟨hx, rfl⟩

end Frame

/-! ## A rename into a namespace that exists -/

/-- Row `t` after row `x` is renamed to `name` in the namespace of id `namespace_id`. -/
def TableRow.rename_to (x : Nat) (name : String) (namespace_id : Nat) (t : TableRow) :
    TableRow :=
  if t.table_id = x then { t with table_name := name, namespace_id } else t

section Move

variable {c : CatalogState} {x : Nat} {name : String} {n : NamespaceRow}

@[simp] theorem TableRow.rename_to_table_id (t : TableRow) :
    (t.rename_to x name n.namespace_id).table_id = t.table_id := by
  unfold TableRow.rename_to; split_ifs <;> rfl

/-- Renaming one row into a namespace of the store keeps the constraints when no other row
already bears the new name there. -/
theorem CatalogState.Wf.with_tables_rename_to (hc : c.Wf) (hn : n ∈ c.namespaces)
    (hfree : ∀ t ∈ c.tables, t.namespace_id = n.namespace_id → t.table_name = name →
      t.table_id = x) :
    c.with_tables (c.tables.map (TableRow.rename_to x name n.namespace_id)) =
      .ok { c with tables := c.tables.map (TableRow.rename_to x name n.namespace_id) } := by
  refine CatalogState.with_tables_eq_ok_iff.2 ⟨?_, ?_, fun t ht => ?_⟩
  · simpa only [List.map_map, Function.comp_def, TableRow.rename_to_table_id] using hc.table_pkey
  · rw [List.map_map]
    refine (hc.table_pkey.of_map _).map_on fun t ht t' ht' h => ?_
    simp only [Function.comp_apply, TableRow.rename_to] at h
    split_ifs at h with h₁ h₂ h₂ <;> simp only [Prod.mk.injEq] at h
    · exact hc.table_eq_of_id ht ht' (h₁.trans h₂.symm)
    · exact absurd (hfree t' ht' h.1.symm h.2.symm) h₂
    · exact absurd (hfree t ht h.1 h.2) h₁
    · exact List.inj_on_of_nodup_map hc.unique_table_name_per_namespace ht ht' (Prod.ext h.1 h.2)
  · obtain ⟨t₀, ht₀, rfl⟩ := List.mem_map.1 ht
    unfold TableRow.rename_to
    split_ifs
    · exact ⟨n, hn, rfl⟩
    · exact hc.table_fkey t₀ ht₀

/-- **What the lookups see after a rename.** Where row `x` is the table `src` of warehouse `w`
and `n` is the namespace of `w` that `dst` names, once row `x` is renamed into `n` the lookup of
`dst` finds row `x`, and the lookup of `src` finds nothing unless `src` is `dst`. -/
theorem table_ident_to_id_rename_to (hc : c.Wf) {w : Nat} {src dst : TableIdent}
    (hx : table_ident_to_id c w src true = some x) (hn : n ∈ c.namespaces)
    (hnw : n.warehouse_id = w) (hname : n.namespace_name = dst.namespace.parts)
    (hfree : ∀ t ∈ c.tables, t.namespace_id = n.namespace_id → t.table_name = dst.name →
      t.table_id = x) :
    table_ident_to_id
        { c with tables := c.tables.map (TableRow.rename_to x dst.name n.namespace_id) } w dst
        true = some x ∧
      (src ≠ dst → table_ident_to_id
        { c with tables := c.tables.map (TableRow.rename_to x dst.name n.namespace_id) } w src
        true = none) := by
  obtain ⟨j, hj, ⟨hjw, hja, hjns, hjname, -⟩, rfl⟩ := (table_ident_to_id_eq_some_iff hc).1 hx
  obtain ⟨ht, -, hwr, -, hwn⟩ := CatalogState.mem_joined.1 hj
  have hc' := hc.with_tables (hc.with_tables_rename_to hn hfree)
  have hrow : j.t.rename_to j.t.table_id dst.name n.namespace_id =
      { j.t with table_name := dst.name, namespace_id := n.namespace_id } := if_pos rfl
  constructor
  · -- row `x`, now in `n` under the name of `dst`
    refine (table_ident_to_id_eq_some_iff hc').2
      ⟨⟨{ j.t with table_name := dst.name, namespace_id := n.namespace_id }, n, j.w⟩,
        CatalogState.mem_joined.2 ⟨hrow ▸ List.mem_map_of_mem _ ht, hn, hwr, rfl,
          hwn.trans (hjw.trans hnw.symm)⟩, ⟨hnw, hja, hname, rfl, .inr rfl⟩, rfl⟩
  · intro hne
    refine Option.eq_none_iff_forall_not_mem.2 fun y hy => ?_
    obtain ⟨j', hj', ⟨hw', ha', hns', hname', -⟩, rfl⟩ := (table_ident_to_id_eq_some_iff hc').1 hy
    obtain ⟨ht', hn', hwr', hnt', hwn'⟩ := CatalogState.mem_joined.1 hj'
    obtain ⟨t₀, ht₀, heq⟩ := List.mem_map.1 ht'
    unfold TableRow.rename_to at heq
    split_ifs at heq with h₀ <;> rw [← heq] at hnt' hname'
    · -- the renamed row is in `n` under the name of `dst`, so `src` would be `dst`
      obtain rfl := hc.namespace_eq_of_id hn' hn hnt'
      exact hne (TableIdent.eq_iff.2 ⟨hns'.symm.trans hname, hname'.symm⟩)
    · -- an untouched row bearing `src` is row `x` itself
      have hj₀ : ⟨t₀, j'.n, j'.w⟩ ∈ c.joined :=
        CatalogState.mem_joined.2 ⟨ht₀, hn', hwr', hnt', hwn'⟩
      exact h₀ (congrArg (·.t.table_id) (hc.joined_eq_of_name hj₀ hj (hw'.trans hjw.symm)
        (hns'.trans hjns.symm) (hname'.trans hjname.symm)))

/-- An update of the rows that `P` selects, where `P` selects row `x` alone and `g` moves it to
name `s` in the namespace of id `i`, is that rename. -/
theorem map_ite_eq_map_rename_to {tables : List TableRow} {x : Nat} {s : String} {i : Nat}
    {P : TableRow → Prop} [DecidablePred P] {g : TableRow → TableRow}
    (hP : ∀ t ∈ tables, P t ↔ t.table_id = x)
    (hg : ∀ t ∈ tables, t.table_id = x → g t = { t with table_name := s, namespace_id := i }) :
    tables.map (fun t => if P t then g t else t) = tables.map (TableRow.rename_to x s i) :=
  List.map_congr_left fun t ht => by
    unfold TableRow.rename_to
    by_cases h : t.table_id = x
    · rw [if_pos ((hP t ht).2 h), if_pos h, hg t ht h]
    · rw [if_neg (mt (hP t ht).1 h), if_neg h]

variable {ext : Collaborators} {w : Nat} {src dst : TableIdent}

/-- Where row `x` is the table `src` of warehouse `w`, a rename to `dst` whose namespace `n` is
in `w` succeeds exactly when renaming row `x` into `n` passes the constraints, by either
statement, and then that is the store. -/
theorem rename_table_eq_ok_iff_rename_to (hc : c.Wf)
    (hx : table_ident_to_id c w src true = some x) (hn : n ∈ c.namespaces)
    (hnw : n.warehouse_id = w) (hname : n.namespace_name = dst.namespace.parts)
    {c' : CatalogState} :
    rename_table ext c w x src dst = .ok c' ↔
      c.with_tables (c.tables.map (TableRow.rename_to x dst.name n.namespace_id)) = .ok c' := by
  obtain ⟨j, hj, ⟨hjw, hja, hjns, hjname, -⟩, rfl⟩ := (table_ident_to_id_eq_some_iff hc).1 hx
  obtain ⟨ht, hjn, hwr, hnt, hwn⟩ := CatalogState.mem_joined.1 hj
  have hact : c.warehouse_active w := ⟨j.w, hwr, hwn.trans hjw, hja⟩
  have hrow : ∀ t ∈ c.tables, t.table_id = j.t.table_id → t = j.t :=
    fun t ht' h => hc.table_eq_of_id ht' ht h
  unfold rename_table
  split_ifs with hns
  on_goal 1 =>
    -- one namespace: `n` is the row's own, so setting the name alone is the rename
    have hnn : n = j.n := hc.namespace_eq_of_name hn hjn (hnw.trans hjw.symm)
      (by rw [hname, ← hns, hjns])
    have hmap := map_ite_eq_map_rename_to (s := dst.name) (i := n.namespace_id)
      (P := fun t => t.table_id = j.t.table_id ∧ c.warehouse_active w)
      (g := fun t => { t with table_name := dst.name }) (fun _ _ => ⟨And.left, fun h => ⟨h, hact⟩⟩)
      fun t ht' h => by obtain rfl := hrow t ht' h; rw [hnn, hnt]
    have hex : ∃ t ∈ c.tables, t.table_id = j.t.table_id ∧ c.warehouse_active w :=
      ⟨j.t, ht, rfl, hact⟩
    simp only [rename_in_namespace, if_pos hex, hmap]
  on_goal 2 =>
    -- across namespaces: the subquery finds `n`
    have hfind : (c.namespaces.find? fun n' =>
        n'.warehouse_id = w ∧ n'.namespace_name = dst.namespace.parts) = some n :=
      List.find?_eq_some_of_unique hn (by simp [hnw, hname]) fun n' hn' h' => by
        simp only [decide_eq_true_eq] at h'
        exact hc.namespace_eq_of_name hn' hn (h'.1.trans hnw.symm) (h'.2.trans hname.symm)
    have hmap := map_ite_eq_map_rename_to (P := fun t => t.table_id = j.t.table_id ∧
        t.table_name = src.name ∧ c.warehouse_active w)
      (g := fun t => { t with table_name := dst.name, namespace_id := n.namespace_id })
      (fun t ht' => ⟨And.left, fun h => ⟨h, hrow t ht' h ▸ hjname, hact⟩⟩) fun _ _ _ => rfl
    have hex : ∃ t ∈ c.tables, t.table_id = j.t.table_id ∧ t.table_name = src.name ∧
        c.warehouse_active w := ⟨j.t, ht, rfl, hjname, hact⟩
    simp only [rename_across_namespaces, if_pos hex, hfind, hmap]
  -- the constraints' errors are never `RowNotFound`, which alone the two branches tell apart
  all_goals
    cases c.with_tables (c.tables.map (TableRow.rename_to j.t.table_id dst.name n.namespace_id)) with
    | ok d => simp
    | error e => cases e <;> simp

/-- Where row `x` is the table `src` of warehouse `w`, a rename to `dst` whose namespace `n` is
in `w` and holds no other row named `dst` renames row `x` into `n`, by either statement. -/
theorem rename_table_eq_rename_to (hc : c.Wf) (hx : table_ident_to_id c w src true = some x)
    (hn : n ∈ c.namespaces) (hnw : n.warehouse_id = w)
    (hname : n.namespace_name = dst.namespace.parts)
    (hfree : ∀ t ∈ c.tables, t.namespace_id = n.namespace_id → t.table_name = dst.name →
      t.table_id = x) :
    rename_table ext c w x src dst =
      .ok { c with tables := c.tables.map (TableRow.rename_to x dst.name n.namespace_id) } :=
  (rename_table_eq_ok_iff_rename_to hc hx hn hnw hname).2 (hc.with_tables_rename_to hn hfree)

/-- Where row `x` is the table `src` of warehouse `w` and no namespace of `w` bears the name of
`dst`'s, the rename is across namespaces, its subquery is empty, and the `NULL` it writes into
`namespace_id` is refused: the error is the database's, passed through `into_error_model`. -/
theorem rename_table_eq_error_of_no_namespace (hc : c.Wf)
    (hx : table_ident_to_id c w src true = some x)
    (hno : ¬∃ n ∈ c.namespaces, n.warehouse_id = w ∧ n.namespace_name = dst.namespace.parts) :
    rename_table ext c w x src dst =
      .error (ext.into_error_model (.NotNullViolation "namespace_id") "Error renaming Table") := by
  obtain ⟨j, hj, ⟨hjw, hja, hjns, hjname, -⟩, rfl⟩ := (table_ident_to_id_eq_some_iff hc).1 hx
  obtain ⟨ht, hjn, hwr, -, hwn⟩ := CatalogState.mem_joined.1 hj
  have hact : c.warehouse_active w := ⟨j.w, hwr, hwn.trans hjw, hja⟩
  have hns : src.namespace ≠ dst.namespace := fun h => hno ⟨j.n, hjn, hjw, h ▸ hjns⟩
  have hfind : (c.namespaces.find? fun n' =>
      n'.warehouse_id = w ∧ n'.namespace_name = dst.namespace.parts) = none :=
    List.find?_eq_none.2 fun n' hn' h' => hno ⟨n', hn', by simpa using h'⟩
  have hex : ∃ t ∈ c.tables, t.table_id = j.t.table_id ∧ t.table_name = src.name ∧
      c.warehouse_active w := ⟨j.t, ht, rfl, hjname, hact⟩
  simp only [rename_table, if_neg hns, rename_across_namespaces, if_pos hex, hfind]

end Move

/-- **A rename of a table into a namespace.** Where row `x` is the table `src` of warehouse `w`:
if `w` has the namespace `dst` names and no other row bears `dst`, the rename succeeds, renames
row `x` alone (its id, metadata, metadata location and location kept, every other row
unchanged), and afterwards `dst` is found as `x` and `src`, if it differs, not at all. If `w`
has no such namespace, the call fails with the database's error for the `NULL` namespace id,
not with `RenameTableIdOrNamespaceNotFound`. -/
theorem rename_table_into_namespace (ext : Collaborators) (c : Catalog) (w x : Nat)
    (src dst : TableIdent) (hx : table_ident_to_id c.toCatalogState w src true = some x) :
    ((∃ n ∈ c.namespaces, n.warehouse_id = w ∧ n.namespace_name = dst.namespace.parts) →
      (∀ j ∈ c.joined, j.n.warehouse_id = w → j.n.namespace_name = dst.namespace.parts →
        j.t.table_name = dst.name → j.t.table_id = x) →
      ∃ f c', rename_table ext c.toCatalogState w x src dst = .ok c' ∧
        Renames c.toCatalogState w x f ∧ c' = { c.toCatalogState with tables := c.tables.map f } ∧
        table_ident_to_id c' w dst true = some x ∧
        (src ≠ dst → table_ident_to_id c' w src true = none)) ∧
    ((¬∃ n ∈ c.namespaces, n.warehouse_id = w ∧ n.namespace_name = dst.namespace.parts) →
      rename_table ext c.toCatalogState w x src dst =
        .error (ext.into_error_model (.NotNullViolation "namespace_id") "Error renaming Table")) := by
  refine ⟨fun ⟨n, hn, hnw, hname⟩ hdst => ?_, rename_table_eq_error_of_no_namespace c.wf hx⟩
  -- a row of `n` bearing the name of `dst` is a row of the join named `dst` in `w`
  have hfree : ∀ t ∈ c.tables, t.namespace_id = n.namespace_id → t.table_name = dst.name →
      t.table_id = x := fun t ht htn htname => by
    obtain ⟨wr, hwr, hwn⟩ := c.wf.namespace_fkey n hn
    exact hdst ⟨t, n, wr⟩ (CatalogState.mem_joined.2 ⟨ht, hn, hwr, htn.symm, hwn⟩) hnw hname htname
  obtain ⟨hdst', hsrc⟩ := table_ident_to_id_rename_to c.wf hx hn hnw hname hfree
  exact ⟨TableRow.rename_to x dst.name n.namespace_id, _,
    rename_table_eq_rename_to c.wf hx hn hnw hname hfree,
    renames_of_update (fun _ h => h)
      (fun t => { t with table_name := dst.name, namespace_id := n.namespace_id })
      (fun _ => rfl) (fun _ => .inr ⟨n, hn, hnw, rfl⟩),
    rfl, hdst', hsrc⟩

theorem rename_table_into_namespace_missing :
    let c : Catalog := ⟨⟨[⟨1, ⟨""⟩, none, .active⟩], [⟨10, 1, ["a"]⟩],
      [⟨7, 10, "t", ⟨7, "s3://b/t", ⟨[], [], [], [], 0⟩⟩, some "m", "s3://b/t"⟩]⟩, by decide⟩
    let src : TableIdent := ⟨⟨["a"], by simp⟩, "t"⟩
    let dst : TableIdent := ⟨⟨["b"], by simp⟩, "t"⟩
    table_ident_to_id c.toCatalogState 1 src true = some 7 ∧
    (((∃ n ∈ c.namespaces, n.warehouse_id = 1 ∧ n.namespace_name = dst.namespace.parts) →
      (∀ j ∈ c.joined, j.n.warehouse_id = 1 → j.n.namespace_name = dst.namespace.parts →
        j.t.table_name = dst.name → j.t.table_id = 7) →
      ∃ f c', rename_table .reference c.toCatalogState 1 7 src dst = .ok c' ∧
        Renames c.toCatalogState 1 7 f ∧ c' = { c.toCatalogState with tables := c.tables.map f } ∧
        table_ident_to_id c' 1 dst true = some 7 ∧
        (src ≠ dst → table_ident_to_id c' 1 src true = none)) ∧
    ((¬∃ n ∈ c.namespaces, n.warehouse_id = 1 ∧ n.namespace_name = dst.namespace.parts) →
      rename_table .reference c.toCatalogState 1 7 src dst =
        .error (Collaborators.reference.into_error_model (.NotNullViolation "namespace_id")
          "Error renaming Table"))) := by
  intro c src dst
  have hx : table_ident_to_id c.toCatalogState 1 src true = some 7 := by decide
  exact ⟨hx, rename_table_into_namespace .reference c 1 7 src dst hx⟩

/-! ## A rename and its reverse -/

section Reverse

variable {c : CatalogState} {x : Nat}

/-- A second rename of the same row overrides the first. -/
theorem TableRow.rename_to_rename_to {a b : String} {i k : Nat} (t : TableRow) :
    (t.rename_to x a i).rename_to x b k = t.rename_to x b k := by
  unfold TableRow.rename_to
  by_cases h : t.table_id = x <;> simp [h]

/-- Renaming a row to the name and namespace it has changes nothing. -/
theorem TableRow.rename_to_self (t : TableRow) :
    t.rename_to t.table_id t.table_name t.namespace_id = t := if_pos rfl

/-- Where row `x`, renamed into namespace `n` under `name`, passes the constraints, no other row
was there under that name. -/
theorem rename_to_free {name : String} {i : Nat}
    (hc' : { c with tables := c.tables.map (TableRow.rename_to x name i) }.Wf) {r : TableRow}
    (hr : r ∈ c.tables) (hrx : r.table_id = x) :
    ∀ t ∈ c.tables, t.namespace_id = i → t.table_name = name → t.table_id = x := by
  intro t ht hns hname
  by_contra hne
  have h₁ : t.rename_to x name i = t := if_neg hne
  have h₂ : r.rename_to x name i = { r with table_name := name, namespace_id := i } := if_pos hrx
  have heq := hc'.table_eq_of_name (List.mem_map_of_mem _ ht) (List.mem_map_of_mem _ hr)
    (by rw [h₁, h₂]; exact hns) (by rw [h₁, h₂]; exact hname)
  rw [h₁, h₂] at heq
  exact hne (congrArg TableRow.table_id heq ▸ hrx)

end Reverse

/-- **A rename is undone by the reverse rename.** Where `src` is found as row `x` in warehouse
`w`, a rename of `x` from `src` to `dst` that succeeds, within a namespace or across two, is
undone exactly by the rename of `x` from `dst` back to `src`: that call succeeds too, and leaves
the store the first one started from. -/
theorem reverse_rename_restores (ext : Collaborators) (c : Catalog) (w x : Nat)
    (src dst : TableIdent) (hx : table_ident_to_id c.toCatalogState w src true = some x)
    (c' : CatalogState) (h : rename_table ext c.toCatalogState w x src dst = .ok c') :
    rename_table ext c' w x dst src = .ok c.toCatalogState := by
  obtain ⟨j, hj, ⟨hjw, -, hjns, hjname, -⟩, rfl⟩ := (table_ident_to_id_eq_some_iff c.wf).1 hx
  obtain ⟨ht, hjn, -, hnt, -⟩ := CatalogState.mem_joined.1 hj
  -- the rename found the namespace `dst` names in `w`, and renamed row `x` into it
  obtain ⟨n, hn, hnw, hname⟩ :
      ∃ n ∈ c.namespaces, n.warehouse_id = w ∧ n.namespace_name = dst.namespace.parts := by
    by_contra hno
    rw [rename_table_eq_error_of_no_namespace c.wf hx hno] at h
    cases h
  have hok := (rename_table_eq_ok_iff_rename_to c.wf hx hn hnw hname).1 h
  have hc' := c.wf.with_tables hok
  obtain rfl := CatalogState.with_tables_eq_ok hok
  have hx' := (table_ident_to_id_rename_to c.wf hx hn hnw hname
    (rename_to_free hc' ht rfl)).1
  -- back in `src`'s slot, only row `x` bears its name
  have hfree : ∀ t ∈ c.tables.map (TableRow.rename_to j.t.table_id dst.name n.namespace_id),
      t.namespace_id = j.n.namespace_id → t.table_name = src.name → t.table_id = j.t.table_id := by
    intro t ht' hns hname'
    obtain ⟨t₀, ht₀, rfl⟩ := List.mem_map.1 ht'
    rw [TableRow.rename_to_table_id]
    by_contra hne
    have h₀ : t₀.rename_to j.t.table_id dst.name n.namespace_id = t₀ := if_neg hne
    rw [h₀] at hns hname'
    exact hne (congrArg TableRow.table_id
      (c.wf.table_eq_of_name ht₀ ht (hns.trans hnt) (hname'.trans hjname.symm)))
  rw [rename_table_eq_rename_to hc' hx' hjn hjw hjns hfree, List.map_map]
  -- the two renames compose to renaming row `x` to what it was
  have hback : ∀ t ∈ c.tables,
      (TableRow.rename_to j.t.table_id src.name j.n.namespace_id ∘
        TableRow.rename_to j.t.table_id dst.name n.namespace_id) t = t := by
    intro t ht'
    rw [Function.comp_apply, TableRow.rename_to_rename_to]
    by_cases htx : t.table_id = j.t.table_id
    · obtain rfl := c.wf.table_eq_of_id ht' ht htx
      rw [← hjname, hnt]
      exact TableRow.rename_to_self _
    · exact if_neg htx
  rw [List.map_congr_left hback, List.map_id']

theorem reverse_rename_restores_across_namespaces :
    let c : Catalog := ⟨⟨[⟨1, ⟨""⟩, none, .active⟩], [⟨10, 1, ["a"]⟩, ⟨11, 1, ["b"]⟩],
      [⟨7, 10, "t", ⟨7, "s3://b/t", ⟨[], [], [], [], 0⟩⟩, some "m", "s3://b/t"⟩]⟩, by decide⟩
    let src : TableIdent := ⟨⟨["a"], by simp⟩, "t"⟩
    let dst : TableIdent := ⟨⟨["b"], by simp⟩, "u"⟩
    let c' : CatalogState := ⟨c.warehouses, c.namespaces,
      [⟨7, 11, "u", ⟨7, "s3://b/t", ⟨[], [], [], [], 0⟩⟩, some "m", "s3://b/t"⟩]⟩
    table_ident_to_id c.toCatalogState 1 src true = some 7 ∧
      rename_table .reference c.toCatalogState 1 7 src dst = .ok c' ∧
      rename_table .reference c' 1 7 dst src = .ok c.toCatalogState := by
  intro c src dst c'
  have hx : table_ident_to_id c.toCatalogState 1 src true = some 7 := by decide
  have h : rename_table .reference c.toCatalogState 1 7 src dst = .ok c' := rfl
  exact ⟨hx, h, reverse_rename_restores .reference c 1 7 src dst hx c' h⟩

end IcebergCatalog
