/-
Table locations: the lookup by location (`table.rs:430-506`), and whether the store keeps the
locations of a warehouse prefix-free.

`get_table_metadata_by_s3_location` filters the join with `$2 LIKE t.table_location || '%'` and
`LENGTH(t.table_location) <= $3`, and takes the first row with `fetch_one`. The pattern is the
stored location, so `LIKE`'s metacharacters in it keep their meaning: `_` matches any one
character, `%` any run of characters, and `\` (PostgreSQL's default escape) makes the next
character literal. On locations free of the three, the filter is exactly "the location is a
prefix of the path". `fetch_one` does not ask for a unique row: with nested locations it returns
whichever matching row comes first.

Nothing on the write side compares locations. `create_table` stores the location it is given,
and the other three operations never change one; so the store stays prefix-free exactly as
long as each create brings a location that fits.
-/
import IcebergCatalog.Run
import Mathlib.Data.List.Infix
import Mathlib.Data.String.Basic

set_option autoImplicit false

namespace IcebergCatalog

/-! ## `LIKE` -/

/-- PostgreSQL's `s LIKE pattern` with the default escape `\`, by recursion on the pattern.
A pattern ending in a lone escape is an error there; it never arises here, since every pattern
below ends with the `%` the query appends. -/
def like (s : List Char) : List Char → Bool
  | [] => s.isEmpty
  | '%' :: pattern => s.tails.any fun rest => like rest pattern
  | '_' :: pattern =>
    match s with
    | [] => false
    | _ :: s => like s pattern
  | '\\' :: c :: pattern =>
    match s with
    | [] => false
    | c' :: s => c' == c && like s pattern
  | ['\\'] => false
  | c :: pattern =>
    match s with
    | [] => false
    | c' :: s => c' == c && like s pattern

/-- A character `LIKE` reads as something other than itself. -/
def like_metachar (c : Char) : Bool :=
  c == '%' || c == '_' || c == '\\'

theorem like_percent (s : List Char) : like s ['%'] = true := by
  simp only [like, List.any_eq_true]
  exact ⟨[], (List.mem_tails [] s).2 List.nil_suffix, rfl⟩

/-- **On a pattern free of metacharacters, `LIKE pattern || '%'` is "starts with".** -/
theorem like_append_percent_iff (s : List Char) {q : List Char}
    (hq : ∀ c ∈ q, like_metachar c = false) : like s (q ++ ['%']) = true ↔ q <+: s := by
  induction q generalizing s with
  | nil => simp only [List.nil_append, like_percent, List.nil_prefix]
  | cons c q ih =>
    have hc := hq c (List.mem_cons_self c q)
    have hq' := fun d hd => hq d (List.mem_cons_of_mem c hd)
    simp only [like_metachar, Bool.or_eq_false_iff, beq_eq_false_iff_ne] at hc
    obtain ⟨⟨h1, h2⟩, h3⟩ := hc
    cases s with
    | nil =>
      rw [List.cons_append, like.eq_8 c _ h1 h2 (fun _ _ h _ => h3 h) (fun h _ => h3 h)]
      simp
    | cons d s =>
      rw [List.cons_append, like.eq_9 c _ d s h1 h2 (fun _ _ h _ => h3 h) (fun h _ => h3 h),
        List.cons_prefix_cons, ← ih s hq', Bool.and_eq_true, beq_iff_eq, eq_comm]

/-! ## `get_table_metadata_by_s3_location` -/

/-- The `NotFound` of a location no table matches. -/
def location_not_found (location : String) (warehouse_id : Nat) : ErrorModel :=
  { code := 404, message := "Table not found", type := "NoSuchTableError",
    stack := some [location, "Warehouse: " ++ toString warehouse_id] }

/-- `i32::MAX`, the bound `i32::try_from(location.len()).unwrap_or(i32::MAX)` falls back to. -/
def I32_MAX : Nat := 2147483647

/-- The query's `WHERE`: the warehouse, `$2 LIKE t.table_location || '%'`, and
`LENGTH(t.table_location) <= $3`, where `LENGTH` counts characters and `$3` is the path's
length in bytes, capped at `i32::MAX`; and an active warehouse. -/
def location_matches (warehouse_id : Nat) (location : String) (j : Joined) : Prop :=
  j.w.warehouse_id = warehouse_id ∧ like location.data (j.t.table_location.data ++ ['%']) ∧
    j.t.table_location.length ≤ min location.utf8ByteSize I32_MAX ∧ j.w.status = .active

instance (warehouse_id : Nat) (location : String) (j : Joined) :
    Decidable (location_matches warehouse_id location j) :=
  inferInstanceAs (Decidable (_ ∧ _ ∧ _ ∧ _))

/-- `get_table_metadata_by_s3_location`: the first matching row, then the staged check and the
namespace, as in `get_table_metadata_by_id`. -/
def get_table_metadata_by_s3_location (c : CatalogState) (warehouse_id : Nat) (location : String)
    (include_staged : Bool) : Except ErrorModel GetTableMetadataResult :=
  match (c.joined.filter fun j => location_matches warehouse_id location j).head? with
  | none => .error (location_not_found location warehouse_id)
  | some j => metadata_result warehouse_id include_staged j

/-- A string has at least as many bytes as characters. -/
theorem length_le_utf8ByteSize (s : String) : s.length ≤ s.utf8ByteSize := by
  obtain ⟨cs⟩ := s
  rw [String.utf8ByteSize_mk]
  induction cs with
  | nil => exact Nat.le_refl 0
  | cons c cs ih =>
    have := Char.utf8Size_pos c
    simp only [String.length, List.length_cons, String.utf8Len_cons] at ih ⊢
    omega

section ByLocation

variable {c : CatalogState} {w : Nat} {p : String} {s : Bool}

/-- A location free of metacharacters matches exactly the paths it is a prefix of, except past
`i32::MAX` characters. -/
theorem location_matches_iff {j : Joined}
    (hmeta : ∀ ch ∈ j.t.table_location.data, like_metachar ch = false)
    (hlen : j.t.table_location.length ≤ I32_MAX) :
    location_matches w p j ↔
      j.w.warehouse_id = w ∧ j.t.table_location.data <+: p.data ∧ j.w.status = .active := by
  unfold location_matches
  rw [like_append_percent_iff _ hmeta]
  constructor
  · rintro ⟨hw, hp, -, ha⟩
    exact ⟨hw, hp, ha⟩
  · rintro ⟨hw, hp, ha⟩
    refine ⟨hw, hp, le_min ?_ hlen, ha⟩
    calc j.t.table_location.length = j.t.table_location.data.length := rfl
      _ ≤ p.data.length := hp.length_le
      _ = p.length := rfl
      _ ≤ p.utf8ByteSize := length_le_utf8ByteSize p

end ByLocation

/-- **On locations free of `LIKE`'s metacharacters, the lookup is a prefix match.** In an active
warehouse `w` whose locations hold no `%`, `_` or `\`: a result's location is a prefix of the
path; and a row of `w` whose location is the only prefix of the path among `w`'s rows, of at
most `i32::MAX` characters, committed or asked for with staged rows, and with a non-empty
namespace name, is the one found. -/
theorem location_lookup_is_prefix_match (c : Catalog) (w : Nat) (p : String) (s : Bool)
    (hw : c.warehouse_active w)
    (hmeta : ∀ j ∈ c.joined, j.w.warehouse_id = w →
      ∀ ch ∈ j.t.table_location.data, like_metachar ch = false) :
    (∀ r, get_table_metadata_by_s3_location c.toCatalogState w p s = .ok r →
      r.location.data <+: p.data) ∧
    (∀ j ∈ c.joined, j.w.warehouse_id = w → j.t.table_location.data <+: p.data →
      (∀ j' ∈ c.joined, j'.w.warehouse_id = w → j'.t.table_location.data <+: p.data →
        j'.t = j.t) →
      j.t.table_location.length ≤ I32_MAX → (j.t.metadata_location.isSome ∨ s) →
      j.n.namespace_name ≠ [] →
      ∃ r, get_table_metadata_by_s3_location c.toCatalogState w p s = .ok r ∧
        r.table_id = j.t.table_id) := by
  constructor
  · intro r h
    unfold get_table_metadata_by_s3_location at h
    split at h
    · cases h
    next j hj =>
      obtain ⟨hjm, hmatch⟩ := List.mem_filter.1 (List.mem_of_mem_head? hj)
      obtain ⟨hjw, hlike, -⟩ := of_decide_eq_true hmatch
      obtain ⟨ns, rfl⟩ := metadata_result_eq_ok h
      exact (like_append_percent_iff _ (hmeta j hjm hjw)).1 hlike
  · intro j hj hjw hp huniq hlen hst hne
    have hact : j.w.status = .active := by
      obtain ⟨wr, hwr, hid, ha⟩ := hw
      obtain ⟨-, -, hjw', -, -⟩ := CatalogState.mem_joined.1 hj
      rw [c.wf.warehouse_eq_of_id hjw' hwr (hjw.trans hid.symm)]
      exact ha
    -- the filter keeps `j` and nothing else
    have hhead : (c.joined.filter fun j => location_matches w p j).head? = some j := by
      refine (List.head?_filter_eq_some_iff fun a ha b hb hpa hpb => ?_).2
        ⟨hj, decide_eq_true ((location_matches_iff (hmeta j hj hjw) hlen).2 ⟨hjw, hp, hact⟩)⟩
      have key : ∀ a ∈ c.joined, decide (location_matches w p a) = true → a = j := fun a ha hpa =>
        have ⟨haw, hlike, _⟩ := of_decide_eq_true hpa
        c.wf.joined_eq_of_t ha hj
          (huniq a ha haw ((like_append_percent_iff _ (hmeta a ha haw)).1 hlike))
      rw [key a ha hpa, key b hb hpb]
    obtain ⟨r, hr, -⟩ :=
      (metadata_result_table_iff (w := w) (t := ⟨⟨j.n.namespace_name, hne⟩, j.t.table_name⟩)).2
        ⟨hst, rfl, rfl⟩
    obtain ⟨ns, rfl⟩ := metadata_result_eq_ok hr
    exact ⟨_, by rw [get_table_metadata_by_s3_location, hhead]; exact hr, rfl⟩

theorem location_lookup_is_prefix_match_single_table :
    let c : Catalog := ⟨⟨[⟨1, ⟨""⟩, none, .active⟩], [⟨10, 1, ["a"]⟩],
      [⟨7, 10, "t", ⟨7, "s3://b/t", ⟨[], [], [], [], 0⟩⟩, some "m", "s3://b/t"⟩]⟩, by decide⟩
    c.warehouse_active 1 ∧
    (∀ j ∈ c.joined, j.w.warehouse_id = 1 →
      ∀ ch ∈ j.t.table_location.data, like_metachar ch = false) ∧
    (∀ r, get_table_metadata_by_s3_location c.toCatalogState 1 "s3://b/t/x" false = .ok r →
      r.location.data <+: "s3://b/t/x".data) ∧
    (∀ j ∈ c.joined, j.w.warehouse_id = 1 → j.t.table_location.data <+: "s3://b/t/x".data →
      (∀ j' ∈ c.joined, j'.w.warehouse_id = 1 → j'.t.table_location.data <+: "s3://b/t/x".data →
        j'.t = j.t) →
      j.t.table_location.length ≤ I32_MAX → (j.t.metadata_location.isSome ∨ false) →
      j.n.namespace_name ≠ [] →
      ∃ r, get_table_metadata_by_s3_location c.toCatalogState 1 "s3://b/t/x" false = .ok r ∧
        r.table_id = j.t.table_id) := by
  intro c
  have hw : c.warehouse_active 1 := by decide
  have hmeta : ∀ j ∈ c.joined, j.w.warehouse_id = 1 →
      ∀ ch ∈ j.t.table_location.data, like_metachar ch = false := by decide
  exact ⟨hw, hmeta, location_lookup_is_prefix_match c 1 "s3://b/t/x" false hw hmeta⟩

/-- The lookup is not a unique literal prefix match. A stored `_` matches any character, so
`s3://my_bucket/my_table` is found for `s3://myXbucket/myYtable/x`, which it is not a prefix of;
and of the nested `s3://b/t` and `s3://b/t2`, both prefixes of `s3://b/t2/x`, the first row is
returned. -/
theorem location_lookup_wildcard_and_nested :
    (∃ r, get_table_metadata_by_s3_location
        ⟨[⟨1, ⟨""⟩, none, .active⟩], [⟨10, 1, ["a"]⟩],
          [⟨7, 10, "t", ⟨7, "s3://my_bucket/my_table", ⟨[], [], [], [], 0⟩⟩, some "m",
            "s3://my_bucket/my_table"⟩]⟩
        1 "s3://myXbucket/myYtable/x" false = .ok r ∧
      ¬r.location.data <+: "s3://myXbucket/myYtable/x".data) ∧
    (∃ r, get_table_metadata_by_s3_location
        ⟨[⟨1, ⟨""⟩, none, .active⟩], [⟨10, 1, ["a"]⟩],
          [⟨7, 10, "t", ⟨7, "s3://b/t", ⟨[], [], [], [], 0⟩⟩, some "m", "s3://b/t"⟩,
           ⟨8, 10, "t2", ⟨8, "s3://b/t2", ⟨[], [], [], [], 0⟩⟩, some "m2", "s3://b/t2"⟩]⟩
        1 "s3://b/t2/x" false = .ok r ∧
      r.table_id = 7 ∧ "s3://b/t2".data <+: "s3://b/t2/x".data) :=
  ⟨⟨_, rfl, by decide⟩, ⟨_, rfl, rfl, by decide⟩⟩

/-! ## Prefix-free locations -/

/-- No two distinct rows of one warehouse have locations of which one is a prefix of the other,
equal locations included. -/
def CatalogState.LocationsPrefixFree (c : CatalogState) : Prop :=
  ∀ t₁ ∈ c.tables, ∀ t₂ ∈ c.tables, t₁ ≠ t₂ → ∀ n₁ ∈ c.namespaces, ∀ n₂ ∈ c.namespaces,
    n₁.namespace_id = t₁.namespace_id → n₂.namespace_id = t₂.namespace_id →
    n₁.warehouse_id = n₂.warehouse_id → ¬t₁.table_location.data <+: t₂.table_location.data

instance (c : CatalogState) : Decidable c.LocationsPrefixFree :=
  inferInstanceAs (Decidable (∀ t₁ ∈ c.tables, _))

/-- What a caller must bring for the store to stay prefix-free: a create's location is neither
a prefix nor an extension of the location of a row of the same warehouse, the staged row it
replaces aside; a rename names a row of the warehouse it is called with. -/
def Op.location_fits (c : CatalogState) : Op → Prop
  | .create namespace_id table _ request _ _ =>
    ∀ location, request.location = some location → ∀ t ∈ c.tables,
      ¬(t.namespace_id = namespace_id ∧ t.table_name = table.name) →
      ∀ n₁ ∈ c.namespaces, ∀ n₂ ∈ c.namespaces, n₁.namespace_id = namespace_id →
        n₂.namespace_id = t.namespace_id → n₁.warehouse_id = n₂.warehouse_id →
        ¬location.data <+: t.table_location.data ∧ ¬t.table_location.data <+: location.data
  | .rename warehouse_id source_id _ _ =>
    ∀ t ∈ c.tables, t.table_id = source_id →
      ∃ n ∈ c.namespaces, n.namespace_id = t.namespace_id ∧ n.warehouse_id = warehouse_id
  | _ => True

/-- Every call of a run brings what `Op.location_fits` asks of it, in the state it runs in. -/
def locations_fit_along (ext : Collaborators) : CatalogState → List Op → Prop
  | _, [] => True
  | c, op :: ops => op.location_fits c ∧ locations_fit_along ext (op.exec ext c) ops

section PrefixFree

variable {ext : Collaborators} {c : CatalogState}

/-- Rows that keep their locations, and whose namespaces stay in their warehouses, keep the
locations prefix-free. -/
theorem CatalogState.LocationsPrefixFree.map (hp : c.LocationsPrefixFree) {f : TableRow → TableRow}
    (hloc : ∀ t, (f t).table_location = t.table_location)
    (hwh : ∀ t ∈ c.tables, ∀ m ∈ c.namespaces, m.namespace_id = (f t).namespace_id →
      ∃ k ∈ c.namespaces, k.namespace_id = t.namespace_id ∧ k.warehouse_id = m.warehouse_id) :
    { c with tables := c.tables.map f }.LocationsPrefixFree := by
  intro t₁' ht₁' t₂' ht₂' hne m₁ hm₁ m₂ hm₂ h₁ h₂ hw
  obtain ⟨t₁, ht₁, rfl⟩ := List.mem_map.1 ht₁'
  obtain ⟨t₂, ht₂, rfl⟩ := List.mem_map.1 ht₂'
  obtain ⟨k₁, hk₁, hk₁t, hk₁w⟩ := hwh t₁ ht₁ m₁ hm₁ h₁
  obtain ⟨k₂, hk₂, hk₂t, hk₂w⟩ := hwh t₂ ht₂ m₂ hm₂ h₂
  rw [hloc, hloc]
  exact hp t₁ ht₁ t₂ ht₂ (fun h => hne (h ▸ rfl)) k₁ hk₁ k₂ hk₂ hk₁t hk₂t
    (by rw [hk₁w, hk₂w, hw])

theorem CatalogState.LocationsPrefixFree.filter (hp : c.LocationsPrefixFree) (q : TableRow → Prop)
    [DecidablePred q] : { c with tables := c.tables.filter q }.LocationsPrefixFree :=
  fun t₁ ht₁ t₂ ht₂ => hp t₁ (List.mem_filter.1 ht₁).1 t₂ (List.mem_filter.1 ht₂).1

/-- A rename of a row of warehouse `w` through `w` keeps every row in its warehouse. -/
theorem Renames.keeps_warehouse (hc : c.Wf) {w x : Nat} {f : TableRow → TableRow}
    (hf : Renames c w x f)
    (hx : ∀ t ∈ c.tables, t.table_id = x →
      ∃ n ∈ c.namespaces, n.namespace_id = t.namespace_id ∧ n.warehouse_id = w)
    (t : TableRow) (ht : t ∈ c.tables) (m : NamespaceRow) (hm : m ∈ c.namespaces)
    (hmt : m.namespace_id = (f t).namespace_id) :
    ∃ k ∈ c.namespaces, k.namespace_id = t.namespace_id ∧ k.warehouse_id = m.warehouse_id := by
  by_cases htx : t.table_id = x
  · rcases hf.namespace_id t with hns | ⟨n, hn, hnw, hns⟩
    · exact ⟨m, hm, hmt.trans hns, rfl⟩
    · obtain ⟨k, hk, hkt, hkw⟩ := hx t ht htx
      rw [hc.namespace_eq_of_id hm hn (hmt.trans hns)]
      exact ⟨k, hk, hkt, hkw.trans hnw.symm⟩
  · exact ⟨m, hm, by rw [hmt, hf.other t htx], rfl⟩

/-- An insert whose row fits keeps the locations prefix-free. -/
theorem CatalogState.LocationsPrefixFree.insert_table (hp : c.LocationsPrefixFree) {row : TableRow}
    {c' : CatalogState} (h : insert_table c row = .ok c')
    (hfit : ∀ t ∈ c.tables, ¬row.same_name t → ∀ n₁ ∈ c.namespaces, ∀ n₂ ∈ c.namespaces,
      n₁.namespace_id = row.namespace_id → n₂.namespace_id = t.namespace_id →
      n₁.warehouse_id = n₂.warehouse_id →
      ¬row.table_location.data <+: t.table_location.data ∧
        ¬t.table_location.data <+: row.table_location.data) :
    c'.LocationsPrefixFree := by
  have hns : c'.namespaces = c.namespaces := by
    obtain ⟨-, ⟨-, h⟩ | ⟨-, -, -, -, h⟩⟩ := insert_table_eq_ok h <;>
      rw [CatalogState.with_tables_eq_ok h]
  intro t₁ ht₁' t₂ ht₂' hne n₁ hn₁ n₂ hn₂ h₁ h₂ hw
  rw [hns] at hn₁ hn₂
  rcases mem_of_insert_table h ht₁' with ⟨ht₁, hs₁⟩ | rfl <;>
    rcases mem_of_insert_table h ht₂' with ⟨ht₂, hs₂⟩ | rfl
  · exact hp t₁ ht₁ t₂ ht₂ hne n₁ hn₁ n₂ hn₂ h₁ h₂ hw
  · exact (hfit t₁ ht₁ hs₁ n₂ hn₂ n₁ hn₁ h₂ h₁ hw.symm).2
  · exact (hfit t₂ ht₂ hs₂ n₁ hn₁ n₂ hn₂ h₁ h₂ hw).1
  · exact absurd rfl hne

/-- **Every call that fits keeps the locations prefix-free.** A rename, a drop and a commit
change no location and keep each row in its warehouse; a create adds, or puts in place of a
staged row, one row whose location fits. -/
theorem CatalogState.LocationsPrefixFree.exec (hc : c.Wf) (hp : c.LocationsPrefixFree) (op : Op)
    (hfit : op.location_fits c) : (op.exec ext c).LocationsPrefixFree := by
  rcases Op.exec_cases ext c op with h | ⟨_, _, _, _, _, _, location, _, rfl, hl, -, h⟩ |
    ⟨_, _, _, _, _, rfl, hf, h⟩ | ⟨_, _, -, -, h⟩ | ⟨_, _, _, _, _, -, h⟩
  · rwa [h]
  · exact hp.insert_table h (hfit location hl)
  · rw [CatalogState.with_tables_eq_ok h]
    exact hp.map hf.table_location (hf.keeps_warehouse hc hfit)
  · rw [h]
    exact hp.filter _
  · rw [(commit_table_transaction_writes h).1]
    exact hp.map (fun _ => TableRow.write_table_location)
      fun _ _ m hm hmt => ⟨m, hm, hmt.trans TableRow.write_namespace_id, rfl⟩

end PrefixFree

/-- **Locations stay prefix-free along every run whose calls fit.** From a store whose
locations are prefix-free within each warehouse, after any sequence of calls in which every
create brings a location that is neither a prefix nor an extension of another row's of its
warehouse, and every rename names a row of the warehouse it is called with, the locations are
still prefix-free within each warehouse. -/
theorem locations_stay_prefix_free (ext : Collaborators) (c : Catalog)
    (hp : c.LocationsPrefixFree) (ops : List Op)
    (hfit : locations_fit_along ext c.toCatalogState ops) :
    (run ext c.toCatalogState ops).LocationsPrefixFree := by
  induction ops generalizing c with
  | nil => exact hp
  | cons op ops ih =>
    exact ih ⟨op.exec ext c.toCatalogState, c.wf.exec op⟩ (hp.exec c.wf op hfit.1) hfit.2

theorem locations_stay_prefix_free_after_create :
    let c : Catalog := ⟨⟨[⟨1, ⟨""⟩, none, .active⟩], [⟨10, 1, ["a"]⟩], []⟩, by decide⟩
    let ops := [Op.create 10 ⟨⟨["a"], by simp⟩, "t"⟩ 7
      ⟨"t", some "s3://b/t", ⟨""⟩, none, none, none, none⟩ (some "m") 0]
    c.LocationsPrefixFree ∧ locations_fit_along .reference c.toCatalogState ops ∧
      (run .reference c.toCatalogState ops).LocationsPrefixFree := by
  intro c ops
  have hp : c.LocationsPrefixFree := by decide
  have hfit : locations_fit_along .reference c.toCatalogState ops :=
    ⟨fun _ _ t ht => absurd ht (List.not_mem_nil t), trivial⟩
  exact ⟨hp, hfit, locations_stay_prefix_free .reference c hp ops hfit⟩

/-- `create_table` does not compare locations: two creates at `s3://b/t` in one namespace both
succeed, and the store holds two rows with that location. -/
theorem two_creates_share_a_location :
    ¬(run .reference ⟨[⟨1, ⟨""⟩, none, .active⟩], [⟨10, 1, ["a"]⟩], []⟩
      [Op.create 10 ⟨⟨["a"], by simp⟩, "t1"⟩ 7
        ⟨"t1", some "s3://b/t", ⟨""⟩, none, none, none, none⟩ (some "m1") 0,
       Op.create 10 ⟨⟨["a"], by simp⟩, "t2"⟩ 8
        ⟨"t2", some "s3://b/t", ⟨""⟩, none, none, none, none⟩ (some "m2") 0]).LocationsPrefixFree := by
  decide

end IcebergCatalog
