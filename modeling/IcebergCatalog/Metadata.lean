/-
The values the catalog core passes around, and the collaborators it calls but does not
define.

`crates/iceberg-catalog/src/implementations/postgres/table.rs` reads two fields of a table's
metadata document, its `uuid` and its `location`, and hands everything else to
`iceberg_ext`'s `TableMetadataAggregate`: the builder calls of `create_table`, and
`TableUpdateExt::apply` for every update `apply_commits` does not intercept. None of that is
under `src/`, so it is a parameter here, `Collaborators`, together with the other three things
`table.rs` calls and does not define: `TableRequirementExt::assert` (for the requirement kinds
the spec leaves to the aggregate), `StorageProfile::metadata_location`, and dbutils'
`into_error_model`.

The document is split accordingly: `TableMetadata` is the uuid, the location and a
`MetadataBody` that only the aggregate builds and changes. The aggregate's operations act on
the body, so by their type they cannot move a table's uuid or location: the only ways to do
that are `AssignUuid` and `SetLocation`, and `apply_commits` intercepts both. That is the
assumption the spec states about the aggregate (§4.3 step 4), made a fact of the model.

Two things the spec fixes are defined rather than taken: `NamespaceIdent::from_vec`, which
refuses the empty vector, and the `NotExist` and `UuidMatch` requirement kinds (§4.3 step 3).
-/
import Mathlib.Data.List.Nodup

set_option autoImplicit false

namespace IcebergCatalog

/-! ## Errors -/

/-- `ErrorModel`: the error every fallible call of the catalog core returns. -/
structure ErrorModel where
  code : Nat
  message : String
  type : String
  stack : Option (List String)
  deriving DecidableEq, Repr

/-- The `sqlx::Error`s the modelled statements can raise. `RowNotFound` is what `fetch_one`
returns on an empty result; the others are PostgreSQL's refusals of a statement, after which
the statement has changed nothing. -/
inductive DbError where
  | RowNotFound
  | UniqueViolation (constraint : String)
  | NotNullViolation (column : String)
  | ForeignKeyViolation (constraint : String)
  | SyntaxError
  deriving DecidableEq, Repr

/-! ## Identifiers -/

/-- `NamespaceIdent`: a non-empty vector of name parts. -/
structure NamespaceIdent where
  parts : List String
  ne_nil : parts ≠ []
  deriving DecidableEq

@[ext] theorem NamespaceIdent.ext {a b : NamespaceIdent} (h : a.parts = b.parts) : a = b := by
  cases a; cases b; subst h; rfl

/-- The text of the error `NamespaceIdent::from_vec` returns on the empty vector. -/
def namespace_empty_message : String := "DataInvalid => Namespace identifier can't be empty!"

/-- `NamespaceIdent::from_vec`: the only way the code turns a stored `namespace_name` into an
identifier. It refuses the empty vector. -/
def NamespaceIdent.from_vec (names : List String) : Except String NamespaceIdent :=
  if h : names = [] then .error namespace_empty_message else .ok ⟨names, h⟩

@[simp] theorem NamespaceIdent.from_vec_parts (ns : NamespaceIdent) :
    NamespaceIdent.from_vec ns.parts = .ok ns := by
  simp [NamespaceIdent.from_vec, ns.ne_nil]

theorem NamespaceIdent.from_vec_eq_ok {names : List String} {ns : NamespaceIdent}
    (h : NamespaceIdent.from_vec names = .ok ns) : ns.parts = names := by
  unfold NamespaceIdent.from_vec at h
  split at h
  · cases h
  · cases h; rfl

/-- `TableIdent`: a namespace and a table name. -/
structure TableIdent where
  «namespace» : NamespaceIdent
  name : String
  deriving DecidableEq

theorem TableIdent.eq_iff {a b : TableIdent} :
    a = b ↔ a.namespace.parts = b.namespace.parts ∧ a.name = b.name := by
  obtain ⟨⟨p, hp⟩, n⟩ := a
  obtain ⟨⟨q, hq⟩, m⟩ := b
  constructor
  · rintro ⟨⟩; exact ⟨rfl, rfl⟩
  · rintro ⟨rfl, rfl⟩; rfl

/-! ## The metadata document -/

/-- A schema as the create request carries it; the catalog hands it to the aggregate unread. -/
structure Schema where
  json : String
  deriving DecidableEq, Repr

/-- A partition spec as the create request carries it; unread by the catalog. -/
structure UnboundPartitionSpec where
  json : String
  deriving DecidableEq, Repr

/-- A sort order as the create request carries it; unread by the catalog. -/
structure SortOrder where
  json : String
  deriving DecidableEq, Repr

/-- Everything of a metadata document but its uuid and location: what the aggregate builds
and changes, and the catalog stores and returns without reading. -/
structure MetadataBody where
  schemas : List Schema
  partition_specs : List UnboundPartitionSpec
  sort_orders : List SortOrder
  properties : List (String × String)
  last_updated_ms : Nat
  deriving DecidableEq, Repr

/-- `TableMetadata`, split into the two fields the catalog reads and the aggregate's body. -/
structure TableMetadata where
  uuid : Nat
  location : String
  body : MetadataBody
  deriving DecidableEq, Repr

/-- `TableUpdate`. Its payloads are kept only where the catalog reads them. -/
inductive TableUpdate where
  | AssignUuid (uuid : Nat)
  | UpgradeFormatVersion (format_version : Nat)
  | AddSchema (schema : Schema)
  | SetCurrentSchema (schema_id : Int)
  | AddSpec (spec : UnboundPartitionSpec)
  | SetDefaultSpec (spec_id : Int)
  | AddSortOrder (sort_order : SortOrder)
  | SetDefaultSortOrder (sort_order_id : Int)
  | AddSnapshot (snapshot_id : Nat)
  | SetSnapshotRef (ref_name : String) (snapshot_id : Nat)
  | RemoveSnapshots (snapshot_ids : List Nat)
  | RemoveSnapshotRef (ref_name : String)
  | SetLocation (location : String)
  | SetProperties (updates : List (String × String))
  | RemoveProperties (removals : List String)
  deriving DecidableEq, Repr

/-- `TableRequirement`. -/
inductive TableRequirement where
  | NotExist
  | UuidMatch (uuid : Nat)
  | CurrentSchemaIdMatch (current_schema_id : Int)
  | LastAssignedFieldIdMatch (last_assigned_field_id : Int)
  | RefSnapshotIdMatch (ref_name : String) (snapshot_id : Option Nat)
  | DefaultSpecIdMatch (default_spec_id : Int)
  | DefaultSortOrderIdMatch (default_sort_order_id : Int)
  | LastAssignedPartitionIdMatch (last_assigned_partition_id : Int)
  deriving DecidableEq, Repr

/-- A warehouse's storage profile, kept as its JSON: the catalog only stores it, returns it,
and asks it for metadata file locations. -/
structure StorageProfile where
  json : String
  deriving DecidableEq, Repr

/-- What one iteration of `apply_commits` draws from outside: the `Uuid::now_v7()` of the new
metadata file, and the clock reading the aggregate's `build` stamps. -/
structure Minted where
  metadata_id : Nat
  now_ms : Nat
  deriving DecidableEq, Repr

/-! ## The collaborators -/

/-- The operations `table.rs` calls and does not define. The aggregate's act on the body only
(see the header); `assert_other` decides the requirement kinds the spec leaves to the
aggregate, and `requirement_failed` is the error of a failed `NotExist` or `UuidMatch`. -/
structure Collaborators where
  /-- `TableMetadataAggregate::new(location, schema)`, on the body. -/
  new_body : Schema → MetadataBody
  add_partition_spec : UnboundPartitionSpec → MetadataBody → Except ErrorModel MetadataBody
  set_default_partition_spec : Int → MetadataBody → Except ErrorModel MetadataBody
  add_sort_order : SortOrder → MetadataBody → Except ErrorModel MetadataBody
  set_default_sort_order : Int → MetadataBody → Except ErrorModel MetadataBody
  set_properties : List (String × String) → MetadataBody → Except ErrorModel MetadataBody
  /-- `TableMetadataAggregate::build`, given the clock it reads. -/
  build : Nat → MetadataBody → Except ErrorModel MetadataBody
  /-- `TableUpdateExt::apply`, for the updates `apply_commits` passes on. -/
  apply : TableUpdate → MetadataBody → Except ErrorModel MetadataBody
  assert_other : TableRequirement → TableMetadata → Bool → Except ErrorModel Unit
  requirement_failed : TableRequirement → ErrorModel
  /-- `StorageProfile::metadata_location(previous_location, metadata_id)`. -/
  metadata_location : StorageProfile → String → Nat → String
  /-- dbutils' `into_error_model` (and `as_error_model`, its borrowing twin). -/
  into_error_model : DbError → String → ErrorModel

/-- Modelled from the spec: `TableRequirementExt::assert` (in `crate::api`, not under `src/`),
§4.3 step 3. `NotExist` passes only if the table does not exist from the client's view, that is
if it is staged; `UuidMatch` only on the current uuid; the other kinds are the aggregate's. -/
def TableRequirement.assert (ext : Collaborators) (r : TableRequirement)
    (metadata : TableMetadata) (table_exists : Bool) : Except ErrorModel Unit :=
  match r with
  | .NotExist => if table_exists then .error (ext.requirement_failed r) else .ok ()
  | .UuidMatch uuid =>
    if metadata.uuid = uuid then .ok () else .error (ext.requirement_failed r)
  | _ => ext.assert_other r metadata table_exists

@[simp] theorem TableRequirement.assert_not_exist (ext : Collaborators) (m : TableMetadata)
    (e : Bool) :
    TableRequirement.NotExist.assert ext m e =
      if e then .error (ext.requirement_failed .NotExist) else .ok () := rfl

/-- A concrete set of collaborators, to run the model on examples: the aggregate records what
it is asked and never fails, `build` stamps the clock, the requirement kinds the spec leaves to
the aggregate pass, and a metadata file is `<location>/metadata/<id>.metadata.json`. -/
def Collaborators.reference : Collaborators where
  new_body schema :=
    { schemas := [schema], partition_specs := [], sort_orders := [], properties := [],
      last_updated_ms := 0 }
  add_partition_spec spec body := .ok { body with partition_specs := body.partition_specs ++ [spec] }
  set_default_partition_spec _ body := .ok body
  add_sort_order order body := .ok { body with sort_orders := body.sort_orders ++ [order] }
  set_default_sort_order _ body := .ok body
  set_properties properties body := .ok { body with properties := properties ++ body.properties }
  build now_ms body := .ok { body with last_updated_ms := now_ms }
  apply update body :=
    match update with
    | .SetProperties updates => .ok { body with properties := updates ++ body.properties }
    | .AddSchema schema => .ok { body with schemas := body.schemas ++ [schema] }
    | _ => .ok body
  assert_other _ _ _ := .ok ()
  requirement_failed _ :=
    { code := 409, message := "Requirement failed", type := "CommitFailedException", stack := none }
  metadata_location _ location metadata_id :=
    location ++ "/metadata/" ++ toString metadata_id ++ ".metadata.json"
  into_error_model _ message := { code := 500, message, type := "DatabaseError", stack := none }

end IcebergCatalog
