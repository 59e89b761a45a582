/-
`Service::create_warehouse` (`api/management/v1/warehouse.rs:98-140`).

The service is generic over the catalog backend `C`, the authorizer `A` and the secret store
`S`, and none of their implementations is under `src/`; the spec (§9) asks for each to be an
abstract interface, so they are a parameter here, `WarehouseCollaborators`, each call a
function of the state it acts on. Two states are involved. The catalog's committed state is
reached only through the write transaction `begin_write` opens on it; the secret store is
written by `S::create_secret` directly, outside that transaction.

Every `?` returns early, and returning drops the transaction, which PostgreSQL then rolls back:
on every error the catalog keeps its committed state. Nothing undoes a secret. An error after
`create_secret` (the warehouse insert, or the commit) leaves the new secret in the store, with
no warehouse that refers to it.
-/
import IcebergCatalog.Metadata

set_option autoImplicit false

namespace IcebergCatalog

/-! ## The request and the collaborators -/

/-- `StorageCredential`: the credential a request may carry; the service hands it on unread. -/
structure StorageCredential where
  json : String
  deriving DecidableEq, Repr

/-- `CreateWarehouseRequest`. -/
structure CreateWarehouseRequest where
  warehouse_name : String
  project_id : Nat
  storage_profile : StorageProfile
  storage_credential : Option StorageCredential
  deriving DecidableEq

/-- `CreateWarehouseResponse`. -/
structure CreateWarehouseResponse where
  warehouse_id : Nat
  deriving DecidableEq, Repr

/-- What `create_warehouse` calls and does not define, over the catalog's state `σ` and the
secret store's state `τ`. -/
structure WarehouseCollaborators (σ τ : Type) where
  /-- `A::check_create_warehouse`, on the project. -/
  check_create_warehouse : Nat → Except ErrorModel Unit
  /-- `StorageProfile::validate` against the credential; it may complete the profile, which the
  source holds in a `mut` binding. -/
  validate : StorageProfile → Option StorageCredential → Except ErrorModel StorageProfile
  /-- `C::Transaction::begin_write`: the transaction's view of the committed state. -/
  begin_write : σ → Except ErrorModel σ
  /-- `S::create_secret`: the new secret's id, and the store holding it. -/
  create_secret : StorageCredential → τ → Except ErrorModel (Nat × τ)
  /-- `C::create_warehouse_profile`, inside the transaction. -/
  create_warehouse_profile : String → Nat → StorageProfile → Option Nat → σ →
    Except ErrorModel (Nat × σ)
  /-- `transaction.commit()`: the committed state it publishes. -/
  commit : σ → Except ErrorModel σ

variable {σ τ : Type}

/-- `if let Some(storage_credential) = storage_credential { Some(S::create_secret(..)?) } else
{ None }`. -/
def WarehouseCollaborators.secret_id (ext : WarehouseCollaborators σ τ) :
    Option StorageCredential → τ → Except ErrorModel (Option Nat × τ)
  | some storage_credential, secrets =>
    (ext.create_secret storage_credential secrets).map fun (id, secrets) => (some id, secrets)
  | none, secrets => .ok (none, secrets)

/-- `create_warehouse`: the result, the catalog's committed state and the secret store after
the call. An error drops the transaction, so the catalog is the one the call began with; the
secret store is whatever it had become. -/
def create_warehouse (ext : WarehouseCollaborators σ τ) (request : CreateWarehouseRequest)
    (catalog : σ) (secrets : τ) : Except ErrorModel CreateWarehouseResponse × σ × τ :=
  match ext.check_create_warehouse request.project_id with
  | .error e => (.error e, catalog, secrets)
  | .ok () =>
    match ext.validate request.storage_profile request.storage_credential with
    | .error e => (.error e, catalog, secrets)
    | .ok storage_profile =>
      match ext.begin_write catalog with
      | .error e => (.error e, catalog, secrets)
      | .ok transaction =>
        match ext.secret_id request.storage_credential secrets with
        | .error e => (.error e, catalog, secrets)
        | .ok (secret_id, secrets) =>
          match ext.create_warehouse_profile request.warehouse_name request.project_id
              storage_profile secret_id transaction with
          | .error e => (.error e, catalog, secrets)
          | .ok (warehouse_id, transaction) =>
            match ext.commit transaction with
            | .error e => (.error e, catalog, secrets)
            | .ok catalog => (.ok ⟨warehouse_id⟩, catalog, secrets)

/-! ## A failure after the secret is written -/

/-- **A failure after `create_secret` leaves the secret behind.** For every request with a
credential whose secret is written, when the warehouse insert or the commit then fails,
`create_warehouse` returns that error with the catalog as it was, and with the secret store as
`create_secret` left it, holding a secret no warehouse refers to. -/
theorem create_warehouse_keeps_secret_on_failure (ext : WarehouseCollaborators σ τ)
    (request : CreateWarehouseRequest) (catalog transaction : σ) (secrets secrets' : τ)
    (storage_credential : StorageCredential) (storage_profile : StorageProfile)
    (secret_id : Nat) (e : ErrorModel)
    (hcredential : request.storage_credential = some storage_credential)
    (hauth : ext.check_create_warehouse request.project_id = .ok ())
    (hvalid : ext.validate request.storage_profile request.storage_credential = .ok storage_profile)
    (hbegin : ext.begin_write catalog = .ok transaction)
    (hsecret : ext.create_secret storage_credential secrets = .ok (secret_id, secrets'))
    (hfail : ext.create_warehouse_profile request.warehouse_name request.project_id
        storage_profile (some secret_id) transaction = .error e ∨
      ∃ warehouse_id transaction', ext.create_warehouse_profile request.warehouse_name
        request.project_id storage_profile (some secret_id) transaction =
          .ok (warehouse_id, transaction') ∧ ext.commit transaction' = .error e) :
    create_warehouse ext request catalog secrets = (.error e, catalog, secrets') := by
  have hid : ext.secret_id request.storage_credential secrets = .ok (some secret_id, secrets') := by
    rw [hcredential, WarehouseCollaborators.secret_id, hsecret]; rfl
  rcases hfail with hfail | ⟨warehouse_id, transaction', hinsert, hcommit⟩
  · simp only [create_warehouse, hauth, hvalid, hbegin, hid, hfail]
  · simp only [create_warehouse, hauth, hvalid, hbegin, hid, hinsert, hcommit]

theorem create_warehouse_keeps_secret_on_failure_duplicate_name :
    let ext : WarehouseCollaborators (List (Nat × String)) (List (Nat × StorageCredential)) :=
      { check_create_warehouse := fun _ => .ok ()
        validate := fun storage_profile _ => .ok storage_profile
        begin_write := fun catalog => .ok catalog
        create_secret := fun storage_credential secrets =>
          .ok (secrets.length + 1, secrets ++ [(secrets.length + 1, storage_credential)])
        create_warehouse_profile := fun name project _ _ transaction =>
          if (project, name) ∈ transaction then
            .error { code := 409, message := "Conflict", type := "Conflict", stack := none }
          else .ok (transaction.length + 1, transaction ++ [(project, name)])
        commit := fun transaction => .ok transaction }
    let request : CreateWarehouseRequest := ⟨"w", 1, ⟨""⟩, some ⟨"key"⟩⟩
    let catalog : List (Nat × String) := [(1, "w")]
    request.storage_credential = some ⟨"key"⟩ ∧
    ext.check_create_warehouse request.project_id = .ok () ∧
    ext.validate request.storage_profile request.storage_credential = .ok ⟨""⟩ ∧
    ext.begin_write catalog = .ok catalog ∧
    ext.create_secret ⟨"key"⟩ [] = .ok (1, [(1, ⟨"key"⟩)]) ∧
    (ext.create_warehouse_profile request.warehouse_name request.project_id ⟨""⟩ (some 1)
        catalog = .error { code := 409, message := "Conflict", type := "Conflict", stack := none } ∨
      ∃ warehouse_id transaction', ext.create_warehouse_profile request.warehouse_name
        request.project_id ⟨""⟩ (some 1) catalog = .ok (warehouse_id, transaction') ∧
        ext.commit transaction' =
          .error { code := 409, message := "Conflict", type := "Conflict", stack := none }) ∧
    create_warehouse ext request catalog [] =
      (.error { code := 409, message := "Conflict", type := "Conflict", stack := none }, catalog,
        [(1, ⟨"key"⟩)]) := by
  intro ext request catalog
  have hfail : ext.create_warehouse_profile request.warehouse_name request.project_id ⟨""⟩
      (some 1) catalog =
        .error { code := 409, message := "Conflict", type := "Conflict", stack := none } := rfl
  exact ⟨rfl, rfl, rfl, rfl, rfl, .inl hfail,
    create_warehouse_keeps_secret_on_failure ext request catalog catalog [] [(1, ⟨"key"⟩)]
      ⟨"key"⟩ ⟨""⟩ 1 _ rfl rfl rfl rfl rfl (.inl hfail)⟩

end IcebergCatalog
