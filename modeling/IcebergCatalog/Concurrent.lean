/-
Two `commit_table_transaction` runs at once, under PostgreSQL's default `READ COMMITTED`.

A run issues two statements that touch the store. Its `SELECT` reads the latest committed rows,
and everything up to the `UPDATE` (the bound, the requirements, the updates) is computed from
what it read. Its `UPDATE ... FROM (VALUES ...)` then writes by `table_id` alone, into the
latest committed rows, and the transaction commits, or rolls back on an error. An `UPDATE` that
meets a row another transaction has updated waits for that transaction and then writes over its
version; so an `UPDATE` and its `COMMIT` act as one step here, and a run is two steps:
`commit_prepare`, then `commit_write` with the commit.

An interleaving is the order in which the four steps run: a list saying, step by step, which
run moves. Two of them run one transaction after the other, and the later one reads what the
earlier one wrote. In the four others both `SELECT`s come before either `UPDATE`: both runs
check their requirements against the same rows and compute from them, and the later `UPDATE`
writes over the earlier one, whose update is lost.
-/
import IcebergCatalog.Run
import Mathlib.Data.Bool.Count

set_option autoImplicit false

namespace IcebergCatalog

/-! ## One run -/

/-- The arguments of one `commit_table_transaction` call. -/
structure Txn where
  warehouse_id : Nat
  request : CommitTransactionRequest
  table_ids : List (TableIdent × Nat)
  mint : Nat → Minted

/-- The call itself, as a step of a run of the store. -/
def Txn.op (tx : Txn) : Op :=
  .commit tx.warehouse_id tx.request tx.table_ids tx.mint

/-- The `UPDATE` with its `COMMIT`, after a `commit_prepare` that returned `prepared`: the
result, and the store after the commit, or after the rollback of an error. -/
def commit_apply (ext : Collaborators) (c : CatalogState) :
    Except ErrorModel (List CommitTableResponseExt) →
      Except ErrorModel (List CommitTableResponseExt) × CatalogState
  | .error e => (.error e, c)
  | .ok responses =>
    match commit_write ext c responses with
    | (.ok responses, c') => (.ok responses, c')
    | (.error e, _) => (.error e, c)

/-- A call run alone is its two steps, one after the other. -/
theorem exec_commit_eq_commit_apply (ext : Collaborators) (c : CatalogState) (tx : Txn) :
    tx.op.exec ext c =
      (commit_apply ext c (commit_prepare ext c tx.request tx.table_ids tx.mint)).2 := by
  simp only [Txn.op, Op.exec, commit_table_transaction]
  cases commit_prepare ext c tx.request tx.table_ids tx.mint with
  | error e => rfl
  | ok responses =>
    simp only [commit_apply]
    cases commit_write ext c responses with
    | mk r c' => cases r <;> rfl

/-- Where a run is. -/
inductive Phase where
  | start
  | prepared (result : Except ErrorModel (List CommitTableResponseExt))
  | finished (result : Except ErrorModel (List CommitTableResponseExt))

/-- The next step of a run, against the latest committed store. -/
def Phase.step (ext : Collaborators) (tx : Txn) (store : CatalogState) :
    Phase → Phase × CatalogState
  | .start => (.prepared (commit_prepare ext store tx.request tx.table_ids tx.mint), store)
  | .prepared result =>
    let r := commit_apply ext store result
    (.finished r.1, r.2)
  | .finished result => (.finished result, store)

/-! ## Two runs -/

/-- The store, and where each of the two runs `a` and `b` is. -/
structure TwoRuns where
  store : CatalogState
  a : Phase
  b : Phase

/-- Run `a` moves on `true`, run `b` on `false`. -/
def TwoRuns.step (ext : Collaborators) (ta tb : Txn) (s : TwoRuns) : Bool → TwoRuns
  | true =>
    let r := s.a.step ext ta s.store
    { s with a := r.1, store := r.2 }
  | false =>
    let r := s.b.step ext tb s.store
    { s with b := r.1, store := r.2 }

/-- The two runs from `c`, in the order `schedule` gives. -/
def interleave (ext : Collaborators) (ta tb : Txn) (c : CatalogState) (schedule : List Bool) :
    TwoRuns :=
  schedule.foldl (TwoRuns.step ext ta tb) ⟨c, .start, .start⟩

/-- The interleavings of two runs of two steps each. -/
theorem schedule_cases {schedule : List Bool} (h₁ : schedule.count true = 2)
    (h₂ : schedule.count false = 2) :
    schedule = [true, true, false, false] ∨ schedule = [false, false, true, true] ∨
    schedule = [true, false, true, false] ∨ schedule = [false, true, true, false] ∨
    schedule = [true, false, false, true] ∨ schedule = [false, true, false, true] := by
  have hlen : schedule.length = 4 := by rw [← List.count_true_add_count_false, h₁, h₂]
  match schedule, hlen with
  | [a, b, c, d], _ =>
    revert h₁ h₂
    cases a <;> cases b <;> cases c <;> cases d <;> decide

/-- Run `tx` from the latest state: its `SELECT` and its computation. -/
def prepare (ext : Collaborators) (tx : Txn) (c : CatalogState) :
    Except ErrorModel (List CommitTableResponseExt) :=
  commit_prepare ext c tx.request tx.table_ids tx.mint

/-- Both runs read `c`; `tx₁` writes and commits, then `tx₂` writes over it what it computed
from `c`. -/
def overlapped (ext : Collaborators) (c : CatalogState) (tx₁ tx₂ : Txn) : CatalogState :=
  (commit_apply ext (commit_apply ext c (prepare ext tx₁ c)).2 (prepare ext tx₂ c)).2

/-- **Every interleaving of two commits.** Two of them are the two calls one after the other,
as a run of the store; in the other four both runs compute from the state before either wrote,
and the run that writes second writes over the first. -/
theorem two_commits_any_interleaving (ext : Collaborators) (c : CatalogState) (ta tb : Txn)
    (schedule : List Bool) (h₁ : schedule.count true = 2) (h₂ : schedule.count false = 2) :
    (schedule = [true, true, false, false] ∧
      (interleave ext ta tb c schedule).store = run ext c [ta.op, tb.op]) ∨
    (schedule = [false, false, true, true] ∧
      (interleave ext ta tb c schedule).store = run ext c [tb.op, ta.op]) ∨
    ((schedule = [true, false, true, false] ∨ schedule = [false, true, true, false]) ∧
      (interleave ext ta tb c schedule).store = overlapped ext c ta tb) ∨
    ((schedule = [true, false, false, true] ∨ schedule = [false, true, false, true]) ∧
      (interleave ext ta tb c schedule).store = overlapped ext c tb ta) := by
  rcases schedule_cases h₁ h₂ with rfl | rfl | rfl | rfl | rfl | rfl
  · exact .inl ⟨rfl, by simp only [run_cons, run_nil, exec_commit_eq_commit_apply]; rfl⟩
  · exact .inr (.inl ⟨rfl, by simp only [run_cons, run_nil, exec_commit_eq_commit_apply]; rfl⟩)
  · exact .inr (.inr (.inl ⟨.inl rfl, rfl⟩))
  · exact .inr (.inr (.inl ⟨.inr rfl, rfl⟩))
  · exact .inr (.inr (.inr ⟨.inl rfl, rfl⟩))
  · exact .inr (.inr (.inr ⟨.inr rfl, rfl⟩))

theorem two_commits_any_interleaving_overlapped :
    let c : CatalogState := ⟨[⟨1, ⟨""⟩, none, .active⟩], [⟨10, 1, ["a"]⟩],
      [⟨7, 10, "t", ⟨7, "s3://b/t", ⟨[], [], [], [], 0⟩⟩, none, "s3://b/t"⟩]⟩
    let t : TableIdent := ⟨⟨["a"], by simp⟩, "t"⟩
    let ta : Txn := ⟨1, ⟨[⟨some t, [.NotExist], [.SetProperties [("a", "1")]]⟩]⟩, [(t, 7)],
      fun _ => ⟨100, 1⟩⟩
    let tb : Txn := ⟨1, ⟨[⟨some t, [.NotExist], [.SetProperties [("b", "2")]]⟩]⟩, [(t, 7)],
      fun _ => ⟨200, 2⟩⟩
    let schedule := [true, false, true, false]
    schedule.count true = 2 ∧ schedule.count false = 2 ∧
    ((schedule = [true, true, false, false] ∧
      (interleave .reference ta tb c schedule).store = run .reference c [ta.op, tb.op]) ∨
    (schedule = [false, false, true, true] ∧
      (interleave .reference ta tb c schedule).store = run .reference c [tb.op, ta.op]) ∨
    ((schedule = [true, false, true, false] ∨ schedule = [false, true, true, false]) ∧
      (interleave .reference ta tb c schedule).store = overlapped .reference c ta tb) ∨
    ((schedule = [true, false, false, true] ∨ schedule = [false, true, false, true]) ∧
      (interleave .reference ta tb c schedule).store = overlapped .reference c tb ta)) := by
  intro c t ta tb schedule
  exact ⟨by decide, by decide,
    two_commits_any_interleaving .reference c ta tb schedule (by decide) (by decide)⟩

/-- Two commits that both require `NotExist` of the same staged table both succeed when both
`SELECT`s come first, and the second `UPDATE` writes over the first: the final properties are
the second run's alone. -/
theorem both_not_exist_commits_succeed :
    let c : CatalogState := ⟨[⟨1, ⟨""⟩, none, .active⟩], [⟨10, 1, ["a"]⟩],
      [⟨7, 10, "t", ⟨7, "s3://b/t", ⟨[], [], [], [], 0⟩⟩, none, "s3://b/t"⟩]⟩
    let t : TableIdent := ⟨⟨["a"], by simp⟩, "t"⟩
    let ta : Txn := ⟨1, ⟨[⟨some t, [.NotExist], [.SetProperties [("a", "1")]]⟩]⟩, [(t, 7)],
      fun _ => ⟨100, 1⟩⟩
    let tb : Txn := ⟨1, ⟨[⟨some t, [.NotExist], [.SetProperties [("b", "2")]]⟩]⟩, [(t, 7)],
      fun _ => ⟨200, 2⟩⟩
    let s := interleave .reference ta tb c [true, false, true, false]
    (∃ ra rb, s.a = .finished (.ok ra) ∧ s.b = .finished (.ok rb)) ∧
      s.store.tables.map (·.metadata.body.properties) = [[("b", "2")]] := by
  intro c t ta tb s
  exact ⟨⟨_, _, rfl, rfl⟩, by decide⟩

end IcebergCatalog
