import HnsWallet.Store.Batches
import HnsWallet.Store.Listing

/-! # Listing workflows, and workflows saved with a batch -/

namespace HnsWallet

open Lib

namespace WalletStore

variable {V : Type}

def kindRow (kind : WorkflowKind) (entry : (_ : WorkflowId) × WorkflowRow V) :
    Option (WorkflowId × WorkflowRow V) :=
  if entry.2.kind = kind then some (entry.1, entry.2) else none

def workflowsOfKind (store : WalletStore V) (kind : WorkflowKind) :
    List (WorkflowId × WorkflowRow V) :=
  (store.workflows.entries.filterMap (kindRow kind)).insertionSort
    fun a b => a.1.bytes.toList ≤ b.1.bytes.toList

def storedWorkflow {α : Type} [Serde V α] (row : WorkflowId × WorkflowRow V) :
    Except StoreError (StoredWorkflow α) :=
  match Serde.fromSlice row.2.state with
  | none => .error .json
  | some state => .ok ⟨row.1, row.2.kind, row.2.revision, state,
      row.2.irreversibleBroadcastPrepared, row.2.updatedAtUnix⟩

def listWorkflowsComplete (α : Type) [Serde V α] (store : WalletStore V) (kind : WorkflowKind)
    (limit : Nat) : Except StoreError (List (StoredWorkflow α)) := do
  refuseIf (limit = 0 ∨ maxEntityListResults < limit) .invalidListLimit
  store.requireKey
  let rows := store.workflowsOfKind kind
  refuseIf (limit < rows.length) .listCapacity
  rows.mapM storedWorkflow

variable {store store' : WalletStore V} {kind : WorkflowKind} {id : WorkflowId}
  {row : WorkflowRow V}

theorem mem_workflowsOfKind : (id, row) ∈ store.workflowsOfKind kind ↔
    row.kind = kind ∧ store.workflows.lookup id = some row := by
  rw [workflowsOfKind, List.mem_insertionSort, List.mem_filterMap, ← Option.mem_def,
    AList.mem_lookup_iff]
  constructor
  · rintro ⟨⟨i, r⟩, hmem, hrow⟩
    rw [kindRow] at hrow
    split at hrow
    next hk =>
      cases hrow
      exact ⟨hk, hmem⟩
    next => cases hrow
  · rintro ⟨hk, hmem⟩
    exact ⟨_, hmem, if_pos hk⟩

section Reads

variable {α : Type} [Serde V α] {stored : StoredWorkflow α}

theorem storedWorkflow_eq_ok :
    storedWorkflow (id, row) = .ok stored ↔ ∃ state, Serde.fromSlice row.state = some state ∧
      stored = ⟨id, row.kind, row.revision, state, row.irreversibleBroadcastPrepared,
        row.updatedAtUnix⟩ := by
  unfold storedWorkflow
  cases hstate : (Serde.fromSlice row.state : Option α) with
  | none => simp
  | some state => simp [eq_comm]

variable {listed : List (StoredWorkflow α)} {limit : Nat}

section

variable (h : store.listWorkflowsComplete α kind limit = .ok listed)
include h

theorem mem_of_listWorkflowsComplete :
    stored ∈ listed ↔ stored.kind = kind ∧
      store.loadWorkflow α stored.id = .ok (some stored) := by
  simp only [listWorkflowsComplete, ok_iff] at h
  obtain ⟨_, -, _, hkey, _, -, h⟩ := h
  have hkey := requireKey_eq_ok.1 hkey
  rw [mem_of_mapM_eq_ok h]
  constructor
  · rintro ⟨⟨id, row⟩, hrow, hstored⟩
    obtain ⟨hk, hlookup⟩ := mem_workflowsOfKind.1 hrow
    obtain ⟨state, hstate, rfl⟩ := storedWorkflow_eq_ok.1 hstored
    exact ⟨hk, loadWorkflow_eq_some.2 ⟨hkey, row, state, hlookup, hstate, rfl⟩⟩
  · rintro ⟨hk, hload⟩
    obtain ⟨-, row, state, hlookup, hstate, hstored⟩ := loadWorkflow_eq_some.1 hload
    rw [hstored] at hk
    exact ⟨(stored.id, row), mem_workflowsOfKind.2 ⟨hk, hlookup⟩,
      storedWorkflow_eq_ok.2 ⟨state, hstate, hstored⟩⟩

theorem row_of_listed (hstored : stored ∈ listed) :
    ∃ row, store.workflows.lookup stored.id = some row ∧
      row.kind = kind ∧ Serde.fromSlice row.state = some stored.state := by
  obtain ⟨hkind, hload⟩ := (mem_of_listWorkflowsComplete h).1 hstored
  obtain ⟨-, row, state, hlookup, hstate, heq⟩ := loadWorkflow_eq_some.1 hload
  rw [heq] at hkind
  exact ⟨row, hlookup, hkind, by rw [hstate, heq]⟩

theorem listed_of_row (hlookup : store.workflows.lookup id = some row) (hkind : row.kind = kind) :
    ∃ stored ∈ listed, stored.id = id ∧ Serde.fromSlice row.state = some stored.state := by
  simp only [listWorkflowsComplete, ok_iff] at h
  obtain ⟨_, -, _, -, _, -, h⟩ := h
  obtain ⟨stored, hstored, hread⟩ := exists_of_mapM_eq_ok h
    (mem_workflowsOfKind.2 ⟨hkind, hlookup⟩)
  obtain ⟨state, hstate, rfl⟩ := storedWorkflow_eq_ok.1 hread
  exact ⟨_, hstored, rfl, hstate⟩

theorem nodup_of_listWorkflowsComplete :
    (listed.map StoredWorkflow.id).Nodup := by
  simp only [listWorkflowsComplete, ok_iff] at h
  obtain ⟨_, -, _, -, _, -, h⟩ := h
  have hids : listed.map StoredWorkflow.id = (store.workflowsOfKind kind).map Prod.fst := by
    refine map_of_mapM_eq_ok (fun hread => ?_) h
    obtain ⟨state, -, rfl⟩ := storedWorkflow_eq_ok.1 hread
    rfl
  have hkeys : store.workflows.entries.Pairwise fun a b => a.1 ≠ b.1 :=
    List.nodupKeys_iff_pairwise.1 store.workflows.nodupKeys
  have hrows : (store.workflows.entries.filterMap (kindRow kind)).Pairwise
      fun a b => a.1 ≠ b.1 := by
    refine hkeys.filterMap _ fun a a' hne b hb b' hb' heq => hne ?_
    unfold kindRow at hb hb'
    split at hb
    next =>
      split at hb'
      next =>
        cases hb
        cases hb'
        exact heq
      next => cases hb'
    next => cases hb
  rw [hids, workflowsOfKind, ((List.perm_insertionSort _ _).map Prod.fst).nodup_iff]
  exact List.pairwise_map.2 hrows

end

end Reads

section Batches

variable [Encoded V] {α β : Type} [Serde V α] [Serde V β] {wkind : WorkflowKind}
  {expected updatedAt next : UInt64} {state : α} {irreversible : Bool} {ekind : EntityKind}
  {saves : List (EntityBatchSave β)} {deletes : List EntityBatchDelete}

theorem saveWorkflowWithEntityBatch_batched
    (h : store.saveWorkflowWithEntityBatch id wkind expected state irreversible updatedAt ekind
      saves deletes = .ok (store', next)) :
    store.unlocked ∧ store.authenticatedWorkflowRevision id wkind = .ok expected ∧
      next.toNat = expected.toNat + 1 ∧ ∃ written, Batched ekind saves deletes store written ∧
        store' = written.putWorkflow id
          ⟨wkind, next, Serde.toVec state, irreversible, updatedAt⟩ := by
  obtain ⟨hkey, hactual, hn, written, hwritten, hprepared, rfl⟩ :=
    saveWorkflowWithEntityBatch_eq_ok h
  exact ⟨hkey, hactual, hn, written, batched_of_transaction hprepared hwritten, rfl⟩

end Batches

end WalletStore

end HnsWallet
