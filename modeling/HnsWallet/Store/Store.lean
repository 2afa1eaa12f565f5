import Mathlib.Data.List.AList
import HnsWallet.Lib.Results
import HnsWallet.Store.Types

/-! # The wallet store

Every row carries a revision, and a write names the one it expects.  A row's value is kept
encoded; encryption and authentication of rows are left out, as they never fail on rows the
store wrote. -/

namespace HnsWallet

open Lib

/-- Encoded values and their length in bytes. -/
class Encoded (V : Type) where
  length : V → Nat

/-- Values of a type as encoded values: reading back what was written gives it back. -/
class Serde (V α : Type) where
  toVec : α → V
  fromSlice : V → Option α
  fromSlice_toVec (a : α) : fromSlice (toVec a) = some a

structure WorkflowRow (V : Type) where
  kind : WorkflowKind
  revision : UInt64
  state : V
  irreversibleBroadcastPrepared : Bool
  updatedAtUnix : UInt64

structure EntityRow (V : Type) where
  revision : UInt64
  value : V
  updatedAtUnix : UInt64

structure SecretRow where
  kind : SecretKind
  value : List UInt8
  updatedAtUnix : UInt64

/-- The tables of one database; `unlocked` says that the key is in memory. -/
structure WalletStore (V : Type) where
  unlocked : Bool
  workflows : AList fun _ : WorkflowId => WorkflowRow V
  entities : AList fun _ : EntityKind × RecordId => EntityRow V
  secrets : AList fun _ : RecordId => SecretRow

structure StoredWorkflow (α : Type) where
  id : WorkflowId
  kind : WorkflowKind
  revision : UInt64
  state : α
  irreversibleBroadcastPrepared : Bool
  updatedAtUnix : UInt64

structure StoredEntity (α : Type) where
  kind : EntityKind
  id : RecordId
  revision : UInt64
  value : α
  updatedAtUnix : UInt64

def validateId (id : RecordId) : Except StoreError Unit :=
  refuseIf (id.length = 0 ∨ maxRecordIdBytes < id.length) .invalidRecordId

namespace WalletStore

variable {V : Type} [Encoded V] (store : WalletStore V)

def requireKey : Except StoreError Unit :=
  refuseIf (store.unlocked = false) .locked

def requireRevision (expected actual : UInt64) : Except StoreError Unit :=
  refuseIf (actual ≠ expected) (.staleRevision expected actual)

def nextRevision (actual : UInt64) : Except StoreError UInt64 :=
  okOr (checkedAdd actual 1) .revisionOverflow

def loadWorkflow (α : Type) [Serde V α] (id : WorkflowId) :
    Except StoreError (Option (StoredWorkflow α)) := do
  store.requireKey
  match store.workflows.lookup id with
  | none => return none
  | some row =>
    match Serde.fromSlice row.state with
    | none => .error .json
    | some state =>
      return some ⟨id, row.kind, row.revision, state, row.irreversibleBroadcastPrepared,
        row.updatedAtUnix⟩

def loadEntity (α : Type) [Serde V α] (kind : EntityKind) (id : RecordId) :
    Except StoreError (Option (StoredEntity α)) := do
  validateId id
  store.requireKey
  match store.entities.lookup (kind, id) with
  | none => return none
  | some row =>
    match Serde.fromSlice row.value with
    | none => .error .json
    | some value => return some ⟨kind, id, row.revision, value, row.updatedAtUnix⟩

variable (kind : EntityKind) (id : RecordId)

def getSecret (expectedKind : SecretKind) :
    Except StoreError (Option (List UInt8)) := do
  validateId id
  store.requireKey
  match store.secrets.lookup id with
  | none => return none
  | some row =>
    refuseIf (row.kind ≠ expectedKind) .kindMismatch
    return some row.value

def authenticatedWorkflowRevision (id : WorkflowId) (expectedKind : WorkflowKind) :
    Except StoreError UInt64 :=
  match store.workflows.lookup id with
  | none => .ok 0
  | some row =>
    if row.kind = expectedKind then .ok row.revision else .error .workflowKindMismatch

def entityRevision : UInt64 :=
  match store.entities.lookup (kind, id) with
  | none => 0
  | some row => row.revision

def putWorkflow (id : WorkflowId) (row : WorkflowRow V) : WalletStore V :=
  { store with workflows := store.workflows.insert id row }

def putEntity (row : EntityRow V) : WalletStore V :=
  { store with entities := store.entities.insert (kind, id) row }

def dropEntity : WalletStore V :=
  { store with entities := store.entities.erase (kind, id) }

def saveWorkflow {α : Type} [Serde V α] (id : WorkflowId) (kind : WorkflowKind)
    (expectedRevision : UInt64) (state : α) (irreversibleBroadcastPrepared : Bool)
    (updatedAtUnix : UInt64) : Except StoreError (WalletStore V × UInt64) := do
  let encoded : V := Serde.toVec state
  refuseIf (maxStateBytes < Encoded.length encoded) .recordTooLarge
  store.requireKey
  let actual ← store.authenticatedWorkflowRevision id kind
  requireRevision expectedRevision actual
  let next ← nextRevision actual
  return (store.putWorkflow id
    ⟨kind, next, encoded, irreversibleBroadcastPrepared, updatedAtUnix⟩, next)

def saveEntity {α : Type} [Serde V α] (kind : EntityKind) (id : RecordId)
    (expectedRevision : UInt64) (value : α) (updatedAtUnix : UInt64) :
    Except StoreError (WalletStore V × UInt64) := do
  validateId id
  let encoded : V := Serde.toVec value
  refuseIf (Encoded.length encoded = 0 ∨ maxStateBytes < Encoded.length encoded) .recordTooLarge
  store.requireKey
  let actual := store.entityRevision kind id
  requireRevision expectedRevision actual
  let next ← nextRevision actual
  return (store.putEntity kind id ⟨next, encoded, updatedAtUnix⟩, next)

def deleteEntity (expectedRevision : UInt64) :
    Except StoreError (WalletStore V × Bool) := do
  validateId id
  refuseIf kind.deletionProtected .protectedEntity
  store.requireKey
  refuseIf (expectedRevision = 0) .invalidRevision
  match store.entities.lookup (kind, id) with
  | none => return (store, false)
  | some row =>
    requireRevision expectedRevision row.revision
    return (store.dropEntity kind id, true)

def deleteEntities (deletes : List (EntityKind × EntityBatchDelete)) :
    Except StoreError (WalletStore V) := do
  refuseIf (deletes = []) .invalidRevision
  refuseIf (maxEntityBatchOperations < deletes.length) .batchCapacity
  deletes.forM fun (kind, delete) => do
    validateId delete.id
    refuseIf kind.deletionProtected .protectedEntity
    refuseIf (delete.expectedRevision = 0) .invalidRevision
  refuseIf (¬ (deletes.map fun (kind, delete) => (kind, delete.id)).Nodup) .duplicateBatchEntity
  store.requireKey
  deletes.forM fun (kind, delete) =>
    requireRevision delete.expectedRevision (store.entityRevision kind delete.id)
  return deletes.foldl (fun store (kind, delete) => store.dropEntity kind delete.id) store

def putSecret (kind : SecretKind) (cleartext : List UInt8)
    (updatedAtUnix : UInt64) : Except StoreError (WalletStore V) := do
  validateId id
  refuseIf (cleartext.length = 0 ∨ maxSecretBytes < cleartext.length) .recordTooLarge
  store.requireKey
  let written := { store with secrets := store.secrets.insert id ⟨kind, cleartext, updatedAtUnix⟩ }
  match store.secrets.lookup id with
  | none => return written
  | some row =>
    refuseIf (row.kind ≠ kind) .kindMismatch
    if kind = .recoverySeed then
      refuseIf (row.value ≠ cleartext) .protectedSecret
      return store
    else return written

structure PreparedSave (V : Type) where
  id : RecordId
  expectedRevision : UInt64
  encoded : V
  updatedAtUnix : UInt64

def prepareSaves {α : Type} [Serde V α] (seen : List RecordId) :
    List (EntityBatchSave α) → Except StoreError (List RecordId × List (PreparedSave V))
  | [] => .ok (seen, [])
  | save :: saves => do
    validateId save.id
    refuseIf (save.id ∈ seen) .duplicateBatchEntity
    let encoded : V := Serde.toVec save.value
    refuseIf (Encoded.length encoded = 0 ∨ maxStateBytes < Encoded.length encoded)
      .recordTooLarge
    let (seen, prepared) ← prepareSaves (save.id :: seen) saves
    return (seen, ⟨save.id, save.expectedRevision, encoded, save.updatedAtUnix⟩ :: prepared)

def prepareDeletes (seen : List RecordId) : List EntityBatchDelete → Except StoreError Unit
  | [] => .ok ()
  | delete :: deletes => do
    validateId delete.id
    refuseIf (delete.expectedRevision = 0 ∨ delete.id ∈ seen) .duplicateBatchEntity
    prepareDeletes (delete.id :: seen) deletes

def prepareEntityBatch {α : Type} [Serde V α] (saves : List (EntityBatchSave α))
    (deletes : List EntityBatchDelete) : Except StoreError (List (PreparedSave V)) := do
  refuseIf (maxEntityBatchOperations < saves.length + deletes.length) .batchCapacity
  let (seen, prepared) ← prepareSaves [] saves
  prepareDeletes seen deletes
  return prepared

structure AuthenticatedSave (V : Type) where
  id : RecordId
  revision : UInt64
  encoded : V
  updatedAtUnix : UInt64

def authenticateSaves (kind : EntityKind) :
    List (PreparedSave V) → Except StoreError (List (AuthenticatedSave V))
  | [] => .ok []
  | save :: saves => do
    let actual := store.entityRevision kind save.id
    requireRevision save.expectedRevision actual
    let next ← nextRevision actual
    let rest ← authenticateSaves kind saves
    return ⟨save.id, next, save.encoded, save.updatedAtUnix⟩ :: rest

def authenticateDeletes (kind : EntityKind) : List EntityBatchDelete → Except StoreError Unit
  | [] => .ok ()
  | delete :: deletes => do
    requireRevision delete.expectedRevision (store.entityRevision kind delete.id)
    authenticateDeletes kind deletes

def authenticateEntityBatch (saves : List (PreparedSave V))
    (deletes : List EntityBatchDelete) : Except StoreError (List (AuthenticatedSave V)) := do
  refuseIf (kind.deletionProtected ∧ deletes ≠ []) .protectedEntity
  let writes ← store.authenticateSaves kind saves
  store.authenticateDeletes kind deletes
  return writes

def writeEntityBatch (writes : List (AuthenticatedSave V))
    (deletes : List EntityBatchDelete) : WalletStore V :=
  let written := writes.foldl
    (fun store write => store.putEntity kind write.id
      ⟨write.revision, write.encoded, write.updatedAtUnix⟩) store
  deletes.foldl (fun store delete => store.dropEntity kind delete.id) written

def applyEntityBatchInTransaction (saves : List (PreparedSave V))
    (deletes : List EntityBatchDelete) : Except StoreError (WalletStore V) := do
  let writes ← store.authenticateEntityBatch kind saves deletes
  return store.writeEntityBatch kind writes deletes

def applyEntityBatch {β : Type} [Serde V β] (kind : EntityKind) (saves : List (EntityBatchSave β))
    (deletes : List EntityBatchDelete) : Except StoreError (WalletStore V) := do
  let prepared ← prepareEntityBatch saves deletes
  store.requireKey
  store.applyEntityBatchInTransaction kind prepared deletes

def saveWorkflowWithEntityBatch {α β : Type} [Serde V α] [Serde V β] (id : WorkflowId)
    (kind : WorkflowKind) (expectedRevision : UInt64) (state : α)
    (irreversibleBroadcastPrepared : Bool) (updatedAtUnix : UInt64) (entityKind : EntityKind)
    (saves : List (EntityBatchSave β)) (deletes : List EntityBatchDelete) :
    Except StoreError (WalletStore V × UInt64) := do
  let encodedWorkflow : V := Serde.toVec state
  refuseIf (Encoded.length encodedWorkflow = 0 ∨
    maxStateBytes < Encoded.length encodedWorkflow) .recordTooLarge
  let preparedEntities ← prepareEntityBatch saves deletes
  store.requireKey
  let actual ← store.authenticatedWorkflowRevision id kind
  requireRevision expectedRevision actual
  let written ← store.applyEntityBatchInTransaction entityKind preparedEntities deletes
  let next ← nextRevision actual
  return (written.putWorkflow id
    ⟨kind, next, encodedWorkflow, irreversibleBroadcastPrepared, updatedAtUnix⟩, next)

def consumeAuthenticatedEntityRevision (assertion : EntityRevisionAssertion)
    (consumedAtUnix : UInt64) : Except StoreError (WalletStore V) :=
  match store.entities.lookup (kind, assertion.id) with
  | none => .error (.staleRevision assertion.expectedRevision 0)
  | some row => do
    requireRevision assertion.expectedRevision row.revision
    let next ← nextRevision row.revision
    return store.putEntity kind assertion.id ⟨next, row.value, consumedAtUnix⟩

def assertWorkflow (assertion : WorkflowRevisionAssertion) : Except StoreError Unit := do
  let actual ← store.authenticatedWorkflowRevision assertion.id assertion.kind
  requireRevision assertion.expectedRevision actual

def assertEntity (assertion : EntityRevisionAssertion) :
    Except StoreError Unit :=
  requireRevision assertion.expectedRevision (store.entityRevision kind assertion.id)

def saveWorkflowWithEntityBatchAndGuards {α β : Type} [Serde V α] [Serde V β]
    (id : WorkflowId) (kind : WorkflowKind) (expectedRevision : UInt64) (state : α)
    (irreversibleBroadcastPrepared : Bool) (updatedAtUnix : UInt64) (entityKind : EntityKind)
    (saves : List (EntityBatchSave β)) (deletes : List EntityBatchDelete)
    (workflowGuard : WorkflowRevisionAssertion) (entityGuardKind : EntityKind)
    (entityGuard : EntityRevisionAssertion) (consumeEntityGuard : Bool) :
    Except StoreError (WalletStore V × UInt64) := do
  refuseIf (workflowGuard.expectedRevision = 0 ∨ entityGuard.expectedRevision = 0 ∨
    workflowGuard.id = id) .invalidRevision
  validateId entityGuard.id
  refuseIf (consumeEntityGuard ∧ entityGuardKind.deletionProtected) .protectedEntity
  refuseIf (entityGuardKind = entityKind ∧ ((∃ save ∈ saves, save.id = entityGuard.id) ∨
    ∃ delete ∈ deletes, delete.id = entityGuard.id)) .duplicateBatchEntity
  let encodedWorkflow : V := Serde.toVec state
  refuseIf (Encoded.length encodedWorkflow = 0 ∨
    maxStateBytes < Encoded.length encodedWorkflow) .recordTooLarge
  let preparedEntities ← prepareEntityBatch saves deletes
  store.requireKey
  let actual ← store.authenticatedWorkflowRevision id kind
  requireRevision expectedRevision actual
  store.assertWorkflow workflowGuard
  store.assertEntity entityGuardKind entityGuard
  let written ← store.applyEntityBatchInTransaction entityKind preparedEntities deletes
  let consumed ←
    if consumeEntityGuard then
      written.consumeAuthenticatedEntityRevision entityGuardKind entityGuard updatedAtUnix
    else
      pure written
  let next ← nextRevision actual
  return (consumed.putWorkflow id
    ⟨kind, next, encodedWorkflow, irreversibleBroadcastPrepared, updatedAtUnix⟩, next)

def applyEntityBatchWithWorkflowGuardAndConsumedEntity {β : Type} [Serde V β]
    (entityKind : EntityKind) (saves : List (EntityBatchSave β))
    (deletes : List EntityBatchDelete) (workflowGuard : WorkflowRevisionAssertion)
    (consumedEntityKind : EntityKind) (consumedEntity : EntityRevisionAssertion)
    (consumedAtUnix : UInt64) : Except StoreError (WalletStore V) := do
  refuseIf (workflowGuard.expectedRevision = 0 ∨ consumedEntity.expectedRevision = 0 ∨
    consumedEntityKind.deletionProtected ∨ consumedAtUnix = 0) .invalidRevision
  validateId consumedEntity.id
  refuseIf (consumedEntityKind = entityKind ∧ ((∃ save ∈ saves, save.id = consumedEntity.id) ∨
    ∃ delete ∈ deletes, delete.id = consumedEntity.id)) .duplicateBatchEntity
  let preparedEntities ← prepareEntityBatch saves deletes
  store.requireKey
  store.assertWorkflow workflowGuard
  store.assertEntity consumedEntityKind consumedEntity
  let written ← store.applyEntityBatchInTransaction entityKind preparedEntities deletes
  written.consumeAuthenticatedEntityRevision consumedEntityKind consumedEntity consumedAtUnix

end WalletStore

end HnsWallet
