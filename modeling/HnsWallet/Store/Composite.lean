import HnsWallet.Store.Approvals
import HnsWallet.Store.PrefixLease
import HnsWallet.Store.Workflows

/-! # Composite writes -/

namespace HnsWallet

open Lib WalletStore

namespace WalletStore

variable {V : Type} [Encoded V] (store : WalletStore V) {α β γ : Type} [Serde V α] [Serde V β]
  [Serde V γ]

def applyEntityBatchWithAssertions (kind : EntityKind) (saves : List (EntityBatchSave β))
    (deletes : List EntityBatchDelete) (assertions : List EntityRevisionAssertion) :
    Except StoreError (WalletStore V) := do
  let prepared ← prepareEntityBatch saves deletes
  validateEntityRevisionAssertions saves deletes assertions
  store.requireKey
  let writes ← store.authenticateEntityBatch kind prepared deletes
  assertions.forM (store.assertEntity kind)
  return store.writeEntityBatch kind writes deletes

def saveWorkflowWithAccountAndEntityBatch (id : WorkflowId) (kind : WorkflowKind)
    (expectedRevision : UInt64) (state : α) (irreversibleBroadcastPrepared : Bool)
    (updatedAtUnix : UInt64) (accountSave : EntityBatchSave γ) (entityKind : EntityKind)
    (saves : List (EntityBatchSave β)) (deletes : List EntityBatchDelete) :
    Except StoreError (WalletStore V × UInt64 × UInt64) := do
  refuseIf (maxEntityBatchOperations < 1 + saves.length + deletes.length) .batchCapacity
  let encodedWorkflow : V := Serde.toVec state
  refuseIf (Encoded.length encodedWorkflow = 0 ∨
    maxStateBytes < Encoded.length encodedWorkflow) .recordTooLarge
  let preparedAccount ← prepareEntityBatch [accountSave] []
  let preparedEntities ← prepareEntityBatch saves deletes
  -- each group is free of duplicates by now
  refuseIf (entityKind = .walletAccount ∧ ((∃ save ∈ saves, save.id = accountSave.id) ∨
    ∃ delete ∈ deletes, delete.id = accountSave.id)) .duplicateBatchEntity
  store.requireKey
  let actual ← store.authenticatedWorkflowRevision id kind
  requireRevision expectedRevision actual
  let accounts ← store.authenticateEntityBatch .walletAccount preparedAccount []
  let writes ← store.authenticateEntityBatch entityKind preparedEntities deletes
  let next ← nextRevision actual
  let accountNext ← okOr (accounts.head?.map (·.revision)) .corruptMetadata
  let written := (store.writeEntityBatch .walletAccount accounts []).writeEntityBatch entityKind
    writes deletes
  return (written.putWorkflow id
    ⟨kind, next, encodedWorkflow, irreversibleBroadcastPrepared, updatedAtUnix⟩, next, accountNext)

def applyAccountAndEntityBatch (accountSave : EntityBatchSave γ) (entityKind : EntityKind)
    (saves : List (EntityBatchSave β)) (deletes : List EntityBatchDelete) :
    Except StoreError (WalletStore V × UInt64) := do
  refuseIf (entityKind = .walletAccount) .duplicateBatchEntity
  refuseIf (maxEntityBatchOperations < 1 + saves.length + deletes.length) .batchCapacity
  let preparedAccount ← prepareEntityBatch [accountSave] []
  let preparedEntities ← prepareEntityBatch saves deletes
  store.requireKey
  let accounts ← store.authenticateEntityBatch .walletAccount preparedAccount []
  let writes ← store.authenticateEntityBatch entityKind preparedEntities deletes
  let accountNext ← okOr (accounts.head?.map (·.revision)) .corruptMetadata
  return ((store.writeEntityBatch .walletAccount accounts []).writeEntityBatch entityKind writes
    deletes, accountNext)

end WalletStore

structure WorkflowSave (V : Type) where
  {α : Type}
  [serde : Serde V α]
  id : WorkflowId
  kind : WorkflowKind
  expectedRevision : UInt64
  state : α
  irreversibleBroadcastPrepared : Bool
  updatedAtUnix : UInt64

structure EntityBatch (V : Type) where
  {β : Type}
  [serde : Serde V β]
  kind : EntityKind
  saves : List (EntityBatchSave β)
  deletes : List EntityBatchDelete

structure AccountSave (V : Type) where
  {γ : Type}
  [serde : Serde V γ]
  save : EntityBatchSave γ

attribute [instance] WorkflowSave.serde EntityBatch.serde AccountSave.serde

/-- A composite operation without an approval. -/
inductive StoreWrite (V : Type) : Type 1 where
  | workflow (w : WorkflowSave V) (batch : EntityBatch V)
  | guarded (w : WorkflowSave V) (batch : EntityBatch V) (workflowGuard : WorkflowRevisionAssertion)
    (guardKind : EntityKind) (entityGuard : EntityRevisionAssertion) (consume : Bool)
  | withAccount (w : WorkflowSave V) (account : AccountSave V) (batch : EntityBatch V)
  | forAccount (account : AccountSave V) (batch : EntityBatch V)
  | entities (batch : EntityBatch V)
  | asserting (batch : EntityBatch V) (assertions : List EntityRevisionAssertion)
  | consuming (batch : EntityBatch V) (workflowGuard : WorkflowRevisionAssertion)
    (consumedKind : EntityKind) (consumed : EntityRevisionAssertion) (consumedAtUnix : UInt64)
  | leased (batch : EntityBatch V) (assertions : List EntityRevisionAssertion)
    (databaseId : Bytes 16) (lease : EntityPrefixSetLease)
    (guardLease : Option EntityPrefixSetLease)

inductive CompositeWrite (V : Type) : Type 1 where
  | store (call : StoreWrite V)
  | approved (approval : PendingApproval) (w : WorkflowSave V) (batch : EntityBatch V)

/-- The rows that a call names. -/
structure Footprint (V : Type) where
  batches : List (EntityBatch V)
  workflow : Option (WorkflowSave V) := none
  workflowGuard : Option WorkflowRevisionAssertion := none
  assertions : List (EntityKind × EntityRevisionAssertion) := []
  consumed : Option (EntityKind × EntityRevisionAssertion × UInt64) := none

variable {V : Type} {seen : List RecordId} {assertions : List EntityRevisionAssertion}

/-- An account is saved as an entity of its own kind. -/
def AccountSave.batch (account : AccountSave V) : EntityBatch V :=
  ⟨.walletAccount, [account.save], []⟩

def StoreWrite.footprint : StoreWrite V → Footprint V
  | workflow w batch => { batches := [batch], workflow := w }
  | guarded w batch workflowGuard guardKind entityGuard false =>
    { batches := [batch], workflow := w, workflowGuard, assertions := [(guardKind, entityGuard)] }
  | guarded w batch workflowGuard guardKind entityGuard true =>
    { batches := [batch], workflow := w, workflowGuard
      consumed := (guardKind, entityGuard, w.updatedAtUnix) }
  | withAccount w account batch => { batches := [account.batch, batch], workflow := w }
  | forAccount account batch => { batches := [account.batch, batch] }
  | entities batch => { batches := [batch] }
  | asserting batch assertions | leased batch assertions .. =>
    { batches := [batch], assertions := assertions.map fun a => (batch.kind, a) }
  | consuming batch workflowGuard consumedKind consumed consumedAtUnix =>
    { batches := [batch], workflowGuard, consumed := (consumedKind, consumed, consumedAtUnix) }

def CompositeWrite.footprint : CompositeWrite V → Footprint V
  | store call => call.footprint
  | approved _ w batch => { batches := [batch], workflow := w }

def CompositeWrite.approval : CompositeWrite V → Option PendingApproval
  | store _ => none
  | approved approval .. => approval

section

variable [Encoded V] [Encrypted V]

def StoreWrite.perform (store : WalletStore V) : StoreWrite V → Except StoreError (WalletStore V)
  | workflow w batch =>
    (store.saveWorkflowWithEntityBatch w.id w.kind w.expectedRevision w.state
      w.irreversibleBroadcastPrepared w.updatedAtUnix batch.kind batch.saves batch.deletes).map
        Prod.fst
  | guarded w batch workflowGuard guardKind entityGuard consume =>
    (store.saveWorkflowWithEntityBatchAndGuards w.id w.kind w.expectedRevision w.state
      w.irreversibleBroadcastPrepared w.updatedAtUnix batch.kind batch.saves batch.deletes
      workflowGuard guardKind entityGuard consume).map Prod.fst
  | withAccount w account batch =>
    (store.saveWorkflowWithAccountAndEntityBatch w.id w.kind w.expectedRevision w.state
      w.irreversibleBroadcastPrepared w.updatedAtUnix account.save batch.kind batch.saves
      batch.deletes).map Prod.fst
  | forAccount account batch =>
    (store.applyAccountAndEntityBatch account.save batch.kind batch.saves batch.deletes).map
      Prod.fst
  | entities batch => store.applyEntityBatch batch.kind batch.saves batch.deletes
  | asserting batch assertions =>
    store.applyEntityBatchWithAssertions batch.kind batch.saves batch.deletes assertions
  | consuming batch workflowGuard consumedKind consumed consumedAtUnix =>
    store.applyEntityBatchWithWorkflowGuardAndConsumedEntity batch.kind batch.saves batch.deletes
      workflowGuard consumedKind consumed consumedAtUnix
  | leased batch assertions databaseId lease guardLease =>
    store.applyEntityBatchWithAssertionsAndPrefixLeaseGuardInner databaseId batch.kind batch.saves
      batch.deletes assertions lease guardLease

/-- The call, and whether it was let through: an approval may be refused. -/
def CompositeWrite.perform (db : WalletDatabase V) : CompositeWrite V →
    Except StoreError (WalletDatabase V × Bool)
  | store call => do return ({ db with toWalletStore := ← call.perform db.toWalletStore }, true)
  | approved approval w batch => do
    let (db, next) ← db.consumeApprovalAndSaveWorkflowWithEntityBatch approval w.updatedAtUnix w.id
      w.kind w.expectedRevision w.state w.irreversibleBroadcastPrepared batch.kind batch.saves
      batch.deletes
    return (db, next.isSome)

/-- The call in its immediate transaction: an error rolls back. -/
def CompositeWrite.run (db : WalletDatabase V) (call : CompositeWrite V) :
    WalletDatabase V × Except StoreError Bool :=
  match call.perform db with
  | .ok (db', through) => (db', .ok through)
  | .error e => (db, .error e)

end

def EntityBatch.Touches (batch : EntityBatch V) (key : EntityKind × RecordId) : Prop :=
  BatchTouches batch.kind (batch.saves.map EntityBatchSave.id) batch.deletes key

namespace Footprint

variable (f : Footprint V)

/-- The entities that are written. -/
def Names (key : EntityKind × RecordId) : Prop :=
  (∃ batch ∈ f.batches, batch.Touches key) ∨
    ∃ consumed consumedAt, f.consumed = some (key.1, consumed, consumedAt) ∧ consumed.id = key.2

/-- What a call that goes through does to the tables of entities and workflows. -/
structure Committed (store store' : WalletStore V) : Prop where
  saved : ∀ batch ∈ f.batches, ∀ save ∈ batch.saves,
    store.entityRevision batch.kind save.id = save.expectedRevision ∧
    ∃ next : UInt64, next.toNat = save.expectedRevision.toNat + 1 ∧
      store'.entities.lookup (batch.kind, save.id) =
        some ⟨next, Serde.toVec save.value, save.updatedAtUnix⟩
  deleted : ∀ batch ∈ f.batches, ∀ delete ∈ batch.deletes,
    store.entityRevision batch.kind delete.id = delete.expectedRevision ∧
    store'.entities.lookup (batch.kind, delete.id) = none
  asserted : ∀ kind a, (kind, a) ∈ f.assertions →
    store.entityRevision kind a.id = a.expectedRevision ∧
    store'.entities.lookup (kind, a.id) = store.entities.lookup (kind, a.id)
  consumed : ∀ kind a consumedAt, f.consumed = some (kind, a, consumedAt) →
    ∃ row next, store.entities.lookup (kind, a.id) = some row ∧
      row.revision = a.expectedRevision ∧ next.toNat = a.expectedRevision.toNat + 1 ∧
      store'.entities.lookup (kind, a.id) = some ⟨next, row.value, consumedAt⟩
  entities : ∀ key, ¬f.Names key → store'.entities.lookup key = store.entities.lookup key
  workflow : ∀ w ∈ f.workflow,
    store.authenticatedWorkflowRevision w.id w.kind = .ok w.expectedRevision ∧
    ∃ next : UInt64, next.toNat = w.expectedRevision.toNat + 1 ∧ store'.workflows.lookup w.id =
      some ⟨w.kind, next, Serde.toVec w.state, w.irreversibleBroadcastPrepared, w.updatedAtUnix⟩
  guarded : ∀ g ∈ f.workflowGuard,
    store.authenticatedWorkflowRevision g.id g.kind = .ok g.expectedRevision ∧
    store'.workflows.lookup g.id = store.workflows.lookup g.id
  workflows : ∀ id, (∀ w ∈ f.workflow, w.id ≠ id) →
    store'.workflows.lookup id = store.workflows.lookup id
  secrets : store'.secrets = store.secrets

end Footprint

namespace CompositeWrite

variable (call : CompositeWrite V) (db db' : WalletDatabase V)

/-- What it does to the approvals: the one that it names is used up. -/
structure UsesUp : Prop where
  approved : ∀ a ∈ call.approval,
    db.authenticatedPendingApproval a.id = some a ∧ db'.approvals.lookup a.id = none
  approvals : ∀ id, (∀ a ∈ call.approval, a.id ≠ id) →
    db'.approvals.lookup id = db.approvals.lookup id

/-- An approval is refused because it is absent or not the one that was shown, and nothing
changes, or because it has expired, and it is removed. -/
def Refused : Prop :=
  ∃ a ∈ call.approval, ∃ w ∈ call.footprint.workflow,
    match db.authenticatedPendingApproval a.id with
    | none => db' = db
    | some current =>
      if current.expiresAtUnix ≤ w.updatedAtUnix then db' = db.dropApproval a.id
      else current ≠ a ∧ db' = db

end CompositeWrite

open EntityBatch

section Batches

variable {store store' written : WalletStore V} {batch : EntityBatch V} {kind : EntityKind}

abbrev EntityBatch.Applied (batch : EntityBatch V) (store store' : WalletStore V) : Prop :=
  Batched batch.kind batch.saves batch.deletes store store'

theorem EntityBatch.touches_save {save : EntityBatchSave batch.β} (h : save ∈ batch.saves) :
    batch.Touches (batch.kind, save.id) :=
  ⟨rfl, .inl (List.mem_map_of_mem h)⟩

theorem EntityBatch.touches_delete {delete : EntityBatchDelete} (h : delete ∈ batch.deletes) :
    batch.Touches (batch.kind, delete.id) :=
  ⟨rfl, .inr ⟨delete, h, rfl⟩⟩

theorem WalletStore.entityRevision_congr {id : RecordId}
    (h : written.entities.lookup (kind, id) = store.entities.lookup (kind, id)) :
    written.entityRevision kind id = store.entityRevision kind id := by
  rw [entityRevision, entityRevision, h]

theorem WalletStore.authenticateEntityBatch_congr {prepared : List (PreparedSave V)}
    {deletes : List EntityBatchDelete}
    (hsaves : ∀ save ∈ prepared,
      written.entityRevision kind save.id = store.entityRevision kind save.id)
    (hdeletes : ∀ delete ∈ deletes,
      written.entityRevision kind delete.id = store.entityRevision kind delete.id) :
    written.authenticateEntityBatch kind prepared deletes =
      store.authenticateEntityBatch kind prepared deletes := by
  have hs : written.authenticateSaves kind prepared = store.authenticateSaves kind prepared := by
    induction prepared with
    | nil => rfl
    | cons save rest ih =>
      rw [List.forall_mem_cons] at hsaves
      rw [authenticateSaves, authenticateSaves, hsaves.1, ih hsaves.2]
  have hd : written.authenticateDeletes kind deletes = store.authenticateDeletes kind deletes := by
    induction deletes with
    | nil => rfl
    | cons delete rest ih =>
      rw [List.forall_mem_cons] at hdeletes
      rw [authenticateDeletes, authenticateDeletes, hdeletes.1, ih hdeletes.2]
  rw [authenticateEntityBatch, authenticateEntityBatch, hs, hd]

variable [Encoded V] {prepared : List (PreparedSave V)} {writes : List (AuthenticatedSave V)}

theorem EntityBatch.applied
    (hprepared : prepareEntityBatch batch.saves batch.deletes = .ok prepared)
    (hwrites : store.authenticateEntityBatch batch.kind prepared batch.deletes = .ok writes) :
    batch.Applied store (store.writeEntityBatch batch.kind writes batch.deletes) :=
  batched_of_transaction hprepared (by
    rw [applyEntityBatchInTransaction, hwrites]
    rfl)

end Batches

theorem mem_of_noteIds {seen' ids : List RecordId} (h : noteIds seen ids = .ok seen') :
    ∀ id, id ∈ seen ∨ id ∈ ids → id ∈ seen' := by
  induction ids generalizing seen with
  | nil =>
    cases h
    simp
  | cons first rest ih =>
    change (do validateId first; refuseIf (first ∈ seen) _; noteIds (first :: seen) rest) = _ at h
    simp only [ok_iff] at h
    obtain ⟨-, -, -, -, hrest⟩ := h
    intro id hid
    refine ih hrest id ?_
    simp only [List.mem_cons] at hid ⊢
    tauto

theorem fresh_of_noteAssertions {u : Unit} (h : noteAssertions seen assertions = .ok u) :
    ∀ a ∈ assertions, a.id ∉ seen := by
  induction assertions generalizing seen with
  | nil => nofun
  | cons first rest ih =>
    change (do
      validateId first.id
      refuseIf (first.expectedRevision = 0) _
      refuseIf (first.id ∈ seen) _
      noteAssertions (first.id :: seen) rest) = _ at h
    simp only [ok_iff] at h
    obtain ⟨-, -, -, -, -, hfirst, hrest⟩ := h
    rw [List.forall_mem_cons]
    exact ⟨hfirst, fun a ha hseen => ih hrest a ha (List.mem_cons_of_mem _ hseen)⟩

theorem not_touches_of_asserted {batch : EntityBatch V} {u : Unit}
    (h : validateEntityRevisionAssertions batch.saves batch.deletes assertions = .ok u)
    {a : EntityRevisionAssertion} (ha : a ∈ assertions) : ¬batch.Touches (batch.kind, a.id) := by
  simp only [validateEntityRevisionAssertions, ok_iff] at h
  obtain ⟨-, -, saved, hsaved, seen, hseen, hfresh⟩ := h
  rintro ⟨-, hid | ⟨delete, hdelete, hid⟩⟩
  · exact fresh_of_noteAssertions hfresh a ha
      (mem_of_noteIds hseen _ (.inl (mem_of_noteIds hsaved _ (.inr hid))))
  · exact fresh_of_noteAssertions hfresh a ha
      (mem_of_noteIds hseen _ (.inr (List.mem_map.2 ⟨delete, hdelete, hid⟩)))

section Commits

variable {store store' written : WalletStore V} {f : Footprint V} {batch : EntityBatch V}

theorem EntityBatch.committed (h : batch.Applied store store')
    {assertions : List (EntityKind × EntityRevisionAssertion)}
    {workflowGuard : Option WorkflowRevisionAssertion}
    (hasserted : ∀ kind a, (kind, a) ∈ assertions →
      store.entityRevision kind a.id = a.expectedRevision ∧ ¬batch.Touches (kind, a.id))
    (hguard : ∀ g ∈ workflowGuard,
      store.authenticatedWorkflowRevision g.id g.kind = .ok g.expectedRevision) :
    ({ batches := [batch], assertions, workflowGuard } : Footprint V).Committed store store' where
  saved := by
    rintro _ hmem
    cases List.mem_singleton.1 hmem
    exact h.saved
  deleted := by
    rintro _ hmem
    cases List.mem_singleton.1 hmem
    exact fun delete hdelete => (h.deleted delete hdelete).2
  asserted kind a ha := ⟨(hasserted kind a ha).1, h.others _ (hasserted kind a ha).2⟩
  consumed := nofun
  entities key hkey := h.others key fun htouched => hkey (.inl ⟨batch, by simp, htouched⟩)
  workflow := nofun
  guarded g hg := ⟨hguard g hg, by rw [h.workflows]⟩
  workflows id _ := by rw [h.workflows]
  secrets := h.secrets

theorem EntityBatch.committed_alone (h : batch.Applied store store') :
    ({ batches := [batch] } : Footprint V).Committed store store' :=
  committed h nofun nofun

section Both

variable [Encoded V] {account : AccountSave V} {preparedAccount prepared : List (PreparedSave V)}
  {accounts writes : List (AuthenticatedSave V)}
  (hpreparedAccount : prepareEntityBatch [account.save] [] = .ok preparedAccount)
  (hprepared : prepareEntityBatch batch.saves batch.deletes = .ok prepared)
  (hname : ¬batch.Touches (.walletAccount, account.save.id))
  (haccounts : store.authenticateEntityBatch .walletAccount preparedAccount [] = .ok accounts)
  (hwrites : store.authenticateEntityBatch batch.kind prepared batch.deletes = .ok writes)

include hpreparedAccount hprepared hname haccounts hwrites

theorem EntityBatch.applied_both : ∃ written, account.batch.Applied store written ∧
    batch.Applied written ((store.writeEntityBatch .walletAccount accounts []).writeEntityBatch
      batch.kind writes batch.deletes) ∧
    ∀ id, batch.Touches (batch.kind, id) →
      written.entityRevision batch.kind id = store.entityRevision batch.kind id := by
  have haccount : account.batch.Applied store _ :=
    @EntityBatch.applied V store account.batch _ _ _ hpreparedAccount haccounts
  have hrevisions : ∀ id, batch.Touches (batch.kind, id) →
      (store.writeEntityBatch .walletAccount accounts []).entityRevision batch.kind id =
        store.entityRevision batch.kind id := by
    refine fun id hid => entityRevision_congr (haccount.others _ ?_)
    rintro ⟨hkind, hmem | ⟨_, hnone, -⟩⟩
    · have hkey : (batch.kind, id) = (.walletAccount, account.save.id) :=
        Prod.ext hkind (List.mem_singleton.1 hmem)
      exact hname (hkey ▸ hid)
    · cases hnone
  refine ⟨_, haccount, applied hprepared ?_, hrevisions⟩
  rw [authenticateEntityBatch_congr, hwrites]
  · intro save hsave
    rw [prepareEntityBatch_eq_ok hprepared] at hsave
    obtain ⟨original, horiginal, rfl⟩ := List.mem_map.1 hsave
    exact hrevisions _ (touches_save horiginal)
  · exact fun delete hdelete => hrevisions _ (touches_delete hdelete)

theorem EntityBatch.committed_both :
    ({ batches := [account.batch, batch] } : Footprint V).Committed store
      ((store.writeEntityBatch .walletAccount accounts []).writeEntityBatch batch.kind writes
        batch.deletes) := by
  obtain ⟨written, haccount, hbatch, hrevisions⟩ :=
    applied_both hpreparedAccount hprepared hname haccounts hwrites
  refine ⟨?_, ?_, nofun, nofun, fun key hkey => ?_, nofun, nofun,
    fun id _ => by rw [hbatch.workflows, haccount.workflows],
    hbatch.secrets.trans haccount.secrets⟩
  · rintro _ hmem save hsave
    rcases List.mem_pair.1 hmem with rfl | rfl
    · obtain ⟨hrevision, next, hnext, hlookup⟩ := haccount.saved save hsave
      cases List.mem_singleton.1 hsave
      exact ⟨hrevision, next, hnext, (hbatch.others _ hname).trans hlookup⟩
    · obtain ⟨hrevision, hlookup⟩ := hbatch.saved save hsave
      exact ⟨(hrevisions _ (touches_save hsave)).symm.trans hrevision, hlookup⟩
  · rintro _ hmem delete hdelete
    rcases List.mem_pair.1 hmem with rfl | rfl
    · cases hdelete
    · obtain ⟨-, hrevision, hlookup⟩ := hbatch.deleted delete hdelete
      exact ⟨(hrevisions _ (touches_delete hdelete)).symm.trans hrevision, hlookup⟩
  · rw [hbatch.others key fun htouched => hkey (.inl ⟨batch, by simp, htouched⟩),
      haccount.others key fun htouched => hkey (.inl ⟨account.batch, by simp, htouched⟩)]

end Both

namespace Footprint.Committed

theorem consume (h : f.Committed store written) (hassertions : f.assertions = [])
    (hnone : f.consumed = none) {kind : EntityKind} {a : EntityRevisionAssertion}
    {consumedAt : UInt64} (hname : ¬f.Names (kind, a.id))
    (hconsume : written.consumeAuthenticatedEntityRevision kind a consumedAt = .ok store') :
    { f with consumed := (kind, a, consumedAt) }.Committed store store' := by
  obtain ⟨row, next, hrow, hrevision, hnext, rfl⟩ := consume_eq_ok.1 hconsume
  have hkept : ∀ key, f.Names key →
      (written.putEntity kind a.id ⟨next, row.value, consumedAt⟩).entities.lookup key =
        written.entities.lookup key := by
    intro key hkey
    refine putEntity_lookup_ne ?_
    rintro rfl
    exact hname hkey
  refine ⟨fun batch hbatch save hsave => ?_, fun batch hbatch delete hdelete => ?_, ?_, ?_,
    fun key hkey => ?_, h.workflow, h.guarded, h.workflows, h.secrets⟩
  · rw [hkept _ (.inl ⟨batch, hbatch, touches_save hsave⟩)]
    exact h.saved batch hbatch save hsave
  · rw [hkept _ (.inl ⟨batch, hbatch, touches_delete hdelete⟩)]
    exact h.deleted batch hbatch delete hdelete
  · rw [hassertions]
    nofun
  · rintro _ _ _ ⟨⟩
    exact ⟨row, next, (h.entities _ hname).symm.trans hrow, hrevision, hnext, putEntity_lookup⟩
  · rw [putEntity_lookup_ne, h.entities]
    · rintro (hbatch | ⟨_, _, hsome, -⟩)
      · exact hkey (.inl hbatch)
      · rw [hnone] at hsome
        cases hsome
    · rintro rfl
      exact hkey (.inr ⟨a, consumedAt, rfl, rfl⟩)

theorem putWorkflow (h : f.Committed store written) (hnone : f.workflow = none)
    {w : WorkflowSave V} {next : UInt64}
    (hrevision : store.authenticatedWorkflowRevision w.id w.kind = .ok w.expectedRevision)
    (hnext : next.toNat = w.expectedRevision.toNat + 1)
    (hguard : ∀ g ∈ f.workflowGuard, g.id ≠ w.id) :
    { f with workflow := w }.Committed store (written.putWorkflow w.id ⟨w.kind, next,
      Serde.toVec w.state, w.irreversibleBroadcastPrepared, w.updatedAtUnix⟩) := by
  have hsame : ∀ id, written.workflows.lookup id = store.workflows.lookup id :=
    fun id => h.workflows id (by simp [hnone])
  refine ⟨h.saved, h.deleted, h.asserted, h.consumed, h.entities, ?_, fun g hg => ?_,
    fun id hid => ?_, h.secrets⟩
  · rintro _ ⟨⟩
    exact ⟨hrevision, next, hnext, putWorkflow_lookup⟩
  · exact ⟨(h.guarded g hg).1, (putWorkflow_lookup_ne (hguard g hg)).trans (hsame g.id)⟩
  · exact (putWorkflow_lookup_ne (Ne.symm (hid w rfl))).trans (hsame id)

end Footprint.Committed

variable [Encoded V] {w : WorkflowSave V}

theorem asserted_committed {prepared : List (PreparedSave V)} {writes : List (AuthenticatedSave V)}
    {assertions : List EntityRevisionAssertion} {u v : Unit}
    (hprepared : prepareEntityBatch batch.saves batch.deletes = .ok prepared)
    (hvalid : validateEntityRevisionAssertions batch.saves batch.deletes assertions = .ok u)
    (hwrites : store.authenticateEntityBatch batch.kind prepared batch.deletes = .ok writes)
    (hasserted : assertions.forM (store.assertEntity batch.kind) = .ok v) :
    (StoreWrite.asserting batch assertions).footprint.Committed store
      (store.writeEntityBatch batch.kind writes batch.deletes) := by
  refine committed (applied hprepared hwrites) (fun kind a hmem => ?_) nofun
  obtain ⟨_, ha, heq⟩ := List.mem_map.1 hmem
  cases heq
  exact ⟨requireRevision_eq_ok.1 (forM_eq_ok.1 hasserted a ha), not_touches_of_asserted hvalid ha⟩

theorem guarded_committed {workflowGuard : WorkflowRevisionAssertion} {guardKind : EntityKind}
    {entityGuard : EntityRevisionAssertion} {consume : Bool} {next : UInt64}
    (h : store.saveWorkflowWithEntityBatchAndGuards w.id w.kind w.expectedRevision w.state
      w.irreversibleBroadcastPrepared w.updatedAtUnix batch.kind batch.saves batch.deletes
      workflowGuard guardKind entityGuard consume = .ok (store', next)) :
    (StoreWrite.guarded w batch workflowGuard guardKind entityGuard consume).footprint.Committed
      store store' := by
  simp only [saveWorkflowWithEntityBatchAndGuards, ok_iff, assertWorkflow_eq_ok,
    requireRevision_eq_ok, not_or] at h
  obtain ⟨-, ⟨-, -, hne⟩, -, -, -, -, -, hdup, -, -, prepared, hprepared, -, -, actual, hactual, -,
    rfl, -, hworkflow, _, hentity, written, hwritten, h⟩ := h
  have happlied : batch.Applied store written := batched_of_transaction hprepared hwritten
  have hname : ¬batch.Touches (guardKind, entityGuard.id) := not_batchTouches hdup
  have hguard : ∀ g ∈ some workflowGuard,
      store.authenticatedWorkflowRevision g.id g.kind = .ok g.expectedRevision := by
    rintro _ ⟨⟩
    exact hworkflow
  have hother : ∀ g ∈ some workflowGuard, g.id ≠ w.id := by
    rintro _ ⟨⟩
    exact hne
  cases consume with
  | false =>
    simp only [Bool.false_eq_true, if_false, ok_iff, nextRevision_eq_ok] at h
    obtain ⟨_, ⟨⟩, n, hn, ⟨⟩⟩ := h
    refine (committed happlied (fun kind a hmem => ?_) hguard).putWorkflow rfl
      hactual hn
      hother
    cases List.mem_singleton.1 hmem
    exact ⟨requireRevision_eq_ok.1 hentity, hname⟩
  | true =>
    simp only [if_true, ok_iff, nextRevision_eq_ok] at h
    obtain ⟨consumed, hconsumed, n, hn, ⟨⟩⟩ := h
    have hbatch : ({ batches := [batch], workflowGuard } : Footprint V).Committed store written :=
      committed happlied (by rintro _ _ ⟨⟩) hguard
    refine (hbatch.consume rfl rfl ?_ hconsumed).putWorkflow rfl hactual hn hother
    simpa [Footprint.Names] using hname

theorem StoreWrite.committed [Encrypted V] {call : StoreWrite V}
    (h : call.perform store = .ok store') : call.footprint.Committed store store' := by
  cases call with
  | workflow w batch =>
    obtain ⟨⟨_, next⟩, hcall, rfl⟩ := map_eq_ok.1 h
    obtain ⟨-, hrevision, hnext, written, happlied, rfl⟩ :=
      saveWorkflowWithEntityBatch_batched hcall
    exact (committed_alone happlied).putWorkflow rfl hrevision hnext (by rintro _ ⟨⟩)
  | guarded w batch workflowGuard guardKind entityGuard consume =>
    obtain ⟨⟨_, next⟩, hcall, rfl⟩ := map_eq_ok.1 h
    exact guarded_committed hcall
  | withAccount w account batch =>
    obtain ⟨⟨_, next⟩, hcall, rfl⟩ := map_eq_ok.1 h
    simp only [saveWorkflowWithAccountAndEntityBatch, ok_iff, requireRevision_eq_ok,
      nextRevision_eq_ok] at hcall
    obtain ⟨-, -, -, -, preparedAccount, hpreparedAccount, prepared, hprepared, -, hdup, -, -,
      actual, hactual, -, rfl, accounts, haccounts, writes, hwrites, n, hn, _, -, ⟨⟩⟩ := hcall
    have hname : ¬batch.Touches (.walletAccount, account.save.id) :=
      not_batchTouches fun h => hdup ⟨h.1.symm, h.2⟩
    exact (committed_both hpreparedAccount hprepared hname haccounts
      hwrites).putWorkflow rfl hactual hn (by rintro _ ⟨⟩)
  | forAccount account batch =>
    obtain ⟨⟨_, next⟩, hcall, rfl⟩ := map_eq_ok.1 h
    simp only [applyAccountAndEntityBatch, ok_iff] at hcall
    obtain ⟨-, hkind, -, -, preparedAccount, hpreparedAccount, prepared, hprepared, -, -,
      accounts, haccounts, writes, hwrites, _, -, ⟨⟩⟩ := hcall
    exact committed_both hpreparedAccount hprepared
      (fun htouched => hkind htouched.1.symm) haccounts hwrites
  | entities batch =>
    exact committed_alone (applyEntityBatch_batched h).2
  | asserting batch assertions =>
    simp only [StoreWrite.perform, applyEntityBatchWithAssertions, ok_iff] at h
    obtain ⟨prepared, hprepared, _, hvalid, -, -, writes, hwrites, _, hasserted, ⟨⟩⟩ := h
    exact asserted_committed hprepared hvalid hwrites hasserted
  | consuming batch workflowGuard consumedKind consumed consumedAtUnix =>
    simp only [StoreWrite.perform, applyEntityBatchWithWorkflowGuardAndConsumedEntity, ok_iff,
      assertWorkflow_eq_ok] at h
    obtain ⟨-, -, -, -, -, hdup, prepared, hprepared, -, -, -, hworkflow, -, -, written, hwritten,
      hconsumed⟩ := h
    have hbatch : ({ batches := [batch], workflowGuard } : Footprint V).Committed store written :=
      EntityBatch.committed (batched_of_transaction hprepared hwritten) (by rintro _ _ ⟨⟩) (by
        rintro _ ⟨⟩
        exact hworkflow)
    have hname : ¬batch.Touches (consumedKind, consumed.id) := not_batchTouches hdup
    exact hbatch.consume rfl rfl (by simpa [Footprint.Names] using hname) hconsumed
  | leased batch assertions databaseId lease guardLease =>
    simp only [StoreWrite.perform, applyEntityBatchWithAssertionsAndPrefixLeaseGuardInner,
      leasedBatch, ok_iff] at h
    obtain ⟨prepared, hprepared, _, hvalid, -, -, -, -, -, -, -, -, writes, hwrites, _, hasserted,
      ⟨⟩⟩ := h
    exact asserted_committed hprepared hvalid hwrites hasserted

theorem approved_committed {db db' : WalletDatabase V} {approval : PendingApproval}
    {next : Option UInt64}
    (h : db.consumeApprovalAndSaveWorkflowWithEntityBatch approval w.updatedAtUnix w.id w.kind
      w.expectedRevision w.state w.irreversibleBroadcastPrepared batch.kind batch.saves
      batch.deletes = .ok (db', next)) :
    if next.isSome then
      (CompositeWrite.approved approval w batch).footprint.Committed db.toWalletStore
          db'.toWalletStore ∧
        (CompositeWrite.approved approval w batch).UsesUp db db'
    else (CompositeWrite.approved approval w batch).Refused db db' := by
  simp only [WalletDatabase.consumeApprovalAndSaveWorkflowWithEntityBatch, ok_iff] at h
  obtain ⟨-, -, prepared, hprepared, -, -, h⟩ := h
  split at h
  next habsent =>
    cases h
    exact ⟨approval, rfl, w, rfl, by rw [habsent]⟩
  next current hcurrent =>
    split at h
    next hexpired =>
      cases h
      exact ⟨approval, rfl, w, rfl, by simp only [hcurrent, if_pos hexpired]⟩
    next hlive =>
      split at h
      next hchanged =>
        cases h
        refine ⟨approval, rfl, w, rfl, ?_⟩
        simp only [hcurrent, if_neg hlive, and_true]
        rintro rfl
        simp at hchanged
      next hsame =>
        simp only [ok_iff, requireRevision_eq_ok, nextRevision_eq_ok] at h
        obtain ⟨actual, hactual, -, rfl, writes, hwrites, n, hn, ⟨⟩⟩ := h
        have hbatch := committed_alone (applied hprepared hwrites)
        refine ⟨hbatch.putWorkflow rfl hactual hn (by rintro _ ⟨⟩), ?_, fun id hid =>
          AList.lookup_erase_ne (Ne.symm (hid approval rfl))⟩
        rintro _ ⟨⟩
        exact ⟨WalletDatabase.current_eq hcurrent hsame ▸ hcurrent, AList.lookup_erase _ _⟩

/-- Every composite write is all or nothing.  If it is let through, the saved, deleted,
compared and used rows had the revisions that the caller expected; saved rows are at the
next revision with the given value, a used entity is at the next one with its old value,
deleted rows and a used approval are gone, and no other row has changed.  A refused
approval changes nothing, except that an expired one is removed, and an error changes
nothing at all. -/
theorem composite_write_is_atomic [Encrypted V] (db : WalletDatabase V) (call : CompositeWrite V) :
    (∀ db', call.run db = (db', .ok true) →
      call.footprint.Committed db.toWalletStore db'.toWalletStore ∧
        call.UsesUp db db') ∧
      (∀ db', call.run db = (db', .ok false) → call.Refused db db') ∧
      ∀ db' e, call.run db = (db', .error e) → db' = db := by
  unfold CompositeWrite.run
  cases hperform : call.perform db with
  | error e => exact ⟨nofun, nofun, fun _ _ h => (Prod.mk.inj h).1.symm⟩
  | ok result =>
    cases call with
    | store call =>
      simp only [CompositeWrite.perform, ok_iff] at hperform
      obtain ⟨store, hstore, ⟨⟩⟩ := hperform
      refine ⟨?_, by rintro _ ⟨⟩, by rintro _ _ ⟨⟩⟩
      rintro _ ⟨⟩
      exact ⟨call.committed hstore, nofun, fun _ _ => rfl⟩
    | approved approval w batch =>
      simp only [CompositeWrite.perform, ok_iff] at hperform
      obtain ⟨⟨written, next⟩, h, ⟨⟩⟩ := hperform
      have hcommitted := approved_committed h
      cases next with
      | none =>
        refine ⟨by rintro _ ⟨⟩, ?_, by rintro _ _ ⟨⟩⟩
        rintro _ ⟨⟩
        exact hcommitted
      | some next =>
        refine ⟨?_, by rintro _ ⟨⟩, by rintro _ _ ⟨⟩⟩
        rintro _ ⟨⟩
        exact hcommitted

end Commits

namespace Sample

instance encryptedUnit : Encrypted Unit := ⟨fun _ => 41, fun _ => .replicate 32 0⟩

def shownDatabase : WalletDatabase Unit :=
  { approvalDatabase with
    approvals := AList.insert approval.id
      ⟨approval.origin, approval.requestJson, approval.expiresAtUnix⟩ ∅ }

def approvedWrite (nowUnix : UInt64) : CompositeWrite Unit :=
  .approved approval ⟨⟨.replicate 16 1⟩, .hnsSend, 0, (), true, nowUnix⟩
    ⟨.inputReservation, [⟨.replicate 32 2, 0, (), nowUnix⟩], []⟩

/-- The approved write is committed at time 20 and refused at 200, past the expiry. -/
theorem composite_write_is_atomic_sample :
    (∃ db, (approvedWrite 20).run shownDatabase = (db, .ok true) ∧
      (approvedWrite 20).footprint.Committed shownDatabase.toWalletStore db.toWalletStore ∧
      db.approvals.lookup approval.id = none) ∧
    (approvedWrite 200).run shownDatabase = (shownDatabase.dropApproval approval.id, .ok false) ∧
    (approvedWrite 200).Refused shownDatabase (shownDatabase.dropApproval approval.id) := by
  obtain ⟨hcommitted, -, -⟩ := composite_write_is_atomic shownDatabase (approvedWrite 20)
  obtain ⟨-, hrefused, -⟩ := composite_write_is_atomic shownDatabase (approvedWrite 200)
  obtain ⟨hrows, hused⟩ := hcommitted _ rfl
  exact ⟨⟨_, rfl, hrows, (hused.approved approval rfl).2⟩, rfl, hrefused _ rfl⟩

end Sample

end HnsWallet
