import HnsWallet.Market.Journal

/-! # Laws of the journal -/

namespace HnsWallet

open Lib WalletStore

variable {V : Type}

structure WalletStore.KeepsBut (workflowId : WorkflowId) (store store' : WalletStore V) : Prop where
  unlocked : store'.unlocked = store.unlocked
  workflows : ∀ id, id ≠ workflowId → store'.workflows.lookup id = store.workflows.lookup id
  entities : ∀ kind id, kind ≠ .swapFundingAuthorization →
    store'.entities.lookup (kind, id) = store.entities.lookup (kind, id)

section KeepsBut

variable {store store' store'' : WalletStore V} {workflowId : WorkflowId}

theorem WalletStore.KeepsBut.trans (h₁ : store.KeepsBut workflowId store')
    (h₂ : store'.KeepsBut workflowId store'') : store.KeepsBut workflowId store'' where
  unlocked := h₂.unlocked.trans h₁.unlocked
  workflows id hid := (h₂.workflows id hid).trans (h₁.workflows id hid)
  entities kind id hkind := (h₂.entities kind id hkind).trans (h₁.entities kind id hkind)

theorem WalletStore.keepsBut_putWorkflow {row : WorkflowRow V} :
    store.KeepsBut workflowId (store.putWorkflow workflowId row) :=
  ⟨rfl, fun _ hid => putWorkflow_lookup_ne hid, fun _ _ _ => rfl⟩

end KeepsBut

def WalletStore.authorizationRow (store : WalletStore V) (sessionId : SessionId) :
    Option (EntityRow V) :=
  store.entities.lookup (.swapFundingAuthorization, secondFundingAuthorizationEntityId sessionId)

section Rows

variable {store : WalletStore V} {sessionId : SessionId}

@[simp] theorem authorizationRow_putWorkflow {id : WorkflowId} {row : WorkflowRow V} :
    (store.putWorkflow id row).authorizationRow sessionId = store.authorizationRow sessionId :=
  rfl

@[simp] theorem authorizationRow_putEntity {row : EntityRow V} :
    (store.putEntity .swapFundingAuthorization (secondFundingAuthorizationEntityId sessionId)
      row).authorizationRow sessionId = some row :=
  putEntity_lookup

@[simp] theorem authorizationRow_dropEntity :
    (store.dropEntity .swapFundingAuthorization
      (secondFundingAuthorizationEntityId sessionId)).authorizationRow sessionId = none :=
  dropEntity_lookup

end Rows

variable [Serde V SwapSession] [Serde V PersistedSecondFundingAuthorization]

structure WalletStore.Holds (store : WalletStore V) (workflowId : WorkflowId)
    (session : SwapSession) : Prop where
  row : ∃ irreversible updatedAt, store.workflows.lookup workflowId =
    some ⟨.atomicSwap, session.revision, Serde.toVec session, irreversible, updatedAt⟩

variable [Sha256]

inductive AuthorizationMove (session : SwapSession) :
    Option (EntityRow V) → Option (EntityRow V) → Prop where
  | issue {old : Option (EntityRow V)} {a : SecondFundingAuthorization}
      {previous revision updatedAt : UInt64} :
      session.secondFundingAuthorization = some a →
      (old = none ∧ previous = 0 ∨ ∃ row record, old = some row ∧
        (Serde.fromSlice row.value : Option PersistedSecondFundingAuthorization) = some record ∧
        row.revision = record.issuedEntityRevision ∧ row.revision = previous) →
      revision.toNat = previous.toNat + 1 →
      AuthorizationMove session old (some ⟨revision,
        Serde.toVec (persistedSecondFundingAuthorization session a revision), updatedAt⟩)
  | drop {old : Option (EntityRow V)} :
      session.secondFundingAuthorization = none →
      (∀ row, old = some row → ∃ record,
        (Serde.fromSlice row.value : Option PersistedSecondFundingAuthorization) = some record ∧
        (row.revision = record.issuedEntityRevision ∨ session.secondFunding.isSome)) →
      AuthorizationMove session old none
  | keep {row : EntityRow V} {record : PersistedSecondFundingAuthorization} :
      session.secondFundingAuthorization = none →
      (Serde.fromSlice row.value : Option PersistedSecondFundingAuthorization) = some record →
      row.revision ≠ record.issuedEntityRevision → session.secondFunding = none →
      AuthorizationMove session (some row) (some row)

structure Saved (journal journal' : WalletStoreJournal V) (session : SwapSession)
    (expected : UInt64) : Prop where
  workflowId : journal.workflowId = shakescapeExecutionWorkflowId session.id
  found : journal.store.authenticatedWorkflowRevision journal.workflowId .atomicSwap =
    .ok expected
  revision : session.revision.toNat = expected.toNat + 1
  stored : journal'.store.workflows.lookup journal.workflowId = some ⟨.atomicSwap,
    session.revision, Serde.toVec session, session.state.irreversible, journal.updatedAtUnix⟩
  unlocked : journal'.store.unlocked
  secrets : journal'.store.secrets = journal.store.secrets
  others : ∀ id, id ≠ journal.workflowId →
    journal'.store.workflows.lookup id = journal.store.workflows.lookup id
  authorization : AuthorizationMove session (journal.store.authorizationRow session.id)
    (journal'.store.authorizationRow session.id)

theorem Saved.holds {journal journal' : WalletStoreJournal V} {session : SwapSession}
    {expected : UInt64} (h : Saved journal journal' session expected) :
    journal'.store.Holds journal.workflowId session :=
  ⟨_, _, h.stored⟩

variable [Encoded V] {journal journal' : WalletStoreJournal V} {session : SwapSession}
  {expected : UInt64}

theorem WalletStoreJournal.keepsBut (h : journal.save session expected = .ok journal') :
    journal.store.KeepsBut journal.workflowId journal'.store := by
  unfold save at h
  split at h
  all_goals simp only [ok_iff, liftStore_eq_ok] at h
  · obtain ⟨⟨written, next⟩, hsave, -, -, hret⟩ := h
    cases hret
    obtain ⟨-, -, -, -, rfl⟩ := saveWorkflow_eq_ok.1 hsave
    exact keepsBut_putWorkflow
  · obtain ⟨-, -, -, -, -, -, ⟨saves, deletes⟩, -, ⟨written, next⟩, hsave, -, -, hret⟩ := h
    cases hret
    split at hsave
    next =>
      obtain ⟨-, -, -, -, rfl⟩ := saveWorkflow_eq_ok.1 hsave
      exact keepsBut_putWorkflow
    next =>
      obtain ⟨-, -, -, batch, hbatch, -, rfl⟩ := saveWorkflowWithEntityBatch_eq_ok hsave
      have hoff := applyEntityBatchInTransaction_agreesOff hbatch
      have hbatched : journal.store.KeepsBut journal.workflowId batch :=
        ⟨hoff.unlocked, fun id _ => by rw [hoff.workflows],
          fun kind id hkind => hoff.entities _ fun htouched => hkind htouched.1⟩
      exact hbatched.trans keepsBut_putWorkflow

variable {stored : Option (StoredEntity PersistedSecondFundingAuthorization)}

theorem authorizationWrites_eq_ok {id : RecordId} {updatedAt : UInt64}
    {saves : List (EntityBatchSave PersistedSecondFundingAuthorization)}
    {deletes : List EntityBatchDelete}
    (h : authorizationWrites session id updatedAt stored = .ok (saves, deletes)) :
    (∃ a previous issued, session.secondFundingAuthorization = some a ∧
      (stored = none ∧ previous = 0 ∨ ∃ row, stored = some row ∧
        row.revision = row.value.issuedEntityRevision ∧ row.revision = previous) ∧
      issued.toNat = previous.toNat + 1 ∧ deletes = [] ∧
      saves = [⟨id, previous, persistedSecondFundingAuthorization session a issued, updatedAt⟩]) ∨
    (session.secondFundingAuthorization = none ∧ saves = [] ∧ deletes = [] ∧
      (stored = none ∨ ∃ row, stored = some row ∧
        row.revision ≠ row.value.issuedEntityRevision ∧ session.secondFunding = none)) ∨
    (session.secondFundingAuthorization = none ∧ saves = [] ∧ ∃ row, stored = some row ∧
      (row.revision = row.value.issuedEntityRevision ∨ session.secondFunding.isSome) ∧
      deletes = [⟨id, row.revision⟩]) := by
  cases ha : session.secondFundingAuthorization with
  | some a =>
    simp only [authorizationWrites, ha, ok_iff, checkedAdd_eq_some] at h
    obtain ⟨-, hopen, issued, hissued, hret⟩ := h
    cases hret
    refine .inl ⟨a, _, issued, rfl, ?_, hissued, rfl, rfl⟩
    cases stored with
    | none => exact .inl ⟨rfl, rfl⟩
    | some row => exact .inr ⟨row, rfl, by simpa using hopen, rfl⟩
  | none =>
    cases stored with
    | none =>
      simp only [authorizationWrites, ha] at h
      cases h
      exact .inr (.inl ⟨rfl, rfl, rfl, .inl rfl⟩)
    | some row =>
      simp only [authorizationWrites, ha] at h
      split at h
      next hc =>
        cases h
        exact .inr (.inr ⟨rfl, rfl, row, rfl, hc, rfl⟩)
      next hc =>
        cases h
        rw [not_or, Option.not_isSome_iff_eq_none] at hc
        exact .inr (.inl ⟨rfl, rfl, rfl, .inr ⟨row, rfl, hc⟩⟩)

omit [Serde V SwapSession] [Sha256] [Encoded V] in
theorem authorizationRow_of_load {store : WalletStore V} {sessionId : SessionId}
    (h : store.loadEntity PersistedSecondFundingAuthorization .swapFundingAuthorization
      (secondFundingAuthorizationEntityId sessionId) = .ok stored) :
    (stored = none ∧ store.authorizationRow sessionId = none) ∨
    ∃ row record, store.authorizationRow sessionId = some row ∧
      Serde.fromSlice row.value = some record ∧
      stored = some ⟨.swapFundingAuthorization, secondFundingAuthorizationEntityId sessionId,
        row.revision, record, row.updatedAtUnix⟩ := by
  cases stored with
  | none => exact .inl ⟨rfl, (loadEntity_eq_none.1 h).2.2⟩
  | some entity =>
    obtain ⟨-, -, row, record, hrow, hrecord, rfl⟩ := loadEntity_eq_some.1 h
    exact .inr ⟨row, record, hrow, hrecord, rfl⟩

theorem WalletStoreJournal.saved (hterms : session.acceptedShakescapeTerms.isSome)
    (h : journal.save session expected = .ok journal') :
      Saved journal journal' session expected := by
  obtain ⟨terms, hterms⟩ := Option.isSome_iff_exists.1 hterms
  simp only [save, hterms, ok_iff, liftStore_eq_ok, not_not] at h
  obtain ⟨-, hid, stored, hstored, -, -, ⟨saves, deletes⟩, hwrites, ⟨store, next⟩, hcommit, -,
    rfl, hret⟩ := h
  cases hret
  have hstored := authorizationRow_of_load hstored
  rcases authorizationWrites_eq_ok hwrites with
    ⟨a, previous, issued, ha, hprevious, hissued, rfl, rfl⟩ |
    ⟨ha, rfl, rfl, hkept⟩ | ⟨ha, rfl, row, hrow, hgone, rfl⟩
  · rw [if_neg (by simp)] at hcommit
    obtain ⟨hkey, hfound, hnext, written, hwritten, -, rfl⟩ :=
      saveWorkflowWithEntityBatch_eq_ok hcommit
    obtain ⟨-, revision, hrevision, rfl⟩ := applyEntityBatch_save_eq_ok.1 hwritten
    have heq : revision = issued := UInt64.toNat_inj.1 (hrevision.trans hissued.symm)
    subst heq
    refine ⟨hid, hfound, hnext, putWorkflow_lookup, hkey, rfl,
      fun _ hother => putWorkflow_lookup_ne hother, ?_⟩
    simp only [WalletStore.PreparedSave.ofSave, authorizationRow_putWorkflow,
      authorizationRow_putEntity]
    refine .issue ha ?_ hissued
    rcases hstored with ⟨rfl, hnone⟩ | ⟨row, record, hrow, hrecord, rfl⟩
    · refine .inl ⟨hnone, ?_⟩
      rcases hprevious with ⟨-, hzero⟩ | ⟨_, h, -⟩
      · exact hzero
      · cases h
    · rcases hprevious with ⟨h, -⟩ | ⟨_, h, hopen, hprev⟩
      · cases h
      · cases h
        exact .inr ⟨row, record, hrow, hrecord, hopen, hprev⟩
  · rw [if_pos ⟨rfl, rfl⟩] at hcommit
    obtain ⟨-, hkey, hfound, hnext, rfl⟩ := saveWorkflow_eq_ok.1 hcommit
    refine ⟨hid, hfound, hnext, putWorkflow_lookup, hkey, rfl,
      fun _ hother => putWorkflow_lookup_ne hother, ?_⟩
    show AuthorizationMove session (journal.store.authorizationRow session.id)
      (journal.store.authorizationRow session.id)
    rcases hstored with ⟨rfl, hnone⟩ | ⟨row, record, hrow, hrecord, rfl⟩
    · rw [hnone]
      exact .drop ha fun _ h => by cases h
    · rw [hrow]
      rcases hkept with h | ⟨_, h, hconsumed, hsf⟩
      · cases h
      · cases h
        exact .keep ha hrecord hconsumed hsf
  · rw [if_neg (by simp)] at hcommit
    obtain ⟨hkey, hfound, hnext, written, hwritten, -, rfl⟩ :=
      saveWorkflowWithEntityBatch_eq_ok hcommit
    obtain ⟨-, -, rfl⟩ := applyEntityBatch_delete_eq_ok.1 hwritten
    refine ⟨hid, hfound, hnext, putWorkflow_lookup, hkey, rfl,
      fun _ hother => putWorkflow_lookup_ne hother, ?_⟩
    rw [authorizationRow_putWorkflow, authorizationRow_dropEntity]
    refine .drop ha fun old hold => ?_
    rcases hstored with ⟨rfl, -⟩ | ⟨row', record, hrow', hrecord, rfl⟩
    · cases hrow
    · cases hrow
      rw [hrow'] at hold
      cases hold
      exact ⟨record, hrecord, hgone⟩

section Loads

variable [MarketplaceProtocol] {store : WalletStore V} {policy : ShakescapeDirectSwapPolicy}
  {sessionId : SessionId}

omit [Encoded V] [Serde V PersistedSecondFundingAuthorization]

omit [Sha256] in
theorem validateShakescapeExecutionRecord_id {workflowId : WorkflowId}
    {stored : StoredWorkflow SwapSession} {u : Unit}
    (h : validateShakescapeExecutionRecord policy sessionId workflowId stored = .ok u) :
    stored.state.id = sessionId := by
  unfold validateShakescapeExecutionRecord at h
  simp only [ok_iff, not_or, not_not] at h
  obtain ⟨-, ⟨-, -, hid, -⟩, -⟩ := h
  exact hid

theorem loadShakescapeExecution_row {s : SwapSession}
    (h : loadShakescapeExecution store policy sessionId = .ok (some s)) :
    store.unlocked ∧ ∃ row, store.workflows.lookup (shakescapeExecutionWorkflowId sessionId) =
      some row ∧ Serde.fromSlice row.state = some s ∧
      validateShakescapeExecutionRecord policy sessionId
        (shakescapeExecutionWorkflowId sessionId)
        ⟨shakescapeExecutionWorkflowId sessionId, row.kind, row.revision, s,
          row.irreversibleBroadcastPrepared, row.updatedAtUnix⟩ = .ok () := by
  unfold loadShakescapeExecution at h
  simp only [ok_iff, liftStore_eq_ok] at h
  obtain ⟨stored, hstored, h⟩ := h
  cases stored with
  | none => cases h
  | some stored =>
    obtain ⟨hkey, row, state, hrow, hstate, rfl⟩ := loadWorkflow_eq_some.1 hstored
    obtain ⟨⟨⟩, hvalid, hret⟩ := ok_bind_iff.1 h
    cases hret
    exact ⟨hkey, row, hrow, hstate, hvalid⟩

theorem WalletStore.Holds.load_eq {s t : SwapSession}
    (hs : store.Holds (shakescapeExecutionWorkflowId sessionId) s)
    (h : loadShakescapeExecution store policy sessionId = .ok (some t)) : t = s := by
  obtain ⟨irreversible, updatedAt, hheld⟩ := hs.row
  obtain ⟨-, row, hrow, hstate, -⟩ := loadShakescapeExecution_row h
  rw [hheld] at hrow
  cases hrow
  rw [Serde.fromSlice_toVec] at hstate
  exact (Option.some.inj hstate).symm

theorem WalletStore.Holds.loaded {s : SwapSession} {loaded : Option SwapSession}
    (hs : store.Holds (shakescapeExecutionWorkflowId sessionId) s)
    (h : loadShakescapeExecution store policy sessionId = .ok loaded) : loaded = some s := by
  cases loaded with
  | some t => rw [hs.load_eq h]
  | none =>
    obtain ⟨irreversible, updatedAt, hrow⟩ := hs.row
    obtain ⟨stored, hstored, h⟩ := ok_bind_iff.1 h
    cases stored with
    | none =>
      rw [(loadWorkflow_eq_none.1 (liftStore_eq_ok.1 hstored)).2] at hrow
      cases hrow
    | some stored =>
      obtain ⟨_, -, hret⟩ := ok_bind_iff.1 h
      cases hret

end Loads

variable [MarketplaceProtocol] {store : WalletStore V} {policy : ShakescapeDirectSwapPolicy}
  {sessionId : SessionId}

omit [Encoded V] in
theorem shakescapeSecondFundingBroadcastGuard_captures {module : ModuleId}
    {authorizationId : ObjectHash} {nowUnix : UInt64} {guard : SecondFundingBroadcastGuard}
    (h : shakescapeSecondFundingBroadcastGuard store policy sessionId module authorizationId
      nowUnix = .ok guard) :
    ∃ s row, ∃ record : PersistedSecondFundingAuthorization,
      loadShakescapeExecution store policy sessionId = .ok (some s) ∧
      store.authorizationRow sessionId = some row ∧ Serde.fromSlice row.value = some record ∧
      row.revision = record.issuedEntityRevision ∧ record.executionRevision = s.revision ∧
      s.secondFundingAuthorization = some record.authorization ∧
      guard = ⟨sessionId, shakescapeExecutionWorkflowId sessionId, s.revision,
        secondFundingAuthorizationEntityId sessionId, row.revision, record.authorization⟩ := by
  unfold shakescapeSecondFundingBroadcastGuard validatePersistedSecondFundingAuthorization at h
  simp only [ok_iff, liftStore_eq_ok, not_or, not_not] at h
  obtain ⟨_, hload, s, rfl, _, hentity, stored, rfl, -,
    ⟨-, ⟨-, -, hworkflow, hrevision, -, hauth, -⟩, -⟩, -, hopen, -, -, hret⟩ := h
  obtain ⟨-, -, row, record, hrow, hrecord, rfl⟩ := loadEntity_eq_some.1 hentity
  cases hret
  obtain ⟨-, _, -, -, hvalid⟩ := loadShakescapeExecution_row hload
  have hid : s.id = sessionId := validateShakescapeExecutionRecord_id hvalid
  refine ⟨s, row, record, hload, hrow, hrecord, hopen, hrevision, hauth, ?_⟩
  rw [hworkflow, hrevision, hid]

end HnsWallet
