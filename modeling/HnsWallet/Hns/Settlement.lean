import HnsWallet.Market.Journal

/-! # Handshake settlements -/

namespace HnsWallet

open Lib WalletStore

inductive HnsWalletError where
  | invalidPreparedArtifact
  | invalidWorkflow
  | invalidEvidence
  | preparedArtifactExpired
  | arithmetic
  | invalidFeeQuote
  | invalidRequest (detail : String)
  | staleNodeSnapshot
  | approvalRequired
  | backend (detail : String)
  | store (error : StoreError)
deriving DecidableEq, Repr

inductive HnsSettlementAction where
  | lock
  | redeem
  | refund
deriving DecidableEq, Repr

inductive HnsSettlementBroadcastGuardPurpose where
  | currentRedeem
  | secondFunding (authorizationId : ObjectHash) (module : ModuleId) (expiresAtUnix : UInt64)
deriving DecidableEq

structure HnsSettlementBroadcastGuard where
  sessionId : SessionId
  executionWorkflowId : WorkflowId
  executionRevision : UInt64
  entityId : RecordId
  entityRevision : UInt64
  purpose : HnsSettlementBroadcastGuardPurpose
deriving DecidableEq

namespace HnsSettlementBroadcastGuard

variable (guard : HnsSettlementBroadcastGuard)

def isValid : Bool :=
  !guard.sessionId.bytes.isZero && !guard.executionWorkflowId.bytes.isZero &&
    guard.executionRevision != 0 && !guard.entityId.isEmpty && guard.entityRevision != 0 &&
    match guard.purpose with
    | .currentRedeem => true
    | .secondFunding authorizationId module expiresAtUnix =>
      authorizationId.nonZero && module == .handshake && expiresAtUnix != 0

def new (sessionId : SessionId) (executionWorkflowId : WorkflowId) (executionRevision : UInt64)
    (sessionRecordId : RecordId) (sessionRecordRevision : UInt64) :
    Except HnsWalletError HnsSettlementBroadcastGuard := do
  let guard : HnsSettlementBroadcastGuard := ⟨sessionId, executionWorkflowId, executionRevision,
    sessionRecordId, sessionRecordRevision, .currentRedeem⟩
  refuseIf (guard.isValid = false) .invalidEvidence
  return guard

def authorizesAction (action : HnsSettlementAction) (sessionId : SessionId)
    (nowUnix : Option UInt64) : Bool :=
  guard.sessionId = sessionId && guard.isValid &&
    match guard.purpose with
    | .currentRedeem => action == .redeem
    | .secondFunding _ _ expiresAtUnix =>
      action == .lock && nowUnix.all (· < expiresAtUnix)

def entityKind : EntityKind :=
  match guard.purpose with
  | .currentRedeem => .swapSession
  | .secondFunding .. => .swapFundingAuthorization

def consumesEntity : Bool :=
  match guard.purpose with
  | .currentRedeem => false
  | .secondFunding .. => true

def workflowAssertion : WorkflowRevisionAssertion :=
  ⟨guard.executionWorkflowId, .atomicSwap, guard.executionRevision⟩

def entityAssertion : EntityRevisionAssertion :=
  ⟨guard.entityId, guard.entityRevision⟩

end HnsSettlementBroadcastGuard

inductive HnsSettlementStage where
  | prepared
  | broadcast
  | mempool
  | confirmed
  | conflicted
  | requiresRebroadcast
  | expired
  | cancelled
deriving DecidableEq, Repr

/-- A signed settlement and how far it has come.  Left out are the account, the spent
coins, the fee quote, the terms and the recovery package of a funding. -/
structure HnsPreparedSettlement where
  workflowId : WorkflowId
  sessionId : SessionId
  action : HnsSettlementAction
  stage : HnsSettlementStage
  transaction : Bytes 32
  signedTransaction : List UInt8
  fee : BaseUnits
  maximumFee : BaseUnits
  expiresAtUnix : UInt64
  broadcastGuard : Option HnsSettlementBroadcastGuard
deriving DecidableEq

def preparedArtifactLifetimeSeconds : UInt64 := 300

def settlementWorkflowKind (action : HnsSettlementAction) : WorkflowKind :=
  if action = .refund then .refund else .atomicSwap

def hnsSettlementWorkflowDomain : List UInt8 :=
  ascii "hns-wallet-rs/hns-settlement-workflow/v1"

def settlementWorkflowId [Sha256] (accountEntityPrefix : Bytes 32) (sessionId : SessionId)
    (action : HnsSettlementAction) : WorkflowId :=
  let code : UInt8 := match action with
    | .lock => 0
    | .redeem => 1
    | .refund => 2
  .ofDigest (Sha256.digest (hnsSettlementWorkflowDomain ++ accountEntityPrefix.toList ++
    sessionId.bytes.toList ++ [code]))

/-- What the runtime brings to a spend that it prepares: the signed transaction and its
fee, what it found out about a settlement that is already stored, and what becomes of
the inputs that sponsor the fee. -/
structure HnsSpend (R : Type) where
  transaction : Bytes 32
  signedTransaction : List UInt8
  fee : BaseUnits
  retryCompatible : Bool
  inputsReserved : Bool
  reservationSaves : List (EntityBatchSave R)
  reservationDeletes : List EntityBatchDelete

namespace HnsPreparedSettlement

def mayBeReprepared (stored : StoredWorkflow HnsPreparedSettlement) (nowUnix : UInt64) : Prop :=
  (stored.state.stage = .prepared ∧ stored.state.expiresAtUnix ≤ nowUnix) ∨
    ((stored.state.stage = .expired ∨ stored.state.stage = .cancelled) ∧
      stored.irreversibleBroadcastPrepared = false)

instance (stored : StoredWorkflow HnsPreparedSettlement) (nowUnix : UInt64) :
    Decidable (mayBeReprepared stored nowUnix) :=
  inferInstanceAs (Decidable (_ ∨ _))

def samePreparedSettlement (stored artifact : HnsPreparedSettlement) : Prop :=
  artifact.stage = .prepared ∧ { stored with stage := .prepared } = artifact

instance (stored artifact : HnsPreparedSettlement) :
    Decidable (samePreparedSettlement stored artifact) :=
  inferInstanceAs (Decidable (_ ∧ _))

end HnsPreparedSettlement

section Settlements

variable {V R : Type} [Encoded V] [Serde V HnsPreparedSettlement] [Serde V R]
  (store : WalletStore V) (stored : StoredWorkflow HnsPreparedSettlement) (workflowId : WorkflowId)
  (sessionId : SessionId) (action : HnsSettlementAction)
  (guard : Option HnsSettlementBroadcastGuard) (maximumFee : BaseUnits) (spend : HnsSpend R)
  (nowUnix : UInt64)

def newPreparedSettlement (expiresAtUnix : UInt64) :
    HnsPreparedSettlement where
  workflowId := workflowId
  sessionId := sessionId
  action := action
  stage := .prepared
  transaction := spend.transaction
  signedTransaction := spend.signedTransaction
  fee := spend.fee
  maximumFee := maximumFee
  expiresAtUnix := expiresAtUnix
  broadcastGuard := guard

def preparedRevision (prepared : HnsPreparedSettlement) (spend : HnsSpend R) (nowUnix : UInt64) :
    Option (StoredWorkflow HnsPreparedSettlement) → Except HnsWalletError (Option UInt64)
  | none => .ok (some 0)
  | some stored => do
    if stored.state = prepared ∧ stored.kind = settlementWorkflowKind prepared.action then
      return none
    refuseIf (stored.kind ≠ settlementWorkflowKind prepared.action ∨
      stored.state.workflowId ≠ prepared.workflowId ∨
      stored.state.sessionId ≠ prepared.sessionId ∨
      stored.state.action ≠ prepared.action ∨
      spend.retryCompatible = false ∨
      ¬ HnsPreparedSettlement.mayBeReprepared stored nowUnix ∨
      spend.inputsReserved) .invalidWorkflow
    return some stored.revision

def persistPreparedSettlement :
    Except HnsWalletError (WalletStore V × HnsPreparedSettlement) := do
  refuseIf (maximumFee = 0 ∨ maximumFee < spend.fee) .invalidFeeQuote
  refuseIf (∃ g ∈ guard, g.authorizesAction action sessionId (some nowUnix) = false)
    .invalidPreparedArtifact
  let expiresAtUnix ← okOr (checkedAdd nowUnix preparedArtifactLifetimeSeconds) .arithmetic
  let prepared := newPreparedSettlement workflowId sessionId action guard maximumFee spend
    expiresAtUnix
  let stored ← (store.loadWorkflow HnsPreparedSettlement workflowId).mapError .store
  match ← preparedRevision prepared spend nowUnix stored with
  | none => return (store, prepared)
  | some expected =>
    let (store, _) ← (store.saveWorkflowWithEntityBatch workflowId
      (settlementWorkflowKind action) expected prepared false nowUnix .inputReservation
      spend.reservationSaves []).mapError .store
    return (store, prepared)

inductive PreparationOutcome (V : Type) where
  | prepared (store : WalletStore V) (settlement : HnsPreparedSettlement)
  | failed (store : WalletStore V) (error : HnsWalletError)

def retireSettlement : Except HnsWalletError (WalletStore V) :=
  if stored.state.stage = .prepared then do
    let stage := if stored.state.expiresAtUnix ≤ nowUnix then .expired else .cancelled
    let (store, _) ← (store.saveWorkflowWithEntityBatch stored.id stored.kind stored.revision
      { stored.state with stage } false nowUnix .inputReservation
      ([] : List (EntityBatchSave R)) spend.reservationDeletes).mapError .store
    return store
  else
    (store.applyEntityBatch .inputReservation ([] : List (EntityBatchSave R))
      spend.reservationDeletes).mapError .store

def retrySettlementSpend : Except HnsWalletError (PreparationOutcome V) :=
  if stored.state.stage = .prepared ∧ nowUnix < stored.state.expiresAtUnix ∧
      stored.state.broadcastGuard = guard then do
    refuseIf (stored.state.maximumFee ≠ maximumFee ∨ maximumFee < stored.state.fee)
      (.invalidRequest "persisted Handshake settlement spend does not match retry")
    refuseIf (∃ g ∈ stored.state.broadcastGuard, g.authorizesAction action sessionId none = false)
      .invalidPreparedArtifact
    return .prepared store stored.state
  else do
    refuseIf (¬ HnsPreparedSettlement.mayBeReprepared stored nowUnix ∧
      (stored.state.stage ≠ .prepared ∨ stored.state.broadcastGuard = guard))
      (.invalidRequest "persisted Handshake settlement spend does not match retry")
    let store ← retireSettlement store stored spend nowUnix
    return match persistPreparedSettlement store stored.id sessionId action guard maximumFee spend
        nowUnix with
      | .ok (store, settlement) => .prepared store settlement
      | .error error => .failed store error

def prepareSettlementSpend :
    Except HnsWalletError (PreparationOutcome V) := do
  refuseIf (maximumFee = 0) (.invalidRequest "invalid Handshake settlement spend")
  refuseIf (action = .lock) (.invalidRequest "invalid settlement spend action")
  match ← (store.loadWorkflow HnsPreparedSettlement workflowId).mapError .store with
  | none =>
    let (store, settlement) ← persistPreparedSettlement store workflowId sessionId action guard
      maximumFee spend nowUnix
    return .prepared store settlement
  | some stored =>
    refuseIf (stored.kind ≠ settlementWorkflowKind action ∨
      stored.state.workflowId ≠ workflowId ∨
      stored.state.sessionId ≠ sessionId ∨
      stored.state.action ≠ action ∨
      spend.retryCompatible = false)
      (.invalidRequest "persisted Handshake settlement spend does not match retry")
    retrySettlementSpend store stored sessionId action guard maximumFee spend nowUnix

/-- How a broadcast ends once it has reached the store.  `expired` is reported as
`preparedArtifactExpired`, after the row was changed; `submitted` goes on to the
network, for the first time if the settlement was `activated`. -/
inductive BroadcastOutcome (V : Type) where
  | confirmed
  | expired (store : WalletStore V)
  | submitted (store : WalletStore V) (activated : Bool)

def expireSettlement (deletes : List EntityBatchDelete) (nowUnix : UInt64) :
    Except HnsWalletError (BroadcastOutcome V) := do
  let (store, _) ← (store.saveWorkflowWithEntityBatch stored.id stored.kind stored.revision
    { stored.state with stage := .expired } false nowUnix .inputReservation
    ([] : List (EntityBatchSave R)) deletes).mapError .store
  return .expired store

def activateSettlement (saves : List (EntityBatchSave R)) (startedAtUnix : UInt64) :
    Except HnsWalletError (BroadcastOutcome V) := do
  let state := { stored.state with stage := .requiresRebroadcast }
  match stored.state.broadcastGuard with
  | some guard =>
    refuseIf (guard.authorizesAction state.action state.sessionId (some startedAtUnix) = false)
      .invalidWorkflow
    let (store, _) ← (store.saveWorkflowWithEntityBatchAndGuards stored.id stored.kind
      stored.revision state true startedAtUnix .inputReservation saves []
      guard.workflowAssertion guard.entityKind guard.entityAssertion
      guard.consumesEntity).mapError .store
    return .submitted store true
  | none =>
    let (store, _) ← (store.saveWorkflowWithEntityBatch stored.id stored.kind stored.revision
      state true startedAtUnix .inputReservation saves []).mapError .store
    return .submitted store true

def resubmitSettlement (startedAtUnix : UInt64) : Except HnsWalletError (BroadcastOutcome V) := do
  let (store, _) ← (store.saveWorkflowWithEntityBatch stored.id stored.kind stored.revision
    { stored.state with stage := .requiresRebroadcast } true startedAtUnix .inputReservation
    ([] : List (EntityBatchSave R)) []).mapError .store
  return .submitted store false

def broadcastPreparedSettlement (artifact : HnsPreparedSettlement)
    (saves : List (EntityBatchSave R)) (deletes : List EntityBatchDelete)
    (nowUnix startedAtUnix : UInt64) : Except HnsWalletError (BroadcastOutcome V) := do
  refuseIf (artifact.stage ≠ .prepared ∨ artifact.maximumFee = 0 ∨
    artifact.maximumFee < artifact.fee) .invalidPreparedArtifact
  let loaded ← (store.loadWorkflow HnsPreparedSettlement artifact.workflowId).mapError .store
  let stored ← okOr loaded .invalidWorkflow
  refuseIf (stored.kind ≠ settlementWorkflowKind artifact.action ∨
    ¬ HnsPreparedSettlement.samePreparedSettlement stored.state artifact) .invalidWorkflow
  match stored.state.stage with
  | .confirmed => return .confirmed
  | .prepared =>
    if stored.state.expiresAtUnix ≤ nowUnix then
      expireSettlement (R := R) store stored deletes nowUnix
    else if stored.state.expiresAtUnix ≤ startedAtUnix then
      expireSettlement (R := R) store stored deletes startedAtUnix
    else
      activateSettlement store stored saves startedAtUnix
  | .broadcast | .mempool | .requiresRebroadcast =>
    resubmitSettlement (R := R) store stored startedAtUnix
  | .conflicted | .expired | .cancelled => .error .invalidWorkflow

end Settlements

section Written

variable {V R : Type} [Serde V HnsPreparedSettlement] {store store' : WalletStore V}
  {id : WorkflowId} {p q : HnsPreparedSettlement}

def WalletStore.settlement (store : WalletStore V) (id : WorkflowId) :
    Option HnsPreparedSettlement :=
  (store.workflows.lookup id).bind fun row => Serde.fromSlice row.state

structure WalletStore.WritesSettlement (store store' : WalletStore V) (id : WorkflowId)
    (p : HnsPreparedSettlement) : Prop where
  others : ∀ other, other ≠ id → store'.workflows.lookup other = store.workflows.lookup other
  settlement : store'.settlement id = some p

theorem writesSettlement_putWorkflow {written : WalletStore V} {kind : WorkflowKind}
    {revision updatedAt : UInt64} {irreversible : Bool} (h : written.workflows = store.workflows) :
    store.WritesSettlement (written.putWorkflow id ⟨kind, revision, Serde.toVec p,
      irreversible, updatedAt⟩) id p where
  others other hother := by
    rw [putWorkflow_lookup_ne hother, h]
  settlement := by
    simp [WalletStore.settlement, Serde.fromSlice_toVec]

theorem settlement_of_load {stored : StoredWorkflow HnsPreparedSettlement}
    (h : store.loadWorkflow HnsPreparedSettlement id = .ok (some stored)) :
    stored.id = id ∧ store.settlement id = some stored.state := by
  obtain ⟨-, row, state, hrow, hstate, rfl⟩ := loadWorkflow_eq_some.1 h
  exact ⟨rfl, by simp [WalletStore.settlement, hrow, hstate]⟩

theorem WalletStore.WritesSettlement.trans {between : WalletStore V}
    (h₁ : store.WritesSettlement between id p) (h₂ : between.WritesSettlement store' id q) :
    store.WritesSettlement store' id q :=
  ⟨fun other hother => (h₂.others other hother).trans (h₁.others other hother), h₂.settlement⟩

variable [Encoded V] [Serde V R] {expected updatedAt next : UInt64} {irreversible : Bool}
  {wkind : WorkflowKind} {kind : EntityKind} {saves : List (EntityBatchSave R)}
  {deletes : List EntityBatchDelete}

theorem writesSettlement_of_save
    (h : store.saveWorkflowWithEntityBatch id wkind expected p irreversible updatedAt
      kind saves deletes = .ok (store', next)) : store.WritesSettlement store' id p := by
  obtain ⟨-, -, -, written, hwritten, -, rfl⟩ := saveWorkflowWithEntityBatch_eq_ok h
  exact writesSettlement_putWorkflow
    (applyEntityBatchInTransaction_agreesOff hwritten).workflows

variable {sessionId : SessionId} {action : HnsSettlementAction}
  {guard : Option HnsSettlementBroadcastGuard} {maximumFee : BaseUnits} {spend : HnsSpend R}
  {nowUnix startedAtUnix : UInt64} {stored : StoredWorkflow HnsPreparedSettlement}

theorem preparedRevision_eq_none {loaded : Option (StoredWorkflow HnsPreparedSettlement)}
    (h : preparedRevision p spend nowUnix loaded = .ok none) :
    ∃ stored, loaded = some stored ∧ stored.state = p := by
  cases loaded with
  | none => cases h
  | some stored =>
    simp only [preparedRevision] at h
    split at h
    next hsame => exact ⟨stored, rfl, hsame.1⟩
    next => simp [ok_bind_iff, pure, Except.pure] at h

theorem persistPreparedSettlement_eq_ok
    (h : persistPreparedSettlement store id sessionId action guard maximumFee spend nowUnix =
      .ok (store', p)) :
    store.WritesSettlement store' id p ∧ p.broadcastGuard = guard ∧
      p.expiresAtUnix.toNat = nowUnix.toNat + 300 := by
  unfold persistPreparedSettlement at h
  simp only [ok_iff, checkedAdd_eq_some] at h
  obtain ⟨-, -, -, -, expiresAt, hexpires, loaded, hload, revision, hrevision, h⟩ := h
  cases revision with
  | none =>
    cases h
    obtain ⟨stored, rfl, hstate⟩ := preparedRevision_eq_none hrevision
    refine ⟨⟨fun _ _ => rfl, ?_⟩, rfl, hexpires⟩
    rw [(settlement_of_load hload).2, hstate]
  | some expected =>
    simp only [ok_iff] at h
    obtain ⟨⟨written, next⟩, hsave, hret⟩ := h
    cases hret
    exact ⟨writesSettlement_of_save hsave, rfl, hexpires⟩

theorem retireSettlement_eq_ok (hstored : store.settlement stored.id = some stored.state)
    (h : retireSettlement store stored spend nowUnix = .ok store') :
    ∃ q, q.stage ≠ .prepared ∧ store.WritesSettlement store' stored.id q := by
  unfold retireSettlement at h
  split at h
  next =>
    simp only [ok_iff] at h
    obtain ⟨⟨written, next⟩, hsave, hret⟩ := h
    cases hret
    refine ⟨_, ?_, writesSettlement_of_save hsave⟩
    show (if _ then HnsSettlementStage.expired else .cancelled) ≠ .prepared
    split <;> simp
  next hstage =>
    have hworkflows := applyEntityBatch_workflows (mapError_eq_ok.1 h)
    refine ⟨stored.state, hstage, fun _ _ => by rw [hworkflows], ?_⟩
    rw [← hstored, WalletStore.settlement, hworkflows]
    rfl

theorem prepareSettlementSpend_eq_ok {outcome : PreparationOutcome V}
    (h : prepareSettlementSpend store id sessionId action guard maximumFee spend nowUnix =
      .ok outcome) :
    (∃ store' p, outcome = .prepared store' p ∧ store.WritesSettlement store' id p ∧
      p.broadcastGuard = guard ∧
      (p.expiresAtUnix.toNat = nowUnix.toNat + 300 ∨ store.settlement id = some p)) ∨
    ∃ store' error q, outcome = .failed store' error ∧ store.WritesSettlement store' id q ∧
      q.stage ≠ .prepared := by
  unfold prepareSettlementSpend at h
  simp only [ok_iff] at h
  obtain ⟨-, -, -, -, loaded, hload, h⟩ := h
  cases loaded with
  | none =>
    simp only [ok_iff] at h
    obtain ⟨⟨written, p⟩, hpersist, hret⟩ := h
    cases hret
    obtain ⟨hwrites, hguard, hexpires⟩ := persistPreparedSettlement_eq_ok hpersist
    exact .inl ⟨written, p, rfl, hwrites, hguard, .inl hexpires⟩
  | some stored =>
    obtain ⟨rfl, hstored⟩ := settlement_of_load hload
    simp only [ok_iff] at h
    obtain ⟨-, -, h⟩ := h
    unfold retrySettlementSpend at h
    split at h
    next hactive =>
      simp only [ok_iff] at h
      obtain ⟨-, -, -, -, hret⟩ := h
      cases hret
      exact .inl ⟨store, stored.state, rfl, ⟨fun _ _ => rfl, hstored⟩, hactive.2.2,
        Or.inr hstored⟩
    next =>
      simp only [ok_iff] at h
      obtain ⟨-, -, retired, hretire, hret⟩ := h
      obtain ⟨q, hstage, hretired⟩ := retireSettlement_eq_ok hstored hretire
      cases hret
      split
      next written p hpersist =>
        obtain ⟨hwrites, hguard, hexpires⟩ := persistPreparedSettlement_eq_ok hpersist
        exact .inl ⟨written, p, rfl, hretired.trans hwrites, hguard, .inl hexpires⟩
      next error _ => exact .inr ⟨retired, error, q, rfl, hretired, hstage⟩

/-! ## What a broadcast has passed -/

variable {outcome : BroadcastOutcome V}

theorem expireSettlement_eq_ok
    (h : expireSettlement (R := R) store stored deletes nowUnix = .ok outcome) :
    ∃ store' q, store.WritesSettlement store' stored.id q ∧ q.stage ≠ .prepared ∧
      outcome = .expired store' := by
  unfold expireSettlement at h
  simp only [ok_iff] at h
  obtain ⟨⟨written, next⟩, hsave, hret⟩ := h
  cases hret
  exact ⟨written, _, writesSettlement_of_save hsave, by simp, rfl⟩

theorem resubmitSettlement_eq_ok
    (h : resubmitSettlement (R := R) store stored startedAtUnix = .ok outcome) :
    ∃ store' q, store.WritesSettlement store' stored.id q ∧ q.stage ≠ .prepared ∧
      outcome = .submitted store' false := by
  unfold resubmitSettlement at h
  simp only [ok_iff] at h
  obtain ⟨⟨written, next⟩, hsave, hret⟩ := h
  cases hret
  exact ⟨written, _, writesSettlement_of_save hsave, by simp, rfl⟩

def HnsSettlementBroadcastGuard.Holds (guard : HnsSettlementBroadcastGuard)
    (store : WalletStore V) : Prop :=
  store.authenticatedWorkflowRevision guard.executionWorkflowId .atomicSwap =
    .ok guard.executionRevision

theorem activateSettlement_eq_ok
    (h : activateSettlement store stored saves startedAtUnix = .ok outcome) :
    (∃ store' q, store.WritesSettlement store' stored.id q ∧ q.stage ≠ .prepared ∧
      outcome = .submitted store' true) ∧
    ∀ g ∈ stored.state.broadcastGuard, g.Holds store := by
  unfold activateSettlement at h
  cases hguard : stored.state.broadcastGuard with
  | none =>
    simp only [hguard, ok_iff] at h
    obtain ⟨⟨written, next⟩, hsave, hret⟩ := h
    cases hret
    exact ⟨⟨written, _, writesSettlement_of_save hsave, by simp, rfl⟩, by simp⟩
  | some guard =>
    simp only [hguard, ok_iff] at h
    obtain ⟨-, -, ⟨written, next⟩, hsave, hret⟩ := h
    cases hret
    obtain ⟨hheld, kept, hkept, rfl⟩ :=
      saveWorkflowWithEntityBatchAndGuards_eq_ok hsave
    refine ⟨⟨_, _, writesSettlement_putWorkflow hkept, by simp, rfl⟩, ?_⟩
    rintro g ⟨⟩
    exact hheld

structure HnsPreparedSettlement.Activated (p : HnsPreparedSettlement) (store : WalletStore V)
    (id : WorkflowId) (startedAtUnix : UInt64) : Prop where
  found : store.settlement id = some p
  prepared : p.stage = .prepared
  unexpired : startedAtUnix < p.expiresAtUnix
  guarded : ∀ g ∈ p.broadcastGuard, g.Holds store

theorem broadcastPreparedSettlement_eq_ok
    (h : broadcastPreparedSettlement store p saves deletes nowUnix startedAtUnix =
      .ok outcome) :
    outcome = .confirmed ∨
    ∃ store' q, store.WritesSettlement store' p.workflowId q ∧ q.stage ≠ .prepared ∧
      (outcome = .expired store' ∨ outcome = .submitted store' false ∨
        outcome = .submitted store' true ∧ p.Activated store p.workflowId startedAtUnix) := by
  unfold broadcastPreparedSettlement at h
  simp only [ok_iff, not_or, not_not] at h
  obtain ⟨-, -, loaded, hload, stored, rfl, -, ⟨-, -, hsame⟩, h⟩ := h
  obtain ⟨hid, hstored⟩ := settlement_of_load hload
  rw [← hid] at hstored ⊢
  split at h
  next => exact .inl (Except.ok.inj h).symm
  next hstage =>
    have hp : stored.state = p := by
      rw [← hsame, ← hstage]
    split at h
    next =>
      obtain ⟨store', q, hwrites, hq, ho⟩ := expireSettlement_eq_ok h
      exact .inr ⟨store', q, hwrites, hq, .inl ho⟩
    next =>
      split at h
      next =>
        obtain ⟨store', q, hwrites, hq, ho⟩ := expireSettlement_eq_ok h
        exact .inr ⟨store', q, hwrites, hq, .inl ho⟩
      next hlate =>
        obtain ⟨⟨store', q, hwrites, hq, ho⟩, hguard⟩ := activateSettlement_eq_ok h
        rw [hp] at hstored hstage hlate hguard
        exact .inr ⟨store', q, hwrites, hq,
          Or.inr (.inr ⟨ho, hstored, hstage, UInt64.not_le.1 hlate, hguard⟩)⟩
  all_goals first
    | cases h
    | obtain ⟨store', q, hwrites, hq, ho⟩ := resubmitSettlement_eq_ok h
      exact .inr ⟨store', q, hwrites, hq, .inr (.inl ho)⟩

end Written

end HnsWallet
