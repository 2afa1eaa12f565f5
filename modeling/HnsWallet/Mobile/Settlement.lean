import HnsWallet.Market.SessionBoardLaws
import HnsWallet.Mobile.Redeem

/-! # Redemptions -/

namespace HnsWallet

open Lib SwapRecoveryTerms

structure SwapRecoveryHtlcParameters where
  chain : ChainId
  amount : UInt64
  hashlock : Bytes 32
  receiverPublicKey : Bytes 33
  refundPublicKey : Bytes 33
  refundAt : UInt64
  minimumConfirmations : UInt32
deriving DecidableEq

class HnsSwapLibrary where
  encodeTimeLockNotBefore : UInt64 → Option UInt32
  validDescriptor : NetworkBinding → HnsHtlc → Bool

inductive MobileWalletError where
  | bitcoinActionPending
  | invalidBitcoinAction
  | bitcoinActionExpired
  | noPendingBitcoinAction
  | invalidBitcoinActionToken
  | valueActionPending
  | invalidValueAction
  | noPendingValueAction
  | invalidActionToken
  | bitcoin (error : BitcoinWalletError)
  | market (error : MarketError)
  | hns (error : HnsWalletError)
  | store (error : StoreError)
deriving DecidableEq

section Locks

variable [DirectSwapProtocol] [KeyDerivation] [BitcoinLibrary] [HnsSwapLibrary]
  (terms : SwapRecoveryTerms)

def SwapRecoveryTerms.htlc :
    SwapAssetSide → SwapRecoveryHtlcParameters
  | .offered => {
      chain := MarketplaceProtocol.chain terms.offeredAsset
      amount := terms.offeredAmount
      hashlock := terms.hashlock
      receiverPublicKey := terms.takerPublicKey
      refundPublicKey := terms.makerPublicKey
      refundAt := terms.offeredRefundAt
      minimumConfirmations := terms.offeredMinimumConfirmations }
  | .received => {
      chain := if terms.offeredAsset = .hns then .bitcoin else .handshake
      amount := terms.receivedAmount
      hashlock := terms.hashlock
      receiverPublicKey := terms.makerPublicKey
      refundPublicKey := terms.takerPublicKey
      refundAt := terms.receivedRefundAt
      minimumConfirmations := terms.receivedMinimumConfirmations }

def buildRecoveredBitcoinHtlc (side : SwapAssetSide) :
    Except BitcoinWalletError BitcoinHtlc := do
  terms.validate.mapError fun _ => .invalidEvidence
  let params := terms.htlc side
  refuseIf (params.chain ≠ .bitcoin) .invalidEvidence
  let receiver ← okOr (BitcoinLibrary.publicKey params.receiverPublicKey.toList) .invalidEvidence
  let refund ← okOr (BitcoinLibrary.publicKey params.refundPublicKey.toList) .invalidEvidence
  let refundLocktime ← okOr (toU32 params.refundAt.toNat) .invalidEvidence
  BitcoinHtlc.new params.hashlock receiver refund refundLocktime

def buildRecoveredHnsHtlc (side : SwapAssetSide) :
    Except HnsWalletError HnsHtlc := do
  terms.validate.mapError fun _ => .invalidEvidence
  let params := terms.htlc side
  refuseIf (params.chain ≠ .handshake) .invalidEvidence
  let refundLocktime ← okOr (HnsSwapLibrary.encodeTimeLockNotBefore params.refundAt)
    .invalidEvidence
  let descriptor : HnsHtlc := ⟨params.amount, params.hashlock, params.receiverPublicKey,
    params.refundPublicKey, refundLocktime⟩
  refuseIf (HnsSwapLibrary.validDescriptor terms.network descriptor = false) .invalidEvidence
  return descriptor

end Locks

def bitcoinSendApprovalLifetimeSeconds : UInt64 := 300

structure PendingMobileBitcoinHtlcSettlement where
  actionToken : Bytes 32
  sessionId : SessionId
  action : MobileShakescapeSettlementAction
  branch : HtlcSpendBranch
  rawTransaction : List UInt8
  lock : VerifiedBitcoinLock
  maximumFeeSats : UInt64
  expiresAtUnix : UInt64
  policy : ShakescapeDirectSwapPolicy
  requiresCurrentFirstFunding : Bool

def MobileShakescapeSettlementAction.branch : MobileShakescapeSettlementAction → HtlcSpendBranch
  | .redeem => .redeem
  | .refund => .refund

section BitcoinController

variable [Sha256] [DirectSwapProtocol] [KeyDerivation] [BitcoinLibrary] [BitcoinWallet]

def prepareShakescapeHtlcSettlement (actionPending : Bool)
    (permit : MobileShakescapeBitcoinSettlementPermit) (maximumFeeSats : UInt64)
    (verifiedLock : Option VerifiedBitcoinLock)
    (sign : Option (Bytes 32) → Except BitcoinWalletError (List UInt8)) (actionToken : Bytes 32)
    (nowUnix : UInt64) : Except MobileWalletError PendingMobileBitcoinHtlcSettlement := do
  refuseIf actionPending .bitcoinActionPending
  refuseIf (maximumFeeSats = 0 ∨ permit.feeReserve < maximumFeeSats) .invalidBitcoinAction
  let expiresAtUnix ← okOr (checkedAdd nowUnix bitcoinSendApprovalLifetimeSeconds)
    .invalidBitcoinAction
  let htlc ← (buildRecoveredBitcoinHtlc permit.terms permit.side).mapError .bitcoin
  let branch := permit.action.branch
  refuseIf (htlc.expectedKey branch ≠ permit.settlementKey.publicKey.toList) .invalidBitcoinAction
  let lock ← okOr verifiedLock .invalidBitcoinAction
  refuseIf (lock.htlc ≠ htlc ∨ lock.valueSats ≠ (permit.terms.htlc permit.side).amount)
    .invalidBitcoinAction
  refuseIf (∃ outpoint ∈ permit.recoveredFundingOutpoint,
    outpoint.1 ≠ lock.fundingTxid ∨ outpoint.2 ≠ lock.outputIndex) .invalidBitcoinAction
  refuseIf (branch = .redeem ∧ permit.preimage = none) .invalidBitcoinAction
  let rawTransaction ← (sign permit.preimage).mapError .bitcoin
  let verified ← (BitcoinWallet.verifySignedBitcoinHtlcSpend rawTransaction lock branch).mapError
    .bitcoin
  let _ ← okOr (checkedSub lock.valueSats verified.feeSats) .invalidBitcoinAction
  return {
    actionToken
    sessionId := ⟨permit.terms.sessionId⟩
    action := permit.action
    branch
    rawTransaction
    lock
    maximumFeeSats
    expiresAtUnix
    policy := permit.policy
    requiresCurrentFirstFunding := permit.requiresCurrentFirstFunding }

variable {V : Type} [Encoded V] [Serde V SwapSession] [Serde V BitcoinTransactionRecord]

def requireCurrentFirstFundingForSettlement (store : WalletStore V)
    (policy : ShakescapeDirectSwapPolicy) (sessionId : SessionId) :
    Except MobileWalletError Unit := do
  let loaded ← (loadShakescapeExecution store policy sessionId).mapError .market
  let execution ← okOr loaded (.market .unknownShakescapeDirectSwap)
  refuseIf (execution.firstFundingIsCurrent = false) (.market .invalidTransition)

def bitcoinSettlementCheckpoint (store : WalletStore V)
    (pending : PendingMobileBitcoinHtlcSettlement) (approvalCommitment : Bytes 32)
    (expectedRevision checkpointNowUnix : UInt64) : Except MobileWalletError (WalletStore V) := do
  refuseIf (pending.expiresAtUnix ≤ checkpointNowUnix) .bitcoinActionExpired
  if pending.requiresCurrentFirstFunding then
    requireCurrentFirstFundingForSettlement store pending.policy pending.sessionId
  (persistPreparedBitcoinHtlcSpendBroadcast store pending.rawTransaction pending.lock
    pending.branch approvalCommitment pending.maximumFeeSats expectedRevision checkpointNowUnix
    pending.expiresAtUnix).mapError .bitcoin

structure BitcoinApproval (V : Type) where
  pending : Option PendingMobileBitcoinHtlcSettlement
  store : WalletStore V
  recorded : Bool
  error : Option MobileWalletError

/-- Approve a pending spend.  The clock is read before the record is looked up and again
under the lock of the checkpoint. -/
def approveShakescapeHtlcSettlement (pending : Option PendingMobileBitcoinHtlcSettlement)
    (store : WalletStore V) (actionToken : Bytes 32) (nowUnix checkpointNowUnix : UInt64) :
    BitcoinApproval V :=
  match pending with
  | none => ⟨none, store, false, some .noPendingBitcoinAction⟩
  | some held =>
    if held.actionToken ≠ actionToken then
      ⟨some held, store, false, some .invalidBitcoinActionToken⟩
    else if held.expiresAtUnix ≤ nowUnix then
      ⟨none, store, false, some .bitcoinActionExpired⟩
    else
      match deriveBitcoinHtlcSpendBroadcastApproval held.rawTransaction held.lock held.branch
        held.maximumFeeSats held.expiresAtUnix with
      | .error error => ⟨none, store, false, some (.bitcoin error)⟩
      | .ok approval =>
        match store.loadEntity BitcoinTransactionRecord .bitcoinTransaction
          approval.txid.toList with
        | .error error => ⟨none, store, false, some (.store error)⟩
        | .ok record =>
          match bitcoinSettlementCheckpoint store held approval.commitment
            ((record.map StoredEntity.revision).getD 0) checkpointNowUnix with
          | .error .bitcoinActionExpired =>
            ⟨none, store, false, some .bitcoinActionExpired⟩
          | .error error => ⟨some held, store, false, some error⟩
          | .ok store => ⟨none, store, true, none⟩

end BitcoinController

structure PendingMobileShakescapeHnsSettlement where
  actionToken : Bytes 32
  sessionId : SessionId
  action : MobileShakescapeSettlementAction
  prepared : HnsPreparedSettlement
  maximumFee : BaseUnits
deriving DecidableEq

def MobileShakescapeSettlementAction.hns : MobileShakescapeSettlementAction → HnsSettlementAction
  | .redeem => .redeem
  | .refund => .refund

def HnsHtlc.expectedKey (htlc : HnsHtlc) : MobileShakescapeSettlementAction → Bytes 33
  | .redeem => htlc.receiverPublicKey
  | .refund => htlc.refundPublicKey

section HnsController

variable [Sha256] [DirectSwapProtocol] [KeyDerivation] [HnsSwapLibrary]
  {V R : Type} [Encoded V] [Serde V HnsPreparedSettlement] [Serde V R]

def checkHnsSettlement (permit : MobileShakescapeHnsSettlementPermit) (descriptor : HnsHtlc) :
    Except MobileWalletError Unit :=
  match permit.action, permit.hnsBroadcastGuard with
  | .redeem, _ => do
    let preimage ← okOr permit.preimage .invalidValueAction
    refuseIf (DirectSwapProtocol.hashPreimage preimage ≠ descriptor.hashlock)
      (.hns .invalidEvidence)
  | .refund, none => .ok ()
  | .refund, some _ => .error .invalidValueAction

def prepareShakescapeHnsSettlement (actionPending : Bool) (store : WalletStore V)
    (accountEntityPrefix : Bytes 32) (permit : MobileShakescapeHnsSettlementPermit)
    (maximumFee : UInt64) (lockVerified summaryConsistent : Bool) (spend : HnsSpend R)
    (actionToken : Bytes 32) (nowUnix : UInt64) :
    Except MobileWalletError
      (WalletStore V × Except MobileWalletError PendingMobileShakescapeHnsSettlement) := do
  refuseIf actionPending .valueActionPending
  refuseIf (maximumFee = 0 ∨ permit.feeReserve < maximumFee) .invalidValueAction
  let descriptor ← (buildRecoveredHnsHtlc permit.terms permit.side).mapError .hns
  refuseIf (descriptor.expectedKey permit.action ≠ permit.settlementKey.publicKey)
    .invalidValueAction
  refuseIf (lockVerified = false) .invalidValueAction
  checkHnsSettlement permit descriptor
  let sessionId : SessionId := ⟨permit.terms.sessionId⟩
  let limit : BaseUnits := .ofNat _ maximumFee.toNat
  let outcome ← (prepareSettlementSpend store
    (settlementWorkflowId accountEntityPrefix sessionId permit.action.hns) sessionId
    permit.action.hns permit.hnsBroadcastGuard limit spend nowUnix).mapError .hns
  return match outcome with
    | .failed store error => (store, .error (.hns error))
    | .prepared store prepared =>
      if summaryConsistent then
        (store, .ok ⟨actionToken, sessionId, permit.action, prepared, limit⟩)
      else
        (store, .error .invalidValueAction)

structure HnsApproval (V : Type) where
  pending : Option PendingMobileShakescapeHnsSettlement
  store : WalletStore V
  activated : Bool
  error : Option MobileWalletError

/-- Approve a pending settlement.  It waits on when its broadcast fails, whether before
the checkpoint or, if the node does not accept it, after. -/
def approveShakescapeHnsSettlement (pending : Option PendingMobileShakescapeHnsSettlement)
    (store : WalletStore V) (actionToken : Bytes 32) (saves : List (EntityBatchSave R))
    (deletes : List EntityBatchDelete) (nodeAccepts : Bool) (nowUnix startedAtUnix : UInt64) :
    HnsApproval V :=
  match pending with
  | none => ⟨none, store, false, some .noPendingValueAction⟩
  | some held =>
    if held.actionToken ≠ actionToken then
      ⟨some held, store, false, some .invalidActionToken⟩
    else if held.maximumFee < held.prepared.fee then
      ⟨none, store, false, some .invalidValueAction⟩
    else
      match broadcastPreparedSettlement store held.prepared saves deletes nowUnix
        startedAtUnix with
      | .error error => ⟨some held, store, false, some (.hns error)⟩
      | .ok .confirmed => ⟨none, store, false, none⟩
      | .ok (.expired store) =>
        ⟨some held, store, false, some (.hns .preparedArtifactExpired)⟩
      | .ok (.submitted store activated) =>
        if nodeAccepts then
          ⟨none, store, activated, none⟩
        else
          ⟨some held, store, activated, some (.hns .invalidEvidence)⟩

end HnsController

def SwapSession.Redeemable (s : SwapSession) (module : ModuleId) : SwapAssetSide → Prop
  | .offered => s.state = .secretObserved ∧ s.firstModule = module
  | .received => s.state = .bothFunded ∧ s.secondModule = module

theorem SwapRecoveryTerms.fromHello_session [MarketplaceProtocol] [KeyDerivation]
    {hello : SwapSessionHello} {network : NetworkBinding} {terms : SwapRecoveryTerms}
    (h : fromHello hello network = .ok terms) :
    terms.sessionId = hello.swapSessionId := by
  simp only [fromHello, ok_iff] at h
  obtain ⟨-, -, offered, -, received, -, -, -, hret⟩ := h
  cases hret
  rfl

section Guards

variable [Sha256] [DirectSwapProtocol]
  {V : Type} [Serde V SwapSession] [Serde V PersistedShakescapeDirectSwap]

def HnsSettlementBroadcastGuard.TakenFrom (guard : HnsSettlementBroadcastGuard)
    (store : WalletStore V) (policy : ShakescapeDirectSwapPolicy) (sessionId : SessionId) : Prop :=
  guard.executionWorkflowId = shakescapeExecutionWorkflowId sessionId ∧
    ∃ s, loadShakescapeExecution store policy sessionId = .ok (some s) ∧
      guard.executionRevision = s.revision

theorem authorizeHnsRedeemBroadcastGuard_eq_ok {store : WalletStore V}
    {policy : ShakescapeDirectSwapPolicy} {sessionId : SessionId}
    {guard : HnsSettlementBroadcastGuard}
    (h : authorizeHnsRedeemBroadcastGuard store policy sessionId = .ok guard) :
    guard.TakenFrom store policy sessionId := by
  simp only [authorizeHnsRedeemBroadcastGuard, HnsSettlementBroadcastGuard.new, ok_iff] at h
  obtain ⟨_, hload, s, rfl, _, -, record, -, -, -, -, -, hret⟩ := h
  cases hret
  exact ⟨rfl, s, hload, rfl⟩

end Guards

section Permits

variable [Sha256] [DirectSwapProtocol] [KeyDerivation]
  {V : Type} [Serde V PersistedShakescapeDirectSwap]
  [Serde V CrossChainSwapKeyAllocation] [Serde V PersistedLocalDirectOffer]
  [Serde V PersistedLocalDirectAcceptance] [Serde V PersistedLocalDirectAcceptanceAbandonment]
  {store : WalletStore V} {policy : ShakescapeDirectSwapPolicy} {walletId : WalletId}
  {sessionId : SessionId} {execution : SwapSession} {module : ModuleId} {side : SwapAssetSide}

theorem redeemAuthority_eq_ok {authority : CrossChainSwapKey × Bytes 32}
    (h : redeemAuthority store policy walletId sessionId execution module side = .ok authority) :
    execution.Redeemable module side := by
  cases side <;>
  · simp only [redeemAuthority, ok_iff, not_or, not_not] at h
    obtain ⟨-, hstate, -⟩ := h
    exact hstate

theorem executionBitcoinRedeem_eq_ok [BitcoinLibrary]
    {permit : MobileShakescapeBitcoinSettlementPermit}
    (h : executionBitcoinRedeem store policy walletId sessionId execution = .ok permit) :
    execution.firstFundingIsCurrent ∧ execution.Redeemable .bitcoin permit.side ∧
      permit.policy = policy ∧ permit.terms.sessionId = sessionId.bytes ∧
      permit.requiresCurrentFirstFunding = decide (execution.secondModule = .bitcoin) := by
  simp only [executionBitcoinRedeem, ok_iff, Bool.not_eq_false] at h
  obtain ⟨-, hcurrent, _, hload, record, rfl, hello, hhello, side, -, authority, hauthority,
    bitcoin, -, -, -, terms, hterms, hret⟩ := h
  cases hret
  refine ⟨hcurrent, redeemAuthority_eq_ok hauthority, rfl, ?_, rfl⟩
  exact (fromHello_session hterms).trans
    ((loadShakescapeDirectSwap_session hload).2 hello hhello)

theorem executionHnsRedeem_eq_ok [Serde V SwapSession]
    {permit : MobileShakescapeHnsSettlementPermit}
    (h : executionHnsRedeem store policy walletId sessionId execution = .ok permit) :
    execution.firstFundingIsCurrent ∧ execution.Redeemable .handshake permit.side ∧
      permit.action = .redeem ∧ permit.terms.sessionId = sessionId.bytes ∧
      (execution.secondModule = .handshake → ∃ guard, permit.hnsBroadcastGuard = some guard ∧
        guard.TakenFrom store policy sessionId) := by
  simp only [executionHnsRedeem, ok_iff, Bool.not_eq_false] at h
  obtain ⟨-, hcurrent, _, hload, record, rfl, funding, -, hello, hhello, side, -, authority,
    hauthority, hns, -, -, -, terms, hterms, guard, hguard, hret⟩ := h
  cases hret
  refine ⟨hcurrent, redeemAuthority_eq_ok hauthority, rfl, ?_, fun hsecond => ?_⟩
  · exact (fromHello_session hterms).trans
      ((loadShakescapeDirectSwap_session hload).2 hello hhello)
  · rw [secondLockGuard, if_pos hsecond] at hguard
    cases hg : authorizeHnsRedeemBroadcastGuard store policy sessionId with
    | error e =>
      rw [hg] at hguard
      cases hguard
    | ok g =>
      rw [hg] at hguard
      cases hguard
      exact ⟨g, rfl, authorizeHnsRedeemBroadcastGuard_eq_ok hg⟩

end Permits

section BitcoinController

variable [DirectSwapProtocol] [BitcoinWallet] {permit : MobileShakescapeBitcoinSettlementPermit}
  {maximumFeeSats : UInt64} {verifiedLock : Option VerifiedBitcoinLock}
  {sign : Option (Bytes 32) → Except BitcoinWalletError (List UInt8)} {actionPending : Bool}
  {actionToken : Bytes 32} {nowUnix checkpointNowUnix : UInt64}
  {pending : PendingMobileBitcoinHtlcSettlement}

theorem prepareShakescapeHtlcSettlement_eq_ok [KeyDerivation] [BitcoinLibrary]
    (h : prepareShakescapeHtlcSettlement actionPending permit maximumFeeSats verifiedLock sign
      actionToken nowUnix = .ok pending) :
    pending.expiresAtUnix.toNat = nowUnix.toNat + 300 ∧
      pending.sessionId = ⟨permit.terms.sessionId⟩ ∧ pending.policy = permit.policy ∧
      pending.requiresCurrentFirstFunding = permit.requiresCurrentFirstFunding := by
  simp only [prepareShakescapeHtlcSettlement, ok_iff, checkedAdd_eq_some] at h
  obtain ⟨-, -, -, -, expiresAt, hexpires, htlc, -, -, -, lock, -, -, -, -, -, -, -, raw, -,
    verified, -, _, -, hret⟩ := h
  cases hret
  exact ⟨hexpires, rfl, rfl, rfl⟩

variable [Sha256] {V : Type} [Encoded V] [Serde V SwapSession] [Serde V BitcoinTransactionRecord]
  {store store' : WalletStore V}

theorem bitcoinSettlementCheckpoint_eq_ok {approvalCommitment : Bytes 32}
    {expectedRevision : UInt64}
    (h : bitcoinSettlementCheckpoint store pending approvalCommitment expectedRevision
      checkpointNowUnix = .ok store') :
    checkpointNowUnix < pending.expiresAtUnix ∧ store'.workflows = store.workflows ∧
      (pending.requiresCurrentFirstFunding →
        ∃ s, loadShakescapeExecution store pending.policy pending.sessionId = .ok (some s) ∧
          s.firstFundingIsCurrent) := by
  obtain ⟨_, hlive, h⟩ := ok_bind_iff.1 h
  rw [refuseIf_eq_ok, UInt64.not_le] at hlive
  split at h
  next =>
    obtain ⟨_, hcurrent, hpersist⟩ := ok_bind_iff.1 h
    have hframe := persistPreparedBitcoinHtlcSpendBroadcast_eq_ok (mapError_eq_ok.1 hpersist)
    simp only [requireCurrentFirstFundingForSettlement, ok_iff, Bool.not_eq_false] at hcurrent
    obtain ⟨_, hload, s, rfl, hs⟩ := hcurrent
    exact ⟨hlive, hframe.2, fun _ => ⟨s, hload, hs⟩⟩
  next hfree =>
    have hframe := persistPreparedBitcoinHtlcSpendBroadcast_eq_ok (mapError_eq_ok.1 h)
    exact ⟨hlive, hframe.2, fun hrequired => absurd hrequired hfree⟩

structure BitcoinApproval.Inert (approval : BitcoinApproval V)
    (held : Option PendingMobileBitcoinHtlcSettlement) (store : WalletStore V) : Prop where
  store : approval.store = store
  recorded : approval.recorded = false
  pending : approval.pending = none ∨ approval.pending = held

theorem approveShakescapeHtlcSettlement_cases
    {held : Option PendingMobileBitcoinHtlcSettlement} {approval : BitcoinApproval V}
    (h : approveShakescapeHtlcSettlement held store actionToken nowUnix checkpointNowUnix =
      approval) :
    approval.Inert held store ∨
    ∃ pending approvalCommitment expectedRevision store', held = some pending ∧
      bitcoinSettlementCheckpoint store pending approvalCommitment expectedRevision
        checkpointNowUnix = .ok store' ∧ approval = ⟨none, store', true, none⟩ := by
  unfold approveShakescapeHtlcSettlement at h
  subst h
  split
  next => exact .inl ⟨rfl, rfl, .inl rfl⟩
  next pending =>
    split
    next => exact .inl ⟨rfl, rfl, .inr rfl⟩
    next =>
      split
      next => exact .inl ⟨rfl, rfl, .inl rfl⟩
      next =>
        split
        next => exact .inl ⟨rfl, rfl, .inl rfl⟩
        next approval _ =>
          split
          next => exact .inl ⟨rfl, rfl, .inl rfl⟩
          next record _ =>
            split
            next => exact .inl ⟨rfl, rfl, .inl rfl⟩
            next => exact .inl ⟨rfl, rfl, .inr rfl⟩
            next store' hcheckpoint => exact .inr ⟨pending, _, _, store', rfl, hcheckpoint, rfl⟩

end BitcoinController

section HnsController

variable {V R : Type} [Encoded V] [Serde V HnsPreparedSettlement] [Serde V R]
  {store store' : WalletStore V}

structure HnsApproval.Inert (approval : HnsApproval V) (store : WalletStore V) : Prop where
  store : approval.store = store
  activated : approval.activated = false

theorem approveShakescapeHnsSettlement_cases
    {held : Option PendingMobileShakescapeHnsSettlement} {actionToken : Bytes 32}
    {saves : List (EntityBatchSave R)} {deletes : List EntityBatchDelete} {nodeAccepts : Bool}
    {nowUnix startedAtUnix : UInt64} {approval : HnsApproval V}
    (h : approveShakescapeHnsSettlement held store actionToken saves deletes nodeAccepts nowUnix
      startedAtUnix = approval) :
    (approval.pending = none ∨ approval.pending = held) ∧
    (approval.Inert store ∨ ∃ pending q, held = some pending ∧
      store.WritesSettlement approval.store pending.prepared.workflowId q ∧
      q.stage ≠ .prepared ∧
      (approval.activated → pending.prepared.Activated store pending.prepared.workflowId
        startedAtUnix)) := by
  unfold approveShakescapeHnsSettlement at h
  split at h
  next =>
    subst h
    exact ⟨.inl rfl, .inl ⟨rfl, rfl⟩⟩
  next pending =>
    split at h
    next =>
      subst h
      exact ⟨.inr rfl, .inl ⟨rfl, rfl⟩⟩
    next =>
      split at h
      next =>
        subst h
        exact ⟨.inl rfl, .inl ⟨rfl, rfl⟩⟩
      next =>
        split at h
        next =>
          subst h
          exact ⟨.inr rfl, .inl ⟨rfl, rfl⟩⟩
        next =>
          subst h
          exact ⟨.inl rfl, .inl ⟨rfl, rfl⟩⟩
        next written hbroadcast =>
          subst h
          refine ⟨.inr rfl, .inr ?_⟩
          rcases broadcastPreparedSettlement_eq_ok hbroadcast with
            ho | ⟨_, q, hwrites, hq, ho | ho | ⟨ho, -⟩⟩ <;> cases ho
          exact ⟨pending, q, rfl, hwrites, hq, nofun⟩
        next written activated hbroadcast =>
          have hwritten : ∃ pending' q, some pending = some pending' ∧
              store.WritesSettlement written pending'.prepared.workflowId q ∧
              q.stage ≠ .prepared ∧ (activated → pending'.prepared.Activated store
                pending'.prepared.workflowId startedAtUnix) := by
            rcases broadcastPreparedSettlement_eq_ok hbroadcast with
              ho | ⟨_, q, hwrites, hq, ho | ho | ⟨ho, hactivated⟩⟩ <;> cases ho
            · exact ⟨pending, q, rfl, hwrites, hq, nofun⟩
            · exact ⟨pending, q, rfl, hwrites, hq, fun _ => hactivated⟩
          split at h <;> subst h
          · exact ⟨.inl rfl, .inr hwritten⟩
          · exact ⟨.inr rfl, .inr hwritten⟩

variable [Sha256] [DirectSwapProtocol] [KeyDerivation] [HnsSwapLibrary]

theorem prepareShakescapeHnsSettlement_eq_ok {actionPending lockVerified summaryConsistent : Bool}
    {accountEntityPrefix actionToken : Bytes 32} {permit : MobileShakescapeHnsSettlementPermit}
    {maximumFee nowUnix : UInt64} {spend : HnsSpend R}
    {result : Except MobileWalletError PendingMobileShakescapeHnsSettlement}
    (h : prepareShakescapeHnsSettlement actionPending store accountEntityPrefix permit maximumFee
      lockVerified summaryConsistent spend actionToken nowUnix = .ok (store', result)) :
    ∃ p, store.WritesSettlement store' (settlementWorkflowId accountEntityPrefix
        ⟨permit.terms.sessionId⟩ permit.action.hns) p ∧
      (p.broadcastGuard = permit.hnsBroadcastGuard ∧
        (p.expiresAtUnix.toNat = nowUnix.toNat + 300 ∨ store.settlement (settlementWorkflowId
          accountEntityPrefix ⟨permit.terms.sessionId⟩ permit.action.hns) = some p) ∨
        p.stage ≠ .prepared) := by
  simp only [prepareShakescapeHnsSettlement, ok_iff] at h
  obtain ⟨-, -, -, -, descriptor, -, -, -, -, -, -, -, outcome, hprepare, hret⟩ := h
  have hret := Except.ok.inj hret
  rcases prepareSettlementSpend_eq_ok hprepare with
    ⟨written, p, rfl, hwrites, hguard, hexpires⟩ | ⟨written, error, q, rfl, hwrites, hstage⟩
  · dsimp only at hret
    split at hret <;> cases hret <;> exact ⟨p, hwrites, .inl ⟨hguard, hexpires⟩⟩
  · cases hret
    exact ⟨q, hwrites, .inr hstage⟩

end HnsController

end HnsWallet
