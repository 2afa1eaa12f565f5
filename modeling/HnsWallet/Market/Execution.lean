import HnsWallet.Market.Funding
import HnsWallet.Market.SessionBoard
import HnsWallet.Market.SessionRuns

/-! # Executions of accepted terms -/

namespace HnsWallet

open Lib MarketplaceProtocol

def minEffectiveRefundSafetyMarginSeconds : UInt64 := 3600

def minSecondChainRedemptionWindowSeconds : UInt64 := 3600

def shakescapeBitcoinMinimumConfirmations : UInt32 := 1

def shakescapeHnsMinimumConfirmations : UInt32 := 2

def shakescapeMaxSettlementHorizonSeconds : UInt64 := 604800

section Terms

variable [Sha256] [MarketplaceProtocol] [BitcoinLibrary]

def shakescapeEffectiveRefundAt (asset : AssetId) (deadline : SettlementDeadline) :
    Except MarketError UInt64 := do
  refuseIf (deadline.kind ≠ .unixTime) .unsafeTimeouts
  match asset with
  | .hns => (hnsRefundTimeLock deadline).mapError fun _ => .unsafeTimeouts
  | .btc => return deadline.value
  | .other _ => .error .invalidPair

def expectedConfirmations : AssetId → Except MarketError UInt32
  | .btc => .ok shakescapeBitcoinMinimumConfirmations
  | .hns => .ok shakescapeHnsMinimumConfirmations
  | .other _ => .error .invalidPair

variable (hello : SwapSessionHello) {now : UInt64} {s : SwapSession}

/-- The refunds are ordered, apart and within bounds once each chain has encoded
them.  Checked before terms are countersigned and before a lock is funded. -/
def validateShakescapeEffectiveRefundSafety :
    Except MarketError Unit := do
  refuseIf (hello.firstFundingChain ≠ chain hello.offeredAsset) .invalidPair
  let offered ← expectedConfirmations hello.offeredAsset
  refuseIf (hello.offeredMinimumConfirmations ≠ offered) .unsafeTimeouts
  let received ← expectedConfirmations hello.receivedAsset
  refuseIf (hello.receivedMinimumConfirmations ≠ received) .unsafeTimeouts
  let firstRefund ← shakescapeEffectiveRefundAt hello.offeredAsset hello.offeredRefundDeadline
  let secondRefund ← shakescapeEffectiveRefundAt hello.receivedAsset hello.receivedRefundDeadline
  let maximumRefund ← okOr
    (checkedAdd hello.header.createdAt shakescapeMaxSettlementHorizonSeconds) .unsafeTimeouts
  let minimumSecondRefund ← okOr
    (checkedAdd hello.header.expiresAt minSecondChainRedemptionWindowSeconds) .unsafeTimeouts
  refuseIf (firstRefund > maximumRefund ∨ secondRefund > maximumRefund ∨
    secondRefund < minimumSecondRefund ∨
    (checkedSub firstRefund secondRefund).all (· < minEffectiveRefundSafetyMarginSeconds))
    .unsafeTimeouts

def verifyCanonicalShakescapeLockCommitment (side : SwapAssetSide) :
    Except MarketError Unit := do
  let (asset, commitment) := match side with
    | .offered => (hello.offeredAsset, hello.offeredLockCommitment)
    | .received => (hello.receivedAsset, hello.receivedLockCommitment)
  let (receiver, refund) := hello.lockKeys side
  let computed ← match asset with
    | .hns => do
      let binding ← (buildHnsHtlc hello side receiver refund).mapError
        fun _ => .invalidShakescapeDirectSwap
      pure binding.descriptorHash
    | .btc => do
      let binding ← (buildShakescapeBitcoinHtlc hello side).mapError
        fun _ => .invalidShakescapeDirectSwap
      pure binding.commitment.bytes
    | .other _ => .error .invalidPair
  refuseIf (computed ≠ commitment) .invalidShakescapeDirectSwap

def verifyCanonicalShakescapeLockCommitments :
    Except MarketError Unit := do
  verifyCanonicalShakescapeLockCommitment hello .offered
  verifyCanonicalShakescapeLockCommitment hello .received

/-! ## The session of accepted terms -/

def walletAssetForProtocolAsset : AssetId → Except MarketError WalletAsset
  | .hns => .ok .hns
  | .btc => .ok .btc
  | .other _ => .error .invalidPair

def moduleForChain : ChainId → Except MarketError ModuleId
  | .handshake => .ok .handshake
  | .bitcoin => .ok .bitcoin
  | .other _ => .error .invalidPair

def otherChain : ChainId → Except MarketError ChainId
  | .handshake => .ok .bitcoin
  | .bitcoin => .ok .handshake
  | .other _ => .error .invalidPair

def orderedRefunds : Except MarketError (UInt64 × UInt64) :=
  if hello.firstFundingChain = chain hello.offeredAsset then
    .ok (hello.offeredRefundDeadline.value, hello.receivedRefundDeadline.value)
  else if hello.firstFundingChain = chain hello.receivedAsset then
    .ok (hello.receivedRefundDeadline.value, hello.offeredRefundDeadline.value)
  else
    .error .invalidPair

def swapSessionFromAcceptedHello (nowUnix : UInt64) :
    Except MarketError SwapSession := do
  refuseIf ((hello.offeredAsset ≠ .hns ∧ hello.offeredAsset ≠ .btc) ∨
    (hello.receivedAsset ≠ .hns ∧ hello.receivedAsset ≠ .btc) ∨
    hello.offeredAsset = hello.receivedAsset ∨
    hello.offeredRefundDeadline.kind ≠ .unixTime ∨
    hello.receivedRefundDeadline.kind ≠ .unixTime) .invalidPair
  let offeredAsset ← walletAssetForProtocolAsset hello.offeredAsset
  let receivedAsset ← walletAssetForProtocolAsset hello.receivedAsset
  let firstModule ← moduleForChain hello.firstFundingChain
  let secondChain ← otherChain hello.firstFundingChain
  let secondModule ← moduleForChain secondChain
  let (firstRefundAt, secondRefundAt) ← orderedRefunds hello
  let safetyMargin ← okOr (checkedSub firstRefundAt secondRefundAt) .unsafeTimeouts
  let session ← SwapSession.new ⟨hello.swapSessionId⟩ firstModule secondModule
    ⟨⟨hello.directOfferId⟩, ⟨offeredAsset, hello.offeredAmount⟩,
      ⟨receivedAsset, hello.receivedAmount⟩, hello.receivedRefundDeadline.value⟩
    ⟨hello.hashlock⟩ ⟨firstRefundAt, secondRefundAt, safetyMargin⟩ nowUnix
  return { session with state := .termsFrozen, revision := 1 }

omit [Sha256] [BitcoinLibrary]

theorem started_of_swapSessionFromAcceptedHello {hello : SwapSessionHello}
    (h : swapSessionFromAcceptedHello hello now = .ok s) (terms : Option (List UInt8))
    (openedAt : UInt64) :
    { s with acceptedShakescapeTerms := terms, lastVerifiedAtUnix := openedAt }.Started := by
  simp only [swapSessionFromAcceptedHello, ok_iff] at h
  obtain ⟨_, -, _, -, _, -, _, -, _, -, _, -, _, -, _, -, session, hnew, hret⟩ := h
  cases hret
  exact .inr ⟨session, ⟨_, _, _, _, _, _, _, hnew⟩, terms, openedAt, rfl⟩

theorem swapSessionFromAcceptedHello_id {hello : SwapSessionHello}
    (h : swapSessionFromAcceptedHello hello now = .ok s) :
    s.id = ⟨hello.swapSessionId⟩ := by
  simp only [swapSessionFromAcceptedHello, SwapSession.new, ok_iff] at h
  obtain ⟨_, -, _, -, _, -, _, -, _, -, _, -, _, -, _, -, session, ⟨_, -, _, -, hnew⟩, hret⟩ := h
  split at hnew
  next => cases hnew
  next =>
    cases hnew
    cases hret
    rfl

end Terms

section Executions

variable [Sha256] [DirectSwapProtocol] [BitcoinLibrary]
  {V : Type} [Encoded V] [Serde V SwapSession] [Serde V PersistedShakescapeDirectSwap]

def openShakescapeExecution (store : WalletStore V) (policy : ShakescapeDirectSwapPolicy)
    (sessionId : SessionId) (nowUnix : UInt64) :
    Except MarketError (WalletStore V × SwapSession) := do
  let swap ← loadShakescapeDirectSwap store policy sessionId
  let record ← okOr swap .unknownShakescapeDirectSwap
  let hello ← okOr record.hello .invalidShakescapeDirectSwap
  let expectedAcceptedAt ← okOr record.helloAcceptedAtUnix .corruptShakescapeDirectSwap
  (verifyAgreement hello policy.network).mapError
    fun _ => .corruptShakescapeDirectSwap
  verifyCanonicalShakescapeLockCommitments hello
  refuseIf (nowUnix < expectedAcceptedAt) .invalidEvidence
  let encodedTerms ← (encodeHello hello).mapError
    fun _ => .corruptShakescapeDirectSwap
  let workflowId := shakescapeExecutionWorkflowId sessionId
  match ← liftStore (store.loadWorkflow SwapSession workflowId) with
  | some existing =>
    refuseIf (existing.kind ≠ .atomicSwap ∨ existing.state.id ≠ sessionId ∨
      existing.state.acceptedShakescapeTerms ≠ some encodedTerms) .shakescapeDirectSwapConflict
    return (store, existing.state)
  | none =>
    let retained ← loadShakescapeDirectSwaps store policy
    let active ← activeObligations store policy retained
    refuseIf (maxConcurrentSwapSessions < active) .shakescapeDirectSwapCapacity
    let session ← swapSessionFromAcceptedHello hello expectedAcceptedAt
    let expected : SwapSession :=
      { session with acceptedShakescapeTerms := some encodedTerms, lastVerifiedAtUnix := nowUnix }
    let (store, savedRevision) ← liftStore (store.saveWorkflow workflowId .atomicSwap 0 expected
      false nowUnix)
    refuseIf (savedRevision ≠ expected.revision) .invariant
    return (store, expected)

def executionOf (store : WalletStore V) (policy : ShakescapeDirectSwapPolicy)
    (record : ShakescapeDirectSwapRecord) : Except MarketError (Option SwapSession) :=
  if record.hello.isNone then
    .ok none
  else do
    let execution ← loadShakescapeExecution store policy ⟨record.acceptance.swapSessionId⟩
    return some (← okOr execution .corruptShakescapeDirectSwap)

/-- Every execution, in the order of the session ids.  A countersigned row without its
execution makes the listing fail. -/
def listShakescapeExecutions (store : WalletStore V) (policy : ShakescapeDirectSwapPolicy) :
    Except MarketError (List SwapSession) := do
  let records ← loadShakescapeDirectSwaps store policy
  let executions ← records.mapM (executionOf store policy)
  return executions.reduceOption.insertionSort fun a b => a.id.bytes.toList ≤ b.id.bytes.toList

end Executions

end HnsWallet
