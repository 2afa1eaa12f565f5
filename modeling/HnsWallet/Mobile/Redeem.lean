import HnsWallet.Bitcoin.Broadcast
import HnsWallet.Hns.Settlement
import HnsWallet.Market.Execution
import HnsWallet.Market.LocalParticipant
import HnsWallet.Market.Redemption
import HnsWallet.Market.SecondLock
import HnsWallet.Market.DirectBoard

/-! # Permits to redeem -/

namespace HnsWallet

open Lib DirectSwapProtocol MarketplaceProtocol

structure SwapRecoveryTerms where
  network : NetworkBinding
  sessionId : Bytes 32
  directOfferId : Bytes 32
  makerPublicKey : Bytes 33
  takerPublicKey : Bytes 33
  hashlock : Bytes 32
  offeredAsset : AssetId
  offeredAmount : UInt64
  receivedAmount : UInt64
  offeredRefundAt : UInt64
  receivedRefundAt : UInt64
  offeredMinimumConfirmations : UInt32
  receivedMinimumConfirmations : UInt32
deriving DecidableEq

inductive SwapRecoveryPublicationError where
  | unsupportedChain
  | invalidAgreement
  | capacity
  | invalidPublication
deriving DecidableEq, Repr

section RecoveryTerms

variable [MarketplaceProtocol] [KeyDerivation]

def SwapRecoveryTerms.validate (terms : SwapRecoveryTerms) :
    Except SwapRecoveryPublicationError Unit := do
  (validateForPair terms.network).mapError fun _ => .invalidAgreement
  refuseIf (terms.network.counterchain ≠ .bitcoin ∨
    (terms.offeredAsset ≠ .hns ∧ terms.offeredAsset ≠ .btc) ∨
    terms.sessionId.isZero ∨
    terms.directOfferId.isZero ∨
    terms.hashlock.isZero ∨
    terms.makerPublicKey = terms.takerPublicKey ∨
    terms.offeredAmount = 0 ∨
    terms.receivedAmount = 0 ∨
    terms.offeredRefundAt ≤ terms.receivedRefundAt ∨
    terms.receivedRefundAt < 500000000 ∨
    terms.offeredMinimumConfirmations = 0 ∨
    terms.receivedMinimumConfirmations = 0 ∨
    KeyDerivation.isPublicKey terms.makerPublicKey = false ∨
    KeyDerivation.isPublicKey terms.takerPublicKey = false) .invalidAgreement

def SwapRecoveryTerms.fromHello (hello : SwapSessionHello) (expectedNetwork : NetworkBinding) :
    Except SwapRecoveryPublicationError SwapRecoveryTerms := do
  (verifyAgreement hello expectedNetwork).mapError fun _ => .invalidAgreement
  let offeredAmount ← okOr (toU64 hello.offeredAmount.val) .invalidAgreement
  let receivedAmount ← okOr (toU64 hello.receivedAmount.val) .invalidAgreement
  let value : SwapRecoveryTerms := {
    network := expectedNetwork
    sessionId := hello.swapSessionId
    directOfferId := hello.directOfferId
    makerPublicKey := hello.makerSettlementPublicKey
    takerPublicKey := hello.takerSettlementPublicKey
    hashlock := hello.hashlock
    offeredAsset := hello.offeredAsset
    offeredAmount
    receivedAmount
    offeredRefundAt := hello.offeredRefundDeadline.value
    receivedRefundAt := hello.receivedRefundDeadline.value
    offeredMinimumConfirmations := hello.offeredMinimumConfirmations
    receivedMinimumConfirmations := hello.receivedMinimumConfirmations }
  value.validate
  return value

end RecoveryTerms

inductive MobileShakescapeSettlementAction where
  | redeem
  | refund
deriving DecidableEq, Repr

structure MobileShakescapeHnsSettlementPermit where
  terms : SwapRecoveryTerms
  side : SwapAssetSide
  fundingTransaction : Option (Bytes 32)
  settlementKey : CrossChainSwapKey
  preimage : Option (Bytes 32)
  action : MobileShakescapeSettlementAction
  feeReserve : UInt64
  hnsBroadcastGuard : Option HnsSettlementBroadcastGuard
deriving DecidableEq

structure MobileShakescapeBitcoinSettlementPermit where
  policy : ShakescapeDirectSwapPolicy
  terms : SwapRecoveryTerms
  side : SwapAssetSide
  settlementKey : CrossChainSwapKey
  preimage : Option (Bytes 32)
  action : MobileShakescapeSettlementAction
  feeReserve : UInt64
  requiresCurrentFirstFunding : Bool
  recoveredFundingOutpoint : Option (Bytes 32 × UInt32)

def unlimitedFeeReserve : UInt64 := .ofNat (UInt64.size - 1)

/-- What the wallet knows of a session without an execution: it restored its seed and
found the session's locks on chain.  The scan itself is not embedded. -/
class SwapRecovery (V : Type) where
  recoveredTakerRedeemContext : WalletStore V → SessionId → ModuleId →
    Except MarketError (SwapRecoveryTerms × CrossChainSwapKey × Bytes 32)
  recoveredHnsLocator : WalletStore V → SessionId → SwapRecoveryTerms → SwapAssetSide →
    Except MarketError (Option (Bytes 32))

section Permits

variable [Sha256] [DirectSwapProtocol] [BitcoinLibrary] [KeyDerivation] {V : Type} [Encoded V]
  [Serde V SwapSession] [Serde V PersistedShakescapeDirectSwap]
  [Serde V CrossChainSwapKeyAllocation] [Serde V PersistedLocalDirectOffer]
  [Serde V PersistedLocalDirectAcceptance] [Serde V PersistedLocalDirectAcceptanceAbandonment]
  [SwapRecovery V] (store : WalletStore V) (policy : ShakescapeDirectSwapPolicy)
  (walletId : WalletId) (sessionId : SessionId)

def authorizeHnsRedeemBroadcastGuard : Except MarketError HnsSettlementBroadcastGuard := do
  let loaded ← loadShakescapeExecution store policy sessionId
  let execution ← okOr loaded .unknownShakescapeDirectSwap
  let swap ← loadShakescapeDirectSwap store policy sessionId
  let record ← okOr swap .unknownShakescapeDirectSwap
  refuseIf (execution.firstFundingIsCurrent = false ∨ execution.secondModule ≠ .handshake ∨
    record.hello = none) .invalidTransition
  (HnsSettlementBroadcastGuard.new sessionId (shakescapeExecutionWorkflowId sessionId)
    execution.revision (policy.recordId sessionId) record.storeRevision).mapError
    fun _ => .invalidEvidence

variable (execution : SwapSession)

def secondLockGuard :
    Except MarketError (Option HnsSettlementBroadcastGuard) :=
  if execution.secondModule = .handshake then
    some <$> authorizeHnsRedeemBroadcastGuard store policy sessionId
  else
    .ok none

def redeemAuthority (module : ModuleId) :
    SwapAssetSide → Except MarketError (CrossChainSwapKey × Bytes 32)
  | .offered => do
    refuseIf (execution.state ≠ .secretObserved ∨ execution.firstModule ≠ module)
      .invalidTransition
    let (key, _) ← deriveLocalDirectTakerKey store policy walletId sessionId
    let observed ← loadLocallyVerifiedShakescapePreimage store sessionId
    return (key, ← okOr observed .invalidEvidence)
  | .received => do
    refuseIf (execution.state ≠ .bothFunded ∨ execution.secondModule ≠ module)
      .invalidTransition
    let (key, _) ← deriveLocalDirectMakerKey store policy walletId sessionId
    let drawn ← loadShakescapeDirectMakerPreimage store sessionId
    return (key, ← okOr drawn .invalidEvidence)

def recoveredHnsRedeem : Except MarketError MobileShakescapeHnsSettlementPermit := do
  let (terms, key, preimage) ← SwapRecovery.recoveredTakerRedeemContext store sessionId .handshake
  let locator ← SwapRecovery.recoveredHnsLocator store sessionId terms .offered
  let transaction ← okOr locator .invalidEvidence
  return {
    terms
    side := .offered
    fundingTransaction := some transaction
    settlementKey := key
    preimage := some preimage
    action := .redeem
    feeReserve := unlimitedFeeReserve
    hnsBroadcastGuard := none }

def executionHnsRedeem :
    Except MarketError MobileShakescapeHnsSettlementPermit := do
  refuseIf (execution.firstFundingIsCurrent = false) .invalidTransition
  let swap ← loadShakescapeDirectSwap store policy sessionId
  let record ← okOr swap .unknownShakescapeDirectSwap
  let funding ← okOr (record.peerFundingStatuses.find? fun status =>
    status.status.chain = .handshake) .invalidEvidence
  let hello ← okOr record.hello .invalidShakescapeDirectSwap
  let side ← hnsSide hello
  let (key, preimage) ← redeemAuthority store policy walletId sessionId execution .handshake side
  let (receiver, refund) := hello.lockKeys side
  let hns ← (buildHnsHtlc hello side receiver refund).mapError
    fun _ => .invalidShakescapeDirectSwap
  refuseIf (hns.descriptor.receiverPublicKey ≠ key.publicKey ∨
    hns.descriptor.hashlock ≠ hashPreimage preimage)
    .invalidShakescapeDirectSwap
  let terms ← (SwapRecoveryTerms.fromHello hello policy.network).mapError
    fun _ => .invalidEvidence
  let guard ← secondLockGuard store policy sessionId execution
  return {
    terms
    side
    fundingTransaction := some funding.status.transactionId
    settlementKey := key
    preimage := some preimage
    action := .redeem
    feeReserve := unlimitedFeeReserve
    hnsBroadcastGuard := guard }

def authorizeLocalHnsRedeem : Except MarketError MobileShakescapeHnsSettlementPermit := do
  match ← loadShakescapeExecution store policy sessionId with
  | none => recoveredHnsRedeem store sessionId
  | some execution => executionHnsRedeem store policy walletId sessionId execution

def recoveredBitcoinRedeem : Except MarketError MobileShakescapeBitcoinSettlementPermit := do
  let (terms, key, preimage) ← SwapRecovery.recoveredTakerRedeemContext store sessionId .bitcoin
  return {
    policy
    terms
    side := .offered
    settlementKey := key
    preimage := some preimage
    action := .redeem
    feeReserve := unlimitedFeeReserve
    requiresCurrentFirstFunding := false
    recoveredFundingOutpoint := none }

def executionBitcoinRedeem :
    Except MarketError MobileShakescapeBitcoinSettlementPermit := do
  refuseIf (execution.firstFundingIsCurrent = false) .invalidTransition
  let swap ← loadShakescapeDirectSwap store policy sessionId
  let record ← okOr swap .unknownShakescapeDirectSwap
  let hello ← okOr record.hello .invalidShakescapeDirectSwap
  let side ← bitcoinSide hello
  let (key, preimage) ← redeemAuthority store policy walletId sessionId execution .bitcoin side
  let bitcoin ← (buildShakescapeBitcoinHtlc hello side).mapError
    fun _ => .invalidShakescapeDirectSwap
  refuseIf (bitcoin.htlc.receiverPublicKey ≠ key.publicKey.toList ∨
    bitcoin.htlc.hashlock ≠ hashPreimage preimage)
    .invalidShakescapeDirectSwap
  let terms ← (SwapRecoveryTerms.fromHello hello policy.network).mapError
    fun _ => .invalidEvidence
  return {
    policy
    terms
    side
    settlementKey := key
    preimage := some preimage
    action := .redeem
    feeReserve := unlimitedFeeReserve
    requiresCurrentFirstFunding := execution.secondModule = .bitcoin
    recoveredFundingOutpoint := none }

def authorizeLocalBitcoinRedeem : Except MarketError MobileShakescapeBitcoinSettlementPermit := do
  match ← loadShakescapeExecution store policy sessionId with
  | none => recoveredBitcoinRedeem store policy sessionId
  | some execution => executionBitcoinRedeem store policy walletId sessionId execution

end Permits

section Taker

variable [Sha256] [DirectSwapProtocol] [BitcoinLibrary] [KeyDerivation]
  {V : Type} [Serde V PersistedShakescapeDirectSwap]
  [Serde V CrossChainSwapKeyAllocation] [Serde V PersistedLocalDirectOffer]
  (store : WalletStore V) (policy : ShakescapeDirectSwapPolicy) (walletId : WalletId)

/-- What the protocol leaves in the taker's wallet once the secret is out: the
countersigned row, an offer of the wallet's own with the key behind it, and the
preimage that the redemption of the second lock revealed. -/
structure TakerMaterial (session : SwapSession) where
  record : ShakescapeDirectSwapRecord
  hello : SwapSessionHello
  key : CrossChainSwapKey
  feeReserve : UInt64
  preimage : Bytes 32
  terms : SwapRecoveryTerms
  loaded : loadShakescapeDirectSwap store policy session.id = .ok (some record)
  countersigned : record.hello = some hello
  firstChain : hello.firstFundingChain = chain hello.offeredAsset
  firstModule : moduleForChain hello.firstFundingChain = .ok session.firstModule
  locks : verifyCanonicalShakescapeLockCommitments hello = .ok ()
  derived : deriveLocalDirectTakerKey store policy walletId session.id = .ok (key, feeReserve)
  isTaker : key.publicKey = hello.takerSettlementPublicKey
  observed : loadLocallyVerifiedShakescapePreimage store session.id = .ok (some preimage)
  opens : hashPreimage preimage = hello.hashlock
  publishable : SwapRecoveryTerms.fromHello hello policy.network = .ok terms
  located : session.firstModule = .handshake →
    ∃ funding ∈ record.peerFundingStatuses, funding.status.chain = .handshake

variable {store policy walletId} {t : SwapSession}

section

variable (m : TakerMaterial store policy walletId t)
include m

theorem TakerMaterial.offered :
    (m.hello.offeredAsset = .hns ∧ t.firstModule = .handshake) ∨
      (m.hello.offeredAsset = .btc ∧ t.firstModule = .bitcoin) := by
  have hmodule := m.firstModule
  rw [m.firstChain] at hmodule
  cases hasset : m.hello.offeredAsset with
  | hns =>
    rw [hasset, chain_hns] at hmodule
    exact .inl ⟨rfl, (Except.ok.inj hmodule).symm⟩
  | btc =>
    rw [hasset, chain_btc] at hmodule
    exact .inr ⟨rfl, (Except.ok.inj hmodule).symm⟩
  | other code =>
    obtain ⟨_, hlock, -⟩ := ok_bind_iff.1 m.locks
    simp [verifyCanonicalShakescapeLockCommitment, hasset, bind, Except.bind] at hlock

theorem TakerMaterial.hnsLock (hasset : m.hello.offeredAsset = .hns) :
    ∃ hns, buildHnsHtlc m.hello .offered (m.hello.lockKeys .offered).1
        (m.hello.lockKeys .offered).2 = .ok hns ∧
      hns.descriptor.receiverPublicKey = m.key.publicKey ∧
      hns.descriptor.hashlock = hashPreimage m.preimage := by
  obtain ⟨_, hlock, -⟩ := ok_bind_iff.1 m.locks
  simp only [verifyCanonicalShakescapeLockCommitment, hasset, ok_iff] at hlock
  obtain ⟨hns, hbuild, -⟩ := hlock
  obtain ⟨hreceiver, hhash⟩ := buildHnsHtlc_redeem hbuild
  exact ⟨hns, hbuild, hreceiver.trans m.isTaker.symm, hhash.trans m.opens.symm⟩

theorem TakerMaterial.bitcoinLock (hasset : m.hello.offeredAsset = .btc) :
    ∃ bitcoin, buildShakescapeBitcoinHtlc m.hello .offered = .ok bitcoin ∧
      bitcoin.htlc.receiverPublicKey = m.key.publicKey.toList ∧
      bitcoin.htlc.hashlock = hashPreimage m.preimage := by
  obtain ⟨_, hlock, -⟩ := ok_bind_iff.1 m.locks
  simp only [verifyCanonicalShakescapeLockCommitment, hasset, ok_iff] at hlock
  obtain ⟨bitcoin, hbuild, -⟩ := hlock
  obtain ⟨hreceiver, hhash⟩ := buildShakescapeBitcoinHtlc_redeem hbuild
  rw [m.isTaker, m.opens]
  exact ⟨bitcoin, hbuild, hreceiver, hhash⟩

end

variable [Serde V SwapSession] [Serde V PersistedLocalDirectAcceptance]
  [Serde V PersistedLocalDirectAcceptanceAbandonment] [SwapRecovery V]

section

variable (m : TakerMaterial store policy walletId t)
include m

omit [Serde V SwapSession] [SwapRecovery V] in
theorem TakerMaterial.authority (hs : t.state = .secretObserved) :
    redeemAuthority store policy walletId t.id t t.firstModule .offered =
      .ok (m.key, m.preimage) := by
  simp [redeemAuthority, refuseIf, hs, m.derived, m.observed, okOr, bind, Except.bind, pure,
    Except.pure]

section

variable (hload : loadShakescapeExecution store policy t.id = .ok (some t))
  (hs : t.state = .secretObserved) (hc : t.firstFundingIsCurrent)
include hload hs hc

theorem TakerMaterial.hnsPermit (hasset : m.hello.offeredAsset = .hns)
    (hfirst : t.firstModule = .handshake) (hsecond : t.secondModule ≠ .handshake) :
    ∃ permit, authorizeLocalHnsRedeem store policy walletId t.id = .ok permit ∧
      permit.terms = m.terms ∧ permit.side = .offered ∧ permit.settlementKey = m.key ∧
      permit.preimage = some m.preimage := by
  obtain ⟨funding, hfunding⟩ : ∃ funding, m.record.peerFundingStatuses.find?
      (fun status => decide (status.status.chain = .handshake)) = some funding := by
    obtain ⟨funding, hmem, hchain⟩ := m.located hfirst
    exact Option.isSome_iff_exists.1 (List.find?_isSome.2 ⟨funding, hmem, decide_eq_true hchain⟩)
  obtain ⟨hns, hbuild, hreceiver, hhash⟩ := m.hnsLock hasset
  have hauthority := m.authority hs
  rw [hfirst] at hauthority
  refine ⟨⟨m.terms, .offered, some funding.status.transactionId, m.key, some m.preimage, .redeem,
    unlimitedFeeReserve, none⟩, ?_, rfl, rfl, rfl, rfl⟩
  unfold authorizeLocalHnsRedeem
  rw [hload]
  show executionHnsRedeem store policy walletId t.id t = _
  simp only [executionHnsRedeem, ok_bind_iff]
  exact ⟨(), by simp [refuseIf, hc], _, m.loaded, _, rfl, _, okOr_eq_ok.2 hfunding, _,
    okOr_eq_ok.2 m.countersigned, _, by simp [hnsSide, hasset], _, hauthority, _,
    mapError_eq_ok.2 hbuild, (), by simp [refuseIf, hreceiver, hhash], _,
    mapError_eq_ok.2 m.publishable, none, if_neg hsecond, rfl⟩

theorem TakerMaterial.bitcoinPermit (hasset : m.hello.offeredAsset = .btc)
    (hfirst : t.firstModule = .bitcoin) :
    ∃ permit, authorizeLocalBitcoinRedeem store policy walletId t.id = .ok permit ∧
      permit.terms = m.terms ∧ permit.side = .offered ∧ permit.settlementKey = m.key ∧
      permit.preimage = some m.preimage := by
  obtain ⟨bitcoin, hbuild, hreceiver, hhash⟩ := m.bitcoinLock hasset
  have hauthority := m.authority hs
  rw [hfirst] at hauthority
  refine ⟨⟨policy, m.terms, .offered, m.key, some m.preimage, .redeem, unlimitedFeeReserve,
    t.secondModule = .bitcoin, none⟩, ?_, rfl, rfl, rfl, rfl⟩
  unfold authorizeLocalBitcoinRedeem
  rw [hload]
  show executionBitcoinRedeem store policy walletId t.id t = _
  simp only [executionBitcoinRedeem, ok_bind_iff]
  exact ⟨(), by simp [refuseIf, hc], _, m.loaded, _, rfl, _, okOr_eq_ok.2 m.countersigned, _,
    by simp [bitcoinSide, hasset], _, hauthority, _, mapError_eq_ok.2 hbuild, (),
    by simp [refuseIf, hreceiver, hhash], _, mapError_eq_ok.2 m.publishable, rfl⟩

end

end

/-- In every store that holds the session and the taker's material, the permit for the
first lock is issued, on the chain of that lock. -/
def FirstLockPermitIssued (V : Type) [Serde V PersistedShakescapeDirectSwap]
    [Serde V CrossChainSwapKeyAllocation] [Serde V PersistedLocalDirectOffer]
    [Serde V SwapSession] [Serde V PersistedLocalDirectAcceptance]
    [Serde V PersistedLocalDirectAcceptanceAbandonment] [SwapRecovery V]
    (policy : ShakescapeDirectSwapPolicy) (walletId : WalletId) (t : SwapSession) : Prop :=
  ∀ (store : WalletStore V) (m : TakerMaterial store policy walletId t),
    loadShakescapeExecution store policy t.id = .ok (some t) →
      (t.firstModule = .handshake ∧
        ∃ permit, authorizeLocalHnsRedeem store policy walletId t.id = .ok permit ∧
          permit.terms = m.terms ∧ permit.side = .offered ∧ permit.settlementKey = m.key ∧
          permit.preimage = some m.preimage) ∨
      (t.firstModule = .bitcoin ∧
        ∃ permit, authorizeLocalBitcoinRedeem store policy walletId t.id = .ok permit ∧
          permit.terms = m.terms ∧ permit.side = .offered ∧ permit.settlementKey = m.key ∧
          permit.preimage = some m.preimage)

theorem firstLockPermitIssued_of_secretObserved (hmodules : t.firstModule ≠ t.secondModule)
    (hs : t.state = .secretObserved) (hc : t.firstFundingIsCurrent) :
    FirstLockPermitIssued V policy walletId t := by
  intro store m hload
  rcases m.offered with ⟨hasset, hfirst⟩ | ⟨hasset, hfirst⟩
  · rw [hfirst] at hmodules
    exact .inl ⟨hfirst, m.hnsPermit hload hs hc hasset hfirst hmodules.symm⟩
  · exact .inr ⟨hfirst, m.bitcoinPermit hload hs hc hasset hfirst⟩

variable {s₀ s : SwapSession} {evs : List SwapEvent}

/-- Along a run the revealed secret is never lost to the taker, permit included,
exactly when no evidence strands the session: no failure after the secret was
revealed and no broadcast refund while it could still be, the first leg being open. -/
theorem revealed_secret_stays_usable_iff (hstart : s₀.Started)
    (hr : Run SwapSession.Applies s₀ evs s) :
    (∀ before after v, evs = before ++ after → Run SwapSession.Applies s₀ before v →
      v.SecretUsable (FirstLockPermitIssued V policy walletId)) ↔
    ∀ before ev after v, evs = before ++ ev :: after → Run SwapSession.Applies s₀ before v →
      ¬ v.Strands ev.evidence := by
  refine SwapSession.secretUsable_iff_not_strands hstart hr fun t hterms hs hc => ?_
  refine firstLockPermitIssued_of_secretObserved ?_ hs hc
  rw [hterms.firstModule, hterms.secondModule]
  exact hstart.blank.1.modules

end Taker

/-! ## A maker that pays in HNS and a taker that pays in BTC -/

namespace Sample

def network : NetworkBinding :=
  ⟨0x5b6ec393, .replicate 32 1, .bitcoin, 1, .replicate 32 2⟩

def policy : ShakescapeDirectSwapPolicy :=
  ⟨⟨network, ⟨.replicate 32 3⟩⟩, ⟨.replicate 32 4⟩⟩

def sessionId : SessionId := ⟨.replicate 32 6⟩

def makerWallet : WalletId := ⟨.replicate 16 8⟩

def takerWallet : WalletId := ⟨.replicate 16 9⟩

def makerSeed : List UInt8 := .replicate 64 0x16

def takerSeed : List UInt8 := .replicate 64 0x15

def preimage : Bytes 32 := .replicate 32 7

def makerScalar : Bytes 32 :=
  .ofNat 32 0x7858b4f0f669f010ecc3948a6e68f3c1ec82b59f39715cef1125720f2c100341

def makerKey : Bytes 33 :=
  .ofNat 33 0x02dee1346edaab4c9f6f94733fd182465ba2a5ad626bece3ff65636b575f52f241

def takerScalar : Bytes 32 :=
  .ofNat 32 0xf7d2df610a2a1cb8c03c8a43614fbe34c33e2c15a517720f282988bbd34f83a0

def takerKey : Bytes 33 :=
  .ofNat 33 0x0243e5b1ba3751bccb0355f12f1eef8df70315bedda38bd895002240d1ce4ff6e9

def hashlock : Bytes 32 :=
  .ofNat 32 0x4bb06f8e4e3a7715d201d573d0aa423762e55dabd61a2c02278fa56cc6d294e0

def bitcoinLockCommitment : Bytes 32 :=
  .ofNat 32 0xf1ff27000b7f049a3204b069ef190f1c25774566770eabf4a11ad7e6a7268322

def bitcoinScript : List UInt8 := htlcScript hashlock makerKey.toList takerKey.toList 1700010000

def digests : List (List UInt8 × Bytes 32) :=
  [(shakescapeExecutionWorkflowDomain ++ sessionId.bytes.toList,
      .ofNat 32 0x9611ef010f0c7911fa0fd8667c441abd421b2bae3472ce7e972fc64d60ccda79),
    (swapKeyContextDomain ++ [0, 2] ++ sessionId.bytes.toList ++ [0] ++ [1],
      .ofNat 32 0x021dd5bdfdeb4c2200f9994e5a9f7de61dbb759ab44e4b5a3838868a42eec208),
    (swapKeyContextDomain ++ [0, 2] ++ sessionId.bytes.toList ++ [1] ++ [1],
      .ofNat 32 0x8b0f6c5df54a6869e27c43474d435cc269a9ff15e1bf8807cfc1df85e4447cfc),
    (swapKeyRecordIdDomain ++ [0, 2] ++ makerWallet.bytes.toList ++ sessionId.bytes.toList ++ [0],
      .ofNat 32 0x9722751da13de5f76c1cea2c98feb6c854fbb90590dda8dc7992d50f2794fe1f),
    (swapKeyRecordIdDomain ++ [0, 2] ++ takerWallet.bytes.toList ++ sessionId.bytes.toList ++ [1],
      .ofNat 32 0xade6fd0ff08cc39c68c22283bbcef9ffc1da772593ec2798d76e73b8e4e772ef),
    (recoverySeedCommitmentDomain ++ makerSeed,
      .ofNat 32 0x62d166eb37249f1b133fd79992062c77c8718f728cbd61a2cb514b0eacddf7f6),
    (recoverySeedCommitmentDomain ++ takerSeed,
      .ofNat 32 0xa610ca213fb6edb2030a2432fe225db5bc250c37a71e4ed26811616891c4e067),
    (shakescapeBitcoinHtlcCommitmentDomain ++ [1] ++ leBytes 8 100000 ++
      leBytes 2 bitcoinScript.length ++
      bitcoinScript,
      .ofNat 32 0xf1ff27000b7f049a3204b069ef190f1c25774566770eabf4a11ad7e6a7268322)]

@[reducible] def sha256 : Sha256 where
  digest input := (digests.lookup input).getD (.replicate 32 0)

@[reducible] def keys : KeyDerivation where
  hkdfExpand _ seed _ := if seed = makerSeed then some makerScalar else some takerScalar
  signingPublicKey scalar := if scalar = makerScalar then some makerKey else some takerKey
  isPublicKey key := key = makerKey ∨ key = takerKey

@[reducible] def bitcoin : BitcoinLibrary where
  publicKey key := if key.length = 33 then some key else none
  publicKey_compressed := compressed_of_length
  p2wsh script := [0x00, 0x20] ++ ((digests.lookup script).getD (.replicate 32 0)).toList

def offer : DirectOffer where
  header := ⟨network, takerKey, 1, 1699999000, 1700009000⟩
  offerId := .replicate 32 2
  swapSessionId := sessionId.bytes
  offerSetterSettlementPublicKey := takerKey
  offeredAsset := .btc
  offeredAmount := ⟨100000, by decide⟩
  receivedAsset := .hns
  receivedAmount := ⟨5000000, by decide⟩
  signature := .replicate 64 1

def acceptance : DirectOfferAcceptance where
  header := ⟨network, makerKey, 1, 1699999500, 1700003000⟩
  offerId := offer.offerId
  swapSessionId := sessionId.bytes
  respondingMakerSettlementPublicKey := makerKey
  signature := .replicate 64 2

def agreement : SwapSessionHello where
  header := ⟨network, makerKey, 2, 1700000000, 1700003600⟩
  directOfferId := offer.offerId
  swapSessionId := sessionId.bytes
  makerSettlementPublicKey := makerKey
  takerSettlementPublicKey := takerKey
  offeredAsset := .hns
  offeredAmount := offer.receivedAmount
  receivedAsset := .btc
  receivedAmount := offer.offeredAmount
  hashlock := hashlock
  firstFundingChain := .handshake
  offeredLockCommitment := .replicate 32 5
  offeredRefundDeadline := ⟨.unixTime, 1700020224⟩
  offeredMinimumConfirmations := 2
  receivedLockCommitment := bitcoinLockCommitment
  receivedRefundDeadline := ⟨.unixTime, 1700010000⟩
  receivedMinimumConfirmations := 1
  makerSignature := .replicate 64 3
  takerSignature := .replicate 64 4

def proposal : SwapSessionProposal :=
  ⟨{ agreement with takerSignature := .replicate 64 0 }⟩

def funding : SwapFundingStatus where
  header := ⟨network, makerKey, 3, 1700000100, 1700003600⟩
  swapSessionId := sessionId.bytes
  chain := .handshake
  lockCommitment := agreement.offeredLockCommitment
  transactionId := .replicate 32 9
  outputIndex := 0
  amount := agreement.offeredAmount
  confirmations := 2
  state := .confirmed
  signature := .replicate 64 5

def codecOf {α : Type} [DecidableEq α] (object : α) (bytes : List UInt8) : Codec α where
  encode a := if a = object then .ok bytes else .error .rejected
  decode b := if b = bytes then .ok object else .error .rejected
  decode_encode h := by
    split at h
    next heq =>
      cases h
      rw [if_pos rfl, heq]
    next => cases h

def timely (header : SignedObjectHeader) (at_ : UInt64) : Except MarketplaceError Unit :=
  if at_ < header.createdAt then .error .rejected
  else if header.expiresAt ≤ at_ then .error .expired
  else .ok ()

@[reducible] def protocol : DirectSwapProtocol where
  chain
    | .hns => .handshake
    | .btc => .bitcoin
    | .other code => .other code
  decodeHello := (codecOf agreement [1]).decode
  encodeHello := (codecOf agreement [1]).encode
  verifyAgreement hello expected :=
    if hello = agreement ∧ expected = network then .ok () else .error .rejected
  verifyNewFundingAt hello expected now :=
    if hello = agreement ∧ expected = network then timely hello.header now else .error .rejected
  validateForPair expected := if expected = network then .ok () else .error .rejected
  encodeNetwork := (codecOf network [1]).encode
  decodeNetwork := (codecOf network [1]).decode
  buildHnsHtlc hello side receiver refund :=
    if hello = agreement ∧ side = .offered then
      .ok ⟨⟨5000000, hello.hashlock, receiver, refund, 1700020224⟩, hello.offeredLockCommitment⟩
    else .error .rejected
  hnsRefundTimeLock deadline := .ok deadline.value
  chain_hns := rfl
  chain_btc := rfl
  buildHnsHtlc_redeem h := by
    split at h
    next =>
      cases h
      exact ⟨rfl, rfl⟩
    next => cases h
  hashPreimage _ := hashlock
  decodeEnvelope _ := .error .rejected
  encodeEnvelope _ _ := .error .rejected
  chainCode
    | .handshake => 0
    | .bitcoin => 1
    | .other code => code.toNat + 2
  chainCode_injective {c d} h := by
    cases c <;> cases d <;> simp_all [UInt32.toNat_inj]
  offerCodec := codecOf offer [2]
  cancellationCodec := ⟨fun _ => .error .rejected, fun _ => .error .rejected, nofun⟩
  acceptanceCodec := codecOf acceptance [3]
  proposalCodec := codecOf proposal [4]
  fundingStatusCodec := codecOf funding [5]
  watchReadyCodec := ⟨fun _ => .error .rejected, fun _ => .error .rejected, nofun⟩
  decode_encodeHello := (codecOf agreement [1]).decode_encode
  verifyOffer _ _ _ := .error .rejected
  verifyCancellation _ _ _ _ := .error .rejected
  verifyAcceptance a o n at_ :=
    if a = acceptance ∧ o = offer ∧ n = network then timely a.header at_ else .error .rejected
  verifyProposalAt p n at_ :=
    if p = proposal ∧ n = network then timely p.terms.header at_ else .error .rejected
  verifyProposal p o a n at_ :=
    if p = proposal ∧ o = offer ∧ a = acceptance ∧ n = network then timely p.terms.header at_
    else .error .rejected
  verifyHello hello o a n at_ :=
    if hello = agreement ∧ o = offer ∧ a = acceptance ∧ n = network then timely hello.header at_
    else .error .rejected
  verifyHello_session h := by
    split at h
    next hall => rw [hall.1, hall.2.2.1]; rfl
    next => cases h
  verifyFundingStatus status hello n at_ :=
    if status = funding ∧ hello = agreement ∧ n = network then timely status.header at_
    else .error .rejected
  verifyRedeemStatus _ _ _ _ := .error .rejected
  verifyRefundStatus _ _ _ _ := .error .rejected
  verifyWatchReady _ _ _ _ := .error .rejected

inductive Value where
  | session (session : SwapSession)
  | swap (swap : PersistedShakescapeDirectSwap)
  | allocation (allocation : CrossChainSwapKeyAllocation)
  | offer (offer : PersistedLocalDirectOffer)
  | acceptance (acceptance : PersistedLocalDirectAcceptance)
  | abandonment (abandonment : PersistedLocalDirectAcceptanceAbandonment)
  | authorization (authorization : PersistedSecondFundingAuthorization)
  | transaction (transaction : BitcoinTransactionRecord)
  | settlement (settlement : HnsPreparedSettlement)
  | boardOffer (offer : PersistedDirectOffer)

namespace Value

instance : Encoded Value := ⟨fun _ => 1⟩

instance : Serde Value SwapSession :=
  ⟨session, fun | session s => some s | _ => none, fun _ => rfl⟩

instance : Serde Value PersistedShakescapeDirectSwap :=
  ⟨swap, fun | swap s => some s | _ => none, fun _ => rfl⟩

instance : Serde Value CrossChainSwapKeyAllocation :=
  ⟨allocation, fun | allocation a => some a | _ => none, fun _ => rfl⟩

instance : Serde Value PersistedLocalDirectOffer :=
  ⟨offer, fun | offer o => some o | _ => none, fun _ => rfl⟩

instance : Serde Value PersistedLocalDirectAcceptance :=
  ⟨acceptance, fun | acceptance a => some a | _ => none, fun _ => rfl⟩

instance : Serde Value PersistedLocalDirectAcceptanceAbandonment :=
  ⟨abandonment, fun | abandonment a => some a | _ => none, fun _ => rfl⟩

instance : Serde Value PersistedSecondFundingAuthorization :=
  ⟨authorization, fun | authorization a => some a | _ => none, fun _ => rfl⟩

instance : Serde Value BitcoinTransactionRecord :=
  ⟨transaction, fun | transaction t => some t | _ => none, fun _ => rfl⟩

instance : Serde Value HnsPreparedSettlement :=
  ⟨settlement, fun | settlement s => some s | _ => none, fun _ => rfl⟩

instance : Serde Value PersistedDirectOffer :=
  ⟨boardOffer, fun | boardOffer o => some o | _ => none, fun _ => rfl⟩

instance : SwapRecovery Value where
  recoveredTakerRedeemContext _ _ _ := .error .unknownShakescapeDirectSwap
  recoveredHnsLocator _ _ _ _ := .ok none

end Value

attribute [local instance] sha256 keys bitcoin protocol

def row : PersistedShakescapeDirectSwap where
  schemaVersion := 1
  policyFingerprint := policy.fingerprint
  sessionId := sessionId
  acceptanceRequestId := 1
  proposalRequestId := some 2
  acceptanceReceivedAtUnix := 1699999600
  proposalAcceptedAtUnix := some 1700000010
  helloAcceptedAtUnix := some 1700000020
  offerHex := [2]
  acceptanceHex := [3]
  proposalHex := some [4]
  helloHex := some [1]
  watchReadyAcceptedAtUnix := none
  firstChainWatchReadyHex := none
  peerFundingStatuses := [⟨1700000100, [5]⟩]

def record : ShakescapeDirectSwapRecord where
  storeRevision := 4
  acceptanceRequestId := 1
  proposalRequestId := some 2
  acceptanceReceivedAtUnix := 1699999600
  proposalAcceptedAtUnix := some 1700000010
  helloAcceptedAtUnix := some 1700000020
  offer := offer
  acceptance := acceptance
  proposal := some proposal
  hello := some agreement
  watchReadyAcceptedAtUnix := none
  firstChainWatchReady := none
  peerFundingStatuses := [⟨1700000100, funding⟩]

def allocationOf (walletId : WalletId) (seed : List UInt8) (participant : SwapParticipant)
    (key : Bytes 33) : CrossChainSwapKeyAllocation where
  storageVersion := 2
  walletId := walletId
  sessionId := sessionId
  participant := participant
  networkEncoding := [1]
  contextCommitment := contextCommitment ⟨walletId, sessionId, participant, network⟩ [1]
  compressedPublicKey := key
  recoverySeedCommitment := recoverySeedCommitmentFromCleartext seed
  allocatedAtUnix := 1699999000

def opened : SwapSession :=
  { SwapSession.sample with
    id := sessionId
    revision := 1
    state := .termsFrozen
    offered := ⟨.hns, offer.receivedAmount⟩
    received := ⟨.btc, offer.offeredAmount⟩
    termsId := ⟨offer.offerId⟩
    hashlock := ⟨hashlock⟩
    acceptedShakescapeTerms := some [1]
    timeouts := ⟨1700020224, 1700010000, 10224⟩
    lastVerifiedAtUnix := 1700000020 }

def revealing : List SwapEvent :=
  [⟨.refundsValidated, 1700000030⟩, ⟨.fundingReady, 1700000030⟩,
    ⟨.firstFundingObservationStarted .handshake 1, 1700000200⟩,
    ⟨.firstFundingConfirmedAtGeneration ⟨.replicate 32 9⟩ .handshake 1, 1700000201⟩,
    ⟨.secondFundingReady, 1700000202⟩,
    ⟨.secondFundingConfirmed ⟨.replicate 32 10⟩, 1700000300⟩,
    ⟨.firstRedemptionConfirmed ⟨.replicate 32 11⟩, 1700000400⟩,
    ⟨.secretExtracted ⟨hashlock⟩, 1700000401⟩]

def observed : SwapSession :=
  { opened with
    revision := 9
    state := .secretObserved
    firstFunding := some ⟨.replicate 32 9⟩
    firstFundingObservationGeneration := 1
    firstFundingConfirmedGeneration := some 1
    secondFunding := some ⟨.replicate 32 10⟩
    firstRedemption := some ⟨.replicate 32 11⟩
    lastVerifiedAtUnix := 1700000401 }

def takerStore : WalletStore Value where
  unlocked := true
  workflows := AList.insert (shakescapeExecutionWorkflowId sessionId)
    ⟨.atomicSwap, 9, .session observed, true, 1700000401⟩ ∅
  entities := ((∅ : AList fun _ : EntityKind × RecordId => EntityRow Value).insert
    (.swapSession, policy.recordId sessionId) ⟨4, .swap row, 1700000100⟩).insert
    (.shakescapeBoardObject, localRecordId takerWallet offer.offerId)
      ⟨1, .offer ⟨2, takerWallet, ⟨offer.offerId⟩, sessionId, 2000, 1699999000⟩, 1699999000⟩
    |>.insert (.crossChainSwapKeyAllocation, allocationRecordId takerWallet sessionId .taker)
      ⟨1, .allocation (allocationOf takerWallet takerSeed .taker takerKey), 1699999000⟩
  secrets := ((∅ : AList fun _ : RecordId => SecretRow).insert takerWallet.bytes.toList
    ⟨.recoverySeed, takerSeed, 1⟩).insert (shakescapeObservedPreimageId sessionId)
    ⟨.htlcPreimage, preimage.toList, 1700000400⟩

theorem opened_started : opened.Started := by
  have h : swapSessionFromAcceptedHello agreement 1700000020 =
      .ok { opened with acceptedShakescapeTerms := none } := by rfl
  exact started_of_swapSessionFromAcceptedHello h (some [1]) 1700000020

set_option maxRecDepth 2000 in
theorem agreement_locks : verifyCanonicalShakescapeLockCommitments agreement = .ok () := by
  rfl

def takerMaterial : TakerMaterial takerStore policy takerWallet observed where
  record := record
  hello := agreement
  key := ⟨⟨takerWallet, sessionId, .taker, network⟩, takerKey, takerScalar⟩
  feeReserve := 2000
  preimage := preimage
  terms := ⟨network, sessionId.bytes, offer.offerId, makerKey, takerKey, hashlock, .hns, 5000000,
    100000, 1700020224, 1700010000, 2, 1⟩
  loaded := by rfl
  countersigned := rfl
  firstChain := rfl
  firstModule := rfl
  locks := agreement_locks
  derived := by rfl
  isTaker := rfl
  observed := by rfl
  opens := rfl
  publishable := by rfl
  located _ := ⟨_, List.mem_singleton.2 rfl, rfl⟩

theorem revealed_secret_stays_usable_iff_sample :
    opened.Started ∧ Run SwapSession.Applies opened revealing observed ∧
      Nonempty (TakerMaterial takerStore policy takerWallet observed) ∧
      loadShakescapeExecution takerStore policy observed.id = .ok (some observed) ∧
      ∀ before after v, revealing = before ++ after → Run SwapSession.Applies opened before v →
        v.SecretUsable (FirstLockPermitIssued Value policy takerWallet) := by
  have hr := SwapSession.run_iff_replay.2 (rfl : opened.replay revealing = some observed)
  refine ⟨opened_started, hr, ⟨takerMaterial⟩, by rfl,
    (revealed_secret_stays_usable_iff opened_started hr).2 ?_⟩
  have hkept : ∀ ev ∈ revealing, (∀ reason, ev.evidence ≠ .terminalFailure reason) ∧
      ∀ l, ev.evidence ≠ .refundBroadcast l := by
    simp [revealing]
  intro before ev after v hevs _ hstrands
  obtain ⟨hfailure, hrefund⟩ := hkept ev (by simp [hevs])
  obtain ⟨-, ⟨-, reason, he⟩ | ⟨-, l, he⟩⟩ := hstrands
  · exact hfailure reason he
  · exact hrefund l he

/-- A failure that is recorded between the maker's redemption and the reading of the
secret loses the secret. -/
theorem revealed_secret_is_lost_after_failure :
    ∃ s t : SwapSession, SwapSession.sample.Created ∧
      Run SwapSession.Applies .sample (SwapSession.samplePendingEvents ++
        [⟨.secondFundingConfirmed ⟨.replicate 32 5⟩, 5⟩,
          ⟨.firstRedemptionConfirmed ⟨.replicate 32 6⟩, 6⟩]) s ∧
      s.FirstLegOpen ∧ s.firstRedemption.isSome ∧
      s.Applies ⟨.terminalFailure "peer withdrew", 7⟩ t ∧
      ∀ Issued, ¬ t.SecretUsable Issued := by
  let s : SwapSession := { SwapSession.sample with
    revision := 9
    state := .firstRedeemed
    firstFunding := some ⟨.replicate 32 9⟩
    secondFunding := some ⟨.replicate 32 5⟩
    firstRedemption := some ⟨.replicate 32 6⟩
    lastVerifiedAtUnix := 6 }
  have hopen : s.FirstLegOpen := ⟨rfl, rfl, rfl⟩
  have happ := SwapSession.applies_iff_advance.2
    (rfl : s.advance ⟨.terminalFailure "peer withdrew", 7⟩ = some _)
  exact ⟨s, _, SwapSession.sample_created, SwapSession.run_iff_replay.2 rfl, hopen, rfl, happ,
    fun _ => SwapSession.Strands.not_secretUsable ⟨hopen, .inl ⟨rfl, _, rfl⟩⟩ happ⟩

end Sample

end HnsWallet
