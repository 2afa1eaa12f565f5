import HnsWallet.Market.Admission
import HnsWallet.Market.Execution
import HnsWallet.Market.LocalParticipant

/-! # Funds that acceptances reserve, and maintenance -/

namespace HnsWallet

open Lib

structure ShakescapeLocalDirectOfferAcceptance where
  offerId : ObjectHash
  sessionId : SessionId
  btcAmountSats : UInt64
  hnsAmountDollarydoos : UInt64
  hnsFeeReserveDollarydoos : UInt64
  receivedFeeReserve : UInt64
  offeredAsset : AssetId
  offeredAmount : UInt64
  receivedAsset : AssetId
  receivedAmount : UInt64
  createdAtUnix : UInt64
  expiresAtUnix : UInt64
  envelope : List UInt8
deriving DecidableEq

def localAcceptanceRecordPrefix (walletId : WalletId) : RecordId :=
  localDirectAcceptanceRecordPrefix ++ walletId.bytes.toList

def localRecordPrefix (walletId : WalletId) : RecordId :=
  localDirectOfferRecordPrefix ++ walletId.bytes.toList

def orderedAmounts (offeredAsset receivedAsset : AssetId) (offeredAmount receivedAmount : UInt64) :
    Except MarketError (UInt64 × UInt64) :=
  match offeredAsset, receivedAsset with
  | .btc, .hns => .ok (offeredAmount, receivedAmount)
  | .hns, .btc => .ok (receivedAmount, offeredAmount)
  | _, _ => .error .invalidPair

section Reservation

variable [DirectSwapProtocol] [Sha256] {V : Type} [Encoded V] [Serde V SwapSession]
  [Serde V PersistedShakescapeDirectSwap] [Serde V PersistedDirectOffer]
  [Serde V PersistedLocalDirectAcceptance] [Serde V PersistedLocalDirectAcceptanceAbandonment]

variable (store : WalletStore V) (policy : ShakescapeDirectSwapPolicy) (walletId : WalletId)
  (acceptance : ShakescapeLocalDirectOfferAcceptance)

def projectLocalAcceptance (local_ : PersistedLocalDirectAcceptance) :
    Except MarketError ShakescapeLocalDirectOfferAcceptance := do
  let loaded ← loadShakescapeDirectSwap store policy local_.sessionId
  let record ← okOr loaded .corruptShakescapeDirectSwap
  refuseIf (record.offer.offerId ≠ local_.offerId.bytes ∨
    record.offer.swapSessionId ≠ local_.sessionId.bytes ∨
    record.acceptance.swapSessionId ≠ local_.sessionId.bytes) .corruptShakescapeDirectSwap
  let offeredAmount ← okOr (toU64 record.offer.offeredAmount) .invalidShakescapeDirectSwap
  let receivedAmount ← okOr (toU64 record.offer.receivedAmount) .invalidShakescapeDirectSwap
  let (btcAmountSats, hnsAmountDollarydoos) ← orderedAmounts record.offer.offeredAsset
    record.offer.receivedAsset offeredAmount receivedAmount
  let envelope ← (DirectSwapProtocol.encodeEnvelope (.acceptDirectOffer record.acceptance)
    record.acceptanceRequestId).mapError fun _ => .corruptShakescapeDirectSwap
  return {
    offerId := local_.offerId
    sessionId := local_.sessionId
    btcAmountSats
    hnsAmountDollarydoos
    hnsFeeReserveDollarydoos := local_.receivedFeeReserve
    receivedFeeReserve := local_.receivedFeeReserve
    offeredAsset := record.offer.offeredAsset
    offeredAmount
    receivedAsset := record.offer.receivedAsset
    receivedAmount
    createdAtUnix := local_.createdAtUnix
    expiresAtUnix := record.acceptance.header.expiresAt
    envelope }

def listLocalShakescapeDirectOfferAcceptances :
    Except MarketError (List ShakescapeLocalDirectOfferAcceptance) := do
  let stored ← liftStore (store.listEntitiesByIdPrefix PersistedLocalDirectAcceptance
    .shakescapeBoardObject (localAcceptanceRecordPrefix walletId) maxShakescapeDirectSwapRecords)
  stored.mapM fun row => do projectLocalAcceptance store policy (← validateStoredAcceptance
    walletId row)

def localAcceptanceHasExecution (sessionId : SessionId) :
    Except MarketError Bool := do
  return (← liftStore (store.loadWorkflow SwapSession
    (shakescapeExecutionWorkflowId sessionId))).isSome

def localAcceptanceIsReleased (nowUnix : UInt64) :
    Except MarketError Bool := do
  if acceptance.expiresAtUnix ≤ nowUnix then
    return true
  let abandoned ← isLocalAcceptanceAbandoned store walletId acceptance.sessionId
  if abandoned then
    return true
  let offer ← loadShakescapeDirectOffer store policy.boardPolicy acceptance.offerId.bytes
  return offer.any fun offer => !offer.isActiveAt nowUnix

def abandonPendingLocalShakescapeDirectOfferAcceptance (sessionId : SessionId) (nowUnix : UInt64) :
    Except MarketError (WalletStore V × ShakescapeLocalDirectOfferAcceptance) := do
  refuseIf (nowUnix = 0) .invalidShakescapeDirectSwap
  let loaded ← loadLocalAcceptance store walletId sessionId
  let local_ ← okOr loaded .unknownShakescapeDirectSwap
  let projected ← projectLocalAcceptance store policy local_
  let swap ← loadShakescapeDirectSwap store policy sessionId
  let swap ← okOr swap .unknownShakescapeDirectSwap
  let hasExecution ← if swap.hello.isSome then .ok true
    else localAcceptanceHasExecution store sessionId
  refuseIf hasExecution .shakescapeDirectSwapConflict
  match ← loadAbandonment store walletId sessionId (abandonmentRecordId walletId sessionId) with
  | some existing =>
    refuseIf (existing.offerId ≠ local_.offerId) .corruptShakescapeDirectSwap
    return (store, projected)
  | none =>
    let abandonment : PersistedLocalDirectAcceptanceAbandonment :=
      ⟨abandonmentStorageVersion, walletId, local_.offerId, sessionId, nowUnix⟩
    let (store, _) ← liftStore (store.saveEntity .shakescapeBoardObject
      (abandonmentRecordId walletId sessionId) 0 abandonment nowUnix)
    return (store, projected)

def localAcceptanceReserves (nowUnix : UInt64) :
    Except MarketError Bool := do
  let execution ← liftStore (store.loadWorkflow SwapSession
    (shakescapeExecutionWorkflowId acceptance.sessionId))
  match execution.map fun row => row.state.state with
  | some SwapState.termsFrozen | some .refundsPrepared | some .firstFundingPending => return true
  | some _ => return false
  | none => return !(← localAcceptanceIsReleased store policy walletId acceptance nowUnix)

def addReservation (asset : AssetId) (nowUnix : UInt64) (total : UInt64)
    (acceptance : ShakescapeLocalDirectOfferAcceptance) : Except MarketError UInt64 := do
  if acceptance.receivedAsset ≠ asset then
    return total
  if ← localAcceptanceReserves store policy walletId acceptance nowUnix then
    okOr (checkedAdd total acceptance.receivedAmount) .invalidShakescapeDirectSwap
  else
    return total

def reservedLocalShakescapeResponderAmount (asset : AssetId)
    (nowUnix : UInt64) : Except MarketError UInt64 := do
  refuseIf (¬ (asset = .btc ∨ asset = .hns) ∨ nowUnix = 0) .invalidShakescapeDirectSwap
  let acceptances ← listLocalShakescapeDirectOfferAcceptances store policy walletId
  acceptances.foldlM (addReservation store policy walletId asset nowUnix) 0

end Reservation

section LocalOffers

variable [DirectSwapProtocol] [InventoryLimit] {V : Type} [Serde V PersistedLocalDirectOffer]
  [Serde V PersistedDirectOffer]
  (store : WalletStore V) (walletId : WalletId) (policy : ShakescapeDirectOfferBoardPolicy)

def localOffers :
    Except MarketError (List PersistedLocalDirectOffer) := do
  let stored ← liftStore (store.listEntitiesByIdPrefix PersistedLocalDirectOffer
    .shakescapeBoardObject (localRecordPrefix walletId) (maxShakescapeDirectOffers + 1))
  refuseIf (maxShakescapeDirectOffers < stored.length) .shakescapeDirectOfferCapacity
  stored.mapM fun row => loadLocalOffer store walletId row.value.offerId.bytes

def loadLocalOfferForSession
    (sessionId : SessionId) : Except MarketError (Option PersistedLocalDirectOffer) := do
  let offers ← localOffers store walletId
  match offers.filter fun offer => offer.sessionId = sessionId with
  | [] => return none
  | [offer] => return some offer
  | _ => .error .corruptShakescapeDirectOfferBoard

def isLocalShakescapeDirectTaker (sessionId : SessionId) : Except MarketError Bool := do
  return (← loadLocalOfferForSession store walletId sessionId).isSome

def localDirectOfferIds :
    Except MarketError (List (Bytes 32)) := do
  let offers ← localOffers store walletId
  let ids := offers.map fun offer => offer.offerId.bytes
  refuseIf (¬ ids.Nodup) .corruptShakescapeDirectOfferBoard
  return ids

structure ShakescapeLocalDirectOffer where
  offer : ShakescapeDirectOfferRecord
  sessionId : SessionId
  offeredFeeReserve : UInt64

def listLocalShakescapeDirectOffers (walletId : WalletId) (nowUnix : UInt64) :
    Except MarketError (List ShakescapeLocalDirectOffer) := do
  let stored ← liftStore (store.listEntitiesByIdPrefix PersistedLocalDirectOffer
    .shakescapeBoardObject (localRecordPrefix walletId) maxShakescapeDirectOffers)
  let offers ← stored.mapM fun row => do
    let record := row.value
    refuseIf (row.revision ≠ 1 ∨ record.storageVersion ≠ localDirectOfferStorageVersion ∨
      record.walletId ≠ walletId ∨ record.createdAtUnix ≠ row.updatedAtUnix)
      .corruptShakescapeDirectOfferBoard
    let loaded ← loadShakescapeDirectOffer store policy record.offerId.bytes
    let offer ← okOr loaded .corruptShakescapeDirectOfferBoard
    refuseIf (offer.offer.swapSessionId ≠ record.sessionId.bytes)
      .corruptShakescapeDirectOfferBoard
    return (⟨offer, record.sessionId, record.offeredFeeReserve⟩ : ShakescapeLocalDirectOffer)
  return offers.filter fun offer => offer.offer.isActiveAt nowUnix

class OfferSigner (V : Type) where
  signCancellation : WalletStore V → WalletId → ShakescapeDirectOfferBoardPolicy → DirectOffer →
    UInt64 → Except MarketError DirectOfferCancellation

def cancelShakescapeLocalDirectOffer [OfferSigner V] [Encoded V] (store : WalletStore V)
    (policy : ShakescapeDirectOfferBoardPolicy) (walletId : WalletId) (offerId : Bytes 32)
    (nowUnix : UInt64) : Except MarketError (WalletStore V) := do
  refuseIf (nowUnix = 0 ∨ offerId.isZero) .invalidShakescapeDirectOffer
  let row ← liftStore (store.loadEntity PersistedLocalDirectOffer .shakescapeBoardObject
    (localRecordId walletId offerId))
  let local_ ← okOr row .unknownShakescapeDirectOffer
  refuseIf (local_.revision ≠ 1 ∨ local_.value.storageVersion ≠ localDirectOfferStorageVersion ∨
    local_.value.walletId ≠ walletId ∨ local_.value.offerId.bytes ≠ offerId ∨
    local_.value.sessionId.bytes.isZero) .corruptShakescapeDirectOfferBoard
  let loaded ← loadShakescapeDirectOffer store policy offerId
  let offer ← okOr loaded .unknownShakescapeDirectOffer
  refuseIf (offer.isActiveAt nowUnix = false) .invalidShakescapeDirectOffer
  refuseIf (offer.offer.swapSessionId ≠ local_.value.sessionId.bytes)
    .corruptShakescapeDirectOfferBoard
  let cancellation ← OfferSigner.signCancellation store walletId policy offer.offer nowUnix
  let envelope ← (DirectSwapProtocol.encodeEnvelope (.cancelDirectOffer cancellation) 1).mapError
    fun _ => .invalidShakescapeDirectOffer
  let (_, store) ← admitShakescapeDirectOfferCancellation store policy envelope nowUnix
  return store

end LocalOffers

section Maintenance

variable [DirectSwapProtocol] [Sha256] [InventoryLimit] {V : Type} [Encoded V] [Serde V SwapSession]
  [Serde V PersistedShakescapeDirectSwap] [Serde V PersistedDirectOffer]
  [Serde V PersistedLocalDirectOffer] [Serde V PersistedLocalDirectAcceptance]
  [Serde V PersistedLocalDirectAcceptanceAbandonment] [BitcoinLibrary]
  [Serde V PersistedSecondFundingAuthorization] [OfferSigner V] (store : WalletStore V)
  (policy : ShakescapeDirectSwapPolicy) (walletId : WalletId) (nowUnix : UInt64)

def localAcceptanceRetirementDelete
    (sessionId : SessionId) : Except MarketError (Option EntityBatchDelete) := do
  let loaded ← loadLocalAcceptance store walletId sessionId
  return loaded.map fun _ => ⟨localAcceptanceRecordId walletId sessionId, 1⟩

def localAcceptanceAbandonmentRetirementDelete
    (sessionId : SessionId) : Except MarketError (Option EntityBatchDelete) := do
  let loaded ← loadAbandonment store walletId sessionId (abandonmentRecordId walletId sessionId)
  return loaded.map fun _ => ⟨abandonmentRecordId walletId sessionId, 1⟩

def directOfferRetirementDelete (policy : ShakescapeDirectOfferBoardPolicy) (offerId : Bytes 32) :
    Except MarketError EntityBatchDelete := do
  let loaded ← loadShakescapeDirectOffer store policy offerId
  let record ← okOr loaded .corruptShakescapeDirectOfferBoard
  return ⟨policy.recordId offerId, record.storeRevision⟩

def acceptanceDeletes (offerId : Bytes 32) :
    Option EntityBatchDelete → Except MarketError (List (EntityKind × EntityBatchDelete))
  | none => .ok []
  | some delete => do
    let offerDelete ← directOfferRetirementDelete store policy.boardPolicy offerId
    return [(.shakescapeBoardObject, delete), (.shakescapeBoardObject, offerDelete)]

def ShakescapeDirectSwapRecord.negotiationExpiresAt (record : ShakescapeDirectSwapRecord) :
    UInt64 :=
  match record.proposal with
  | none => record.acceptance.header.expiresAt
  | some proposal => max proposal.terms.header.expiresAt record.acceptance.header.expiresAt

def retirement (row : StoredEntity PersistedShakescapeDirectSwap) :
    Except MarketError (Option (List (EntityKind × EntityBatchDelete))) := do
  let record ← decodeStoredSwap policy row
  let sessionId : SessionId := ⟨record.acceptance.swapSessionId⟩
  if record.hello.isSome ∨ record.firstChainWatchReady.isSome ∨ record.peerFundingStatuses ≠ [] then
    return none
  if ← localAcceptanceHasExecution store sessionId then
    return none
  let acceptance ← localAcceptanceRetirementDelete store walletId sessionId
  let abandonment ← localAcceptanceAbandonmentRetirementDelete store walletId sessionId
  if nowUnix < record.negotiationExpiresAt ∧ abandonment.isNone then
    return none
  let offer ← loadLocalOfferForSession store walletId sessionId
  refuseIf ((acceptance.isSome ∧ offer.isSome) ∨ (abandonment.isSome ∧ acceptance.isNone))
    .corruptShakescapeDirectSwap
  let accepted ← acceptanceDeletes store policy record.offer.offerId acceptance
  return some ((.swapSession, ⟨row.id, row.revision⟩) :: accepted ++
    abandonment.toList.map fun delete => (EntityKind.shakescapeBoardObject, delete))

def retireSwaps (policy : ShakescapeDirectSwapPolicy) (walletId : WalletId) (nowUnix : UInt64)
    (store : WalletStore V) (removed : Nat) :
    List (StoredEntity PersistedShakescapeDirectSwap) → Except MarketError Nat × WalletStore V
  | [] => (.ok removed, store)
  | row :: rows =>
    match retirement store policy walletId nowUnix row with
    | .error e => (.error e, store)
    | .ok none => retireSwaps policy walletId nowUnix store removed rows
    | .ok (some deletes) =>
      match liftStore (store.deleteEntities deletes) with
      | .error e => (.error e, store)
      | .ok store => retireSwaps policy walletId nowUnix store (removed + 1) rows

def pruneExpiredUnownedShakescapeDirectSwaps :
    Except MarketError Nat × WalletStore V :=
  if nowUnix = 0 then
    (.error .invalidShakescapeDirectSwap, store)
  else
    match liftStore (store.listEntitiesByIdPrefix PersistedShakescapeDirectSwap .swapSession
        policy.recordPrefix maxEntityListResults) with
    | .error e => (.error e, store)
    | .ok stored => retireSwaps policy walletId nowUnix store 0 stored

def referencedDirectOfferIds :
    Except MarketError (List (Bytes 32)) := do
  let stored ← liftStore (store.listEntitiesByIdPrefix PersistedShakescapeDirectSwap .swapSession
    policy.recordPrefix maxEntityListResults)
  stored.mapM fun row => do return (← decodeStoredSwap policy row).offer.offerId

structure ShakescapeDirectMarketPruneReport where
  expiredUnownedSessionsRemoved : Nat
  terminalSessionHistoryRemoved : Nat
  expiredUnreferencedOffersRemoved : Nat
deriving DecidableEq

def pruneExpiredShakescapeDirectMarketState :
    Except MarketError ShakescapeDirectMarketPruneReport × WalletStore V :=
  if walletId.bytes.isZero ∨ nowUnix = 0 then
    (.error .invalidShakescapeDirectSwap, store)
  else
    match pruneExpiredUnownedShakescapeDirectSwaps store policy walletId nowUnix with
    | (.error e, store) => (.error e, store)
    | (.ok sessions, store) =>
      match localDirectOfferIds store walletId, referencedDirectOfferIds store policy with
      | .error e, _ => (.error e, store)
      | .ok _, .error e => (.error e, store)
      | .ok own, .ok referenced =>
        match pruneExpiredUnreferencedShakescapeDirectOffers store policy.boardPolicy
            (own ++ referenced) nowUnix with
        | (.error e, store) => (.error e, store)
        | (.ok offers, store) => (.ok ⟨sessions, 0, offers⟩, store)

/-! ## The lifecycle of the mobile wallet -/

def recoverExecutions (policy : ShakescapeDirectSwapPolicy) (nowUnix : UInt64)
    (store : WalletStore V) (recovered : Nat) :
    List ShakescapeDirectSwapRecord → Except MarketError Nat × WalletStore V
  | [] => (.ok recovered, store)
  | record :: records =>
    if record.hello.isNone then
      recoverExecutions policy nowUnix store recovered records
    else
      let sessionId : SessionId := ⟨record.acceptance.swapSessionId⟩
      match loadShakescapeExecution store policy sessionId with
      | .error e => (.error e, store)
      | .ok (some _) => recoverExecutions policy nowUnix store recovered records
      | .ok none =>
        match openShakescapeExecution store policy sessionId nowUnix with
        | .error e => (.error e, store)
        | .ok (store, _) => recoverExecutions policy nowUnix store (recovered + 1) records

def fundingExpired (execution : SwapSession) :
    Except MarketError Bool := do
  let expiredSecondFunder ←
    if execution.state = .firstFundingPending ∧ execution.firstFunding.isNone then
      isLocalShakescapeDirectTaker store walletId execution.id
    else .ok false
  if ¬ (execution.state = .termsFrozen ∨ execution.state = .refundsPrepared) ∧
      expiredSecondFunder = false then
    return false
  let loaded ← loadShakescapeDirectSwap store policy execution.id
  let record ← okOr loaded .corruptShakescapeDirectSwap
  let hello ← okOr record.hello .corruptShakescapeDirectSwap
  return hello.header.expiresAt < nowUnix

def failExpired (policy : ShakescapeDirectSwapPolicy) (nowUnix : UInt64) (store : WalletStore V) :
    List SessionId → Except MarketError Unit × WalletStore V
  | [] => (.ok (), store)
  | sessionId :: rest =>
    match openShakescapeExecution store policy sessionId nowUnix with
    | .error e => (.error e, store)
    | .ok (store, execution) =>
      match execution.apply (.terminalFailure prefundingDeadlineFailure) nowUnix
          (⟨store, shakescapeExecutionWorkflowId sessionId, nowUnix⟩ :
            WalletStoreJournal V) with
      | .error e => (.error e, store)
      | .ok (_, journal) => failExpired policy nowUnix journal.store rest

def offerUsedUp (offer : ShakescapeLocalDirectOffer) : Except MarketError Bool := do
  match ← loadShakescapeDirectSwap store policy offer.sessionId with
  | none => return false
  | some record => return record.hello.isSome ∨
      (record.acceptance.header.expiresAt ≤ nowUnix ∨
        record.proposal.any fun proposal => proposal.terms.header.expiresAt ≤ nowUnix)

def retireOffers (policy : ShakescapeDirectSwapPolicy) (walletId : WalletId) (nowUnix : UInt64)
    (store : WalletStore V) (retired : Nat) :
    List ShakescapeLocalDirectOffer → Except MarketError Nat × WalletStore V
  | [] => (.ok retired, store)
  | offer :: offers =>
    match offerUsedUp store policy nowUnix offer with
    | .error e => (.error e, store)
    | .ok false => retireOffers policy walletId nowUnix store retired offers
    | .ok true =>
      match cancelShakescapeLocalDirectOffer store policy.boardPolicy walletId
          offer.offer.offer.offerId nowUnix with
      | .error e => (.error e, store)
      | .ok store => retireOffers policy walletId nowUnix store (retired + 1) offers

def expiredExecutions : Except MarketError (List SessionId) := do
  let executions ← listShakescapeExecutions store policy
  let expired ← executions.mapM fun execution => do
    return if ← fundingExpired store policy walletId nowUnix execution then some execution.id
      else none
  return expired.reduceOption

inductive LifecycleError where
  | invalidShakescapeSessionMessage
  | market (error : MarketError)

def reconcileLifecycle : Except MarketError Nat × WalletStore V :=
  match loadShakescapeDirectSwaps store policy with
  | .error e => (.error e, store)
  | .ok records =>
    match recoverExecutions policy nowUnix store 0 records with
    | (.error e, store) => (.error e, store)
    | (.ok recovered, store) =>
      match expiredExecutions store policy walletId nowUnix with
      | .error e => (.error e, store)
      | .ok expired =>
        match failExpired policy nowUnix store expired with
        | (.error e, store) => (.error e, store)
        | (.ok (), store) =>
          match listLocalShakescapeDirectOffers store policy.boardPolicy walletId
              nowUnix with
          | .error e => (.error e, store)
          | .ok offers =>
            match retireOffers policy walletId nowUnix store 0 offers with
            | (.error e, store) => (.error e, store)
            | (.ok retired, store) => (.ok (recovered + expired.length + retired), store)

def reconcileDirectOfferLifecycle : Except LifecycleError Nat × WalletStore V :=
  if nowUnix = 0 then
    (.error .invalidShakescapeSessionMessage, store)
  else
    let (result, store) := reconcileLifecycle store policy walletId nowUnix
    (result.mapError .market, store)

end Maintenance

end HnsWallet
