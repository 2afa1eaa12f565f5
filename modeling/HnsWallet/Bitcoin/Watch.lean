import HnsWallet.Bitcoin.Transaction
import HnsWallet.Store.Batches

/-! # Watches over hash-time locks

A watch keeps what the chain shows of one lock: the transaction that funded it, the one that spent
it, and the preimage if it came out (`hns-wallet-bitcoin-kyoto/src/swap_watch.rs`). -/

namespace HnsWallet

open Lib

structure BitcoinCheckpoint where
  height : UInt32
  blockHash : Bytes 32
deriving DecidableEq

structure CheckPoint where
  tip : BitcoinCheckpoint
  below : List BitcoinCheckpoint
deriving DecidableEq

def CheckPoint.get (chain : CheckPoint) (height : UInt32) : Option (Bytes 32) :=
  ((chain.tip :: chain.below).find? fun checkpoint => checkpoint.height = height).map
    BitcoinCheckpoint.blockHash

structure MatchedSwapBlock where
  height : UInt32
  block : Block
deriving DecidableEq

structure BitcoinHtlcWatchRequest where
  sessionId : SessionId
  htlc : BitcoinHtlc
  expectedValueSats : UInt64
  minimumConfirmations : UInt32
deriving DecidableEq

structure PersistedBitcoinSwapObservation where
  txid : Bytes 32
  wtxid : Bytes 32
  blockHeight : UInt32
  blockHash : Bytes 32
  confirmationCount : UInt32
  outputIndex : UInt32
  branch : Option HtlcSpendBranch
  preimage : Option (Bytes 32)
  rawTransaction : List UInt8
deriving DecidableEq

structure PersistedBitcoinHtlcWatch where
  schemaVersion : UInt16
  network : BitcoinNetwork
  accountBinding : Bytes 32
  sessionId : SessionId
  termsCommitment : ObjectHash
  htlc : BitcoinHtlc
  expectedValueSats : UInt64
  minimumConfirmations : UInt32
  registeredCheckpoint : BitcoinCheckpoint
  scannedCheckpoint : BitcoinCheckpoint
  funding : Option PersistedBitcoinSwapObservation
  spend : Option PersistedBitcoinSwapObservation
  revealedPreimage : Option (Bytes 32)
deriving DecidableEq

structure BitcoinHtlcWatch where
  revision : UInt64
  persisted : PersistedBitcoinHtlcWatch

def bitcoinSwapWatchSchemaVersion : UInt16 := 1

def maxBitcoinSwapWatches : Nat := 256

def bitcoinSwapWatchPrefix : List UInt8 :=
  ascii "bitcoin-htlc-watch-v1\x00"

def bitcoinSwapWatchAccountDomain : List UInt8 :=
  ascii "hns-wallet-bitcoin-watch-account/v1\x00"

def bitcoinSwapWatchTermsDomain : List UInt8 :=
  ascii "hns-wallet-bitcoin-watch-terms/v1\x00"

def htlcCommitmentDomain : List UInt8 :=
  ascii "hns-wallet-bitcoin-htlc/v1"

section Watch

variable [Sha256] [BitcoinLibrary] [BlockLibrary]

open BlockLibrary

def htlcCommitment (htlc : BitcoinHtlc) : ObjectHash :=
  ⟨Sha256.digest (htlcCommitmentDomain ++ htlc.witnessScript)⟩

namespace BitcoinHtlcWatchRequest

variable (request : BitcoinHtlcWatchRequest)

def validate : Except BitcoinWalletError Unit := do
  request.htlc.validate
  refuseIf (request.sessionId.bytes.isZero ∨ request.expectedValueSats < minHtlcDustSats ∨
    request.minimumConfirmations = 0) .invalidSwapWatch

def termsCommitment : Except BitcoinWalletError ObjectHash := do
  request.validate
  return ⟨Sha256.digest (bitcoinSwapWatchTermsDomain ++ request.sessionId.bytes.toList ++
    (htlcCommitment request.htlc).bytes.toList ++ beBytes 8 request.expectedValueSats.toNat ++
    beBytes 4 request.minimumConfirmations.toNat)⟩

end BitcoinHtlcWatchRequest

def BitcoinCheckpoint.validate (checkpoint : BitcoinCheckpoint) (network : BitcoinNetwork) :
    Except BitcoinWalletError Unit := do
  refuseIf checkpoint.blockHash.isZero .invalidCheckpoint
  refuseIf (checkpoint.height = 0 ∧ checkpoint.blockHash ≠ genesisHash network) .networkMismatch

def accountBinding (network : BitcoinNetwork) (accountId : List UInt8) :
    Except BitcoinWalletError (Bytes 32) := do
  refuseIf (accountId = [] ∨ maxRecordIdBytes < accountId.length) .invalidSwapWatch
  return Sha256.digest (bitcoinSwapWatchAccountDomain ++ network.magic.toList ++
    beBytes 8 accountId.length ++ accountId)

def watchPrefix (binding : Bytes 32) : RecordId :=
  bitcoinSwapWatchPrefix ++ binding.toList

def watchId (binding : Bytes 32) (sessionId : SessionId) : RecordId :=
  watchPrefix binding ++ sessionId.bytes.toList

def confirmationCount (tipHeight blockHeight : UInt32) : Except BitcoinWalletError UInt32 :=
  okOr (if tipHeight < blockHeight then none
    else toU32 (tipHeight.toNat - blockHeight.toNat + 1)) .invalidEvidence

def validateMatchedBlock (matched : MatchedSwapBlock) : Except BitcoinWalletError Unit :=
  refuseIf ((blockHash matched.block).isZero ∨ checkMerkleRoot matched.block = false ∨
    checkWitnessCommitment matched.block = false) .invalidEvidence

def observationConflictsWithChain (chain : CheckPoint)
    (observation : PersistedBitcoinSwapObservation) : Bool :=
  (chain.get observation.blockHeight).any fun hash => hash ≠ observation.blockHash

def validateObservation (observation : PersistedBitcoinSwapObservation) :
    Except BitcoinWalletError Unit := do
  refuseIf (observation.txid.isZero ∨ observation.wtxid.isZero ∨ observation.blockHash.isZero ∨
    observation.confirmationCount = 0 ∨ observation.rawTransaction = []) .corruptSwapWatch
  let transaction ← okOr (deserialize observation.rawTransaction) .corruptSwapWatch
  refuseIf (serialize transaction ≠ observation.rawTransaction ∨
    computeTxid transaction ≠ observation.txid ∨
    computeWtxid transaction ≠ observation.wtxid) .corruptSwapWatch

namespace PersistedBitcoinHtlcWatch

variable (watch : PersistedBitcoinHtlcWatch)

def request : BitcoinHtlcWatchRequest :=
  ⟨watch.sessionId, watch.htlc, watch.expectedValueSats, watch.minimumConfirmations⟩

def lock (funding : PersistedBitcoinSwapObservation) : VerifiedBitcoinLock :=
  ⟨funding.txid, funding.outputIndex, watch.expectedValueSats, funding.confirmationCount,
    watch.htlc⟩

def validateFunding (funding : PersistedBitcoinSwapObservation) :
    Except BitcoinWalletError Unit := do
  validateObservation funding
  refuseIf (funding.branch.isSome ∨ funding.preimage.isSome ∨
    funding.blockHeight < watch.registeredCheckpoint.height) .corruptSwapWatch
  let confirmations ← confirmationCount watch.scannedCheckpoint.height funding.blockHeight
  refuseIf (confirmations ≠ funding.confirmationCount) .corruptSwapWatch
  let verified ← verifyHtlcFunding funding.rawTransaction watch.htlc watch.expectedValueSats
    funding.confirmationCount 0
  refuseIf (verified.fundingTxid ≠ funding.txid ∨ verified.outputIndex ≠ funding.outputIndex)
    .corruptSwapWatch

def validateSpend (funding spend : PersistedBitcoinSwapObservation) :
    Except BitcoinWalletError Unit := do
  validateObservation spend
  let confirmations ← confirmationCount watch.scannedCheckpoint.height spend.blockHeight
  refuseIf (confirmations ≠ spend.confirmationCount) .corruptSwapWatch
  let branch ← okOr spend.branch .corruptSwapWatch
  let verified ← verifyObservedBitcoinHtlcSpend spend.rawTransaction (watch.lock funding) branch
  refuseIf (verified.txid ≠ spend.txid ∨ verified.wtxid ≠ spend.wtxid ∨
    verified.revealedPreimage ≠ spend.preimage ∨
    (∃ preimage ∈ spend.preimage, watch.revealedPreimage ≠ some preimage) ∨
    spend.blockHeight < funding.blockHeight) .corruptSwapWatch

end PersistedBitcoinHtlcWatch

def validatePersistedWatch (network : BitcoinNetwork) (binding : Bytes 32)
    (watch : PersistedBitcoinHtlcWatch) : Except BitcoinWalletError Unit := do
  refuseIf (watch.schemaVersion ≠ bitcoinSwapWatchSchemaVersion ∨ watch.network ≠ network ∨
    watch.accountBinding ≠ binding) .corruptSwapWatch
  let commitment ← watch.request.termsCommitment
  refuseIf (watch.termsCommitment ≠ commitment ∨
    watch.scannedCheckpoint.height < watch.registeredCheckpoint.height ∨
    (watch.spend.isSome ∧ watch.funding.isNone) ∨
    ∃ preimage ∈ watch.revealedPreimage, Sha256.digest preimage.toList ≠ watch.htlc.hashlock)
    .corruptSwapWatch
  watch.registeredCheckpoint.validate network
  watch.scannedCheckpoint.validate network
  watch.funding.forM watch.validateFunding
  match watch.funding, watch.spend with
  | some funding, some spend => watch.validateSpend funding spend
  | _, _ => .ok ()

def decodeWatch (network : BitcoinNetwork) (binding : Bytes 32)
    (stored : StoredEntity PersistedBitcoinHtlcWatch) :
    Except BitcoinWalletError BitcoinHtlcWatch := do
  refuseIf (stored.id ≠ watchId binding stored.value.sessionId) .corruptSwapWatch
  validatePersistedWatch network binding stored.value
  return ⟨stored.revision, stored.value⟩

structure VerifiedBitcoinHtlcSpendObservation where
  spend : VerifiedBitcoinHtlcChainSpend
  confirmationCount : UInt32
deriving DecidableEq

namespace BitcoinHtlcWatch

variable (watch : BitcoinHtlcWatch) (currentCheckpoint : BitcoinCheckpoint)

def verifiedLockAt : Option VerifiedBitcoinLock := do
  let funding ← watch.persisted.funding
  if currentCheckpoint = watch.persisted.scannedCheckpoint ∧
      watch.persisted.minimumConfirmations ≤ funding.confirmationCount then
    some (watch.persisted.lock funding)
  else none

def verifiedSpendAt : Option VerifiedBitcoinHtlcSpendObservation := do
  if currentCheckpoint ≠ watch.persisted.scannedCheckpoint then none else
  let funding ← watch.persisted.funding
  let spend ← watch.persisted.spend
  let branch ← spend.branch
  let lock ← watch.verifiedLockAt currentCheckpoint
  let verified ← (verifyObservedBitcoinHtlcSpend spend.rawTransaction lock branch).toOption
  if verified.txid = spend.txid ∧ verified.wtxid = spend.wtxid ∧
      verified.revealedPreimage = spend.preimage ∧
      watch.persisted.minimumConfirmations ≤ funding.confirmationCount ∧
      spend.confirmationCount ≠ 0 then
    some ⟨verified, spend.confirmationCount⟩
  else none

end BitcoinHtlcWatch

variable {V : Type} [Encoded V] [Serde V PersistedBitcoinHtlcWatch] (store : WalletStore V)

def loadBitcoinHtlcWatch (network : BitcoinNetwork)
    (accountId : List UInt8) (sessionId : SessionId) :
    Except BitcoinWalletError (Option BitcoinHtlcWatch) := do
  let binding ← accountBinding network accountId
  let stored ← (store.loadEntity PersistedBitcoinHtlcWatch .bitcoinSwapWatch
    (watchId binding sessionId)).mapError .store
  stored.mapM (decodeWatch network binding)

def loadBitcoinHtlcWatches (network : BitcoinNetwork)
    (accountId : List UInt8) : Except BitcoinWalletError (List BitcoinHtlcWatch) := do
  let binding ← accountBinding network accountId
  let stored ← (store.listEntitiesByIdPrefix PersistedBitcoinHtlcWatch .bitcoinSwapWatch
    (watchPrefix binding) (maxBitcoinSwapWatches + 1)).mapError .store
  refuseIf (maxBitcoinSwapWatches < stored.length) .swapWatchCapacity
  stored.mapM (decodeWatch network binding)

def newWatch (network : BitcoinNetwork) (binding : Bytes 32) (request : BitcoinHtlcWatchRequest)
    (termsCommitment : ObjectHash) (checkpoint : BitcoinCheckpoint) :
    PersistedBitcoinHtlcWatch where
  schemaVersion := bitcoinSwapWatchSchemaVersion
  network := network
  accountBinding := binding
  sessionId := request.sessionId
  termsCommitment := termsCommitment
  htlc := request.htlc
  expectedValueSats := request.expectedValueSats
  minimumConfirmations := request.minimumConfirmations
  registeredCheckpoint := checkpoint
  scannedCheckpoint := checkpoint
  funding := none
  spend := none
  revealedPreimage := none

def registerBitcoinHtlcWatch (network : BitcoinNetwork)
    (accountId : List UInt8) (request : BitcoinHtlcWatchRequest) (checkpoint : BitcoinCheckpoint)
    (nowUnix : UInt64) : Except BitcoinWalletError (WalletStore V) := do
  request.validate
  checkpoint.validate network
  let binding ← accountBinding network accountId
  match ← loadBitcoinHtlcWatch store network accountId request.sessionId with
  | some existing =>
    let commitment ← request.termsCommitment
    refuseIf (¬ (existing.persisted.termsCommitment = commitment ∧
      existing.persisted.htlc = request.htlc ∧
      existing.persisted.expectedValueSats = request.expectedValueSats ∧
      existing.persisted.minimumConfirmations = request.minimumConfirmations))
      .swapWatchConflict
    return store
  | none =>
    let stored ← (store.listEntitiesByIdPrefix PersistedBitcoinHtlcWatch .bitcoinSwapWatch
      (watchPrefix binding) (maxBitcoinSwapWatches + 1)).mapError .store
    let _ ← stored.mapM (decodeWatch network binding)
    refuseIf (maxBitcoinSwapWatches ≤ stored.length) .swapWatchCapacity
    let commitment ← request.termsCommitment
    (store.applyEntityBatch .bitcoinSwapWatch [⟨watchId binding request.sessionId, 0,
      newWatch network binding request commitment checkpoint, nowUnix⟩] []).mapError .store

/-! ## Evidence in matched blocks -/

/-- A transaction with the block that holds it. -/
structure SeenTransaction where
  height : UInt32
  blockHash : Bytes 32
  transaction : Transaction

def fundingObservation (watch : PersistedBitcoinHtlcWatch) (tip : BitcoinCheckpoint)
    (seen : SeenTransaction) : Except BitcoinWalletError PersistedBitcoinSwapObservation := do
  let raw := serialize seen.transaction
  let confirmations ← confirmationCount tip.height seen.height
  let verified ← verifyHtlcFunding raw watch.htlc watch.expectedValueSats confirmations 0
  return {
    txid := verified.fundingTxid
    wtxid := computeWtxid seen.transaction
    blockHeight := seen.height
    blockHash := seen.blockHash
    confirmationCount := confirmations
    outputIndex := verified.outputIndex
    branch := none
    preimage := none
    rawTransaction := raw }

def fundsWatch (watch : PersistedBitcoinHtlcWatch) (transaction : Transaction) : Bool :=
  transaction.output.any (paysHtlc watch.htlc watch.expectedValueSats)

def fundingCandidatesIn (watch : PersistedBitcoinHtlcWatch) (tip : BitcoinCheckpoint)
    (matched : MatchedSwapBlock) :
    Except BitcoinWalletError (List PersistedBitcoinSwapObservation) :=
  if matched.height < watch.registeredCheckpoint.height then .ok []
  else do
    validateMatchedBlock matched
    (matched.block.txdata.filter (fundsWatch watch)).mapM fun transaction =>
      fundingObservation watch tip ⟨matched.height, blockHash matched.block, transaction⟩

def fundingCandidates (watch : PersistedBitcoinHtlcWatch) (blocks : List MatchedSwapBlock)
    (tip : BitcoinCheckpoint) :
    Except BitcoinWalletError (List PersistedBitcoinSwapObservation) := do
  return (← blocks.mapM (fundingCandidatesIn watch tip)).flatten

def classifySpend (raw : List UInt8) (lock : VerifiedBitcoinLock) (transaction : Transaction) :
    Except BitcoinWalletError VerifiedBitcoinHtlcChainSpend :=
  match verifyObservedBitcoinHtlcSpend raw lock .redeem with
  | .ok verified => .ok verified
  | .error redeemError =>
    match verifyObservedBitcoinHtlcSpend raw lock .refund with
    | .ok verified => .ok verified
    | .error refundError => .error (.invalidSwapSpendEvidence (computeTxid transaction).toList
        redeemError refundError)

def spendObservation (lock : VerifiedBitcoinLock) (tip : BitcoinCheckpoint)
    (seen : SeenTransaction) : Except BitcoinWalletError PersistedBitcoinSwapObservation := do
  let raw := serialize seen.transaction
  let verified ← classifySpend raw lock seen.transaction
  let confirmations ← confirmationCount tip.height seen.height
  return {
    txid := verified.txid
    wtxid := verified.wtxid
    blockHeight := seen.height
    blockHash := seen.blockHash
    confirmationCount := confirmations
    outputIndex := 0
    branch := some verified.branch
    preimage := verified.revealedPreimage
    rawTransaction := raw }

def spendsOutput (outpoint : OutPoint) (transaction : Transaction) : Bool :=
  transaction.input.any fun input => input.previousOutput = outpoint

def spendCandidatesIn (lock : VerifiedBitcoinLock) (fundingHeight : UInt32)
    (tip : BitcoinCheckpoint) (matched : MatchedSwapBlock) :
    Except BitcoinWalletError (List PersistedBitcoinSwapObservation) :=
  if matched.height < fundingHeight then .ok []
  else do
    validateMatchedBlock matched
    (matched.block.txdata.filter (spendsOutput lock.outpoint)).mapM fun transaction =>
      spendObservation lock tip ⟨matched.height, blockHash matched.block, transaction⟩

def spendCandidates (watch : PersistedBitcoinHtlcWatch) (funding : PersistedBitcoinSwapObservation)
    (blocks : List MatchedSwapBlock) (tip : BitcoinCheckpoint) :
    Except BitcoinWalletError (List PersistedBitcoinSwapObservation) := do
  return (← blocks.mapM (spendCandidatesIn (watch.lock funding) funding.blockHeight tip)).flatten

def dropStale (chain : CheckPoint) (watch : PersistedBitcoinHtlcWatch) :
    PersistedBitcoinHtlcWatch × Bool :=
  if watch.funding.any (observationConflictsWithChain chain) then
    ({ watch with funding := none, spend := none }, true)
  else if watch.spend.any (observationConflictsWithChain chain) then
    ({ watch with spend := none }, true)
  else (watch, false)

def findFunding (blocks : List MatchedSwapBlock) (tip : BitcoinCheckpoint)
    (watch : PersistedBitcoinHtlcWatch) (changed : Bool) :
    Except BitcoinWalletError (PersistedBitcoinHtlcWatch × Bool) :=
  match watch.funding with
  | some _ => .ok (watch, changed)
  | none => do
    match ← fundingCandidates watch blocks tip with
    | [] => .ok (watch, changed)
    | [candidate] => .ok ({ watch with funding := some candidate }, true)
    | _ => .error .swapWatchConflict

def revealPreimage (known found : Option (Bytes 32)) :
    Except BitcoinWalletError (Option (Bytes 32)) :=
  match found with
  | none => .ok known
  | some preimage => do
    refuseIf (∃ other ∈ known, other ≠ preimage) .swapWatchConflict
    return some preimage

def findSpend (blocks : List MatchedSwapBlock) (tip : BitcoinCheckpoint)
    (watch : PersistedBitcoinHtlcWatch) (changed : Bool) :
    Except BitcoinWalletError (PersistedBitcoinHtlcWatch × Bool) :=
  match watch.spend, watch.funding with
  | none, some funding => do
    match ← spendCandidates watch funding blocks tip with
    | [] => .ok (watch, changed)
    | [candidate] =>
      let preimage ← revealPreimage watch.revealedPreimage candidate.preimage
      .ok ({ watch with spend := some candidate, revealedPreimage := preimage }, true)
    | _ => .error .swapWatchConflict
  | _, _ => .ok (watch, changed)

def recount (tip : BitcoinCheckpoint) (observation : PersistedBitcoinSwapObservation) :
    Except BitcoinWalletError PersistedBitcoinSwapObservation := do
  let confirmations ← confirmationCount tip.height observation.blockHeight
  return { observation with confirmationCount := confirmations }

def reconcileWatch (network : BitcoinNetwork) (binding : Bytes 32) (chain : CheckPoint)
    (tip : BitcoinCheckpoint) (blocks : List MatchedSwapBlock) (watch : PersistedBitcoinHtlcWatch) :
    Except BitcoinWalletError (PersistedBitcoinHtlcWatch × Bool) := do
  let (fresh, changed) := dropStale chain watch
  let (funded, changed) ← findFunding blocks tip fresh changed
  let (spent, changed) ← findSpend blocks tip funded changed
  let funding ← spent.funding.mapM (recount tip)
  let spend ← spent.spend.mapM (recount tip)
  let reconciled : PersistedBitcoinHtlcWatch :=
    { spent with funding, spend, scannedCheckpoint := tip }
  validatePersistedWatch network binding reconciled
  return (reconciled, changed || decide (reconciled ≠ spent))

def reconcileEach (network : BitcoinNetwork) (binding : Bytes 32) (chain : CheckPoint)
    (tip : BitcoinCheckpoint) (blocks : List MatchedSwapBlock) (nowUnix : UInt64)
    (store : WalletStore V) :
    List BitcoinHtlcWatch → WalletStore V × Except BitcoinWalletError Unit
  | [] => (store, .ok ())
  | watch :: rest =>
    match reconcileWatch network binding chain tip blocks watch.persisted with
    | .error error => (store, .error error)
    | .ok (_, false) =>
      reconcileEach network binding chain tip blocks nowUnix store rest
    | .ok (reconciled, true) =>
      match store.saveEntity .bitcoinSwapWatch (watchId binding reconciled.sessionId)
          watch.revision reconciled nowUnix with
      | .error error => (store, .error (.store error))
      | .ok (written, _) =>
        reconcileEach network binding chain tip blocks nowUnix written rest

def checkMatchedBlocks (chain : CheckPoint) : List MatchedSwapBlock →
    Except BitcoinWalletError Unit
  | [] => .ok ()
  | matched :: rest => do
    (validateMatchedBlock matched).mapError fun _ => .invalidSwapBlockEvidence
    refuseIf (chain.get matched.height ≠ some (blockHash matched.block))
      .invalidSwapBlockEvidence
    checkMatchedBlocks chain rest

def loadForReconciliation (network : BitcoinNetwork)
    (accountId : List UInt8) (chain : CheckPoint) (tip : BitcoinCheckpoint)
    (blocks : List MatchedSwapBlock) :
    Except BitcoinWalletError (Bytes 32 × List BitcoinHtlcWatch) := do
  tip.validate network
  refuseIf (chain.tip ≠ tip) .invalidCheckpoint
  checkMatchedBlocks chain blocks
  let binding ← accountBinding network accountId
  let watches ← loadBitcoinHtlcWatches store network accountId
  return (binding, watches)

def reconcileBitcoinHtlcWatches (network : BitcoinNetwork)
    (accountId : List UInt8) (chain : CheckPoint) (tip : BitcoinCheckpoint)
    (blocks : List MatchedSwapBlock) (nowUnix : UInt64) :
    WalletStore V × Except BitcoinWalletError Unit :=
  match loadForReconciliation store network accountId chain tip blocks with
  | .error error => (store, .error error)
  | .ok (binding, watches) =>
    reconcileEach network binding chain tip blocks nowUnix store watches

end Watch

end HnsWallet
