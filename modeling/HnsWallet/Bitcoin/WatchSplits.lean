import HnsWallet.Bitcoin.WatchLaws

/-! # What a watch shows is what the chain shows -/

namespace HnsWallet

open Lib

section Splits

/-! ## Transactions of the chain -/

variable {blocks : List MatchedSwapBlock} {minimum height : UInt32} {p : Transaction → Bool}
  {lock lock' : VerifiedBitcoinLock} {branch : HtlcSpendBranch}
  {verified : VerifiedBitcoinHtlcChainSpend} {watch : PersistedBitcoinHtlcWatch}
  {tip tip₀ : BitcoinCheckpoint} {event : SeenTransaction} {events : List SeenTransaction}
  {funding : PersistedBitcoinSwapObservation} {transaction : Transaction} {chain : CheckPoint}

def eventsFrom (minimum : UInt32) (p : Transaction → Bool) (events : List SeenTransaction) :
    List SeenTransaction :=
  events.filter fun event => minimum ≤ event.height ∧ p event.transaction

theorem eventsFrom_append (minimum : UInt32) (p : Transaction → Bool)
    (events events' : List SeenTransaction) :
    eventsFrom minimum p (events ++ events') =
      eventsFrom minimum p events ++ eventsFrom minimum p events' :=
  List.filter_append _ _

theorem mem_eventsFrom :
    event ∈ eventsFrom minimum p events ↔
      event ∈ events ∧ minimum ≤ event.height ∧ p event.transaction = true := by
  simp [eventsFrom]

def Unreplaced (chain : CheckPoint) (events : List SeenTransaction) : Prop :=
  ∀ event ∈ events, ∀ hash ∈ chain.get event.height, hash = event.blockHash

theorem not_conflicts {observation : PersistedBitcoinSwapObservation}
    (h : Unreplaced chain events) (hmem : event ∈ events)
    (hheight : observation.blockHeight = event.height)
    (hhash : observation.blockHash = event.blockHash) :
    observationConflictsWithChain chain observation = false := by
  unfold observationConflictsWithChain
  rw [hheight, hhash]
  cases hget : chain.get event.height with
  | none => rfl
  | some hash =>
    have hsame := h event hmem hash hget
    simp [hsame]

theorem single_zipIdx {p : TxOut → Bool} (h : (transaction.output.filter p).length = 1) :
    ∃ output index, transaction.output.zipIdx.filter (fun entry => p entry.1) = [(output, index)] ∧
      index < transaction.output.length := by
  have hlength : (transaction.output.zipIdx.filter fun entry => p entry.1).length = 1 := by
    rw [← h, ← List.countP_eq_length_filter, ← List.countP_eq_length_filter,
      ← List.zipIdx_map_fst 0 transaction.output, List.countP_map, List.zipIdx_map_fst]
    rfl
  obtain ⟨⟨output, index⟩, hentry⟩ := List.length_eq_one_iff.1 hlength
  refine ⟨output, index, hentry, ?_⟩
  have hmem : (output, index) ∈ transaction.output.zipIdx.filter fun entry => p entry.1 := by
    rw [hentry]
    exact List.mem_singleton.2 rfl
  exact List.snd_lt_of_mem_zipIdx (List.mem_of_mem_filter hmem)

theorem eq_singleton_of_length_le {T : Type} {l : List T} {a : T} {rest : List T}
    (hl : l = a :: rest) (hone : l.length ≤ 1) : l = [a] := by
  subst hl
  have hrest : rest.length = 0 := by
    rw [List.length_cons] at hone
    omega
  rw [List.length_eq_zero_iff.1 hrest]

def confirmations (tip : BitcoinCheckpoint) (height : UInt32) : UInt32 :=
  (confirmationCount tip.height height).toOption.getD 0

def BitcoinCheckpoint.Counts (tip : BitcoinCheckpoint) (height : UInt32) : Prop :=
  height ≤ tip.height ∧ tip.height.toNat + 1 < UInt32.size

theorem confirmationCount_ok (hcounts : tip.Counts height) :
    confirmationCount tip.height height = .ok (confirmations tip height) := by
  obtain ⟨count, hcount⟩ : ∃ count, confirmationCount tip.height height = .ok count := by
    unfold confirmationCount
    rw [if_neg (UInt32.not_lt.2 hcounts.1), toU32, if_pos (by have := hcounts.2; omega)]
    exact ⟨_, rfl⟩
  rw [confirmations, hcount]
  rfl

theorem confirmations_ne_zero (hcounts : tip.Counts height) : confirmations tip height ≠ 0 := by
  have hcount := (confirmationCount_eq_ok (confirmationCount_ok hcounts)).2
  intro hzero
  rw [hzero] at hcount
  simp at hcount

def fundings (watch : PersistedBitcoinHtlcWatch) (events : List SeenTransaction) :
    List SeenTransaction :=
  eventsFrom watch.registeredCheckpoint.height (fundsWatch watch) events

def spends (lock : VerifiedBitcoinLock) (height : UInt32) (events : List SeenTransaction) :
    List SeenTransaction :=
  eventsFrom height (spendsOutput lock.outpoint) events

theorem mem_of_fundings (h : fundings watch events = [event]) :
    event ∈ events ∧ watch.registeredCheckpoint.height ≤ event.height := by
  have hmem : event ∈ fundings watch events := by
    rw [h]
    exact List.mem_singleton.2 rfl
  obtain ⟨hmem, hheight, -⟩ := mem_eventsFrom.1 hmem
  exact ⟨hmem, hheight⟩

theorem mem_of_spends (h : spends lock height events = [event]) :
    event ∈ events ∧ height ≤ event.height := by
  have hmem : event ∈ spends lock height events := by
    rw [h]
    exact List.mem_singleton.2 rfl
  obtain ⟨hmem, hheight, -⟩ := mem_eventsFrom.1 hmem
  exact ⟨hmem, hheight⟩

variable [BlockLibrary]

open BlockLibrary

def eventsOf (blocks : List MatchedSwapBlock) : List SeenTransaction :=
  blocks.flatMap fun matched =>
    matched.block.txdata.map fun transaction =>
      ⟨matched.height, blockHash matched.block, transaction⟩

theorem eventsOf_append (blocks blocks' : List MatchedSwapBlock) :
    eventsOf (blocks ++ blocks') = eventsOf blocks ++ eventsOf blocks' := by
  simp [eventsOf]

theorem mem_eventsOf :
    event ∈ eventsOf blocks ↔ ∃ matched ∈ blocks, ∃ transaction ∈ matched.block.txdata,
      event = ⟨matched.height, blockHash matched.block, transaction⟩ := by
  simp only [eventsOf, List.mem_flatMap, List.mem_map, eq_comm]

theorem candidates_eq
    {observe : SeenTransaction → Except BitcoinWalletError PersistedBitcoinSwapObservation}
    (hvalid : ∀ matched ∈ blocks, validateMatchedBlock matched = .ok ()) :
    (do return (← blocks.mapM fun matched =>
      if matched.height < minimum then .ok []
      else do
        validateMatchedBlock matched
        (matched.block.txdata.filter p).mapM fun transaction =>
          observe ⟨matched.height, blockHash matched.block, transaction⟩).flatten) =
      (eventsFrom minimum p (eventsOf blocks)).mapM observe := by
  induction blocks with
  | nil => rfl
  | cons first rest ih =>
    obtain ⟨hfirst, hrest⟩ := List.forall_mem_cons.1 hvalid
    have hone : (if first.height < minimum then
          (.ok [] : Except BitcoinWalletError (List PersistedBitcoinSwapObservation))
        else do
          validateMatchedBlock first
          (first.block.txdata.filter p).mapM fun transaction =>
            observe ⟨first.height, blockHash first.block, transaction⟩) =
        (eventsFrom minimum p (eventsOf [first])).mapM observe := by
      split
      next hlow =>
        have hnone : eventsFrom minimum p (eventsOf [first]) = [] := by
          refine List.filter_eq_nil_iff.2 fun event hevent => ?_
          obtain ⟨matched, hmatched, transaction, -, rfl⟩ := mem_eventsOf.1 hevent
          rw [List.mem_singleton.1 hmatched]
          simp [UInt32.not_le.2 hlow]
        rw [hnone]
        rfl
      next hhigh =>
        rw [hfirst]
        have hsome : eventsFrom minimum p (eventsOf [first]) = (first.block.txdata.filter p).map
            fun transaction => ⟨first.height, blockHash first.block, transaction⟩ := by
          simp [eventsFrom, eventsOf, List.filter_map, Function.comp_def, UInt32.not_lt.1 hhigh]
        rw [hsome, List.mapM_map]
        rfl
    rw [show first :: rest = [first] ++ rest from rfl, eventsOf_append, eventsFrom_append,
      List.mapM_append, List.mapM_append, ← ih hrest, ← hone]
    simp

/-! ## The evidence of a watch -/

def fundingRecord (tip : BitcoinCheckpoint) (event : SeenTransaction) (index : UInt32) :
    PersistedBitcoinSwapObservation :=
  ⟨computeTxid event.transaction, computeWtxid event.transaction, event.height, event.blockHash,
    confirmations tip event.height, index, none, none, serialize event.transaction⟩

def spendRecord (tip : BitcoinCheckpoint) (event : SeenTransaction)
    (verified : VerifiedBitcoinHtlcChainSpend) : PersistedBitcoinSwapObservation :=
  ⟨verified.txid, verified.wtxid, event.height, event.blockHash, confirmations tip event.height, 0,
    some verified.branch, verified.revealedPreimage, serialize event.transaction⟩

theorem recount_fundingRecord {index : UInt32} (hcounts : tip.Counts event.height) :
    recount tip (fundingRecord tip₀ event index) = .ok (fundingRecord tip event index) := by
  simp only [recount, ok_iff]
  exact ⟨_, confirmationCount_ok hcounts, rfl⟩

theorem recount_spendRecord (hcounts : tip.Counts event.height) :
    recount tip (spendRecord tip₀ event verified) = .ok (spendRecord tip event verified) := by
  simp only [recount, ok_iff]
  exact ⟨_, confirmationCount_ok hcounts, rfl⟩

variable [BitcoinLibrary]

theorem fundingCandidates_eq
    (hvalid : ∀ matched ∈ blocks, validateMatchedBlock matched = .ok ()) :
    fundingCandidates watch blocks tip =
      (fundings watch (eventsOf blocks)).mapM (fundingObservation watch tip) := by
  rw [fundings, ← candidates_eq hvalid]
  rfl

/-! ## Recognised evidence -/

structure Readable (transaction : Transaction) : Prop where
  decoded : deserialize (serialize transaction) = some transaction
  txid : (computeTxid transaction).isZero = false
  wtxid : (computeWtxid transaction).isZero = false

structure SoundFunding (watch : PersistedBitcoinHtlcWatch) (transaction : Transaction) :
    Prop where
  readable : Readable transaction
  nonempty : serialize transaction ≠ []
  size : (serialize transaction).length ≤ maxBitcoinTransactionBytes
  outputs : transaction.output.length < UInt32.size
  single : (transaction.output.filter (paysHtlc watch.htlc watch.expectedValueSats)).length = 1

abbrev PaysAt (watch : PersistedBitcoinHtlcWatch) (event : SeenTransaction) (index : UInt32) :
    Prop :=
  ∀ confirmations, verifyHtlcFunding (serialize event.transaction) watch.htlc
    watch.expectedValueSats confirmations 0 = .ok ⟨computeTxid event.transaction, index,
      watch.expectedValueSats, confirmations, watch.htlc⟩

theorem SoundFunding.verify (h : SoundFunding watch event.transaction)
    (hhtlc : watch.htlc.validate = .ok ())
    (hvalue : minHtlcDustSats ≤ watch.expectedValueSats) : ∃ index, PaysAt watch event index := by
  obtain ⟨output, index, hfilter, hindex⟩ := single_zipIdx h.single
  obtain ⟨word, hword⟩ : ∃ word, toU32 index = some word := by
    rw [toU32, if_pos (hindex.trans h.outputs)]
    exact ⟨_, rfl⟩
  refine ⟨word, fun confirmations => ?_⟩
  simp only [verifyHtlcFunding, ok_iff, not_or, not_lt, UInt64.not_lt]
  refine ⟨(), ⟨h.nonempty, h.size⟩, (), ⟨hvalue, ?_⟩, (), hhtlc, event.transaction,
    h.readable.decoded, ?_⟩
  · simp
  · rw [hfilter]
    simp only [ok_iff]
    exact ⟨word, hword, rfl⟩

theorem fundingObservation_eq {index : UInt32} (hverify : PaysAt watch event index)
    (hcounts : tip.Counts event.height) :
    fundingObservation watch tip event = .ok (fundingRecord tip event index) := by
  simp only [fundingObservation, ok_iff]
  exact ⟨_, confirmationCount_ok hcounts, _, hverify _, rfl⟩

variable [Sha256]

theorem spendCandidates_eq
    (hvalid : ∀ matched ∈ blocks, validateMatchedBlock matched = .ok ()) :
    spendCandidates watch funding blocks tip =
      (spends (watch.lock funding) funding.blockHeight (eventsOf blocks)).mapM
        (spendObservation (watch.lock funding) tip) := by
  rw [spends, ← candidates_eq hvalid]
  rfl

structure Recognised (watch : PersistedBitcoinHtlcWatch) (events : List SeenTransaction) :
    Prop where
  oneFunding : (fundings watch events).length ≤ 1
  funding : ∀ event ∈ fundings watch events, SoundFunding watch event.transaction
  oneSpend : ∀ event ∈ fundings watch events, ∀ lock,
    verifyHtlcFunding (serialize event.transaction) watch.htlc watch.expectedValueSats 0 0 =
      .ok lock → (spends lock event.height events).length ≤ 1
  spend : ∀ event ∈ fundings watch events, ∀ lock,
    verifyHtlcFunding (serialize event.transaction) watch.htlc watch.expectedValueSats 0 0 =
      .ok lock → ∀ spending ∈ spends lock event.height events,
        Readable spending.transaction ∧ ∃ verified,
          classifySpend (serialize spending.transaction) lock spending.transaction = .ok verified

variable {raw : List UInt8}

theorem verifyObserved_congr (htxid : lock'.fundingTxid = lock.fundingTxid)
    (hindex : lock'.outputIndex = lock.outputIndex) (hvalue : lock'.valueSats = lock.valueSats)
    (hhtlc : lock'.htlc = lock.htlc) :
    verifyObservedBitcoinHtlcSpend raw lock' branch =
      verifyObservedBitcoinHtlcSpend raw lock branch := by
  unfold verifyObservedBitcoinHtlcSpend checkSpendSignature VerifiedBitcoinLock.outpoint
  rw [htxid, hindex, hvalue, hhtlc]

theorem classifySpend_eq_ok (h : classifySpend raw lock transaction = .ok verified) :
    verifyObservedBitcoinHtlcSpend raw lock verified.branch = .ok verified := by
  have hbranch : ∀ branch found, verifyObservedBitcoinHtlcSpend raw lock branch = .ok found →
      found.branch = branch := by
    intro branch found hfound
    simp only [verifyObservedBitcoinHtlcSpend, ok_iff] at hfound
    obtain ⟨_, -, _, -, decoded, -, _, -, hfound⟩ := hfound
    split at hfound
    next =>
      simp only [ok_iff] at hfound
      obtain ⟨_, -, _, -, hret⟩ := hfound
      cases hret
      rfl
    next => cases hfound
  unfold classifySpend at h
  split at h
  next found hredeem =>
    cases h
    rw [hbranch _ _ hredeem]
    exact hredeem
  next =>
    split at h
    next found hrefund =>
      cases h
      rw [hbranch _ _ hrefund]
      exact hrefund
    next => cases h

theorem verifyObserved_eq_ok (h : verifyObservedBitcoinHtlcSpend raw lock branch = .ok verified) :
    raw ≠ [] ∧ (∃ transaction, deserialize raw = some transaction ∧
      verified.txid = computeTxid transaction ∧ verified.wtxid = computeWtxid transaction) ∧
    verified.branch = branch ∧
    ∀ preimage, verified.revealedPreimage = some preimage →
      Sha256.digest preimage.toList = lock.htlc.hashlock := by
  simp only [verifyObservedBitcoinHtlcSpend, ok_iff, not_or] at h
  obtain ⟨_, ⟨hraw, -⟩, _, -, transaction, hdecoded, _, -, h⟩ := h
  split at h
  next input index hinputs =>
    simp only [ok_iff] at h
    obtain ⟨⟨signature, key, preimage⟩, hwitness, _, -, hret⟩ := h
    cases hret
    refine ⟨hraw, ⟨transaction, hdecoded, rfl, rfl⟩, rfl, fun revealed hrevealed => ?_⟩
    cases branch with
    | redeem =>
      simp only [spendWitness, ok_iff] at hwitness
      obtain ⟨⟨found, secret⟩, hredeem, hret⟩ := hwitness
      cases hret
      cases hrevealed
      unfold redeemWitness at hredeem
      split at hredeem
      next =>
        simp only [ok_iff, ne_eq, not_not] at hredeem
        obtain ⟨_, -, _, -, preimage, -, _, hdigest, hret⟩ := hredeem
        cases hret
        exact hdigest
      next => cases hredeem
    | refund =>
      simp only [spendWitness, ok_iff] at hwitness
      obtain ⟨_, -, found, -, hret⟩ := hwitness
      cases hret
      cases hrevealed
  next => cases h

/-! ## The three stages of a watch -/

inductive LockStage where
  | unfunded
  | funded (event : SeenTransaction) (index : UInt32)
  | spent (event : SeenTransaction) (index : UInt32) (spending : SeenTransaction)
      (verified : VerifiedBitcoinHtlcChainSpend)

def lockOf (watch : PersistedBitcoinHtlcWatch) (event : SeenTransaction) (index : UInt32) :
    VerifiedBitcoinLock :=
  ⟨computeTxid event.transaction, index, watch.expectedValueSats, 0, watch.htlc⟩

def LockStage.toWatch (watch : PersistedBitcoinHtlcWatch) (tip : BitcoinCheckpoint) :
    LockStage → PersistedBitcoinHtlcWatch
  | .unfunded => { watch with
      funding := none, spend := none, revealedPreimage := none, scannedCheckpoint := tip }
  | .funded event index => { watch with
      funding := some (fundingRecord tip event index)
      spend := none
      revealedPreimage := none
      scannedCheckpoint := tip }
  | .spent event index spending verified => { watch with
      funding := some (fundingRecord tip event index)
      spend := some (spendRecord tip spending verified)
      revealedPreimage := verified.revealedPreimage
      scannedCheckpoint := tip }

inductive AtStage (watch : PersistedBitcoinHtlcWatch) (events : List SeenTransaction) :
    LockStage → Prop where
  | unfunded (hfundings : fundings watch events = []) : AtStage watch events .unfunded
  | funded {event index} (hfundings : fundings watch events = [event])
      (hsound : SoundFunding watch event.transaction)
      (hverify : PaysAt watch event index)
      (hspends : spends (lockOf watch event index) event.height events = []) :
      AtStage watch events (.funded event index)
  | spent {event index spending verified} (hfundings : fundings watch events = [event])
      (hsound : SoundFunding watch event.transaction)
      (hverify : PaysAt watch event index)
      (hspends : spends (lockOf watch event index) event.height events = [spending])
      (hreadable : Readable spending.transaction)
      (hclassify : classifySpend (serialize spending.transaction) (lockOf watch event index)
        spending.transaction = .ok verified) :
      AtStage watch events (.spent event index spending verified)

theorem classifySpend_congr (htxid : lock'.fundingTxid = lock.fundingTxid)
    (hindex : lock'.outputIndex = lock.outputIndex) (hvalue : lock'.valueSats = lock.valueSats)
    (hhtlc : lock'.htlc = lock.htlc) :
    classifySpend raw lock' transaction = classifySpend raw lock transaction := by
  unfold classifySpend
  rw [verifyObserved_congr htxid hindex hvalue hhtlc, verifyObserved_congr htxid hindex
    hvalue hhtlc]

theorem spendObservation_eq
    (hclassify : classifySpend (serialize event.transaction) lock event.transaction = .ok verified)
    (hcounts : tip.Counts event.height) :
    spendObservation lock tip event = .ok (spendRecord tip event verified) := by
  simp only [spendObservation, ok_iff]
  exact ⟨verified, hclassify, _, confirmationCount_ok hcounts, rfl⟩

variable {index : UInt32} {stage : LockStage}

theorem Recognised.atStage (h : Recognised watch events) (hhtlc : watch.htlc.validate = .ok ())
    (hvalue : minHtlcDustSats ≤ watch.expectedValueSats) :
    ∃ stage, AtStage watch events stage := by
  rcases hfundings : fundings watch events with _ | ⟨event, rest⟩
  · exact ⟨.unfunded, .unfunded hfundings⟩
  · have hmem : event ∈ fundings watch events := by
      rw [hfundings]
      exact List.mem_cons_self
    have hfundings := eq_singleton_of_length_le hfundings h.oneFunding
    have hsound := h.funding event hmem
    obtain ⟨index, hverify⟩ := hsound.verify hhtlc hvalue
    have hone := h.oneSpend event hmem (lockOf watch event index) (hverify 0)
    have hclassified := h.spend event hmem (lockOf watch event index) (hverify 0)
    rcases hspends : spends (lockOf watch event index) event.height events with _ | ⟨spending, more⟩
    · exact ⟨.funded event index, .funded hfundings hsound hverify hspends⟩
    · have hmem' : spending ∈ spends (lockOf watch event index) event.height events := by
        rw [hspends]
        exact List.mem_cons_self
      obtain ⟨hreadable, verified, hclassify⟩ := hclassified spending hmem'
      exact ⟨.spent event index spending verified, .spent hfundings hsound hverify
        (eq_singleton_of_length_le hspends hone) hreadable hclassify⟩

/-! ## Stages are sound rows -/

variable {network : BitcoinNetwork} {binding : Bytes 32}

structure FreshWatch (network : BitcoinNetwork) (binding : Bytes 32)
    (watch : PersistedBitcoinHtlcWatch) : Prop where
  valid : validatePersistedWatch network binding watch = .ok ()
  unfunded : watch.funding = none
  unspent : watch.spend = none
  unrevealed : watch.revealedPreimage = none

theorem validatePersistedWatch_terms (h : validatePersistedWatch network binding watch = .ok ()) :
    watch.htlc.validate = .ok () ∧ minHtlcDustSats ≤ watch.expectedValueSats := by
  simp only [validatePersistedWatch, BitcoinHtlcWatchRequest.termsCommitment,
    BitcoinHtlcWatchRequest.validate, ok_iff, not_or, UInt64.not_lt] at h
  obtain ⟨_, -, _, ⟨_, ⟨_, hhtlc, -, hvalue, -⟩, -⟩, -⟩ := h
  exact ⟨hhtlc, hvalue⟩

structure Covers (network : BitcoinNetwork) (watch : PersistedBitcoinHtlcWatch)
    (events : List SeenTransaction) (tip : BitcoinCheckpoint) : Prop where
  valid : tip.validate network = .ok ()
  registered : watch.registeredCheckpoint.height ≤ tip.height
  counts : ∀ event ∈ events, tip.Counts event.height

def Hashed (events : List SeenTransaction) : Prop :=
  ∀ event ∈ events, event.blockHash.isZero = false

omit [Sha256] in
theorem validateFunding_record {row : PersistedBitcoinHtlcWatch}
    (hsound : SoundFunding watch event.transaction)
    (hverify : PaysAt watch event index)
    (hhash : event.blockHash.isZero = false)
    (hregistered : watch.registeredCheckpoint.height ≤ event.height)
    (hcounts : tip.Counts event.height)
    (hrow : row.htlc = watch.htlc ∧ row.expectedValueSats = watch.expectedValueSats ∧
      row.registeredCheckpoint = watch.registeredCheckpoint ∧ row.scannedCheckpoint = tip) :
    row.validateFunding (fundingRecord tip event index) = .ok () := by
  obtain ⟨hhtlc, hvalue, hcheckpoint, hscanned⟩ := hrow
  simp only [PersistedBitcoinHtlcWatch.validateFunding, validateObservation, fundingRecord, ok_iff,
    hhtlc, hvalue, hcheckpoint, hscanned]
  refine ⟨(), ⟨(), ?_, event.transaction, hsound.readable.decoded, ?_⟩, (), ?_, _,
    confirmationCount_ok hcounts, (), ?_, _, hverify _, ?_⟩
  · simp [refuseIf_eq_ok, hsound.readable.txid, hsound.readable.wtxid, hhash, confirmations_ne_zero
      hcounts,
      hsound.nonempty]
  · simp [refuseIf_eq_ok]
  · simp [UInt32.not_lt.2 hregistered]
  · simp [refuseIf_eq_ok]
  · simp [refuseIf_eq_ok]

theorem validateSpend_record {spending : SeenTransaction} {row : PersistedBitcoinHtlcWatch}
    (hreadable : Readable spending.transaction)
    (hclassify : classifySpend (serialize spending.transaction) (lockOf watch event index)
      spending.transaction = .ok verified) (hhash : spending.blockHash.isZero = false)
    (hafter : event.height ≤ spending.height) (hcounts : tip.Counts spending.height)
    (hrow : row.htlc = watch.htlc ∧ row.expectedValueSats = watch.expectedValueSats ∧
      row.revealedPreimage = verified.revealedPreimage ∧ row.scannedCheckpoint = tip) :
    row.validateSpend (fundingRecord tip event index) (spendRecord tip spending verified) =
      .ok () := by
  obtain ⟨hhtlc, hvalue, hpreimage, hscanned⟩ := hrow
  have hverified := classifySpend_eq_ok hclassify
  obtain ⟨hraw, ⟨transaction, hdecoded, htxid, hwtxid⟩, -, -⟩ := verifyObserved_eq_ok hverified
  obtain rfl := Option.some.inj (hreadable.decoded.symm.trans hdecoded)
  have hlock : verifyObservedBitcoinHtlcSpend (serialize spending.transaction)
      (row.lock (fundingRecord tip event index)) verified.branch = .ok verified := by
    rw [← hverified]
    refine verifyObserved_congr rfl rfl ?_ ?_
    · exact hvalue
    · exact hhtlc
  simp only [PersistedBitcoinHtlcWatch.validateSpend, validateObservation, spendRecord, ok_iff,
    hscanned]
  refine ⟨(), ⟨(), ?_, spending.transaction, hdecoded, ?_⟩, _, confirmationCount_ok hcounts, (),
    ?_, _, rfl, verified, hlock, ?_⟩
  · simp [refuseIf_eq_ok, htxid, hwtxid, hreadable.txid, hreadable.wtxid, hhash,
      confirmations_ne_zero hcounts,
      hraw]
  · simp [refuseIf_eq_ok, htxid, hwtxid]
  · simp [refuseIf_eq_ok]
  · simp [refuseIf_eq_ok, hpreimage, fundingRecord, UInt32.not_lt.2 hafter]

theorem AtStage.valid (hfresh : FreshWatch network binding watch)
    (hstage : AtStage watch events stage) (hcovers : Covers network watch events tip)
    (hhashed : Hashed events) :
    validatePersistedWatch network binding (stage.toWatch watch tip) = .ok () := by
  have hvalid := hfresh.valid
  simp only [validatePersistedWatch, ok_iff, not_or] at hvalid
  obtain ⟨_, hheader, commitment, hcommitment, _, ⟨hterms, -, -, -⟩, _, hregistered, -⟩ := hvalid
  have horder : ¬ tip.height < watch.registeredCheckpoint.height :=
    UInt32.not_lt.2 hcovers.registered
  simp only [validatePersistedWatch, ok_iff, not_or]
  cases hstage with
  | unfunded =>
    exact ⟨(), hheader, commitment, hcommitment, (),
      ⟨hterms, horder, by simp [LockStage.toWatch], by simp [LockStage.toWatch]⟩, (), hregistered,
      (), hcovers.valid, (), rfl, rfl⟩
  | @funded event index hfundings hsound hverify hspends =>
    obtain ⟨hmem, hheight⟩ := mem_of_fundings hfundings
    refine ⟨(), hheader, commitment, hcommitment, (),
      ⟨hterms, horder, by simp [LockStage.toWatch], by simp [LockStage.toWatch]⟩, (), hregistered,
      (), hcovers.valid, (), ?_, rfl⟩
    exact validateFunding_record hsound hverify (hhashed event hmem) hheight
      (hcovers.counts event hmem) ⟨rfl, rfl, rfl, rfl⟩
  | @spent event index spending verified hfundings hsound hverify hspends hreadable hclassify =>
    obtain ⟨hmem, hheight⟩ := mem_of_fundings hfundings
    obtain ⟨hmem', hafter⟩ := mem_of_spends hspends
    have hpreimage := (verifyObserved_eq_ok (classifySpend_eq_ok hclassify)).2.2.2
    refine ⟨(), hheader, commitment, hcommitment, (),
      ⟨hterms, horder, by simp [LockStage.toWatch], ?_⟩, (), hregistered,
      (), hcovers.valid, (), ?_, ?_⟩
    · rintro ⟨preimage, hrevealed, hne⟩
      exact hne (hpreimage preimage hrevealed)
    · exact validateFunding_record hsound hverify (hhashed event hmem) hheight
        (hcovers.counts event hmem) ⟨rfl, rfl, rfl, rfl⟩
    · exact validateSpend_record hreadable hclassify (hhashed spending hmem') hafter
        (hcovers.counts spending hmem') ⟨rfl, rfl, rfl, rfl⟩

variable {events₀ : List SeenTransaction} {stage₀ : LockStage} {row : PersistedBitcoinHtlcWatch}

theorem reconcileWatch_of_parts {funded spent target : PersistedBitcoinHtlcWatch} {c c' : Bool}
    {funding spend : Option PersistedBitcoinSwapObservation}
    (hdrop : dropStale chain row = (row, false))
    (hfunded : findFunding blocks tip row false = .ok (funded, c))
    (hspent : findSpend blocks tip funded c = .ok (spent, c'))
    (hfunding : spent.funding.mapM (recount tip) = .ok funding)
    (hspend : spent.spend.mapM (recount tip) = .ok spend)
    (htarget : { spent with funding, spend, scannedCheckpoint := tip } = target)
    (hvalid : validatePersistedWatch network binding target = .ok ()) :
    ∃ changed, reconcileWatch network binding chain tip blocks row = .ok (target, changed) := by
  subst htarget
  refine ⟨c' || decide ({ spent with
    funding, spend, scannedCheckpoint := tip } ≠ spent), ?_⟩
  simp only [reconcileWatch, hdrop, ok_iff]
  exact ⟨(funded, c), hfunded, (spent, c'), hspent, funding, hfunding, spend, hspend, (), hvalid,
    rfl⟩

theorem AtStage.dropStale_eq (hstage : AtStage watch events stage)
    (hkept : Unreplaced chain events) :
    dropStale chain (stage.toWatch watch tip) = (stage.toWatch watch tip, false) := by
  cases hstage with
  | unfunded => rfl
  | funded hfundings =>
    obtain ⟨hmem, -⟩ := mem_of_fundings hfundings
    simp [dropStale, LockStage.toWatch, not_conflicts hkept hmem, fundingRecord]
  | spent hfundings _ _ hspends =>
    obtain ⟨hmem, -⟩ := mem_of_fundings hfundings
    obtain ⟨hmem', -⟩ := mem_of_spends hspends
    simp [dropStale, LockStage.toWatch, not_conflicts hkept hmem, not_conflicts hkept hmem',
      fundingRecord, spendRecord]

def fundedRow (watch : PersistedBitcoinHtlcWatch) (scanned tip : BitcoinCheckpoint)
    (event : SeenTransaction) (index : UInt32) : PersistedBitcoinHtlcWatch :=
  { watch with
    funding := some (fundingRecord tip event index)
    spend := none
    revealedPreimage := none
    scannedCheckpoint := scanned }

omit [Sha256] in
theorem findFunding_none (hblocks : ∀ matched ∈ blocks, validateMatchedBlock matched = .ok ())
    (hnone : fundings watch (eventsOf blocks) = []) :
    findFunding blocks tip (LockStage.unfunded.toWatch watch tip₀) false =
      .ok (LockStage.unfunded.toWatch watch tip₀, false) := by
  have hcandidates : fundingCandidates (LockStage.unfunded.toWatch watch tip₀) blocks tip =
      .ok [] := by
    rw [fundingCandidates_eq hblocks]
    change (fundings watch (eventsOf blocks)).mapM _ = _
    rw [hnone]
    rfl
  simp only [findFunding, LockStage.toWatch, ok_iff]
  exact ⟨[], hcandidates, rfl⟩

omit [Sha256] in
theorem findFunding_found (hblocks : ∀ matched ∈ blocks, validateMatchedBlock matched = .ok ())
    (hone : fundings watch (eventsOf blocks) = [event])
    (hverify : PaysAt watch event index)
    (hcounts : tip.Counts event.height) :
    findFunding blocks tip (LockStage.unfunded.toWatch watch tip₀) false =
      .ok (fundedRow watch tip₀ tip event index, true) := by
  have hcandidates : fundingCandidates (LockStage.unfunded.toWatch watch tip₀) blocks tip =
      .ok [fundingRecord tip event index] := by
    rw [fundingCandidates_eq hblocks]
    change (fundings watch (eventsOf blocks)).mapM (fundingObservation watch tip) = _
    rw [hone, List.mapM_cons, fundingObservation_eq hverify hcounts]
    rfl
  simp only [findFunding, LockStage.toWatch, ok_iff]
  exact ⟨[_], hcandidates, rfl⟩

section Found

variable {counted : BitcoinCheckpoint} {c : Bool}

theorem findSpend_none (hblocks : ∀ matched ∈ blocks, validateMatchedBlock matched = .ok ())
    (hnone : spends (lockOf watch event index) event.height (eventsOf blocks) = []) :
    findSpend blocks tip (fundedRow watch tip₀ counted event index) c =
      .ok (fundedRow watch tip₀ counted event index, c) := by
  have hcandidates : spendCandidates (fundedRow watch tip₀ counted event index)
      (fundingRecord counted event index) blocks tip = .ok [] := by
    rw [spendCandidates_eq hblocks]
    change (spends (lockOf watch event index) event.height (eventsOf blocks)).mapM _ = _
    rw [hnone]
    rfl
  simp only [findSpend, fundedRow, ok_iff]
  exact ⟨[], hcandidates, rfl⟩

theorem findSpend_found {spending : SeenTransaction} {verified : VerifiedBitcoinHtlcChainSpend}
    (hblocks : ∀ matched ∈ blocks, validateMatchedBlock matched = .ok ())
    (hone : spends (lockOf watch event index) event.height (eventsOf blocks) = [spending])
    (hclassify : classifySpend (serialize spending.transaction) (lockOf watch event index)
      spending.transaction = .ok verified)
    (hcounts : tip.Counts spending.height) :
    findSpend blocks tip (fundedRow watch tip₀ counted event index) c =
      .ok ({ fundedRow watch tip₀ counted event index with
        spend := some (spendRecord tip spending verified)
        revealedPreimage := verified.revealedPreimage }, true) := by
  have hlock : classifySpend (serialize spending.transaction)
      ((fundedRow watch tip₀ counted event index).lock (fundingRecord counted event index))
      spending.transaction = .ok verified :=
    (classifySpend_congr rfl rfl rfl rfl).trans hclassify
  have hcandidates : spendCandidates (fundedRow watch tip₀ counted event index)
      (fundingRecord counted event index) blocks tip = .ok [spendRecord tip spending verified] := by
    rw [spendCandidates_eq hblocks]
    change (spends (lockOf watch event index) event.height (eventsOf blocks)).mapM _ = _
    rw [hone, List.mapM_cons, spendObservation_eq hlock hcounts]
    rfl
  have hreveal : revealPreimage none verified.revealedPreimage = .ok verified.revealedPreimage := by
    unfold revealPreimage
    cases verified.revealedPreimage with
    | none => rfl
    | some preimage =>
      simp only [ok_iff]
      exact ⟨(), by simp, rfl⟩
  simp only [findSpend, fundedRow, ok_iff]
  refine ⟨[_], hcandidates, ?_⟩
  simp only [ok_iff]
  exact ⟨_, hreveal, rfl⟩

end Found

structure Advances (network : BitcoinNetwork) (binding : Bytes 32)
    (watch : PersistedBitcoinHtlcWatch) (events₀ : List SeenTransaction) (chain : CheckPoint)
    (tip : BitcoinCheckpoint) (blocks : List MatchedSwapBlock) : Prop where
  fresh : FreshWatch network binding watch
  valid : ∀ matched ∈ blocks, validateMatchedBlock matched = .ok ()
  covers : Covers network watch (events₀ ++ eventsOf blocks) tip
  hashed : Hashed (events₀ ++ eventsOf blocks)
  later : ∀ event ∈ events₀, ∀ next ∈ eventsOf blocks, event.height < next.height
  kept : Unreplaced chain events₀

theorem Advances.of_funded {counted : BitcoinCheckpoint} {c : Bool}
    (h : Advances network binding watch events₀ chain tip blocks)
    (hdrop : dropStale chain row = (row, false))
    (hfound : findFunding blocks tip row false = .ok (fundedRow watch tip₀ counted event index, c))
    (hunspent : spends (lockOf watch event index) event.height events₀ = [])
    (hstage : AtStage watch (events₀ ++ eventsOf blocks) stage)
    (hevent : (fundings watch (events₀ ++ eventsOf blocks)) = [event])
    (hverify : PaysAt watch event index) :
    ∃ changed, reconcileWatch network binding chain tip blocks row =
      .ok (stage.toWatch watch tip, changed) := by
  have hvalid := hstage.valid h.fresh h.covers h.hashed
  have hcounts := h.covers.counts event (mem_of_fundings hevent).1
  have hrecount : recount tip (fundingRecord counted event index) =
      .ok (fundingRecord tip event index) := recount_fundingRecord hcounts
  cases hstage with
  | unfunded hnone => cases hnone.symm.trans hevent
  | @funded event' index' hfundings _ hverify' hspends =>
    cases hfundings.symm.trans hevent
    cases (hverify' 0).symm.trans (hverify 0)
    rw [spends, eventsFrom_append] at hspends
    refine reconcileWatch_of_parts hdrop hfound
      (findSpend_none h.valid (List.append_eq_nil_iff.1 hspends).2) ?_ rfl rfl hvalid
    exact congrArg (Except.map some) hrecount
  | @spent event' index' spending verified hfundings _ hverify' hspends _ hclassify =>
    cases hfundings.symm.trans hevent
    cases (hverify' 0).symm.trans (hverify 0)
    have hcounts' := h.covers.counts spending (mem_of_spends hspends).1
    rw [spends, eventsFrom_append] at hspends
    rw [spends] at hunspent
    rw [hunspent, List.nil_append] at hspends
    refine reconcileWatch_of_parts hdrop hfound
      (findSpend_found h.valid hspends hclassify hcounts') ?_ ?_ rfl hvalid
    · exact congrArg (Except.map some) hrecount
    · exact congrArg (Except.map some) (recount_spendRecord hcounts')

theorem AtStage.oneFunding (h : AtStage watch events stage) :
    (fundings watch events).length ≤ 1 := by
  cases h with
  | unfunded hnone => simp [hnone]
  | funded hfundings => simp [hfundings]
  | spent hfundings => simp [hfundings]

theorem AtStage.same_funding (hafter : AtStage watch (events₀ ++ events) stage)
    (hfundings : fundings watch events₀ = [event]) :
    fundings watch (events₀ ++ events) = [event] := by
  have hone := hafter.oneFunding
  rw [fundings, eventsFrom_append] at hone ⊢
  rw [fundings] at hfundings
  rw [hfundings] at hone ⊢
  exact eq_singleton_of_length_le rfl hone

theorem Advances.reconcileWatch_eq (h : Advances network binding watch events₀ chain tip blocks)
    (hbefore : AtStage watch events₀ stage₀)
    (hafter : AtStage watch (events₀ ++ eventsOf blocks) stage) :
    ∃ changed, reconcileWatch network binding chain tip blocks (stage₀.toWatch watch tip₀) =
      .ok (stage.toWatch watch tip, changed) := by
  have hdrop : dropStale chain (stage₀.toWatch watch tip₀) = (stage₀.toWatch watch tip₀, false) :=
    hbefore.dropStale_eq h.kept
  have hvalid := hafter.valid h.fresh h.covers h.hashed
  have hsplit : fundings watch (events₀ ++ eventsOf blocks) =
      fundings watch events₀ ++ fundings watch (eventsOf blocks) := eventsFrom_append _ _ _ _
  cases hbefore with
  | unfunded hnone =>
    rw [hnone, List.nil_append] at hsplit
    -- A spend cannot be older than the funding, so it is not among the earlier blocks.
    have hlater : ∀ event index, fundings watch (events₀ ++ eventsOf blocks) = [event] →
        spends (lockOf watch event index) event.height events₀ = [] := by
      intro event index hevent
      refine List.filter_eq_nil_iff.2 fun old hold => ?_
      have hnew : event ∈ eventsOf blocks := (mem_of_fundings (hsplit ▸ hevent)).1
      simp [UInt32.not_le.2 (h.later old hold event hnew)]
    have hcase := hafter
    cases hcase with
    | unfunded hnone' =>
      exact reconcileWatch_of_parts hdrop (findFunding_none h.valid (hsplit ▸ hnone')) rfl rfl
        rfl rfl hvalid
    | funded hfundings _ hverify =>
      have hcounts := h.covers.counts _ (mem_of_fundings hfundings).1
      exact h.of_funded hdrop (findFunding_found h.valid (hsplit ▸ hfundings) hverify hcounts)
        (hlater _ _ hfundings) hafter hfundings hverify
    | spent hfundings _ hverify =>
      have hcounts := h.covers.counts _ (mem_of_fundings hfundings).1
      exact h.of_funded hdrop (findFunding_found h.valid (hsplit ▸ hfundings) hverify hcounts)
        (hlater _ _ hfundings) hafter hfundings hverify
  | @funded event index hfundings _ hverify hspends =>
    exact h.of_funded hdrop rfl hspends hafter (hafter.same_funding hfundings) hverify
  | @spent event index spending verified hfundings _ hverify hspends _ hclassify =>
    have hevent := hafter.same_funding hfundings
    have hcounts := h.covers.counts event (mem_of_fundings hevent).1
    have hcounts' := h.covers.counts spending
      (List.mem_append_left _ (mem_of_spends hspends).1)
    cases hafter with
    | unfunded hnone => cases hnone.symm.trans hevent
    | @funded event' index' hfundings' _ hverify' hspends' =>
      cases hfundings'.symm.trans hevent
      cases (hverify' 0).symm.trans (hverify 0)
      rw [spends, eventsFrom_append] at hspends'
      cases hspends.symm.trans (List.append_eq_nil_iff.1 hspends').1
    | @spent event' index' spending' verified' hfundings' _ hverify' hspends' _ hclassify' =>
      cases hfundings'.symm.trans hevent
      cases (hverify' 0).symm.trans (hverify 0)
      rw [spends, eventsFrom_append] at hspends'
      rw [spends] at hspends
      rw [hspends, List.cons_append] at hspends'
      obtain rfl := (List.cons.inj hspends').1
      cases hclassify.symm.trans hclassify'
      refine reconcileWatch_of_parts hdrop rfl rfl ?_ ?_ rfl hvalid
      · exact congrArg (Except.map some) (recount_fundingRecord hcounts)
      · exact congrArg (Except.map some) (recount_spendRecord hcounts')

end Splits

end HnsWallet
