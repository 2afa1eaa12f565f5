import HnsWallet.Bitcoin.Conflicts

/-! # Runs of the broadcast records -/

namespace HnsWallet

open Lib WalletStore

inductive BroadcastAction (W : Type) where
  | persistPrepared (wallet : W) (rawTransaction : List UInt8) (approvalCommitment : Bytes 32)
      (maximumFeeSats expectedRevision nowUnix expiresAtUnix : UInt64)
  | persistGuarded (wallet : W) (rawTransaction : List UInt8) (approvalCommitment : Bytes 32)
      (maximumFeeSats expectedRevision nowUnix expiresAtUnix : UInt64)
      (guard : BitcoinBroadcastAuthorizationGuard)
  | persistHtlcSpend (rawTransaction : List UInt8) (lock : VerifiedBitcoinLock)
      (branch : HtlcSpendBranch) (approvalCommitment : Bytes 32)
      (maximumFeeSats expectedRevision nowUnix expiresAtUnix : UInt64)
  | persistRecoverableFunding (wallet : W) (package : PreparedBitcoinRecoverableFunding)
      (maximumFeeSats nowUnix expiresAtUnix fundingExpiresAtUnix : UInt64)
      (guard : Option BitcoinBroadcastAuthorizationGuard)
  | beginSubmission (network : Bytes 4) (txid : Bytes 32) (nowUnix : UInt64)
  | finishSubmission (txid : Bytes 32) (startedRevision nowUnix : UInt64)
      (record : BitcoinTransactionRecord)
  | abandonExpired (network : Bytes 4) (nowUnix : UInt64)
  | reconcile (wallet : W) (nowUnix : UInt64)
  | elsewhere

section Runs

variable [Sha256] [BitcoinWallet] [TransactionData] {W : Type} [DescriptorWallet W] {V : Type}
  [Encoded V] [Serde V BitcoinTransactionRecord]

open BitcoinWallet (deserialize)

def storeAfter (store : WalletStore V) (result : Except BitcoinWalletError (WalletStore V)) :
    WalletStore V :=
  match result with
  | .ok written => written
  | .error _ => store

def BroadcastStep (store : WalletStore V) (action : BroadcastAction W) (store' : WalletStore V) :
    Prop :=
  match action with
  | .persistPrepared wallet raw commitment maximumFee expectedRevision now expires =>
    store' = storeAfter store (persistPreparedBitcoinBroadcast wallet store raw commitment
      maximumFee expectedRevision now expires)
  | .persistGuarded wallet raw commitment maximumFee expectedRevision now expires guard =>
    store' = storeAfter store (persistGuardedPreparedBitcoinBroadcast wallet store raw commitment
      maximumFee expectedRevision now expires guard)
  | .persistHtlcSpend raw lock branch commitment maximumFee expectedRevision now expires =>
    store' = storeAfter store (persistPreparedBitcoinHtlcSpendBroadcast store raw lock branch
      commitment maximumFee expectedRevision now expires)
  | .persistRecoverableFunding wallet package maximumFee now expires fundingExpires guard =>
    store' = (persistBitcoinRecoverableFundingBefore wallet store package maximumFee now expires
      fundingExpires guard).1
  | .beginSubmission network txid now =>
    store' = (beginBroadcastSubmission store network txid now).1
  | .finishSubmission txid startedRevision now record =>
    -- The write names the revision of the submission, so the record is still the one it wrote.
    Recorded store txid.toList record ∧
    (∃ intent, record.broadcast = some intent ∧ intent.phase = .submissionStarted ∧
      intent.lastSubmissionStartedAtUnix = some now) ∧
    store' = storeAfter store (finishBroadcastSubmission store txid startedRevision now record)
  | .abandonExpired network now =>
    store' = storeAfter store
      ((abandonExpiredUnattemptedRecoveryPackages store network now).map Prod.fst)
  | .reconcile wallet now => store' = (reconcileTransactionRecords wallet store now).1
  | .elsewhere => ∀ id, store'.entities.lookup (.bitcoinTransaction, id) =
      store.entities.lookup (.bitcoinTransaction, id)

/-- What is asked of a call before it is made: every transaction it approves is a fresh one,
and a spend of a lock names no input twice. -/
def ConflictVisible (store : WalletStore V) : BroadcastAction W → Prop
  | .persistPrepared _ raw _ _ _ _ _ => FreshApproval store raw
  | .persistGuarded _ raw _ _ _ _ _ _ => FreshApproval store raw
  | .persistHtlcSpend raw _ _ _ _ _ _ _ => FreshApproval store raw ∧
      ∀ transaction, deserialize raw = some transaction → transaction.inputs.Nodup
  | .persistRecoverableFunding _ package _ _ _ _ _ =>
    ∀ raw ∈ package.members, FreshApproval store raw
  | _ => True

variable {store store' : WalletStore V}

section

variable (h : InputsApart store)
include h
omit [TransactionData] [Encoded V]

theorem InputsApart.storeAfter {result : Except BitcoinWalletError (WalletStore V)}
    (hok : ∀ written, result = .ok written → InputsApart written) :
    InputsApart (storeAfter store result) := by
  cases result with
  | error => exact h
  | ok written => exact hok written rfl

theorem InputsApart.collects {records : List (StoredEntity BitcoinTransactionRecord)}
    (hrecords : bitcoinTransactions store = .ok records) :
    ∃ inputs, collectUnobservedApprovedBroadcastInputs BitcoinWallet.networkMagic [] records =
      .ok inputs := by
  have hnodup : (records.map StoredEntity.id).Nodup := by
    simp only [bitcoinTransactions, ok_iff] at hrecords
    obtain ⟨listed, hlist, _, -, hret⟩ := hrecords
    cases hret
    exact nodup_of_listEntities hlist
  refine exists_collect (fun stored hstored => ?_) (fun stored _ => List.disjoint_nil_right _) ?_
  · exact h.soundRecord (recorded_of_bitcoinTransactions hrecords hstored)
  · refine (List.pairwise_map.1 hnodup).imp_of_mem fun ha hb hne => ?_
    exact h.apart _ _ _ _ (recorded_of_bitcoinTransactions hrecords ha)
      (recorded_of_bitcoinTransactions hrecords hb) hne

theorem InputsApart.mem_unobserved {inputs : List OutPoint}
    (hinputs : unobservedApprovedBroadcastInputs store BitcoinWallet.networkMagic = .ok inputs)
    {input : OutPoint} : input ∈ inputs ↔ ∃ id record, Recorded store id record ∧
      record.broadcast.isSome ∧ record.observation = .absentFromCanonicalWalletView ∧
      input ∈ approvedInputs record := by
  simp only [unobservedApprovedBroadcastInputs, ok_iff] at hinputs
  obtain ⟨records, hrecords, hcollect⟩ := hinputs
  rw [mem_collect hcollect]
  simp only [List.not_mem_nil, false_or]
  constructor
  · rintro ⟨stored, hstored, habsent, hinput⟩
    refine ⟨stored.id, stored.value, recorded_of_bitcoinTransactions hrecords hstored, ?_, habsent,
      hinput⟩
    rw [← Option.ne_none_iff_isSome]
    intro hnone
    simp [approvedInputs, hnone] at hinput
  · rintro ⟨id, record, hrecord, -, habsent, hinput⟩
    have hnamed := (h.soundRecord hrecord).named
    obtain ⟨row, hrow, hvalue⟩ := hrecord
    simp only [bitcoinTransactions, ok_iff, not_lt]
      at hrecords
    obtain ⟨listed, hlist, _, hcount, hret⟩ := hrecords
    cases hret
    have hkey : store.unlocked := by
      simp only [WalletStore.listEntities, ok_iff, requireKey_eq_ok] at hlist
      obtain ⟨_, -, _, hkey, -⟩ := hlist
      exact hkey
    refine ⟨⟨.bitcoinTransaction, id, row.revision, record, row.updatedAtUnix⟩, ?_, habsent,
      hinput⟩
    exact (mem_of_listEntities hlist (Nat.lt_succ_of_le hcount)).2
      (loadEntity_eq_some.2
        ⟨hnamed ▸ validateId_txid _, hkey, row, record, hrow, hvalue, rfl⟩)

theorem InputsApart.exists_unobserved (hkey : store.unlocked)
    (hcount : (store.entitiesByIdPrefix .bitcoinTransaction []).length ≤
      maxTrackedBitcoinTransactions) :
    ∃ inputs, unobservedApprovedBroadcastInputs store BitcoinWallet.networkMagic = .ok inputs := by
  obtain ⟨listed, hlist, hlength⟩ : ∃ listed,
      store.listEntities BitcoinTransactionRecord .bitcoinTransaction
        (maxTrackedBitcoinTransactions + 1) = .ok listed ∧
      listed.length ≤ (store.entitiesByIdPrefix .bitcoinTransaction []).length := by
    refine exists_listEntities (by decide) hkey fun id row hrow => ?_
    obtain ⟨record, hvalue, hsound⟩ := h.sound id row hrow
    exact ⟨_, loadEntity_eq_some.2
      ⟨hsound.named ▸ validateId_txid _, hkey, row, record, hrow, hvalue, rfl⟩⟩
  have hrecords : bitcoinTransactions store = .ok listed := by
    simp only [bitcoinTransactions, ok_iff, not_lt]
    exact ⟨listed, hlist, (), hlength.trans hcount, rfl⟩
  obtain ⟨inputs, hinputs⟩ := h.collects hrecords
  exact ⟨inputs, ok_bind_iff.2 ⟨listed, hrecords, hinputs⟩⟩

theorem InputsApart.unobserved_ne_conflict :
    unobservedApprovedBroadcastInputs store BitcoinWallet.networkMagic ≠
      .error .broadcastConflict := by
  unfold unobservedApprovedBroadcastInputs
  cases hrecords : bitcoinTransactions store with
  | ok records =>
    obtain ⟨inputs, hinputs⟩ := h.collects hrecords
    intro hconflict
    exact ok_ne_error (hinputs.symm.trans hconflict)
  | error error =>
    intro hconflict
    cases hconflict
    refine bind_ne_error (mapError_ne_error fun _ hstore => ?_) (fun records _ => ?_)
      hrecords
    · cases hstore
    · refine bind_ne_error (refuseIf_ne_error fun hcapacity => ?_) fun _ _ => ?_
      · cases hcapacity
      · exact ok_ne_error

end

theorem InputsApart.step {action : BroadcastAction W} (h : InputsApart store)
    (hvisible : ConflictVisible store action) (hstep : BroadcastStep store action store') :
    InputsApart store' := by
  cases action with
  | persistPrepared =>
    cases hstep
    exact h.storeAfter fun _ hok => h.approves (.persistPrepared h hvisible hok)
  | persistGuarded =>
    cases hstep
    exact h.storeAfter fun _ hok => h.approves (.persistGuardedPrepared h hvisible hok)
  | persistHtlcSpend =>
    cases hstep
    exact h.storeAfter fun _ hok =>
      h.approves (.persistHtlcSpend h hvisible.1 hvisible.2 hok)
  | persistRecoverableFunding =>
    cases hstep
    exact h.persistRecoverableFunding hvisible
  | beginSubmission =>
    cases hstep
    exact h.beginSubmission
  | finishSubmission =>
    obtain ⟨hrecord, ⟨intent, hintent, hphase, hstarted⟩, rfl⟩ := hstep
    exact h.storeAfter fun _ hok => h.finishSubmission hrecord hintent hphase hstarted hok
  | abandonExpired =>
    cases hstep
    refine h.storeAfter fun written hok => ?_
    obtain ⟨⟨found, count⟩, habandon, rfl⟩ := map_eq_ok.1 hok
    exact h.abandonExpired habandon
  | reconcile wallet now =>
    cases hstep
    exact h.reconcile wallet
  | elsewhere => exact h.reserves fun id row hrow => .inl (hstep id ▸ hrow)

/-- Along every run whose calls could see each conflict, approved transactions that the
chain does not show have no input in common, and their inputs are what is excluded from
new transactions. -/
theorem approved_broadcasts_keep_their_inputs {actions : List (BroadcastAction W)}
    (hempty : ∀ id, store.entities.lookup (.bitcoinTransaction, id) = none)
    (hrun : Run (fun store action store' => ConflictVisible store action ∧
      BroadcastStep store action store') store actions store') :
    (∀ id₁ id₂ record₁ record₂, Recorded store' id₁ record₁ → Recorded store' id₂ record₂ →
      record₁.broadcast.isSome → record₁.observation = .absentFromCanonicalWalletView →
      record₂.broadcast.isSome → record₂.observation = .absentFromCanonicalWalletView →
      id₁ ≠ id₂ → (approvedInputs record₁).Disjoint (approvedInputs record₂)) ∧
    unobservedApprovedBroadcastInputs store' BitcoinWallet.networkMagic ≠
      .error .broadcastConflict ∧
    (∀ inputs, unobservedApprovedBroadcastInputs store' BitcoinWallet.networkMagic = .ok inputs →
      ∀ input, input ∈ inputs ↔ ∃ id record, Recorded store' id record ∧
        record.broadcast.isSome ∧ record.observation = .absentFromCanonicalWalletView ∧
        input ∈ approvedInputs record) ∧
    (store'.unlocked → (store'.entitiesByIdPrefix .bitcoinTransaction []).length ≤
        maxTrackedBitcoinTransactions →
      ∃ inputs, unobservedApprovedBroadcastInputs store' BitcoinWallet.networkMagic =
        .ok inputs) := by
  have hstart : InputsApart store := by
    constructor
    · intro id row hrow
      rw [hempty] at hrow
      cases hrow
    · rintro id₁ id₂ record₁ record₂ ⟨row, hrow, -⟩
      rw [hempty] at hrow
      cases hrow
  have hapart : InputsApart store' :=
    Run.invariant (fun h hstep => h.step hstep.1 hstep.2) hstart hrun
  refine ⟨fun id₁ id₂ record₁ record₂ h₁ h₂ _ _ _ _ hne => ?_, hapart.unobserved_ne_conflict,
    fun inputs hinputs input => hapart.mem_unobserved hinputs, hapart.exists_unobserved⟩
  exact hapart.apart id₁ id₂ record₁ record₂ h₁ h₂ hne

end Runs

namespace Sample

/-! ## Two transactions over one output -/

def frameRaw : List UInt8 := [0x02, 0x00, 0x00, 0x00, 0x00, 0x01, 0xaa]

def frameTransaction : BitcoinTransaction :=
  ⟨.replicate 32 21, .replicate 32 22, [⟨.replicate 32 30, 0⟩], 2⟩

def rivalRaw : List UInt8 := [0x02, 0x00, 0x00, 0x00, 0x00, 0x01, 0xbb]

def rivalTransaction : BitcoinTransaction :=
  ⟨.replicate 32 23, .replicate 32 24, [⟨.replicate 32 30, 0⟩], 2⟩

def otherRaw : List UInt8 := [0x02, 0x00, 0x00, 0x00, 0x00, 0x01, 0xcc]

def otherTransaction : BitcoinTransaction :=
  ⟨.replicate 32 25, .replicate 32 26, [⟨.replicate 32 31, 1⟩], 2⟩

theorem paymentMagic_length : ([0xf9, 0xbe, 0xb4, 0xd9] : List UInt8).length = 4 := rfl

@[reducible] def paymentWallet : BitcoinWallet where
  deserialize raw := [(frameRaw, frameTransaction), (rivalRaw, rivalTransaction),
    (otherRaw, otherTransaction)].lookup raw
  serialize transaction :=
    if transaction = frameTransaction then frameRaw
    else if transaction = rivalTransaction then rivalRaw else otherRaw
  networkMagic := ⟨[0xf9, 0xbe, 0xb4, 0xd9], paymentMagic_length⟩
  verifySignedBitcoinHtlcSpend _ _ _ := .error .invalidEvidence

@[reducible] def frameData : TransactionData where
  transactionData raw := if raw = frameRaw then some [0x53, 0x52, 0, 3, 7] else none

@[reducible] def descriptorWallet : DescriptorWallet Unit where
  getUtxo _ _ := some ⟨false⟩
  calculateFee _ _ := some 500
  transactions _ := []
  sentAndReceived _ _ := (0, 0)
  planningWallet := .ok
  applyUnconfirmedTxs wallet _ := wallet

def approvalDigests : List (List UInt8 × Bytes 32) :=
  [(broadcastApprovalDomain ++ [0xf9, 0xbe, 0xb4, 0xd9] ++ List.replicate 32 21 ++
      List.replicate 32 22 ++ beBytes 8 500 ++ beBytes 8 1000 ++ beBytes 8 1700000060,
      .ofNat 32 0x7ee3dcdf4afa1d0fe624c5ab44120a82fb110e58d6f7f0b9ec768276a3f51726),
    (broadcastApprovalDomain ++ [0xf9, 0xbe, 0xb4, 0xd9] ++ List.replicate 32 21 ++
      List.replicate 32 22 ++ beBytes 8 500 ++ beBytes 8 1000 ++ beBytes 8 1700000900,
      .ofNat 32 0xbd785eb9b707f9ffacc9c6289f02aadb07c4a94f4cf3229e73c1f986b6fab200),
    (broadcastApprovalDomain ++ [0xf9, 0xbe, 0xb4, 0xd9] ++ List.replicate 32 23 ++
      List.replicate 32 24 ++ beBytes 8 500 ++ beBytes 8 1000 ++ beBytes 8 1700000800,
      .ofNat 32 0x48c80959312774efb9303d2742eba2f145b3ed8e15ea59f568409efcbee281e5),
    (broadcastApprovalDomain ++ [0xf9, 0xbe, 0xb4, 0xd9] ++ List.replicate 32 25 ++
      List.replicate 32 26 ++ beBytes 8 500 ++ beBytes 8 1000 ++ beBytes 8 1700000800,
      .ofNat 32 0x302e978aaa4e436fbe755218808bf1241472a1ec129e765710d26fcb96ed231f),
    (inputOutpointsDomain ++ beBytes 8 1 ++ List.replicate 32 30 ++ beBytes 4 0,
      .ofNat 32 0x380f7d9cdd0f2c5c48b7d2e2d18a2e2f228e9a6502ac2853e6a38e964d1d1acb),
    (inputOutpointsDomain ++ beBytes 8 1 ++ List.replicate 32 31 ++ beBytes 4 1,
      .ofNat 32 0xd5f74447696fc5461f45c6776b2ad3ced129152b098b941ed955c557b1f04c90)]

@[reducible] def approvalSha256 : Sha256 where
  digest input := (approvalDigests.lookup input).getD (.replicate 32 1)

@[reducible] def recordCodec : Serde BitcoinTransactionRecord BitcoinTransactionRecord :=
  ⟨id, some, fun _ => rfl⟩

@[reducible] def recordLength : Encoded BitcoinTransactionRecord := ⟨fun _ => 1⟩

attribute [local instance] paymentWallet frameData descriptorWallet approvalSha256 recordCodec
  recordLength

def noRecords : WalletStore BitcoinTransactionRecord where
  unlocked := true
  workflows := ∅
  entities := ∅
  secrets := ∅

def approve (raw : List UInt8) (txid wtxid : Bytes 32) (revision nowUnix expiresAtUnix : UInt64) :
    BroadcastAction Unit :=
  .persistPrepared () raw (bitcoinBroadcastApprovalCommitment paymentWallet.networkMagic txid wtxid
    500 1000 expiresAtUnix) 1000 revision nowUnix expiresAtUnix

def approvedTwice : List (BroadcastAction Unit) :=
  [approve frameRaw frameTransaction.txid frameTransaction.wtxid 0 1700000000 1700000060,
    .beginSubmission paymentWallet.networkMagic frameTransaction.txid 1700000100,
    approve rivalRaw rivalTransaction.txid rivalTransaction.wtxid 0 1700000200 1700000800,
    approve frameRaw frameTransaction.txid frameTransaction.wtxid 2 1700000300 1700000900]

set_option maxRecDepth 8000 in
/-- The second approval of the frame is not checked against the rival.  From then on the
reserved inputs cannot be computed any more. -/
theorem approval_after_expiry_conflicts : ∃ store',
    Run BroadcastStep noRecords approvedTwice store' ∧
    (∃ frame rival, Recorded store' frameTransaction.txid.toList frame ∧
      Recorded store' rivalTransaction.txid.toList rival ∧ frame.broadcast.isSome ∧
      rival.broadcast.isSome ∧ frame.observation = .absentFromCanonicalWalletView ∧
      rival.observation = .absentFromCanonicalWalletView ∧
      ⟨.replicate 32 30, 0⟩ ∈ approvedInputs frame ∧
      ⟨.replicate 32 30, 0⟩ ∈ approvedInputs rival) ∧
    unobservedApprovedBroadcastInputs store' paymentWallet.networkMagic =
      .error .broadcastConflict := by
  refine ⟨_, .cons rfl (.cons rfl (.cons rfl (.cons rfl .refl))), ⟨_, _, ⟨_, rfl, rfl⟩,
    ⟨_, rfl, rfl⟩, rfl, rfl, rfl, rfl, ?_, ?_⟩, rfl⟩
  · exact List.mem_singleton.2 rfl
  · exact List.mem_singleton.2 rfl

theorem noRecords_lookup (id : RecordId) :
    noRecords.entities.lookup (.bitcoinTransaction, id) = none :=
  AList.lookup_empty _

theorem noRecords_fresh (raw : List UInt8) : FreshApproval noRecords raw := by
  constructor
  · rintro transaction record - ⟨row, hrow, -⟩
    cases (noRecords_lookup _).symm.trans hrow
  · rintro transaction id record - ⟨row, hrow, -⟩
    cases (noRecords_lookup _).symm.trans hrow

theorem noRecords_apart : InputsApart noRecords := by
  constructor
  · intro id row hrow
    cases (noRecords_lookup _).symm.trans hrow
  · rintro id₁ id₂ record₁ record₂ ⟨row, hrow, -⟩
    cases (noRecords_lookup _).symm.trans hrow

def approvedApart : List (BroadcastAction Unit) :=
  [approve frameRaw frameTransaction.txid frameTransaction.wtxid 0 1700000000 1700000060,
    approve otherRaw otherTransaction.txid otherTransaction.wtxid 0 1700000200 1700000800]

def frameApproved : WalletStore BitcoinTransactionRecord :=
  storeAfter noRecords (persistPreparedBitcoinBroadcast () noRecords frameRaw
    (bitcoinBroadcastApprovalCommitment paymentWallet.networkMagic frameTransaction.txid
      frameTransaction.wtxid 500 1000 1700000060) 1000 0 1700000000 1700000060)

set_option maxRecDepth 8000 in
theorem frameApproved_eq : persistPreparedBitcoinBroadcast () noRecords frameRaw
    (bitcoinBroadcastApprovalCommitment paymentWallet.networkMagic frameTransaction.txid
      frameTransaction.wtxid 500 1000 1700000060) 1000 0 1700000000 1700000060 =
    .ok frameApproved := rfl

set_option maxRecDepth 8000 in
theorem inputs_of_two_approvals : ∃ store' : WalletStore BitcoinTransactionRecord,
    unobservedApprovedBroadcastInputs store' paymentWallet.networkMagic =
      .ok [⟨.replicate 32 31, 1⟩, ⟨.replicate 32 30, 0⟩] ∧
    ∀ input, input ∈ ([⟨.replicate 32 31, 1⟩, ⟨.replicate 32 30, 0⟩] : List OutPoint) ↔
      ∃ id record, Recorded store' id record ∧ record.broadcast.isSome ∧
        record.observation = .absentFromCanonicalWalletView ∧ input ∈ approvedInputs record := by
  have hfirst : Approves noRecords frameApproved :=
    .persistPrepared noRecords_apart (noRecords_fresh frameRaw) frameApproved_eq
  have hrun : Run (fun store action store' => ConflictVisible store action ∧
      BroadcastStep store action store') noRecords approvedApart _ :=
    .cons ⟨noRecords_fresh frameRaw, (rfl : frameApproved = _)⟩
      (.cons ⟨(noRecords_fresh otherRaw).approves hfirst, rfl⟩ .refl)
  exact ⟨_, rfl,
    (approved_broadcasts_keep_their_inputs noRecords_lookup hrun).2.2.1 _ rfl⟩

end Sample

end HnsWallet
