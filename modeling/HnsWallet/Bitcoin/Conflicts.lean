import Mathlib.Data.List.ReduceOption
import HnsWallet.Bitcoin.Submission

/-! # Approved broadcasts and their inputs -/

namespace HnsWallet

open Lib WalletStore BitcoinBroadcastIntent BitcoinTransactionRecord

section Conflicts

variable {V : Type} [Serde V BitcoinTransactionRecord] {store store' : WalletStore V}
  {id : RecordId} {record other : BitcoinTransactionRecord} {row : EntityRow V}
  {inputs spent : List OutPoint} {raw : List UInt8} {transaction : BitcoinTransaction}

def Recorded (store : WalletStore V) (id : RecordId) (record : BitcoinTransactionRecord) : Prop :=
  ∃ row, store.entities.lookup (.bitcoinTransaction, id) = some row ∧
    Serde.fromSlice row.value = some record

theorem Recorded.unique (h : Recorded store id record) (h' : Recorded store id other) :
    record = other := by
  obtain ⟨row, hrow, hvalue⟩ := h
  obtain ⟨row', hrow', hvalue'⟩ := h'
  cases hrow.symm.trans hrow'
  exact Option.some.inj (hvalue.symm.trans hvalue')

theorem recorded_of_load {stored : StoredEntity BitcoinTransactionRecord}
    (h : store.loadEntity BitcoinTransactionRecord .bitcoinTransaction id = .ok (some stored)) :
    Recorded store id stored.value := by
  obtain ⟨-, -, row, value, hrow, hvalue, rfl⟩ := loadEntity_eq_some.1 h
  exact ⟨row, hrow, hvalue⟩

theorem recorded_congr (h : store'.entities.lookup (.bitcoinTransaction, id) =
      store.entities.lookup (.bitcoinTransaction, id)) :
    Recorded store' id record ↔ Recorded store id record := by
  unfold Recorded
  rw [h]

theorem recorded_putEntity (h : Serde.fromSlice row.value = some record) :
    Recorded (store.putEntity .bitcoinTransaction id row) id record :=
  ⟨row, putEntity_lookup, h⟩

theorem validateId_txid (txid : Bytes 32) : validateId txid.toList = .ok () := by
  rw [validateId, refuseIf_eq_ok, txid.length_eq]
  decide

theorem checkInputs_nodup {W : Type} [DescriptorWallet W] {wallet : W} {seen : List OutPoint}
    {u : Unit} (h : checkInputs wallet seen inputs = .ok u) :
    inputs.Nodup ∧ ∀ input ∈ inputs, input ∉ seen := by
  induction inputs generalizing seen with
  | nil => exact ⟨.nil, fun input hinput => absurd hinput List.not_mem_nil⟩
  | cons input rest ih =>
    unfold checkInputs at h
    simp only [ok_iff] at h
    obtain ⟨-, hnew, -, -, -, -, h⟩ := h
    obtain ⟨hnodup, hfresh⟩ := ih h
    refine ⟨List.nodup_cons.2 ⟨fun hmem => hfresh input hmem List.mem_cons_self, hnodup⟩, ?_⟩
    intro other hother
    rcases List.mem_cons.1 hother with rfl | hother
    · exact hnew
    · exact fun hseen => hfresh other hother (List.mem_cons_of_mem _ hseen)

theorem checkRetry_le {nowUnix last : UInt64} (h : checkRetry nowUnix last = .ok ()) :
    last ≤ nowUnix := by
  simp only [checkRetry, ok_iff, UInt64.not_lt] at h
  obtain ⟨-, hle, -⟩ := h
  exact hle

def BitcoinBroadcastIntent.started (intent : BitcoinBroadcastIntent) (nowUnix : UInt64) :
    BitcoinBroadcastIntent :=
  { intent with
    attemptCount := intent.attemptCount + 1
    phase := .submissionStarted
    lastSubmissionStartedAtUnix := some nowUnix }

theorem attemptCount_started {count : UInt16} (h : count < maxBroadcastAttempts) :
    count + 1 ≤ maxBroadcastAttempts ∧ count + 1 ≠ 0 := by
  have hlt : count.toNat < 16 := UInt16.lt_iff_toNat_lt.1 h
  have hsum : (count + 1).toNat = count.toNat + 1 := by
    rw [UInt16.toNat_add]
    exact Nat.mod_eq_of_lt (by show count.toNat + 1 < 65536; omega)
  refine ⟨UInt16.le_iff_toNat_le.2 ?_, fun hzero => ?_⟩
  · rw [hsum]
    exact hlt
  · rw [hzero] at hsum
    simp at hsum

variable {intent : BitcoinBroadcastIntent} {txid : Bytes 32}
  {records : List (StoredEntity BitcoinTransactionRecord)}
  {stored : StoredEntity BitcoinTransactionRecord}

theorem submitted_le {nowUnix : UInt64} (htimes : intent.timestampsValid = true)
    (hretry : ∀ last ∈ intent.lastAttemptAtUnix, last ≤ nowUnix) :
    ∀ submitted ∈ intent.lastSubmittedAtUnix, submitted ≤ nowUnix := by
  intro submitted hsubmitted
  unfold timestampsValid at htimes
  unfold lastAttemptAtUnix at hretry
  rw [hsubmitted] at htimes hretry
  cases hphase : intent.phase <;> rw [hphase] at htimes hretry
  · simp at htimes
  · simp only [Bool.and_eq_true, Option.all_some] at htimes
    obtain ⟨⟨-, hstarted⟩, hle⟩ := htimes
    obtain ⟨started, hstarted⟩ := Option.isSome_iff_exists.1 hstarted
    rw [hstarted] at hle hretry
    simp only [Option.any_some, decide_eq_true_eq] at hle
    exact UInt64.le_trans hle (hretry started rfl)
  · exact hretry submitted rfl

theorem recorded_of_bitcoinTransactions (h : bitcoinTransactions store = .ok records)
    (hstored : stored ∈ records) : Recorded store stored.id stored.value := by
  simp only [bitcoinTransactions, ok_iff] at h
  obtain ⟨listed, hlist, -, -, hret⟩ := h
  cases hret
  exact recorded_of_load (loadEntity_of_listEntities hlist hstored)

theorem byTxid_eq_some (h : byTxid records txid = some stored) :
    stored ∈ records ∧ stored.value.txid = txid :=
  ⟨List.mem_of_find?_eq_some h, by simpa using List.find?_some h⟩

variable [BitcoinWallet]

open BitcoinWallet (deserialize)

def approvedInputs (record : BitcoinTransactionRecord) : List OutPoint :=
  match record.broadcast with
  | none => []
  | some _ => ((record.rawTransaction.bind deserialize).map BitcoinTransaction.inputs).getD []

theorem approvedInputs_congr (hraw : record.rawTransaction = other.rawTransaction)
    (hbroadcast : record.broadcast.isSome = other.broadcast.isSome) :
    approvedInputs record = approvedInputs other := by
  unfold approvedInputs
  rw [hraw]
  cases hrecord : record.broadcast <;> cases hother : other.broadcast
  · rfl
  · rw [hrecord, hother] at hbroadcast
    cases hbroadcast
  · rw [hrecord, hother] at hbroadcast
    cases hbroadcast
  · rfl

theorem approvedInputs_of_raw (hintent : record.broadcast = some intent)
    (hraw : record.rawTransaction = some raw) (htransaction : deserialize raw = some transaction) :
    approvedInputs record = transaction.inputs := by
  unfold approvedInputs
  rw [hintent, hraw]
  simp [htransaction]

variable [Sha256]

theorem validate_eq_ok : record.validate = .ok () ↔
    (record.schemaVersion = bitcoinTransactionRecordVersion ∧ ¬ record.txid.isZero ∧
      ¬ record.wtxid.isZero ∧ record.broadcast.isSome = record.rawTransaction.isSome) ∧
    (∀ raw ∈ record.rawTransaction, record.validateTransaction raw = .ok ()) ∧
    ∀ intent ∈ record.broadcast, record.validateIntent intent = .ok () := by
  unfold validate
  simp only [ok_iff, not_or, ne_eq, not_not, Unique.exists_iff]
  refine and_congr_right fun _ => and_congr ?_ ?_
  · cases record.rawTransaction with
    | none => simp [Option.forM, pure, Except.pure]
    | some raw => simp [Option.forM]
  · cases record.broadcast with
    | none => simp [Option.forM, pure, Except.pure]
    | some intent => simp [Option.forM]

structure SoundRecord (id : RecordId) (record : BitcoinTransactionRecord) : Prop where
  named : id = record.txid.toList
  valid : record.validate = .ok ()
  network : ∀ intent ∈ record.broadcast, intent.network = BitcoinWallet.networkMagic
  nodup : (approvedInputs record).Nodup

structure InputsApart (store : WalletStore V) : Prop where
  sound : ∀ id row, store.entities.lookup (.bitcoinTransaction, id) = some row →
    ∃ record, Serde.fromSlice row.value = some record ∧ SoundRecord id record
  apart : ∀ id₁ id₂ record₁ record₂, Recorded store id₁ record₁ → Recorded store id₂ record₂ →
    id₁ ≠ id₂ → (approvedInputs record₁).Disjoint (approvedInputs record₂)

def Reserves (store store' : WalletStore V) : Prop :=
  ∀ id row, store'.entities.lookup (.bitcoinTransaction, id) = some row →
    store.entities.lookup (.bitcoinTransaction, id) = some row ∨
    ∃ record, Serde.fromSlice row.value = some record ∧ SoundRecord id record ∧
      (approvedInputs record = [] ∨
        ∃ before, Recorded store id before ∧ approvedInputs record = approvedInputs before)

theorem InputsApart.soundRecord (h : InputsApart store) (hrecord : Recorded store id record) :
    SoundRecord id record := by
  obtain ⟨row, hrow, hvalue⟩ := hrecord
  obtain ⟨found, hfound, hsound⟩ := h.sound id row hrow
  cases hvalue.symm.trans hfound
  exact hsound

theorem Reserves.refl (store : WalletStore V) : Reserves store store :=
  fun _ _ hrow => .inl hrow

theorem Reserves.disjoint (h : Reserves store store') (hrecord : Recorded store' id record)
    (hbefore : ∀ before, Recorded store id before → (approvedInputs before).Disjoint inputs) :
    (approvedInputs record).Disjoint inputs := by
  obtain ⟨row, hrow, hvalue⟩ := hrecord
  rcases h id row hrow with hsame | ⟨found, hfound, -, hinputs⟩
  · exact hbefore record ⟨row, hsame, hvalue⟩
  · cases hvalue.symm.trans hfound
    rcases hinputs with hnone | ⟨before, hbefore', hsame⟩
    · rw [hnone]
      exact fun input hinput => absurd hinput List.not_mem_nil
    · rw [hsame]
      exact hbefore before hbefore'

theorem InputsApart.reserves (h : InputsApart store) (hreserves : Reserves store store') :
    InputsApart store' where
  sound id row hrow := by
    rcases hreserves id row hrow with hsame | ⟨record, hvalue, hsound, -⟩
    · exact h.sound id row hsame
    · exact ⟨record, hvalue, hsound⟩
  apart id₁ id₂ record₁ record₂ h₁ h₂ hne := by
    refine hreserves.disjoint h₁ fun before₁ hbefore₁ => ?_
    refine List.disjoint_symm (hreserves.disjoint h₂ fun before₂ hbefore₂ => ?_)
    exact List.disjoint_symm (h.apart id₁ id₂ before₁ before₂ hbefore₁ hbefore₂ hne)

theorem InputsApart.admit (h : InputsApart store) (hsound : SoundRecord id record)
    (hwritten : Recorded store' id record)
    (hothers : ∀ other, other ≠ id → store'.entities.lookup (.bitcoinTransaction, other) =
      store.entities.lookup (.bitcoinTransaction, other))
    (hfree : ∀ other before, other ≠ id → Recorded store other before →
      (approvedInputs record).Disjoint (approvedInputs before)) : InputsApart store' := by
  have hbefore : ∀ other before, other ≠ id → Recorded store' other before →
      Recorded store other before := by
    rintro other before hne ⟨row, hrow, hvalue⟩
    exact ⟨row, hothers other hne ▸ hrow, hvalue⟩
  constructor
  · intro other row hrow
    by_cases hid : other = id
    · subst hid
      obtain ⟨row', hrow', hvalue⟩ := hwritten
      cases hrow.symm.trans hrow'
      exact ⟨record, hvalue, hsound⟩
    · exact h.sound other row (hothers other hid ▸ hrow)
  · intro id₁ id₂ record₁ record₂ h₁ h₂ hne
    by_cases hid₁ : id₁ = id
    · subst hid₁
      rw [h₁.unique hwritten]
      exact hfree id₂ record₂ (Ne.symm hne) (hbefore id₂ record₂ (Ne.symm hne) h₂)
    · by_cases hid₂ : id₂ = id
      · subst hid₂
        rw [h₂.unique hwritten]
        exact List.disjoint_symm (hfree id₁ record₁ hid₁ (hbefore id₁ record₁ hid₁ h₁))
      · exact h.apart id₁ id₂ record₁ record₂ (hbefore id₁ record₁ hid₁ h₁)
          (hbefore id₂ record₂ hid₂ h₂) hne

theorem transaction_of_valid (h : record.validate = .ok ())
    (hintent : record.broadcast = some intent) :
    ∃ raw transaction, record.rawTransaction = some raw ∧ deserialize raw = some transaction ∧
      transaction.txid = record.txid := by
  obtain ⟨⟨-, -, -, hsome⟩, htransactions, -⟩ := validate_eq_ok.1 h
  rw [hintent, Option.isSome_some, eq_comm, Option.isSome_iff_exists] at hsome
  obtain ⟨raw, hraw'⟩ := hsome
  have hraw := htransactions raw hraw'
  unfold validateTransaction at hraw
  simp only [ok_iff, not_or, ne_eq, not_not] at hraw
  obtain ⟨-, -, transaction, htransaction, htxid, -⟩ := hraw
  exact ⟨raw, transaction, hraw', htransaction, htxid⟩

theorem mem_collect {network : Bytes 4}
    (h : collectUnobservedApprovedBroadcastInputs network spent records = .ok inputs)
    {input : OutPoint} : input ∈ inputs ↔ input ∈ spent ∨ ∃ stored ∈ records,
      stored.value.observation = .absentFromCanonicalWalletView ∧
        input ∈ approvedInputs stored.value := by
  induction records generalizing spent with
  | nil =>
    cases h
    simp
  | cons stored records ih =>
    unfold collectUnobservedApprovedBroadcastInputs at h
    simp only [ok_iff] at h
    obtain ⟨-, -, h⟩ := h
    simp only [List.exists_mem_cons_iff]
    split at h
    next hnone =>
      rw [ih h]
      simp [approvedInputs, hnone]
    next intent hintent =>
      simp only [ok_iff] at h
      obtain ⟨-, -, h⟩ := h
      split at h
      next hobserved =>
        rw [ih h]
        simp [hobserved]
      next habsent =>
        simp only [ok_iff] at h
        obtain ⟨raw, hraw, transaction, htransaction, -, -, h⟩ := h
        rw [ih h, approvedInputs_of_raw hintent hraw htransaction, List.mem_append]
        simp only [ne_eq, not_not] at habsent
        simp only [habsent, true_and]
        tauto

theorem exists_collect (hsound : ∀ stored ∈ records, SoundRecord stored.id stored.value)
    (hspent : ∀ stored ∈ records, (approvedInputs stored.value).Disjoint spent)
    (hapart : records.Pairwise fun a b =>
      (approvedInputs a.value).Disjoint (approvedInputs b.value)) :
    ∃ inputs, collectUnobservedApprovedBroadcastInputs BitcoinWallet.networkMagic spent records =
      .ok inputs := by
  induction records generalizing spent with
  | nil => exact ⟨spent, rfl⟩
  | cons stored records ih =>
    obtain ⟨hfirst, hrest⟩ := List.forall_mem_cons.1 hsound
    obtain ⟨hfree, hfrees⟩ := List.forall_mem_cons.1 hspent
    obtain ⟨hapartFirst, hapartRest⟩ := List.pairwise_cons.1 hapart
    unfold collectUnobservedApprovedBroadcastInputs
    simp only [ok_iff]
    have hskip := ih hrest hfrees hapartRest
    cases hintent : stored.value.broadcast with
    | none =>
      obtain ⟨inputs, hinputs⟩ := hskip
      exact ⟨inputs, (), hfirst.valid, hinputs⟩
    | some intent =>
      simp only [ok_iff, ne_eq, not_not]
      have hnetwork := hfirst.network intent hintent
      by_cases habsent : stored.value.observation = .absentFromCanonicalWalletView
      · obtain ⟨raw, transaction, hraw, htransaction, -⟩ :=
          transaction_of_valid hfirst.valid hintent
        have hinputs := approvedInputs_of_raw hintent hraw htransaction
        have hnodup := hfirst.nodup
        rw [hinputs] at hfree hnodup
        have hreserved : ∀ other ∈ records,
            (approvedInputs other.value).Disjoint (transaction.inputs ++ spent) := by
          intro other hother
          refine List.disjoint_append_right.2 ⟨?_, hfrees other hother⟩
          exact List.disjoint_symm (hinputs ▸ hapartFirst other hother)
        obtain ⟨inputs, hcollected⟩ := ih hrest hreserved hapartRest
        refine ⟨inputs, (), hfirst.valid, (), hnetwork, ?_⟩
        rw [if_neg (not_not.2 habsent), hraw]
        simp only [ok_iff]
        refine ⟨raw, rfl, transaction, htransaction, (), ?_, hcollected⟩
        rintro (⟨input, hinput, hspent⟩ | hdup)
        · exact hfree hinput hspent
        · exact hdup hnodup
      · obtain ⟨inputs, hcollected⟩ := hskip
        refine ⟨inputs, (), hfirst.valid, (), hnetwork, ?_⟩
        rw [if_pos habsent]
        exact hcollected

/-- The conditions under which the wallet sees every conflict of a new approval: the
transaction did not lose an earlier approval, and it spends no input of an approved
transaction that the chain shows. -/
structure FreshApproval (store : WalletStore V) (raw : List UInt8) : Prop where
  unapproved : ∀ transaction record, deserialize raw = some transaction →
    Recorded store transaction.txid.toList record → record.broadcast.isSome
  unspent : ∀ transaction id record, deserialize raw = some transaction →
    Recorded store id record → id ≠ transaction.txid.toList → record.broadcast.isSome →
    record.observation ≠ .absentFromCanonicalWalletView →
    transaction.inputs.Disjoint (approvedInputs record)

inductive Approves (store store' : WalletStore V) : Prop where
  | unchanged (hrows : ∀ id, store'.entities.lookup (.bitcoinTransaction, id) =
      store.entities.lookup (.bitcoinTransaction, id))
  | added {id : RecordId} {record : BitcoinTransactionRecord} (hsound : SoundRecord id record)
      (hwritten : Recorded store' id record)
      (hothers : ∀ other, other ≠ id → store'.entities.lookup (.bitcoinTransaction, other) =
        store.entities.lookup (.bitcoinTransaction, other))
      (hunobserved : record.observation = .absentFromCanonicalWalletView)
      (happroved : record.broadcast.isSome)
      (hfree : ∀ other before, other ≠ id → Recorded store other before →
        (approvedInputs record).Disjoint (approvedInputs before))

theorem InputsApart.approves (h : InputsApart store) (happroves : Approves store store') :
    InputsApart store' := by
  cases happroves with
  | unchanged hrows => exact h.reserves fun id row hrow => .inl (hrows id ▸ hrow)
  | added hsound hwritten hothers _ _ hfree => exact h.admit hsound hwritten hothers hfree

theorem FreshApproval.approves (h : FreshApproval store raw) (happroves : Approves store store') :
    FreshApproval store' raw := by
  cases happroves with
  | unchanged hrows =>
    exact ⟨fun transaction record htx hrecord => h.unapproved transaction record htx
        ((recorded_congr (hrows _)).1 hrecord),
      fun transaction id record htx hrecord => h.unspent transaction id record htx
        ((recorded_congr (hrows _)).1 hrecord)⟩
  | @added new added _ hwritten hothers hunobserved happroved _ =>
    constructor
    · intro transaction record htx hrecord
      by_cases hid : transaction.txid.toList = new
      · rw [hid] at hrecord
        rw [hrecord.unique hwritten]
        exact happroved
      · exact h.unapproved transaction record htx ((recorded_congr (hothers _ hid)).1 hrecord)
    · intro transaction id record htx hrecord hne hbroadcast hobserved
      by_cases hid : id = new
      · rw [hid] at hrecord
        rw [hrecord.unique hwritten] at hobserved
        exact absurd hunobserved hobserved
      · exact h.unspent transaction id record htx ((recorded_congr (hothers _ hid)).1 hrecord)
          hne hbroadcast hobserved

variable {rawTransaction : List UInt8} {approval : BitcoinBroadcastApprovalBinding}
  {approvalCommitment : Bytes 32} {maximumFeeSats expectedRevision nowUnix expiresAtUnix : UInt64}

theorem transactionRecord_none
    (h : transactionRecord store transaction approval nowUnix none = .ok record) :
    record = newTransactionRecord transaction approval nowUnix ∧
      ∀ id before, Recorded store id before →
        before.observation = .absentFromCanonicalWalletView →
        validateId id = .ok () → transaction.inputs.Disjoint (approvedInputs before) := by
  unfold transactionRecord at h
  simp only [ok_iff, not_le] at h
  obtain ⟨records, hlist, -, hcount, committed, hcommitted, _, hconflict, hret⟩ := h
  cases hret
  refine ⟨rfl, fun id before hbefore habsent hid input hinput hreserved => hconflict ?_⟩
  obtain ⟨row, hrow, hvalue⟩ := hbefore
  have hkey : store.unlocked := by
    simp only [WalletStore.listEntities, ok_iff, requireKey_eq_ok] at hlist
    obtain ⟨-, -, -, hkey, -⟩ := hlist
    exact hkey
  have hstored : (⟨.bitcoinTransaction, id, row.revision, before, row.updatedAtUnix⟩ :
      StoredEntity BitcoinTransactionRecord) ∈ records :=
    (mem_of_listEntities hlist (Nat.lt_succ_of_lt hcount)).2
      (loadEntity_eq_some.2 ⟨hid, hkey, row, before, hrow, hvalue, rfl⟩)
  exact ⟨input, hinput, (mem_collect hcommitted).2 (.inr ⟨_, hstored, habsent, hreserved⟩)⟩

theorem approvedRecord_eq_some
    (h : approvedRecord store rawTransaction approval approvalCommitment expectedRevision nowUnix =
      .ok (some record)) (hfresh : FreshApproval store rawTransaction) :
    ∃ transaction, deserialize rawTransaction = some transaction ∧
      transaction.txid = approval.txid ∧ record.validate = .ok () ∧ record.txid = approval.txid ∧
      record.broadcast = some (newBroadcastIntent approval nowUnix) ∧
      record.rawTransaction = some rawTransaction ∧
      record.observation = .absentFromCanonicalWalletView ∧
      ∀ id before, Recorded store id before →
        before.observation = .absentFromCanonicalWalletView →
        validateId id = .ok () → transaction.inputs.Disjoint (approvedInputs before) := by
  unfold approvedRecord at h
  simp only [ok_iff, not_or, ne_eq, not_not] at h
  obtain ⟨-, -, transaction, htransaction, existing, hexisting, -, -, found, hfound, -, -, -,
    ⟨htxid, -, -⟩, h⟩ := h
  split at h
  next =>
    simp only [ok_iff] at h
    obtain ⟨-, -, hret⟩ := h
    cases hret
  next hnone =>
    simp only [ok_iff] at h
    obtain ⟨-, -, _, hvalid, hret⟩ := h
    cases hret
    obtain ⟨raw, decoded, hraw, hdecoded, hsame⟩ := transaction_of_valid hvalid rfl
    cases hraw
    cases htransaction.symm.trans hdecoded
    have hid : transaction.txid = approval.txid := hsame.trans htxid
    cases existing with
    | some stored =>
      cases hfound
      have hrecorded := recorded_of_load hexisting
      rw [← hid] at hrecorded
      have happroved := hfresh.unapproved transaction stored.value htransaction hrecorded
      rw [hnone] at happroved
      cases happroved
    | none =>
      obtain ⟨rfl, hfree⟩ := transactionRecord_none hfound
      exact ⟨transaction, htransaction, hid, hvalid, rfl, rfl, rfl, rfl, hfree⟩

theorem Approves.of_record (hapart : InputsApart store)
    (hfresh : FreshApproval store rawTransaction)
    (hnetwork : approval.network = BitcoinWallet.networkMagic)
    (hnodup : ∀ transaction, deserialize rawTransaction = some transaction →
      transaction.inputs.Nodup)
    (happroved : approvedRecord store rawTransaction approval approvalCommitment expectedRevision
      nowUnix = .ok (some record)) (hwritten : Recorded store' approval.txid.toList record)
    (hothers : ∀ other, other ≠ approval.txid.toList →
      store'.entities.lookup (.bitcoinTransaction, other) =
        store.entities.lookup (.bitcoinTransaction, other)) : Approves store store' := by
  obtain ⟨transaction, htransaction, hid, hvalid, htxid, hintent, hraw, habsent, hfree⟩ :=
    approvedRecord_eq_some happroved hfresh
  have hinputs := approvedInputs_of_raw hintent hraw htransaction
  have hsound : SoundRecord approval.txid.toList record := by
    refine ⟨by rw [htxid], hvalid, fun intent hmem => ?_, hinputs ▸ hnodup _ htransaction⟩
    cases hintent.symm.trans hmem
    exact hnetwork
  refine .added hsound hwritten hothers habsent (by rw [hintent]; rfl) ?_
  intro other before hne hbefore
  rw [hinputs]
  by_cases hbroadcast : before.broadcast.isSome
  · by_cases hobserved : before.observation = .absentFromCanonicalWalletView
    · have hnamed := (hapart.soundRecord hbefore).named
      exact hfree other before hbefore hobserved (hnamed ▸ validateId_txid _)
    · exact hfresh.unspent transaction other before htransaction hbefore (hid ▸ hne) hbroadcast
        hobserved
  · have hempty : approvedInputs before = [] := by
      unfold approvedInputs
      rw [Option.not_isSome_iff_eq_none.1 hbroadcast]
    rw [hempty]
    exact List.disjoint_nil_right _

variable {W : Type} [DescriptorWallet W] {wallet : W}

theorem deriveBitcoinBroadcastApproval_eq_ok
    (h : deriveBitcoinBroadcastApproval wallet rawTransaction maximumFeeSats expiresAtUnix =
      .ok approval) :
    approval.network = BitcoinWallet.networkMagic ∧
      ∀ transaction, deserialize rawTransaction = some transaction →
        transaction.inputs.Nodup := by
  unfold deriveBitcoinBroadcastApproval at h
  simp only [ok_iff] at h
  obtain ⟨_, -, _, -, transaction, htransaction, _, -, _, hinputs, fee, -, _, -, hret⟩ := h
  cases hret
  refine ⟨rfl, fun other hother => ?_⟩
  cases htransaction.symm.trans hother
  exact (checkInputs_nodup hinputs).1

section Calls

variable [Encoded V] {guard : Option BitcoinBroadcastAuthorizationGuard}

section

variable (hapart : InputsApart store)
include hapart

section

variable (hfresh : FreshApproval store rawTransaction)
include hfresh

section

variable (hnetwork : approval.network = BitcoinWallet.networkMagic)
  (hnodup : ∀ transaction, deserialize rawTransaction = some transaction → transaction.inputs.Nodup)
include hnetwork hnodup

theorem Approves.persistApproved
    (h : persistApprovedBitcoinBroadcast store rawTransaction approval approvalCommitment
      expectedRevision nowUnix = .ok store') : Approves store store' := by
  obtain ⟨-, rfl | ⟨record, next, happroved, hsave⟩⟩ := persistApprovedBitcoinBroadcast_cases h
  · exact .unchanged fun _ => rfl
  · obtain ⟨-, -, -, -, -, rfl⟩ := saveEntity_eq_ok.1 hsave
    refine .of_record hapart hfresh hnetwork hnodup happroved
      (recorded_putEntity (Serde.fromSlice_toVec record)) fun other hne => ?_
    exact putEntity_lookup_ne fun hkey => hne (Prod.mk.inj hkey).2

theorem Approves.persistGuardedApproved {guard : BitcoinBroadcastAuthorizationGuard}
    (h : persistGuardedApprovedBitcoinBroadcast store rawTransaction approval approvalCommitment
      expectedRevision nowUnix guard = .ok store') : Approves store store' := by
  unfold persistGuardedApprovedBitcoinBroadcast at h
  simp only [ok_iff] at h
  obtain ⟨-, -, found, happroved, h⟩ := h
  cases found with
  | none => cases h
  | some record =>
    simp only [ok_iff] at h
    obtain ⟨-, -, h⟩ := h
    obtain ⟨written, row, hbatched, rfl, -⟩ := guardedBatch_batched h
    -- The consumed authority is a row of another kind.
    have hrow : ∀ other, (written.putEntity .swapFundingAuthorization guard.authorization.id
        row).entities.lookup (.bitcoinTransaction, other) =
        written.entities.lookup (.bitcoinTransaction, other) := by
      intro other
      refine putEntity_lookup_ne fun hkey => ?_
      cases (Prod.mk.inj hkey).1
    obtain ⟨-, next, -, hlookup⟩ := hbatched.saved _ (List.mem_singleton.2 rfl)
    refine .of_record hapart hfresh hnetwork hnodup happroved
      ⟨_, (hrow _).trans hlookup, Serde.fromSlice_toVec record⟩ fun other hne => ?_
    rw [hrow]
    refine hbatched.lookup_ne (fun save hsave => ?_) fun delete hdelete => ?_
    · rw [List.mem_singleton.1 hsave]
      exact Ne.symm hne
    · cases hdelete

end

theorem Approves.persistPrepared
    (h : persistPreparedBitcoinBroadcast wallet store rawTransaction approvalCommitment
      maximumFeeSats expectedRevision nowUnix expiresAtUnix = .ok store') :
    Approves store store' := by
  obtain ⟨approval, hderive, hpersist⟩ := ok_bind_iff.1 h
  obtain ⟨hnetwork, hnodup⟩ := deriveBitcoinBroadcastApproval_eq_ok hderive
  exact .persistApproved hapart hfresh hnetwork hnodup hpersist

theorem Approves.persistGuardedPrepared {guard : BitcoinBroadcastAuthorizationGuard}
    (h : persistGuardedPreparedBitcoinBroadcast wallet store rawTransaction approvalCommitment
      maximumFeeSats expectedRevision nowUnix expiresAtUnix guard = .ok store') :
    Approves store store' := by
  simp only [persistGuardedPreparedBitcoinBroadcast, ok_iff] at h
  obtain ⟨-, -, approval, hderive, hpersist⟩ := h
  obtain ⟨hnetwork, hnodup⟩ := deriveBitcoinBroadcastApproval_eq_ok hderive
  exact .persistGuardedApproved hapart hfresh hnetwork hnodup hpersist

theorem Approves.persistHtlcSpend {lock : VerifiedBitcoinLock} {branch : HtlcSpendBranch}
    (hnodup : ∀ transaction, deserialize rawTransaction = some transaction →
      transaction.inputs.Nodup)
    (h : persistPreparedBitcoinHtlcSpendBroadcast store rawTransaction lock branch
      approvalCommitment maximumFeeSats expectedRevision nowUnix expiresAtUnix = .ok store') :
    Approves store store' := by
  obtain ⟨approval, hderive, hpersist⟩ := ok_bind_iff.1 h
  have hnetwork : approval.network = BitcoinWallet.networkMagic := by
    unfold deriveBitcoinHtlcSpendBroadcastApproval at hderive
    simp only [ok_iff] at hderive
    obtain ⟨-, -, -, -, verified, -, -, -, hret⟩ := hderive
    cases hret
    rfl
  exact .persistApproved hapart hfresh hnetwork hnodup hpersist

end

theorem InputsApart.packageMembers {members : List (List UInt8 × BitcoinBroadcastApprovalBinding)}
    (hfresh : ∀ member ∈ members, FreshApproval store member.1) :
    InputsApart (persistPackageMembers maximumFeeSats nowUnix guard wallet store members).1 := by
  induction members generalizing store wallet with
  | nil => exact hapart
  | cons member rest ih =>
    obtain ⟨raw, approval⟩ := member
    obtain ⟨hfirst, hrest⟩ := List.forall_mem_cons.1 hfresh
    unfold persistPackageMembers
    split
    next => exact hapart
    next written hwritten =>
      have happroves : Approves store written := by
        simp only [persistPackageMember, ok_iff] at hwritten
        obtain ⟨existing, -, hwritten⟩ := hwritten
        split at hwritten
        · exact .persistGuardedPrepared hapart hfirst hwritten
        · exact .persistPrepared hapart hfirst hwritten
      split
      next => exact hapart.approves happroves
      next =>
        exact ih (hapart.approves happroves)
          fun member hmember => (hrest member hmember).approves happroves

theorem InputsApart.persistRecoverableFunding {package : PreparedBitcoinRecoverableFunding}
    {fundingExpiresAtUnix : UInt64} (hfresh : ∀ raw ∈ package.members, FreshApproval store raw) :
    InputsApart (persistBitcoinRecoverableFundingBefore wallet store package maximumFeeSats nowUnix
      expiresAtUnix fundingExpiresAtUnix guard).1 := by
  unfold persistBitcoinRecoverableFundingBefore
  split
  next => exact hapart
  next => exact hapart.packageMembers fun member hmember => hfresh _ (List.of_mem_zip hmember).1

end

end Calls

/-! ## The calls that reserve nothing new -/

theorem Reserves.put (hsound : SoundRecord id record)
    (hinputs : approvedInputs record = [] ∨
      ∃ before, Recorded store id before ∧ approvedInputs record = approvedInputs before)
    (hvalue : Serde.fromSlice row.value = some record) :
    Reserves store (store.putEntity .bitcoinTransaction id row) := by
  intro other found hfound
  by_cases hid : other = id
  · subst hid
    rw [putEntity_lookup] at hfound
    cases hfound
    exact .inr ⟨record, hvalue, hsound, hinputs⟩
  · rw [putEntity_lookup_ne fun hkey => hid (Prod.mk.inj hkey).2] at hfound
    exact .inl hfound

theorem Reserves.batched {written : WalletStore V}
    {saves : List (EntityBatchSave BitcoinTransactionRecord)} (h : Reserves store written)
    (hsaves : ∀ save ∈ saves, SoundRecord save.id save.value ∧
      (approvedInputs save.value = [] ∨ ∃ before, Recorded store save.id before ∧
        approvedInputs save.value = approvedInputs before))
    (hbatched : WalletStore.Batched .bitcoinTransaction saves [] written store') :
    Reserves store store' := by
  intro id row hrow
  by_cases hid : ∃ save ∈ saves, save.id = id
  · obtain ⟨save, hsave, rfl⟩ := hid
    obtain ⟨-, next, -, hlookup⟩ := hbatched.saved save hsave
    cases hrow.symm.trans hlookup
    obtain ⟨hsound, hinputs⟩ := hsaves save hsave
    exact .inr ⟨save.value, Serde.fromSlice_toVec _, hsound, hinputs⟩
  · refine h id row ?_
    rw [← hbatched.lookup_ne (fun save hsave heq => hid ⟨save, hsave, heq⟩)
      fun delete hdelete => by cases hdelete]
    exact hrow

theorem SoundRecord.keep {after : BitcoinTransactionRecord} (h : SoundRecord id record)
    (htxid : after.txid = record.txid) (hvalid : after.validate = .ok ())
    (hraw : after.rawTransaction = record.rawTransaction)
    (hbroadcast : after.broadcast.isSome = record.broadcast.isSome)
    (hnetwork : ∀ intent ∈ after.broadcast, intent.network = BitcoinWallet.networkMagic) :
    SoundRecord id after where
  named := by rw [htxid]; exact h.named
  valid := hvalid
  network := hnetwork
  nodup := by rw [approvedInputs_congr hraw hbroadcast]; exact h.nodup

theorem SoundRecord.abandoned (h : SoundRecord id record) (nowUnix : UInt64) :
    SoundRecord id (record.abandoned nowUnix) where
  named := h.named
  valid := by
    obtain ⟨⟨hversion, htxid, hwtxid, -⟩, -, -⟩ := validate_eq_ok.1 h.valid
    refine validate_eq_ok.2 ⟨⟨hversion, htxid, hwtxid, rfl⟩, ?_, ?_⟩
    · exact fun raw hraw => by cases hraw
    · exact fun intent hintent => by cases hintent
  network := fun _ hintent => by cases hintent
  nodup := List.nodup_nil

omit [BitcoinWallet] in
theorem validateIntent_started
    (h : record.validateIntent intent = .ok ()) (hprepared : intent.preparedAtUnix ≤ nowUnix)
    (hretry : ∀ last ∈ intent.lastAttemptAtUnix, last ≤ nowUnix)
    (hcount : intent.attemptCount < maxBroadcastAttempts) :
    record.validateIntent (intent.started nowUnix) = .ok () := by
  unfold validateIntent at h ⊢
  simp only [ok_iff, not_or, Bool.not_eq_false, UInt16.not_lt] at h ⊢
  obtain ⟨-, ⟨hcommitment, hfee, hmaximum, hexpiry, hlifetime, -, htimes, hdurable⟩, hbound⟩ := h
  refine ⟨(), ⟨hcommitment, hfee, hmaximum, hexpiry, hlifetime, ?_, ?_, ?_⟩, hbound⟩
  · exact (attemptCount_started hcount).1
  · have hsubmitted := submitted_le htimes hretry
    simp only [timestampsValid, started,
      Bool.and_eq_true, bne_iff_ne, Option.isSome_some, and_true, Option.any_some]
    refine ⟨(attemptCount_started hcount).2, ?_⟩
    cases hlast : intent.lastSubmittedAtUnix with
    | none => rfl
    | some submitted => simpa using hsubmitted submitted hlast
  · simp only [durableTimesValid, started,
      List.all_eq_true, List.reduceOption_mem_iff] at hdurable ⊢
    intro time htime
    rcases List.mem_cons.1 htime with hnow | hlast
    · cases hnow
      exact decide_eq_true hprepared
    · exact hdurable time (List.mem_cons_of_mem _ hlast)

theorem SoundRecord.started {intent : BitcoinBroadcastIntent} (h : SoundRecord id record)
    (hintent : record.broadcast = some intent) (hprepared : intent.preparedAtUnix ≤ nowUnix)
    (hretry : ∀ last ∈ intent.lastAttemptAtUnix, last ≤ nowUnix)
    (hcount : intent.attemptCount < maxBroadcastAttempts) :
    SoundRecord id { record with broadcast := some (intent.started nowUnix) } := by
  obtain ⟨⟨hversion, htxid, hwtxid, hsome⟩, htransaction, hintents⟩ := validate_eq_ok.1 h.valid
  refine h.keep rfl (validate_eq_ok.2 ⟨⟨hversion, htxid, hwtxid, ?_⟩, htransaction, ?_⟩) rfl ?_ ?_
  · rw [← hsome, hintent]
    rfl
  · rintro started ⟨⟩
    exact validateIntent_started (hintents intent hintent) hprepared hretry hcount
  · rw [hintent]
    rfl
  · rintro started ⟨⟩
    exact h.network intent hintent

section Calls

variable {network : Bytes 4} {seen : List (Bytes 32)}
  {save : EntityBatchSave BitcoinTransactionRecord}

theorem absentSave_eq_some (h : InputsApart store) (hbefore : Recorded store stored.id stored.value)
    (hsave : absentSave nowUnix stored = .ok (some save)) :
    SoundRecord save.id save.value ∧ (approvedInputs save.value = [] ∨
      ∃ before, Recorded store save.id before ∧
        approvedInputs save.value = approvedInputs before) := by
  unfold absentSave at hsave
  split at hsave
  next => cases hsave
  next =>
    simp only [ok_iff] at hsave
    obtain ⟨_, hvalid, hret⟩ := hsave
    cases hret
    have hsound := h.soundRecord hbefore
    exact ⟨hsound.keep rfl hvalid rfl rfl hsound.network,
      Or.inr ⟨stored.value, hbefore, approvedInputs_congr rfl rfl⟩⟩

theorem checkRecords_cons {first : StoredEntity BitcoinTransactionRecord}
    {rest : List (StoredEntity BitcoinTransactionRecord)} :
    checkRecords seen (first :: rest) = (do
      first.value.validate
      refuseIf (first.id ≠ first.value.txid.toList ∨ first.value.txid ∈ seen)
        .corruptRuntimeState
      checkRecords (first.value.txid :: seen) rest) := rfl

theorem checkRecords_mem {u : Unit} (h : checkRecords seen records = .ok u) : ∀ stored ∈ records,
      stored.value.validate = .ok () ∧ stored.id = stored.value.txid.toList := by
  induction records generalizing seen with
  | nil => exact fun stored hstored => absurd hstored List.not_mem_nil
  | cons first rest ih =>
    rw [checkRecords_cons] at h
    simp only [ok_iff, not_or, ne_eq, not_not] at h
    obtain ⟨_, hvalid, _, ⟨hnamed, -⟩, h⟩ := h
    intro stored hstored
    rcases List.mem_cons.1 hstored with rfl | hstored
    · exact ⟨hvalid, hnamed⟩
    · exact ih h stored hstored

theorem observedSave_eq_some {W : Type} [DescriptorWallet W] {wallet : W} (h : InputsApart store)
    {previous : List (StoredEntity BitcoinTransactionRecord)}
    (hprevious : bitcoinTransactions store = .ok previous)
    (hcheck : checkRecords [] previous = .ok ()) {current : WalletTransaction}
    (hsave : observedSave wallet nowUnix previous current = .ok (some save)) :
    SoundRecord save.id save.value ∧ (approvedInputs save.value = [] ∨
      ∃ before, Recorded store save.id before ∧
        approvedInputs save.value = approvedInputs before) := by
  simp only [observedSave, ok_iff] at hsave
  obtain ⟨record, hrecord, hret⟩ := hsave
  simp only [observedRecord, ok_iff] at hrecord
  obtain ⟨approved, -, inputCount, -, outputCount, -, _, hvalid, hrecord⟩ := hrecord
  split at hret
  next => cases hret
  next =>
    cases hret
    cases hrecord
    cases hprior : byTxid previous current.transaction.txid with
    | none =>
      rw [hprior] at hvalid
      refine ⟨⟨rfl, hvalid, fun intent hintent => ?_, List.nodup_nil⟩, .inl rfl⟩
      cases hintent
    | some stored =>
      rw [hprior] at hvalid
      obtain ⟨hmem, htxid⟩ := byTxid_eq_some hprior
      have hnamed := (checkRecords_mem hcheck stored hmem).2
      have hbefore := recorded_of_bitcoinTransactions hprevious hmem
      rw [hnamed, htxid] at hbefore
      have hsound := h.soundRecord hbefore
      refine ⟨hsound.keep htxid.symm hvalid rfl rfl hsound.network,
        Or.inr ⟨stored.value, hbefore, approvedInputs_congr rfl rfl⟩⟩

variable [Encoded V]

theorem saved_reserves {revision updatedAt next : UInt64} {before : BitcoinTransactionRecord}
    (hsave : store.saveEntity .bitcoinTransaction id revision record updatedAt = .ok (store', next))
    (hsound : SoundRecord id record) (hbefore : Recorded store id before)
    (hinputs : approvedInputs record = [] ∨ approvedInputs record = approvedInputs before) :
    Reserves store store' := by
  obtain ⟨-, -, -, -, -, rfl⟩ := saveEntity_eq_ok.1 hsave
  exact .put hsound (hinputs.imp_right fun h => ⟨before, hbefore, h⟩) (Serde.fromSlice_toVec record)

theorem InputsApart.finishSubmission (h : InputsApart store)
    {startedRevision : UInt64} {intent : BitcoinBroadcastIntent}
    (hrecord : Recorded store txid.toList record) (hintent : record.broadcast = some intent)
    (hphase : intent.phase = .submissionStarted)
    (hstarted : intent.lastSubmissionStartedAtUnix = some nowUnix)
    (hfinish : finishBroadcastSubmission store txid startedRevision nowUnix record = .ok store') :
    InputsApart store' := by
  simp only [finishBroadcastSubmission, ok_iff] at hfinish
  obtain ⟨found, hfound, ⟨written, next⟩, hsave, hret⟩ := hfinish
  cases hret
  cases hintent.symm.trans hfound
  have hsound := h.soundRecord hrecord
  obtain ⟨⟨hversion, htxid, hwtxid, hsome⟩, htransaction, hintents⟩ :=
    validate_eq_ok.1 hsound.valid
  have hisSome : record.broadcast.isSome = true := by rw [hintent]; rfl
  refine h.reserves (saved_reserves hsave (hsound.keep rfl (validate_eq_ok.2
    ⟨⟨hversion, htxid, hwtxid, hsome ▸ hisSome.symm⟩, htransaction, ?_⟩) rfl hisSome.symm ?_)
    hrecord (.inr (approvedInputs_congr rfl hisSome.symm)))
  · rintro submitted ⟨⟩
    have hvalid := hintents intent hintent
    unfold validateIntent at hvalid ⊢
    simp only [ok_iff, not_or, Bool.not_eq_false] at hvalid ⊢
    obtain ⟨-, ⟨hcommitment, hfee, hmaximum, hexpiry, hlifetime, hcount, htimes, hdurable⟩,
      hbound⟩ := hvalid
    refine ⟨(), ⟨hcommitment, hfee, hmaximum, hexpiry, hlifetime, hcount, ?_, ?_⟩, hbound⟩
    · simp only [timestampsValid, hphase, hstarted, Bool.and_eq_true]
        at htimes ⊢
      exact ⟨htimes.1, beq_self_eq_true _⟩
    · simp only [durableTimesValid, List.all_eq_true,
        List.reduceOption_mem_iff, hstarted] at hdurable ⊢
      intro time htime
      refine hdurable time ?_
      simp only [List.mem_cons, List.not_mem_nil, or_false, or_self] at htime
      exact htime ▸ List.mem_cons_self
  · rintro submitted ⟨⟩
    exact hsound.network intent hintent

theorem applyBatches_reserves {written : WalletStore V}
    {batches : List (List (EntityBatchSave BitcoinTransactionRecord))} (h : Reserves store written)
    (hsaves : ∀ batch ∈ batches, ∀ save ∈ batch, SoundRecord save.id save.value ∧
      (approvedInputs save.value = [] ∨ ∃ before, Recorded store save.id before ∧
        approvedInputs save.value = approvedInputs before)) :
    Reserves store (applyBatches .bitcoinTransaction written batches).1 := by
  induction batches generalizing written with
  | nil => exact h
  | cons batch rest ih =>
    obtain ⟨hfirst, hrest⟩ := List.forall_mem_cons.1 hsaves
    unfold applyBatches
    split
    next => exact h
    next next hbatch =>
      exact ih (h.batched hfirst (applyEntityBatch_batched hbatch).2) hrest

theorem InputsApart.reconcile {W : Type} [DescriptorWallet W] (wallet : W) (h : InputsApart store) :
    InputsApart (reconcileTransactionRecords wallet store nowUnix).1 := by
  unfold reconcileTransactionRecords
  split
  next => exact h
  next count saves hsaves =>
    refine h.reserves (applyBatches_reserves (Reserves.refl store) fun batch hbatch save hsave =>
      ?_)
    have hmem : save ∈ saves := by
      rw [← flatten_chunks (n := maxReconciliationBatchSaves) (by decide) saves]
      exact List.mem_flatten.2 ⟨batch, hbatch, hsave⟩
    simp only [transactionSaves, ok_iff] at hsaves
    obtain ⟨previous, hprevious, _, hcheck, _, -, _, -, _, -, observed, hobserved, absent, habsent,
      hret⟩ := hsaves
    cases hret
    rcases List.mem_append.1 hmem with hmem | hmem
    · obtain ⟨found, hfound, rfl⟩ := List.mem_filterMap.1 hmem
      obtain ⟨current, -, hsave⟩ := (mem_of_mapM_eq_ok hobserved).1 hfound
      exact observedSave_eq_some h hprevious hcheck hsave
    · obtain ⟨found, hfound, rfl⟩ := List.mem_filterMap.1 hmem
      obtain ⟨stored, hstored, hsave⟩ := (mem_of_mapM_eq_ok habsent).1 hfound
      exact absentSave_eq_some h (recorded_of_bitcoinTransactions hprevious
        (List.mem_of_mem_filter hstored)) hsave

variable [TransactionData]

omit [Encoded V] in
theorem decideSubmission_cases {d : SubmissionDecision}
    (h : decideSubmission store network txid nowUnix = .ok d) :
    ∃ before, Recorded store txid.toList before ∧ before.validate = .ok () ∧
      ∀ revision after, (d = .abandon revision after → after = before.abandoned nowUnix) ∧
        ∀ transaction, d = .submit revision transaction after →
          ∃ intent, before.broadcast = some intent ∧ intent.preparedAtUnix ≤ nowUnix ∧
            (∀ last ∈ intent.lastAttemptAtUnix, last ≤ nowUnix) ∧
            intent.attemptCount < maxBroadcastAttempts ∧
            after = { before with broadcast := some (intent.started nowUnix) } := by
  unfold decideSubmission at h
  simp only [ok_iff, UInt64.not_lt] at h
  obtain ⟨loaded, hload, stored, rfl, _, hvalid, raw, -, transaction, -, _, -, intent,
    hintent, _, -,
    _, hprepared, h⟩ := h
  refine ⟨stored.value, recorded_of_load hload, hvalid, fun revision after => ?_⟩
  split at h
  next =>
    cases h
    exact ⟨fun hd => (by cases hd), fun _ hd => (by cases hd)⟩
  next =>
    split at h
    next =>
      split at h
      next =>
        cases h
        refine ⟨fun hd => ?_, fun _ hd => (by cases hd)⟩
        cases hd
        rfl
      next =>
        cases h
        exact ⟨fun hd => (by cases hd), fun _ hd => (by cases hd)⟩
    next =>
      simp only [ok_iff, UInt16.not_le] at h
      obtain ⟨_, hretry, _, hcount, hret⟩ := h
      cases hret
      refine ⟨fun hd => (by cases hd), fun _ hd => ?_⟩
      cases hd
      refine ⟨intent, hintent, hprepared, fun last hlast => ?_, hcount, rfl⟩
      rw [hlast] at hretry
      exact checkRetry_le hretry

theorem InputsApart.beginSubmission (h : InputsApart store) :
    InputsApart (beginBroadcastSubmission store network txid nowUnix).1 := by
  unfold beginBroadcastSubmission
  cases hdecide : decideSubmission store network txid nowUnix with
  | error => exact h
  | ok decision =>
    obtain ⟨before, hbefore, -, hafter⟩ := decideSubmission_cases hdecide
    have hsound := h.soundRecord hbefore
    cases decision with
    | alreadyObserved => exact h
    | expired => exact h
    | abandon revision after =>
      obtain rfl := (hafter revision after).1 rfl
      dsimp only
      split
      next => exact h
      next written next hsave =>
        exact h.reserves (saved_reserves hsave (hsound.abandoned nowUnix) hbefore (.inl rfl))
    | submit revision transaction after =>
      obtain ⟨intent, hintent, hprepared, hretry, hcount, rfl⟩ :=
        (hafter revision after).2 transaction rfl
      dsimp only
      split
      next => exact h
      next written next hsave =>
        refine h.reserves (saved_reserves hsave
          (hsound.started hintent hprepared hretry hcount) hbefore (.inr ?_))
        exact approvedInputs_congr rfl (by rw [hintent]; rfl)

theorem InputsApart.abandonExpired (h : InputsApart store) {count : Nat}
    (habandon : abandonExpiredUnattemptedRecoveryPackages store network nowUnix =
      .ok (store', count)) : InputsApart store' := by
  simp only [abandonExpiredUnattemptedRecoveryPackages, ok_iff] at habandon
  obtain ⟨records, hrecords, _, hcheck, finals, -, abandon, -, saves, hsaves, hret⟩ := habandon
  split at hret
  next =>
    cases hret
    exact h
  next =>
    simp only [ok_iff] at hret
    obtain ⟨written, hbatch, hret⟩ := hret
    cases hret
    refine h.reserves ((Reserves.refl store).batched (fun save hsave => ?_)
      (applyEntityBatch_batched hbatch).2)
    obtain ⟨txid, -, hsave⟩ := (mem_of_mapM_eq_ok hsaves).1 hsave
    simp only [abandonSave, ok_iff] at hsave
    obtain ⟨stored, hfound, _, -, hret⟩ := hsave
    cases hret
    obtain ⟨hmem, rfl⟩ := byTxid_eq_some hfound
    have hnamed := (checkRecords_mem hcheck stored hmem).2
    have hsound := h.soundRecord (recorded_of_bitcoinTransactions hrecords hmem)
    rw [hnamed] at hsound
    exact ⟨hsound.abandoned nowUnix, .inl rfl⟩

end Calls

end Conflicts

end HnsWallet
