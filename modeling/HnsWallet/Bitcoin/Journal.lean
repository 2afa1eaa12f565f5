import Mathlib.Algebra.BigOperators.Group.List.Basic
import HnsWallet.Bitcoin.Transaction
import HnsWallet.Lib.Calls
import HnsWallet.Lib.Chunks

/-! # The changeset journal of the Bitcoin wallet -/

namespace HnsWallet

open Lib

@[ext] structure ChangeSet (D R : Type) where
  descriptor : Option D
  changeDescriptor : Option D
  network : Option BitcoinNetwork
  rest : R
deriving DecidableEq

namespace ChangeSet

variable {D R : Type} [Monoid R]

def default : ChangeSet D R := ⟨none, none, none, 1⟩

def merge (self other : ChangeSet D R) : ChangeSet D R :=
  ⟨other.descriptor.or self.descriptor, other.changeDescriptor.or self.changeDescriptor,
    other.network.or self.network, self.rest * other.rest⟩

end ChangeSet

def bdkWalletStateFormatVersion : UInt16 := 2

def bdkWalletLegacyStateFormatVersion : UInt16 := 1

def bdkWalletChangesetRecordVersion : UInt16 := 1

def bdkWalletChangesetCompactionInterval : Nat := 32

def maxBdkWalletChangesetRecords : Nat := 4096

def bdkWalletChangesetIdDomain : List UInt8 :=
  ascii "hns-wallet-rs/bdk-changeset/v1/"

def bdkWalletJournalHeadMarker : UInt8 := 0

def bdkWalletChangesetMarker : UInt8 := 1

def bdkWalletChangesetVersion : List UInt16 := [3, 1, 0]

section Rows

variable {D R : Type}

structure StoredBdkWalletState (D R : Type) where
  formatVersion : UInt16
  bdkWalletVersion : List UInt16
  compactedSequence : UInt64
  changeset : ChangeSet D R
deriving DecidableEq

namespace StoredBdkWalletState

def validate (state : StoredBdkWalletState D R) : Except BitcoinWalletError Unit := do
  refuseIf ((state.formatVersion ≠ bdkWalletLegacyStateFormatVersion ∧
      state.formatVersion ≠ bdkWalletStateFormatVersion) ∨
    state.bdkWalletVersion ≠ bdkWalletChangesetVersion ∨
    (state.formatVersion = bdkWalletLegacyStateFormatVersion ∧ state.compactedSequence ≠ 0))
    .unsupportedBitcoinWalletState
  refuseIf (state.changeset.descriptor.isNone ∨ state.changeset.changeDescriptor.isNone ∨
    state.changeset.network.isNone) .corruptBitcoinWalletState

def new (compactedSequence : UInt64) (changeset : ChangeSet D R) :
    Except BitcoinWalletError (StoredBdkWalletState D R) := do
  let state : StoredBdkWalletState D R :=
    ⟨bdkWalletStateFormatVersion, bdkWalletChangesetVersion, compactedSequence, changeset⟩
  state.validate
  return state

end StoredBdkWalletState

inductive StoredBdkWalletJournalRecord (D R : Type) where
  | head (formatVersion : UInt16) (bdkWalletVersion : List UInt16) (accountCommitment : Bytes 32)
      (nextSequence : UInt64)
  | changeSet (formatVersion : UInt16) (bdkWalletVersion : List UInt16)
      (accountCommitment : Bytes 32) (sequence : UInt64) (changeset : ChangeSet D R)
deriving DecidableEq

namespace StoredBdkWalletJournalRecord

def validate [DecidableEq D] [DecidableEq R] [Monoid R] (accountCommitment : Bytes 32) :
    StoredBdkWalletJournalRecord D R → Except BitcoinWalletError Unit
  | head formatVersion bdkWalletVersion storedCommitment nextSequence =>
    refuseIf (formatVersion ≠ bdkWalletChangesetRecordVersion ∨
      bdkWalletVersion ≠ bdkWalletChangesetVersion ∨ storedCommitment ≠ accountCommitment ∨
      nextSequence = 0) .corruptBitcoinWalletState
  | changeSet formatVersion bdkWalletVersion storedCommitment sequence changeset =>
    refuseIf (formatVersion ≠ bdkWalletChangesetRecordVersion ∨
      bdkWalletVersion ≠ bdkWalletChangesetVersion ∨ storedCommitment ≠ accountCommitment ∨
      sequence = 0 ∨ changeset = .default) .corruptBitcoinWalletState

def sequence : StoredBdkWalletJournalRecord D R → Option UInt64
  | head .. => none
  | changeSet _ _ _ sequence _ => some sequence

end StoredBdkWalletJournalRecord

end Rows

structure InitializedState (D R : Type) where
  snapshotRevision : UInt64
  journalHeadRevision : UInt64
  nextSequence : UInt64
  journalRecords : Nat
  hadPersistedState : Bool
  aggregate : ChangeSet D R

inductive PersisterState (D R : Type) where
  | uninitialized
  | initialized (state : InitializedState D R)

structure BdkWalletStorePersister (D R : Type) where
  accountId : RecordId
  nowUnix : UInt64
  state : PersisterState D R

namespace BdkWalletStorePersister

variable {D R : Type}

def new (accountId : RecordId) (nowUnix : UInt64) :
    Except BitcoinWalletError (BdkWalletStorePersister D R) := do
  refuseIf (accountId.length = 0 ∨ maxRecordIdBytes < accountId.length)
    (.store .invalidRecordId)
  return ⟨accountId, nowUnix, .uninitialized⟩

def accountCommitment [Sha256] (accountId : RecordId) : Bytes 32 :=
  Sha256.digest (bdkWalletChangesetIdDomain ++ accountId)

def journalId (accountCommitment : Bytes 32) (sequence : UInt64) : RecordId :=
  accountCommitment.toList ++ bdkWalletChangesetMarker :: beBytes 8 sequence.toNat

def journalHeadId (accountCommitment : Bytes 32) : RecordId :=
  accountCommitment.toList ++ [bdkWalletJournalHeadMarker]

variable [DecidableEq D]

def changes {A : Type} [DecidableEq A] (next current : Option A) : Bool :=
  match next, current with
  | some next, some current => next ≠ current
  | _, _ => false

def rejectImmutableChanges (aggregate changeset : ChangeSet D R) :
    Except BitcoinWalletError Unit :=
  refuseIf (changes changeset.descriptor aggregate.descriptor ∨
    changes changeset.changeDescriptor aggregate.changeDescriptor ∨
    changes changeset.network aggregate.network) .bitcoinWalletStateConflict

structure LoadProgress (D R : Type) where
  expectedSequence : UInt64
  activeJournalRecords : Nat
  totalChangesetRecords : Nat
  journalHead : Option (UInt64 × UInt64)
  aggregate : ChangeSet D R

variable [DecidableEq R] [Monoid R]

def loadRecord (accountCommitment : Bytes 32) (compactedSequence : UInt64)
    (progress : LoadProgress D R) (record : StoredEntity (StoredBdkWalletJournalRecord D R)) :
    Except BitcoinWalletError (LoadProgress D R) := do
  record.value.validate accountCommitment
  match record.value with
  | .head _ _ _ nextSequence =>
    refuseIf (record.id ≠ journalHeadId accountCommitment ∨ progress.journalHead.isSome)
      .corruptBitcoinWalletState
    return { progress with journalHead := some (record.revision, nextSequence) }
  | .changeSet _ _ _ sequence changeset =>
    let progress :=
      { progress with totalChangesetRecords := progress.totalChangesetRecords + 1 }
    refuseIf (maxBdkWalletChangesetRecords < progress.totalChangesetRecords ∨
      record.id ≠ journalId accountCommitment sequence) .corruptBitcoinWalletState
    -- A row the snapshot covers is left over from a cut off compaction.
    if sequence ≤ compactedSequence then return progress
    else do
      refuseIf (sequence ≠ progress.expectedSequence) .corruptBitcoinWalletState
      rejectImmutableChanges progress.aggregate changeset
      let expectedSequence ← okOr (checkedAdd progress.expectedSequence 1) .sequenceOverflow
      return { progress with
        aggregate := progress.aggregate.merge changeset
        expectedSequence
        activeJournalRecords := progress.activeJournalRecords + 1 }

def sequenceKey (record : StoredEntity (StoredBdkWalletJournalRecord D R)) : Nat :=
  (record.value.sequence.getD 0).toNat

def loadJournal (accountCommitment : Bytes 32) (compactedSequence : UInt64)
    (aggregate : ChangeSet D R) (journal : List (StoredEntity (StoredBdkWalletJournalRecord D R))) :
    Except BitcoinWalletError (LoadProgress D R) :=
  (journal.insertionSort fun a b => sequenceKey a ≤ sequenceKey b).foldlM
    (loadRecord accountCommitment compactedSequence)
    ⟨saturatingAdd compactedSequence 1, 0, 0, none, aggregate⟩

def headRevision (compactedSequence : UInt64) (progress : LoadProgress D R) :
    Except BitcoinWalletError (UInt64 × Bool) :=
  match progress.journalHead with
  | some (revision, headNextSequence) =>
    if headNextSequence = progress.expectedSequence then .ok (revision, true)
    else .error .corruptBitcoinWalletState
  | none =>
    if progress.totalChangesetRecords = 0 ∧ compactedSequence = 0 then .ok (0, false)
    else .error .corruptBitcoinWalletState

variable {V : Type} [Serde V (StoredBdkWalletState D R)]
  [Serde V (StoredBdkWalletJournalRecord D R)] [Sha256]

def loadSnapshot (stored : Option (StoredEntity (StoredBdkWalletState D R))) :
    Except BitcoinWalletError (UInt64 × UInt64 × ChangeSet D R × Bool) :=
  match stored with
  | some stored => do
    stored.value.validate
    return (stored.revision, stored.value.compactedSequence, stored.value.changeset, true)
  | none => .ok (0, 0, .default, false)

def loadState (store : WalletStore V) (accountId : RecordId) :
    Except BitcoinWalletError (PersisterState D R) := do
  let commitment := accountCommitment accountId
  let snapshot ← (store.loadEntity (StoredBdkWalletState D R) .bitcoinWalletState
    accountId).mapError .store
  let journal ← (store.listEntitiesByIdPrefix (StoredBdkWalletJournalRecord D R)
    .bitcoinWalletChangeSet commitment.toList (maxBdkWalletChangesetRecords + 2)).mapError .store
  let (snapshotRevision, compactedSequence, aggregate, hadSnapshot) ← loadSnapshot snapshot
  refuseIf (maxBdkWalletChangesetRecords + 1 < journal.length) .corruptBitcoinWalletState
  let progress ← loadJournal commitment compactedSequence aggregate journal
  let (journalHeadRevision, hadHead) ← headRevision compactedSequence progress
  let hadPersistedState := hadSnapshot || hadHead
  refuseIf (hadPersistedState ∧ (progress.aggregate.descriptor.isNone ∨
    progress.aggregate.changeDescriptor.isNone ∨ progress.aggregate.network.isNone))
    .corruptBitcoinWalletState
  return .initialized ⟨snapshotRevision, journalHeadRevision, progress.expectedSequence,
    progress.activeJournalRecords, hadPersistedState, progress.aggregate⟩

/-- The journal is read each time, whatever the persister knew before. -/
def initializePersister (store : WalletStore V) (persister : BdkWalletStorePersister D R) :
    BdkWalletStorePersister D R × Except BitcoinWalletError (ChangeSet D R) :=
  match loadState store persister.accountId with
  | .error error => ({ persister with state := .uninitialized }, .error error)
  | .ok .uninitialized =>
    ({ persister with state := .uninitialized }, .error .bitcoinWalletPersisterUninitialized)
  | .ok (.initialized state) =>
    ({ persister with state := .initialized state }, .ok state.aggregate)

variable [Encoded V]

abbrev PersisterCall (D R V : Type) :=
  Call (WalletStore V) (UInt64 × ChangeSet D R)
    (BdkWalletStorePersister D R × Except BitcoinWalletError Unit)

variable (persister : BdkWalletStorePersister D R)

def fail (error : BitcoinWalletError) :
    PersisterCall D R V :=
  .done (persister, .error error)

def redundantDeletes (throughSequence : UInt64)
    (listed : List (StoredEntity (StoredBdkWalletJournalRecord D R))) : List EntityBatchDelete :=
  (listed.filter fun record => record.value.sequence.any fun sequence =>
    sequence ≤ throughSequence).map fun record => ⟨record.id, record.revision⟩

def prune (throughSequence : UInt64) :
    PersisterCall D R V :=
  .read (fun store => store.listEntitiesByIdPrefix (StoredBdkWalletJournalRecord D R)
      .bitcoinWalletChangeSet (accountCommitment persister.accountId).toList
      (maxBdkWalletChangesetRecords + 2)) fun
    | .error error => fail persister (.store error)
    | .ok redundant =>
      let deletes := redundantDeletes throughSequence redundant
      if deletes = [] then .done (persister, .ok ())
      else .attempt (fun store => (store.applyEntityBatch (β := StoredBdkWalletJournalRecord D R)
          .bitcoinWalletChangeSet [] deletes).map fun store => (store, ())) none fun
        | .error error => fail persister (.store error)
        | .ok () => .done (persister, .ok ())

def compact : PersisterCall D R V :=
  match persister.state with
  | .uninitialized => fail persister .bitcoinWalletPersisterUninitialized
  | .initialized state =>
    if state.journalRecords < bdkWalletChangesetCompactionInterval then
      .done (persister, .ok ())
    else
      match checkedSub state.nextSequence 1 with
      | none => fail persister .sequenceOverflow
      | some throughSequence =>
        match StoredBdkWalletState.new throughSequence state.aggregate with
        | .error error => fail persister error
        | .ok snapshot =>
          .attempt (fun store => store.saveEntity .bitcoinWalletState persister.accountId
              state.snapshotRevision snapshot persister.nowUnix) none fun
            | .error error => fail persister (.store error)
            | .ok nextSnapshotRevision =>
              prune { persister with
                state := .initialized { state with
                  snapshotRevision := nextSnapshotRevision
                  journalRecords := 0 } } throughSequence

def acceptExactRetry (sequence : UInt64)
    (changeset candidate : ChangeSet D R) (hadPersistedState : Bool) (stale : StoreError) :
    PersisterCall D R V :=
  if hadPersistedState = false then fail persister .walletAlreadyExists
  else
    let commitment := accountCommitment persister.accountId
    .read (fun store => store.loadEntity (StoredBdkWalletJournalRecord D R)
        .bitcoinWalletChangeSet (journalId commitment sequence)) fun
      | .error error => fail persister (.store error)
      | .ok none => fail persister (.store stale)
      | .ok (some stored) =>
        match stored.value.validate commitment with
        | .error error => fail persister error
        | .ok () =>
          match stored.value with
          | .head .. => fail persister (.store stale)
          | .changeSet _ _ _ storedSequence storedChangeset =>
            if ¬ (storedSequence = sequence ∧ storedChangeset = changeset) then
              fail persister (.store stale)
            else
              .read (fun store => loadState store persister.accountId) fun
                | .error error => fail persister error
                | .ok .uninitialized =>
                  fail persister .bitcoinWalletPersisterUninitialized
                | .ok (.initialized loaded) =>
                  if loaded.aggregate ≠ candidate then fail persister (.store stale)
                  else .done ({ persister with state := .initialized loaded }, .ok ())

def journalSaves (state : InitializedState D R) (changeset : ChangeSet D R) :
    Except BitcoinWalletError
      (UInt64 × List (EntityBatchSave (StoredBdkWalletJournalRecord D R))) := do
  let commitment := accountCommitment persister.accountId
  let record : StoredBdkWalletJournalRecord D R := .changeSet bdkWalletChangesetRecordVersion
    bdkWalletChangesetVersion commitment state.nextSequence changeset
  record.validate commitment
  let nextHeadSequence ← okOr (checkedAdd state.nextSequence 1) .sequenceOverflow
  let head : StoredBdkWalletJournalRecord D R := .head bdkWalletChangesetRecordVersion
    bdkWalletChangesetVersion commitment nextHeadSequence
  head.validate commitment
  return (nextHeadSequence,
    [⟨journalHeadId commitment, state.journalHeadRevision, head, persister.nowUnix⟩,
      ⟨journalId commitment state.nextSequence, 0, record, persister.nowUnix⟩])

def committed (state : InitializedState D R)
    (nextHeadSequence : UInt64) (candidate : ChangeSet D R) :
    Except BitcoinWalletError (BdkWalletStorePersister D R) := do
  let journalHeadRevision ← okOr (checkedAdd state.journalHeadRevision 1) .sequenceOverflow
  return { persister with
    state := .initialized { state with
      journalHeadRevision
      nextSequence := nextHeadSequence
      journalRecords := state.journalRecords + 1
      hadPersistedState := true
      aggregate := candidate } }

def persist (changeset : ChangeSet D R) :
    PersisterCall D R V :=
  match persister.state with
  | .uninitialized => fail persister .bitcoinWalletPersisterUninitialized
  | .initialized state =>
    match rejectImmutableChanges state.aggregate changeset with
    | .error error => fail persister error
    | .ok () =>
      let candidate := state.aggregate.merge changeset
      if candidate = state.aggregate then .done (persister, .ok ())
      else
        match journalSaves persister state changeset with
        | .error error => fail persister error
        | .ok (nextHeadSequence, saves) =>
          .attempt (fun store => (store.applyEntityBatch .bitcoinWalletChangeSet saves
              []).map fun store => (store, ())) (some (state.nextSequence, changeset)) fun
            | .ok () =>
              match committed persister state nextHeadSequence candidate with
              | .error error => fail persister error
              | .ok persister => compact persister
            | .error (.staleRevision expected actual) =>
              acceptExactRetry persister state.nextSequence changeset candidate
                state.hadPersistedState (.staleRevision expected actual)
            | .error error => fail persister (.store error)

end BdkWalletStorePersister

end HnsWallet
