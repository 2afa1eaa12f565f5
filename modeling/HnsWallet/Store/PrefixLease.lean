import Mathlib.Data.List.Induction
import Mathlib.Logic.Relation
import HnsWallet.Store.AssociatedData
import HnsWallet.Store.Listing

/-! # Leases on a prefix set -/

namespace HnsWallet

open Lib

class Encrypted (V : Type) where
  length : V → Nat
  fingerprint : V → Bytes 32

structure StoredEntityMetadata where
  kind : EntityKind
  id : RecordId
  revision : UInt64
  updatedAtUnix : UInt64
deriving DecidableEq

structure EntityPrefixSetLease where
  databaseId : Bytes 16
  kind : EntityKind
  idPrefix : RecordId
  limit : Nat
  metadata : List StoredEntityMetadata
  encryptedValueFingerprints : List (Bytes 32)

def validateEntityPrefixSetLeaseShape (databaseId : Bytes 16) (lease : EntityPrefixSetLease) :
    Except StoreError Unit :=
  refuseIf (lease.databaseId ≠ databaseId ∨ lease.limit = 0 ∨ maxEntityListResults < lease.limit ∨
    lease.limit < lease.metadata.length ∨
    lease.encryptedValueFingerprints.length ≠ lease.metadata.length ∨
    lease.idPrefix.length = 0 ∨ maxRecordIdBytes < lease.idPrefix.length ∨
    (∃ entry ∈ lease.metadata, entry.kind ≠ lease.kind ∨ ¬lease.idPrefix <+: entry.id) ∨
    ¬(lease.metadata.map (·.id)).IsChain (· < ·)) .invalidEntityPrefixLease

def validateEntityPrefixSetLease {β : Type} (databaseId : Bytes 16) (kind : EntityKind)
    (saves : List (EntityBatchSave β)) (deletes : List EntityBatchDelete)
    (assertions : List EntityRevisionAssertion) (lease : EntityPrefixSetLease) :
    Except StoreError Unit := do
  validateEntityPrefixSetLeaseShape databaseId lease
  refuseIf (lease.kind ≠ kind ∨ (∃ save ∈ saves, ¬lease.idPrefix <+: save.id) ∨
    (∃ delete ∈ deletes, ¬lease.idPrefix <+: delete.id) ∨
    ∃ assertion ∈ assertions, ¬lease.idPrefix <+: assertion.id) .invalidEntityPrefixLease

def noteIds (seen : List RecordId) : List RecordId → Except StoreError (List RecordId)
  | [] => .ok seen
  | id :: ids => do
    validateId id
    refuseIf (id ∈ seen) .duplicateBatchEntity
    noteIds (id :: seen) ids

def noteAssertions (seen : List RecordId) : List EntityRevisionAssertion → Except StoreError Unit
  | [] => .ok ()
  | assertion :: assertions => do
    validateId assertion.id
    refuseIf (assertion.expectedRevision = 0) .invalidRevision
    refuseIf (assertion.id ∈ seen) .duplicateBatchEntity
    noteAssertions (assertion.id :: seen) assertions

def validateEntityRevisionAssertions {β : Type} (saves : List (EntityBatchSave β))
    (deletes : List EntityBatchDelete) (assertions : List EntityRevisionAssertion) :
    Except StoreError Unit := do
  refuseIf (maxEntityBatchOperations < saves.length + deletes.length + assertions.length)
    .batchCapacity
  let saved ← noteIds [] (saves.map (·.id))
  let seen ← noteIds saved (deletes.map (·.id))
  noteAssertions seen assertions

namespace WalletStore

variable {V : Type} [Encrypted V] (store : WalletStore V)

def rowMetadata (kind : EntityKind) (row : RecordId × EntityRow V) : StoredEntityMetadata :=
  ⟨kind, row.1, row.2.revision, row.2.updatedAtUnix⟩

def projectedRow (kind : EntityKind) (row : RecordId × EntityRow V) :
    Except StoreError (StoredEntityMetadata × Bytes 32) := do
  validateId row.1
  validateEncryptedRecordLength (Encrypted.length row.2.value)
  return (rowMetadata kind row, Encrypted.fingerprint row.2.value)

/-- The rows within the limit are checked before one beyond it is noticed. -/
def loadEntityPrefixSetLeaseProjection (kind : EntityKind) (idPrefix : RecordId) (limit : Nat) :
    Except StoreError (List StoredEntityMetadata × List (Bytes 32)) := do
  validateId idPrefix
  refuseIf (limit = 0 ∨ maxEntityListResults < limit) .invalidListLimit
  let rows := store.entitiesByIdPrefix kind idPrefix
  let projected ← (rows.take limit).mapM (projectedRow kind)
  refuseIf (limit < rows.length) .listCapacity
  return (projected.map Prod.fst, projected.map Prod.snd)

def entityPrefixSetLease (databaseId : Bytes 16) (kind : EntityKind) (idPrefix : RecordId)
    (limit : Nat) : Except StoreError EntityPrefixSetLease := do
  let (metadata, fingerprints) ← store.loadEntityPrefixSetLeaseProjection kind idPrefix limit
  return ⟨databaseId, kind, idPrefix, limit, metadata, fingerprints⟩

def assertEntityPrefixSetLease (lease : EntityPrefixSetLease) : Except StoreError Unit :=
  match store.loadEntityPrefixSetLeaseProjection lease.kind lease.idPrefix lease.limit with
  | .ok current =>
    refuseIf (current ≠ (lease.metadata, lease.encryptedValueFingerprints)) .staleEntitySet
  | .error .listCapacity => .error .staleEntitySet
  | .error e => .error e

def refreshEntityPrefixSetLease (databaseId : Bytes 16) (lease : EntityPrefixSetLease) :
    Except StoreError EntityPrefixSetLease := do
  validateEntityPrefixSetLeaseShape databaseId lease
  store.assertEntityPrefixSetLease lease
  return lease

variable [Encoded V]

section

variable {β : Type} [Serde V β] (databaseId : Bytes 16) (kind : EntityKind)
  (saves : List (EntityBatchSave β)) (deletes : List EntityBatchDelete)
  (assertions : List EntityRevisionAssertion) (prefixLease : EntityPrefixSetLease)
  (guardPrefixLease : Option EntityPrefixSetLease)

def leasedBatch (assertLeases : Except StoreError Unit) : Except StoreError (WalletStore V) := do
  let prepared ← prepareEntityBatch saves deletes
  validateEntityRevisionAssertions saves deletes assertions
  validateEntityPrefixSetLease databaseId kind saves deletes assertions prefixLease
  guardPrefixLease.forM (validateEntityPrefixSetLeaseShape databaseId)
  store.requireKey
  assertLeases
  let writes ← store.authenticateEntityBatch kind prepared deletes
  assertions.forM (store.assertEntity kind)
  return store.writeEntityBatch kind writes deletes

def applyEntityBatchWithAssertionsAndPrefixLeaseGuardInner : Except StoreError (WalletStore V) :=
  store.leasedBatch databaseId kind saves deletes assertions prefixLease guardPrefixLease do
    store.assertEntityPrefixSetLease prefixLease
    guardPrefixLease.forM store.assertEntityPrefixSetLease

end

end WalletStore

/-- Every operation of the store that changes entities is a sequence of these. -/
inductive EntityWrite (V : Type) where
  | put (kind : EntityKind) (id : RecordId) (row : EntityRow V)
  | drop (kind : EntityKind) (id : RecordId)

namespace EntityWrite

variable {V : Type}

def key : EntityWrite V → EntityKind × RecordId
  | .put kind id _ | .drop kind id => (kind, id)

def perform (store : WalletStore V) : EntityWrite V → WalletStore V
  | .put kind id row => store.putEntity kind id row
  | .drop kind id => store.dropEntity kind id

/-- No write brings back a ciphertext that the store held: nonces are drawn afresh. -/
def Fresh (store : WalletStore V) (writes : List (EntityWrite V)) : Prop :=
  ∀ kind id row, .put kind id row ∈ writes →
    ∀ key held, store.entities.lookup key = some held → held.value ≠ row.value

theorem perform_lookup_ne {store : WalletStore V} {write : EntityWrite V}
    {key : EntityKind × RecordId} (h : write.key ≠ key) :
    (write.perform store).entities.lookup key = store.entities.lookup key := by
  cases write with
  | put kind id row => exact WalletStore.putEntity_lookup_ne (Ne.symm h)
  | drop kind id => exact WalletStore.dropEntity_lookup_ne (Ne.symm h)

theorem untouched_of_same {store : WalletStore V} {writes : List (EntityWrite V)}
    {key : EntityKind × RecordId} {row : EntityRow V} (hfresh : Fresh store writes)
    (hbefore : store.entities.lookup key = some row)
    (hafter : (writes.foldl perform store).entities.lookup key = some row) :
    ∀ write ∈ writes, write.key ≠ key := by
  induction writes using List.reverseRecOn with
  | nil => simp
  | append_singleton writes write ih =>
    rw [List.foldl_append, List.foldl_cons, List.foldl_nil] at hafter
    have hkey : write.key ≠ key := by
      rintro rfl
      cases write with
      | put kind id written =>
        rw [perform, key, WalletStore.putEntity_lookup] at hafter
        cases hafter
        exact hfresh kind id row (by simp) _ row hbefore rfl
      | drop kind id =>
        rw [perform, key, WalletStore.dropEntity_lookup] at hafter
        cases hafter
    rw [perform_lookup_ne hkey] at hafter
    have hearlier := ih (fun kind id row hput => hfresh kind id row (by simp [hput])) hafter
    simpa [or_imp, forall_and] using ⟨hearlier, hkey⟩

end EntityWrite

namespace WalletStore

variable {V : Type} [Encrypted V] {s₀ s s' : WalletStore V} {databaseId : Bytes 16}
  {kind : EntityKind} {idPrefix : RecordId} {limit : Nat} {lease lease' : EntityPrefixSetLease}

/-- SHA-256 tells the ciphertexts of the two stores apart. -/
def DigestsApart (s₀ s : WalletStore V) : Prop :=
  ∀ key row key₀ row₀, s.entities.lookup key = some row → s₀.entities.lookup key₀ = some row₀ →
    Encrypted.fingerprint row.value = Encrypted.fingerprint row₀.value → row.value = row₀.value

def Carried (V : Type) [Encrypted V] (databaseId : Bytes 16) :
    EntityPrefixSetLease → EntityPrefixSetLease → Prop :=
  Relation.ReflTransGen fun lease lease' =>
    ∃ store : WalletStore V, store.refreshEntityPrefixSetLease databaseId lease = .ok lease'

/-- Of the rows that were there none was written or deleted, and no other is there now. -/
def Excludes (s₀ s : WalletStore V) (kind : EntityKind) (idPrefix : RecordId) : Prop :=
  ∀ writes, (writes.foldl EntityWrite.perform s₀).entities = s.entities →
    EntityWrite.Fresh s₀ writes → ∀ id, idPrefix <+: id →
      s.entities.lookup (kind, id) = s₀.entities.lookup (kind, id) ∧
      (s₀.entities.lookup (kind, id) ≠ none → ∀ write ∈ writes, write.key ≠ (kind, id))

theorem Carried.eq (h : Carried V databaseId lease lease') : lease' = lease := by
  induction h with
  | refl => rfl
  | tail _ hrefresh ih =>
    obtain ⟨store, hrefresh⟩ := hrefresh
    simp only [refreshEntityPrefixSetLease, ok_iff] at hrefresh
    obtain ⟨-, -, -, -, hret⟩ := hrefresh
    cases hret
    exact ih

theorem loadEntityPrefixSetLeaseProjection_eq {p : List StoredEntityMetadata × List (Bytes 32)}
    (h : s.loadEntityPrefixSetLeaseProjection kind idPrefix limit = .ok p) :
    p = ((s.entitiesByIdPrefix kind idPrefix).map (rowMetadata kind),
      (s.entitiesByIdPrefix kind idPrefix).map fun row => Encrypted.fingerprint row.2.value) := by
  simp only [loadEntityPrefixSetLeaseProjection, ok_iff, not_lt] at h
  obtain ⟨-, -, -, -, projected, hprojected, -, hlimit, hret⟩ := h
  rw [List.take_of_length_le hlimit, mapM_eq_ok] at hprojected
  cases hret
  generalize s.entitiesByIdPrefix kind idPrefix = rows at hprojected
  induction hprojected with
  | nil => rfl
  | cons hrow _ ih =>
    simp only [projectedRow, ok_iff] at hrow
    obtain ⟨-, -, -, -, hret⟩ := hrow
    cases hret
    simp_all

theorem eq_of_projection {rows rows₀ : List (RecordId × EntityRow V)}
    (hapart : ∀ row ∈ rows, ∀ row₀ ∈ rows₀, Encrypted.fingerprint row.2.value =
      Encrypted.fingerprint row₀.2.value → row.2.value = row₀.2.value)
    (hmetadata : rows.map (rowMetadata kind) = rows₀.map (rowMetadata kind))
    (hfingerprints : (rows.map fun row => Encrypted.fingerprint row.2.value) =
      rows₀.map fun row => Encrypted.fingerprint row.2.value) : rows = rows₀ := by
  induction rows generalizing rows₀ with
  | nil => simpa using hmetadata
  | cons row rows ih =>
    cases rows₀ with
    | nil => simp at hmetadata
    | cons row₀ rows₀ =>
      obtain ⟨id, revision, value, updated⟩ := row
      obtain ⟨id₀, revision₀, value₀, updated₀⟩ := row₀
      simp only [List.map_cons, List.cons.injEq, rowMetadata, StoredEntityMetadata.mk.injEq,
        true_and] at hmetadata hfingerprints
      obtain ⟨⟨rfl, rfl, rfl⟩, hmetadata⟩ := hmetadata
      cases hapart _ (List.mem_cons_self ..) _ (List.mem_cons_self ..) hfingerprints.1
      rw [ih (fun row hrow row₀ hrow₀ => hapart row (.tail _ hrow) row₀ (.tail _ hrow₀))
        hmetadata hfingerprints.2]

theorem assertEntityPrefixSetLease_iff
    (hlease : s₀.entityPrefixSetLease databaseId kind idPrefix limit = .ok lease)
    (hapart : DigestsApart s₀ s) : s.assertEntityPrefixSetLease lease = .ok () ↔
      s.entitiesByIdPrefix kind idPrefix = s₀.entitiesByIdPrefix kind idPrefix := by
  obtain ⟨p, hp, hret⟩ := ok_bind_iff.1 hlease
  cases hret
  constructor
  · intro hassert
    unfold assertEntityPrefixSetLease at hassert
    split at hassert
    next current hcurrent =>
      have hsame := not_not.1 (refuseIf_eq_ok.1 hassert)
      rw [loadEntityPrefixSetLeaseProjection_eq hcurrent,
        loadEntityPrefixSetLeaseProjection_eq hp] at hsame
      obtain ⟨hmetadata, hfingerprints⟩ := Prod.mk.inj hsame
      refine eq_of_projection (fun row hrow row₀ hrow₀ => ?_) hmetadata hfingerprints
      exact hapart _ _ _ _ (mem_entitiesByIdPrefix.1 hrow).2 (mem_entitiesByIdPrefix.1 hrow₀).2
    next => cases hassert
    next => cases hassert
  · intro hsame
    have hcurrent : s.loadEntityPrefixSetLeaseProjection kind idPrefix limit = .ok p := by
      rw [← hp, loadEntityPrefixSetLeaseProjection, hsame, loadEntityPrefixSetLeaseProjection]
    simp only [assertEntityPrefixSetLease, hcurrent, refuseIf_eq_ok, not_not]

omit [Encrypted V] in
theorem excludes_of_same
    (hsame : s.entitiesByIdPrefix kind idPrefix = s₀.entitiesByIdPrefix kind idPrefix) :
    Excludes s₀ s kind idPrefix := by
  intro writes hreplay hfresh id hprefix
  have hlookup : s.entities.lookup (kind, id) = s₀.entities.lookup (kind, id) := by
    refine Option.ext fun row => ?_
    rw [← and_iff_right (b := _ = some row) hprefix, ← mem_entitiesByIdPrefix, hsame,
      mem_entitiesByIdPrefix, and_iff_right hprefix]
  refine ⟨hlookup, fun hsome => ?_⟩
  obtain ⟨row, hrow⟩ := Option.ne_none_iff_exists'.1 hsome
  exact EntityWrite.untouched_of_same hfresh hrow (by rw [hreplay, hlookup, hrow])

variable [Encoded V] {β : Type} [Serde V β] {saves : List (EntityBatchSave β)}
  {deletes : List EntityBatchDelete} {assertions : List EntityRevisionAssertion}
  {guardLease : Option EntityPrefixSetLease}

omit [Encrypted V] in
theorem leasedBatch_iff {assertLeases : Except StoreError Unit} :
    s.leasedBatch databaseId kind saves deletes assertions lease guardLease assertLeases = .ok s' ↔
      assertLeases = .ok () ∧ s.leasedBatch databaseId kind saves deletes assertions lease
        guardLease (.ok ()) = .ok s' := by
  simp only [leasedBatch, ok_iff]
  constructor
  · rintro ⟨prepared, hprepared, _, hids, _, hlease, _, hguard, _, hkey, _, hassert, hrest⟩
    exact ⟨hassert, prepared, hprepared, _, hids, _, hlease, _, hguard, _, hkey, (), trivial, hrest⟩
  · rintro ⟨hassert, prepared, hprepared, _, hids, _, hlease, _, hguard, _, hkey, _, -, hrest⟩
    exact ⟨prepared, hprepared, _, hids, _, hlease, _, hguard, _, hkey, _, hassert, hrest⟩

/-- A batch under a lease, and under a guard lease if there is one, commits exactly
if its other checks pass and the leased sets are those of the first capture, in
ids, revisions, times and ciphertexts.  Then no row that was there at the capture
was updated, deleted, or deleted and created again, and no row was added that is
still there. -/
theorem prefixLease_excludes_changes {g₀ : WalletStore V} {guardKind : EntityKind}
    {guardPrefix : RecordId} {guardLimit : Nat}
    (hlease : s₀.entityPrefixSetLease databaseId kind idPrefix limit = .ok lease)
    (hcarried : Carried V databaseId lease lease')
    (hguard : ∀ carried ∈ guardLease, ∃ captured, g₀.entityPrefixSetLease databaseId guardKind
      guardPrefix guardLimit = .ok captured ∧ Carried V databaseId captured carried)
    (hapart : DigestsApart s₀ s) (hguardApart : DigestsApart g₀ s) :
    (s.applyEntityBatchWithAssertionsAndPrefixLeaseGuardInner databaseId kind saves deletes
        assertions lease' guardLease = .ok s' ↔
      s.leasedBatch databaseId kind saves deletes assertions lease' guardLease (.ok ()) = .ok s' ∧
      s.entitiesByIdPrefix kind idPrefix = s₀.entitiesByIdPrefix kind idPrefix ∧
      (guardLease.isSome →
        s.entitiesByIdPrefix guardKind guardPrefix = g₀.entitiesByIdPrefix guardKind guardPrefix)) ∧
    (s.applyEntityBatchWithAssertionsAndPrefixLeaseGuardInner databaseId kind saves deletes
        assertions lease' guardLease = .ok s' →
      Excludes s₀ s kind idPrefix ∧ (guardLease.isSome → Excludes g₀ s guardKind guardPrefix)) := by
  cases hcarried.eq
  have hguards : guardLease.forM s.assertEntityPrefixSetLease = .ok () ↔
      (guardLease.isSome → s.entitiesByIdPrefix guardKind guardPrefix =
        g₀.entitiesByIdPrefix guardKind guardPrefix) := by
    cases guardLease with
    | none => simp [Option.forM, pure, Except.pure]
    | some carried =>
      obtain ⟨captured, hcaptured, hcarried'⟩ := hguard carried rfl
      cases hcarried'.eq
      simpa [Option.forM] using assertEntityPrefixSetLease_iff hcaptured hguardApart
  have hset := assertEntityPrefixSetLease_iff hlease hapart
  rw [applyEntityBatchWithAssertionsAndPrefixLeaseGuardInner, leasedBatch_iff, ok_bind_iff,
    Unique.exists_iff, ← hguards, ← hset]
  refine ⟨and_comm, ?_⟩
  rintro ⟨⟨hassert, hassertGuard⟩, -⟩
  exact ⟨excludes_of_same (hset.1 hassert),
    fun hsome => excludes_of_same (hguards.1 hassertGuard hsome)⟩

end WalletStore

namespace Sample

instance : Encoded UInt8 := ⟨fun _ => 1⟩

instance : Encrypted UInt8 := ⟨fun _ => 41, fun value => Bytes.replicate 32 value⟩

instance : Serde UInt8 UInt8 :=
  ⟨id, some, fun _ => rfl⟩

def leasedStore : WalletStore UInt8 :=
  ⟨true, ∅, AList.insert (.inputReservation, [1, 1]) ⟨3, 5, 10⟩ ∅, ∅⟩

def leasedSave : List (EntityBatchSave UInt8) := [⟨[1, 2], 0, 8, 20⟩]

def passingWrites : List (EntityWrite UInt8) :=
  [.put .inputReservation [1, 3] ⟨1, 6, 15⟩, .drop .inputReservation [1, 3]]

def passedStore : WalletStore UInt8 := passingWrites.foldl EntityWrite.perform leasedStore

theorem leasedStore_value {key : EntityKind × RecordId} {row : EntityRow UInt8}
    (h : leasedStore.entities.lookup key = some row) : row.value = 5 := by
  have hmem : (⟨key, row⟩ : (_ : EntityKind × RecordId) × EntityRow UInt8) ∈
      [⟨(.inputReservation, [1, 1]), ⟨3, 5, 10⟩⟩] := AList.mem_lookup_iff.1 h
  cases List.mem_singleton.1 hmem
  rfl

theorem passedStore_commits : ∃ lease store,
    leasedStore.entityPrefixSetLease (Bytes.replicate 16 0) .inputReservation [1] 8 = .ok lease ∧
    passedStore.applyEntityBatchWithAssertionsAndPrefixLeaseGuardInner (Bytes.replicate 16 0)
      .inputReservation leasedSave [] [] lease none = .ok store :=
  ⟨_, _, rfl, rfl⟩

/-- The batch commits although a row was inserted in between. -/
theorem passing_row_goes_unnoticed : ∃ lease store,
    leasedStore.entityPrefixSetLease (Bytes.replicate 16 0) .inputReservation [1] 8 = .ok lease ∧
    EntityWrite.Fresh leasedStore passingWrites ∧
    passedStore.applyEntityBatchWithAssertionsAndPrefixLeaseGuardInner (Bytes.replicate 16 0)
      .inputReservation leasedSave [] [] lease none = .ok store := by
  obtain ⟨lease, store, hlease, happly⟩ := passedStore_commits
  refine ⟨lease, store, hlease, fun kind id row hput key held hheld => ?_, happly⟩
  rw [leasedStore_value hheld]
  rcases List.mem_cons.1 hput with hput | hput
  · cases hput
    decide
  · cases List.mem_singleton.1 hput

theorem leased_row_is_untouched : ∃ lease store,
    leasedStore.entityPrefixSetLease (Bytes.replicate 16 0) .inputReservation [1] 8 = .ok lease ∧
    leasedStore.refreshEntityPrefixSetLease (Bytes.replicate 16 0) lease = .ok lease ∧
    passedStore.applyEntityBatchWithAssertionsAndPrefixLeaseGuardInner (Bytes.replicate 16 0)
      .inputReservation leasedSave [] [] lease (some lease) = .ok store ∧
    WalletStore.Excludes leasedStore passedStore .inputReservation [1] := by
  have hapart : WalletStore.DigestsApart leasedStore passedStore := by
    intro _ row _ row₀ _ _ hdigest
    exact (List.cons.inj (congrArg Bytes.toList hdigest)).1
  obtain ⟨lease, store, hlease, hrefresh, happly⟩ : ∃ lease store,
      leasedStore.entityPrefixSetLease (Bytes.replicate 16 0) .inputReservation [1] 8 = .ok lease ∧
      leasedStore.refreshEntityPrefixSetLease (Bytes.replicate 16 0) lease = .ok lease ∧
      passedStore.applyEntityBatchWithAssertionsAndPrefixLeaseGuardInner (Bytes.replicate 16 0)
        .inputReservation leasedSave [] [] lease (some lease) = .ok store :=
    ⟨_, _, rfl, rfl, rfl⟩
  have hcarried : WalletStore.Carried UInt8 (Bytes.replicate 16 0) lease lease :=
    .single ⟨leasedStore, hrefresh⟩
  have hguard : ∀ carried ∈ some lease, ∃ captured,
      leasedStore.entityPrefixSetLease (Bytes.replicate 16 0) .inputReservation [1] 8 =
        .ok captured ∧ WalletStore.Carried UInt8 (Bytes.replicate 16 0) captured carried := by
    rintro _ ⟨⟩
    exact ⟨lease, hlease, hcarried⟩
  exact ⟨lease, store, hlease, hrefresh, happly,
    ((WalletStore.prefixLease_excludes_changes hlease hcarried hguard hapart hapart).2 happly).1⟩

end Sample

end HnsWallet
