import HnsWallet.Market.AdmissionLaws
import HnsWallet.Market.Reservation

/-! # Abandoned acceptances -/

namespace HnsWallet

open Lib WalletStore ShakescapeDirectOfferBoardPolicy

section Identities

variable {walletId : WalletId} {a b : SessionId} {offerId : Bytes 32}
  {policy : ShakescapeDirectOfferBoardPolicy}

theorem abandonmentRecordId_inj :
    abandonmentRecordId walletId a = abandonmentRecordId walletId b ↔ a = b := by
  rw [abandonmentRecordId, abandonmentRecordId, Bytes.append_toList_inj]
  cases a
  cases b
  simp

theorem abandonmentRecordId_ne_acceptance :
    abandonmentRecordId walletId a ≠ localAcceptanceRecordId walletId b := by
  simp [abandonmentRecordId, localAcceptanceRecordId, abandonmentRecordPrefix,
    localDirectAcceptanceRecordPrefix, ascii]

theorem abandonmentRecordId_ne_board : abandonmentRecordId walletId a ≠
    policy.recordId offerId := by
  simp [abandonmentRecordId, abandonmentRecordPrefix, recordId, recordPrefix,
    directOfferBoardRecordPrefix, ascii]

theorem localAcceptanceRecordId_ne_board :
    localAcceptanceRecordId walletId a ≠ policy.recordId offerId := by
  simp [localAcceptanceRecordId, localDirectAcceptanceRecordPrefix, recordId, recordPrefix,
    directOfferBoardRecordPrefix, ascii]

end Identities

section Tombstones

variable {V : Type} [Serde V PersistedLocalDirectAcceptanceAbandonment] {walletId : WalletId}
  {sessionId : SessionId} {store : WalletStore V} {row : EntityRow V}

def Tombstone (walletId : WalletId) (sessionId : SessionId) (row : EntityRow V) : Prop :=
  validateId (abandonmentRecordId walletId sessionId) = .ok () ∧
    ∃ value : PersistedLocalDirectAcceptanceAbandonment, Serde.fromSlice row.value = some value ∧
      row.revision = 1 ∧ value.storageVersion = abandonmentStorageVersion ∧
      value.walletId = walletId ∧ value.sessionId = sessionId ∧
      value.offerId.bytes.isZero = false ∧ value.abandonedAtUnix ≠ 0 ∧
      value.abandonedAtUnix = row.updatedAtUnix

theorem loadAbandonment_isSome (hrow : store.entities.lookup
      (.shakescapeBoardObject, abandonmentRecordId walletId sessionId) = some row)
    (htomb : Tombstone walletId sessionId row) (hkey : store.unlocked) :
    ∃ value, loadAbandonment store walletId sessionId (abandonmentRecordId walletId sessionId) =
      .ok (some value) := by
  obtain ⟨hid, value, hvalue, hrevision, hversion, hwallet, hsession, hoffer, hat, hupdated⟩ :=
    htomb
  refine ⟨value, ?_⟩
  simp only [loadAbandonment, ok_iff, liftStore_eq_ok, optionMapM_eq_ok]
  refine ⟨_, loadEntity_eq_some.2 ⟨hid, hkey, row, value, hrow, hvalue, rfl⟩,
    .some ?_⟩
  simp only [not_or, not_not, Bool.not_eq_true]
  exact ⟨(), ⟨hrevision, hversion, hwallet, hsession, hoffer, hat, hupdated, trivial⟩, rfl⟩

theorem tombstone_of_load {value : PersistedLocalDirectAcceptanceAbandonment}
    (h : loadAbandonment store walletId sessionId (abandonmentRecordId walletId sessionId) =
      .ok (some value)) :
    ∃ row, store.entities.lookup
        (.shakescapeBoardObject, abandonmentRecordId walletId sessionId) = some row ∧
      Tombstone walletId sessionId row := by
  simp only [loadAbandonment, ok_iff, liftStore_eq_ok, optionMapM_eq_ok] at h
  obtain ⟨_, hload, hrel⟩ := h
  cases hrel with
  | @some stored _ hchecked =>
    obtain ⟨⟨⟩, hchecked, -⟩ := hchecked
    simp only [not_or, not_not, Bool.not_eq_true] at hchecked
    obtain ⟨hrevision, hversion, hwallet, hsession, hoffer, hat, hupdated, -⟩ := hchecked
    obtain ⟨hid, -, row, value, hrow, hvalue, rfl⟩ := loadEntity_eq_some.1 hload
    exact ⟨row, hrow, hid, value, hvalue, hrevision, hversion, hwallet, hsession, hoffer, hat,
      hupdated⟩

end Tombstones

section Abandoned

variable [Sha256] {V : Type} [Serde V PersistedShakescapeDirectSwap]
  [Serde V PersistedLocalDirectAcceptanceAbandonment]

structure Abandoned (policy : ShakescapeDirectSwapPolicy) (walletId : WalletId)
    (sessionId : SessionId) (store : WalletStore V) : Prop where
  noExecution : store.workflows.lookup (shakescapeExecutionWorkflowId sessionId) = none
  noHello : ∀ row (value : PersistedShakescapeDirectSwap),
    store.entities.lookup (.swapSession, policy.recordId sessionId) = some row →
    Serde.fromSlice row.value = some value → value.helloHex = none
  released : store.entities.lookup
      (.shakescapeBoardObject, localAcceptanceRecordId walletId sessionId) = none ∨
    ∃ row, store.entities.lookup
        (.shakescapeBoardObject, abandonmentRecordId walletId sessionId) = some row ∧
      Tombstone walletId sessionId row

variable {policy : ShakescapeDirectSwapPolicy} {walletId : WalletId} {sessionId : SessionId}
  {store store' : WalletStore V}

namespace Abandoned

section

variable (h : Abandoned policy walletId sessionId store)
include h

theorem congr
    (hworkflow : store'.workflows.lookup (shakescapeExecutionWorkflowId sessionId) =
      store.workflows.lookup (shakescapeExecutionWorkflowId sessionId))
    (hswap : store'.entities.lookup (.swapSession, policy.recordId sessionId) =
      store.entities.lookup (.swapSession, policy.recordId sessionId))
    (hacceptance : store'.entities.lookup
        (.shakescapeBoardObject, localAcceptanceRecordId walletId sessionId) =
      store.entities.lookup
        (.shakescapeBoardObject, localAcceptanceRecordId walletId sessionId))
    (htombstone : store'.entities.lookup
        (.shakescapeBoardObject, abandonmentRecordId walletId sessionId) =
      store.entities.lookup
        (.shakescapeBoardObject, abandonmentRecordId walletId sessionId)) :
    Abandoned policy walletId sessionId store' := by
  refine ⟨hworkflow.trans h.noExecution, ?_, ?_⟩
  · rw [hswap]
    exact h.noHello
  · rw [hacceptance, htombstone]
    exact h.released

theorem putSwap {other : SessionId} {row : EntityRow V}
    (hhello : other = sessionId → ∀ value : PersistedShakescapeDirectSwap,
      Serde.fromSlice row.value = some value → value.helloHex = none) :
    Abandoned policy walletId sessionId
      (store.putEntity .swapSession (policy.recordId other) row) := by
  refine ⟨h.noExecution, fun row' value hlookup hvalue => ?_, ?_⟩
  · by_cases heq : other = sessionId
    · subst heq
      rw [putEntity_lookup] at hlookup
      cases hlookup
      exact hhello rfl value hvalue
    · have hne : policy.recordId sessionId ≠ policy.recordId other :=
        fun h => heq (recordId_inj.1 h).symm
      rw [putEntity_lookup_ne (by simpa using hne)] at hlookup
      exact h.noHello row' value hlookup hvalue
  · rw [putEntity_lookup_ne (by simp), putEntity_lookup_ne (by simp)]
    exact h.released

theorem saveSwap [Encoded V] {other : SessionId} {expected at_ revision : UInt64}
    {persisted : PersistedShakescapeDirectSwap}
    (hsave : store.saveEntity .swapSession (policy.recordId other) expected persisted at_ =
      .ok (store', revision)) (hhello : other = sessionId → persisted.helloHex = none) :
    Abandoned policy walletId sessionId store' := by
  obtain ⟨-, -, -, -, -, rfl⟩ := saveEntity_eq_ok.1 hsave
  refine h.putSwap fun heq value hvalue => ?_
  cases (Serde.fromSlice_toVec persisted).symm.trans hvalue
  exact hhello heq

theorem putBoard {boardPolicy : ShakescapeDirectOfferBoardPolicy} {offerId : Bytes 32}
    {row : EntityRow V} :
    Abandoned policy walletId sessionId
      (store.putEntity .shakescapeBoardObject (boardPolicy.recordId offerId) row) := by
  refine h.congr rfl ?_ ?_ ?_
  · exact putEntity_lookup_ne (by simp)
  · exact putEntity_lookup_ne (by simpa using localAcceptanceRecordId_ne_board)
  · exact putEntity_lookup_ne (by simpa using abandonmentRecordId_ne_board)

theorem keepsBut {workflowId : WorkflowId}
    (hid : workflowId ≠ shakescapeExecutionWorkflowId sessionId)
    (hkeeps : store.KeepsBut workflowId store') : Abandoned policy walletId sessionId store' := by
  refine h.congr (hkeeps.workflows _ hid.symm) ?_ ?_ ?_
  all_goals exact hkeeps.entities _ _ (by simp)

theorem hello_none [DirectSwapProtocol] {record : ShakescapeDirectSwapRecord}
    (hload : loadShakescapeDirectSwap store policy sessionId = .ok (some record)) :
    record.hello = none := by
  obtain ⟨-, row, hrow, -, value, hvalue, hdecode⟩ := loadShakescapeDirectSwap_iff.1 hload
  obtain ⟨-, hstored⟩ := decodeStoredSwap_eq_ok.1 hdecode
  have hsome := hello_isSome_of_encoded hstored.encoded
  rw [h.noHello row value hrow hvalue] at hsome
  exact Option.not_isSome_iff_eq_none.1 (by rw [← hsome]; exact Bool.false_ne_true)

end

end Abandoned

end Abandoned

section Steps

variable [DirectSwapProtocol] [Sha256] {V : Type} [Serde V PersistedShakescapeDirectSwap]
  {policy : ShakescapeDirectSwapPolicy} {walletId : WalletId} {sessionId : SessionId}
  {store store' : WalletStore V} {other : SessionId} {at_ : UInt64} {workflowId : WorkflowId}
  {boardPolicy : ShakescapeDirectOfferBoardPolicy} {own : WalletId} {now : UInt64}

def Apart (policy : ShakescapeDirectSwapPolicy) (sessionId : SessionId) (store : WalletStore V) :
    Prop :=
  ∀ other record, loadShakescapeDirectSwap store policy other = .ok (some record) →
    shakescapeExecutionWorkflowId other = shakescapeExecutionWorkflowId sessionId →
    other = sessionId

theorem Apart.keepsBut (h : Apart policy sessionId store)
    (hkeeps : store.KeepsBut workflowId store') : Apart policy sessionId store' := by
  intro other record hload
  obtain ⟨hkey, row, hrow, hdecodes⟩ := loadShakescapeDirectSwap_iff.1 hload
  rw [hkeeps.entities _ _ (by simp)] at hrow
  exact h other record (loadShakescapeDirectSwap_iff.2
    ⟨hkeeps.unlocked ▸ hkey, row, hrow, hdecodes⟩)

variable [Encoded V] [Serde V SwapSession]

theorem openShakescapeExecution_eq_ok [BitcoinLibrary] {session : SwapSession}
    (h : openShakescapeExecution store policy other now = .ok (store', session)) :
    (∃ record, loadShakescapeDirectSwap store policy other = .ok (some record) ∧
      record.hello.isSome) ∧
    (store' = store ∨ ∃ row, store' = store.putWorkflow (shakescapeExecutionWorkflowId other)
      row) := by
  simp only [openShakescapeExecution, ok_iff] at h
  obtain ⟨_, hload, record, rfl, hello, hhello, _, -, _, -, _, -, _, -, _, -, existing, -, h⟩ := h
  refine ⟨⟨record, hload, by rw [hhello]; rfl⟩, ?_⟩
  cases existing with
  | some existing =>
    obtain ⟨_, -, hret⟩ := ok_bind_iff.1 h
    cases hret
    exact .inl rfl
  | none =>
    simp only [ok_iff, liftStore_eq_ok] at h
    obtain ⟨_, -, _, -, _, -, _, -, ⟨written, revision⟩, hsave, _, -, hret⟩ := h
    cases hret
    obtain ⟨-, -, -, -, rfl⟩ := saveWorkflow_eq_ok.1 hsave
    exact .inr ⟨_, rfl⟩

variable [Serde V PersistedLocalDirectAcceptanceAbandonment]

def NoHelloFor (sessionId : SessionId) (envelope : List UInt8) : Prop :=
  ∀ requestId hello, decodeCanonicalEnvelope envelope =
    .ok (requestId, .swapSessionHello hello) → SessionId.mk hello.swapSessionId ≠ sessionId

theorem Abandoned.message [Serde V PersistedDirectOffer] {writer : SwapWriter}
    {envelope : List UInt8} {report : SwapReport} (h : Abandoned policy walletId sessionId store)
    (hno : NoHelloFor sessionId envelope)
    (hcall : writer.perform policy store envelope at_ = .ok (report, store')) :
    Abandoned policy walletId sessionId store' := by
  rcases writer.writes hcall with rfl | ⟨requestId, message, other, _, _, persisted, henvelope,
    hmessage, hsave, hhello⟩
  · exact h
  refine h.saveSwap hsave fun heq => ?_
  rcases hhello with hnone | ⟨record, hload, hsome⟩ | ⟨hello, rfl⟩
  · exact hnone
  · rw [h.hello_none (heq ▸ hload)] at hsome
    cases hsome
  · exact absurd ((Option.some.inj hmessage).trans heq) (hno requestId hello henvelope)

section Executions

variable [BitcoinLibrary]

section

variable (h : Abandoned policy walletId sessionId store) (hapart : Apart policy sessionId store)
include h hapart

theorem Abandoned.open {other : SessionId} {now : UInt64} {session : SwapSession}
    (hopen : openShakescapeExecution store policy other now = .ok (store', session)) :
    Abandoned policy walletId sessionId store' ∧ Apart policy sessionId store' ∧
      shakescapeExecutionWorkflowId other ≠ shakescapeExecutionWorkflowId sessionId := by
  obtain ⟨⟨record, hload, hhello⟩, hstore⟩ := openShakescapeExecution_eq_ok hopen
  have hother : shakescapeExecutionWorkflowId other ≠ shakescapeExecutionWorkflowId sessionId := by
    intro heq
    obtain rfl := hapart other record hload heq
    rw [h.hello_none hload] at hhello
    cases hhello
  rcases hstore with rfl | ⟨row, rfl⟩
  · exact ⟨h, hapart, hother⟩
  · exact ⟨h.keepsBut hother keepsBut_putWorkflow,
      hapart.keepsBut keepsBut_putWorkflow, hother⟩

theorem Abandoned.recover {records : List ShakescapeDirectSwapRecord} {now : UInt64}
    {recovered : Nat} :
    Abandoned policy walletId sessionId (recoverExecutions policy now store recovered records).2 ∧
      Apart policy sessionId (recoverExecutions policy now store recovered records).2 := by
  induction records generalizing store recovered with
  | nil => exact ⟨h, hapart⟩
  | cons record records ih =>
    unfold recoverExecutions
    split
    next => exact ih h hapart
    next =>
      dsimp only
      split
      next => exact ⟨h, hapart⟩
      next => exact ih h hapart
      next =>
        split
        next => exact ⟨h, hapart⟩
        next opened _ hopen =>
          obtain ⟨hopened, hopenedApart, -⟩ := h.open hapart hopen
          exact ih hopened hopenedApart

theorem Abandoned.failExpired [Serde V PersistedSecondFundingAuthorization]
    {expired : List SessionId} {now : UInt64} :
    Abandoned policy walletId sessionId (failExpired policy now store expired).2 := by
  induction expired generalizing store with
  | nil => exact h
  | cons other rest ih =>
    unfold HnsWallet.failExpired
    split
    next => exact h
    next opened execution hopen =>
      obtain ⟨hopened, hopenedApart, hother⟩ := h.open hapart hopen
      split
      next => exact hopened
      next next journal hnext =>
        obtain ⟨_, _, -, -, -, hsave⟩ := SwapSession.apply_eq_ok.1 hnext
        have hkeeps := WalletStoreJournal.keepsBut hsave
        exact ih (hopened.keepsBut hother hkeeps) (hopenedApart.keepsBut hkeeps)

end

end Executions

variable [Serde V PersistedLocalDirectOffer] [Serde V PersistedDirectOffer]

omit [Serde V SwapSession]

section

variable (h : Abandoned policy walletId sessionId store)
include h

theorem Abandoned.cancel [OfferSigner V] {offerId : Bytes 32}
    (hcancel : cancelShakescapeLocalDirectOffer store boardPolicy own offerId now = .ok store') :
    Abandoned policy walletId sessionId store' := by
  simp only [cancelShakescapeLocalDirectOffer, ok_iff] at hcancel
  obtain ⟨_, -, _, -, _, -, _, -, _, -, _, -, _, -, _, -, _, -, envelope, -, ⟨admission, written⟩,
    hcall, hret⟩ := hcancel
  cases hret
  rcases admitShakescapeDirectOfferCancellation_eq_ok hcall with
    rfl | ⟨_, _, _, _, _, _, -, -, -, -, -, -, rfl⟩
  · exact h
  · exact h.putBoard

theorem Abandoned.retireOffers [OfferSigner V] {now : UInt64} {retired : Nat}
    {offers : List ShakescapeLocalDirectOffer} :
    Abandoned policy walletId sessionId (retireOffers policy own now store retired offers).2 := by
  induction offers generalizing store retired with
  | nil => exact h
  | cons offer offers ih =>
    unfold HnsWallet.retireOffers
    split
    next => exact h
    next => exact ih h
    next =>
      split
      next => exact h
      next hcancel => exact ih (h.cancel hcancel)

omit [Encoded V] [Serde V PersistedLocalDirectOffer] in
theorem Abandoned.pruned {protectedOfferIds : List (Bytes 32)}
    (hpruned : Pruned boardPolicy protectedOfferIds now store store') :
    Abandoned policy walletId sessionId store' := by
  have hboard : ∀ key, (∀ offerId, key ≠ (.shakescapeBoardObject, boardPolicy.recordId offerId)) →
      store'.entities.lookup key = store.entities.lookup key := by
    intro key hkey
    rcases hpruned.rows key with hsame | ⟨-, id, row, record, rfl, -, ⟨_, -, hdecode⟩, -⟩
    · exact hsame
    · obtain ⟨-, hstored⟩ := decodeStoredOffer_eq_ok.1 hdecode
      exact absurd (congrArg _ hstored.id) (hkey _)
  refine h.congr (by rw [hpruned.workflows]) (hboard _ (by simp)) (hboard _ ?_) (hboard _ ?_)
  · intro offerId
    simpa using localAcceptanceRecordId_ne_board
  · intro offerId
    simpa using abandonmentRecordId_ne_board

end

variable [InventoryLimit] [Serde V SwapSession] [Serde V PersistedLocalDirectAcceptance]
  {deletes : List (EntityKind × EntityBatchDelete)}

omit [Encoded V] [Serde V PersistedShakescapeDirectSwap] in
theorem retirement_eq_ok {row : StoredEntity PersistedShakescapeDirectSwap}
    (h : retirement store policy own now row = .ok (some deletes)) :
    ∃ other, (∀ delete ∈ deletes, delete.1 = .swapSession ∨
        delete.2.id = localAcceptanceRecordId own other ∨
        (∃ offerId, delete.2.id = policy.boardPolicy.recordId offerId) ∨
        delete.2.id = abandonmentRecordId own other) ∧
      ((∃ delete ∈ deletes, delete.1 = .shakescapeBoardObject ∧
          delete.2.id = abandonmentRecordId own other) →
        ∃ delete ∈ deletes, delete.1 = .shakescapeBoardObject ∧
          delete.2.id = localAcceptanceRecordId own other) := by
  simp only [retirement, ok_iff] at h
  obtain ⟨record, -, h⟩ := h
  refine ⟨⟨record.acceptance.swapSessionId⟩, ?_⟩
  split at h
  · cases h
  simp only [ok_iff] at h
  obtain ⟨hasExecution, -, h⟩ := h
  split at h
  · cases h
  simp only [ok_iff] at h
  obtain ⟨acceptance, hacceptance, abandonment, habandonment, h⟩ := h
  split at h
  · cases h
  simp only [ok_iff, not_or, not_and] at h
  obtain ⟨_, -, ⟨⟩, ⟨-, hpair⟩, accepted, haccepted, hret⟩ := h
  cases hret
  have hacceptanceId : ∀ delete, acceptance = some delete →
      delete.id = localAcceptanceRecordId own ⟨record.acceptance.swapSessionId⟩ := by
    intro delete hdelete
    obtain ⟨loaded, -, hret⟩ := ok_bind_iff.1 hacceptance
    cases hret
    obtain ⟨_, -, rfl⟩ := Option.map_eq_some_iff.1 hdelete
    rfl
  have habandonmentId : ∀ delete, abandonment = some delete →
      delete.id = abandonmentRecordId own ⟨record.acceptance.swapSessionId⟩ := by
    intro delete hdelete
    obtain ⟨loaded, -, hret⟩ := ok_bind_iff.1 habandonment
    cases hret
    obtain ⟨_, -, rfl⟩ := Option.map_eq_some_iff.1 hdelete
    rfl
  cases acceptance with
  | none =>
    cases haccepted
    have hnone : abandonment = none :=
      Option.not_isSome_iff_eq_none.1 fun hsome => hpair hsome rfl
    subst hnone
    refine ⟨fun delete hdelete => ?_, ?_⟩
    · obtain rfl := List.mem_singleton.1 hdelete
      exact .inl rfl
    · rintro ⟨delete, hdelete, hkind, -⟩
      obtain rfl := List.mem_singleton.1 hdelete
      cases hkind
  | some acceptance =>
    obtain ⟨offerDelete, hoffer, hret⟩ := ok_bind_iff.1 haccepted
    cases hret
    have hofferId : offerDelete.id = policy.boardPolicy.recordId record.offer.offerId := by
      simp only [directOfferRetirementDelete, ok_iff] at hoffer
      obtain ⟨_, -, _, -, hret⟩ := hoffer
      cases hret
      rfl
    refine ⟨fun delete hdelete => ?_, fun _ => ⟨(.shakescapeBoardObject, acceptance), by simp, rfl,
      hacceptanceId acceptance rfl⟩⟩
    simp only [List.cons_append, List.nil_append, List.mem_cons, List.mem_map,
      Option.mem_toList] at hdelete
    rcases hdelete with rfl | rfl | rfl | ⟨tombstone, htombstone, rfl⟩
    · exact .inl rfl
    · exact .inr (.inl (hacceptanceId acceptance rfl))
    · exact .inr (.inr (.inl ⟨_, hofferId⟩))
    · exact .inr (.inr (.inr (habandonmentId tombstone htombstone)))

section

variable (h : Abandoned policy walletId sessionId store)
include h
omit [Encoded V]

theorem Abandoned.retired {row : StoredEntity PersistedShakescapeDirectSwap}
    (hretire : retirement store policy walletId now row = .ok (some deletes))
    (hdelete : store.deleteEntities deletes = .ok store') :
    Abandoned policy walletId sessionId store' := by
  obtain ⟨other, hids, hpair⟩ := retirement_eq_ok hretire
  obtain ⟨hoff, hgone⟩ := deleteEntities_eq_ok hdelete
  have hrow : ∀ key, store'.entities.lookup key = store.entities.lookup key ∨
      store'.entities.lookup key = none := by
    intro key
    by_cases htouched : ∃ delete ∈ deletes, key = (delete.1, delete.2.id)
    · obtain ⟨delete, hmem, rfl⟩ := htouched
      exact .inr (hgone delete hmem)
    · exact .inl (hoff.entities key htouched)
  refine ⟨by rw [hoff.workflows]; exact h.noExecution, fun row value hlookup hvalue => ?_, ?_⟩
  · rcases hrow (.swapSession, policy.recordId sessionId) with hsame | hnone
    · exact h.noHello row value (hsame ▸ hlookup) hvalue
    · cases hnone.symm.trans hlookup
  · by_cases htouched : ∃ delete ∈ deletes,
        (EntityKind.shakescapeBoardObject, abandonmentRecordId walletId sessionId) =
          (delete.1, delete.2.id)
    · obtain ⟨delete, hmem, hkey⟩ := htouched
      obtain ⟨hkind, hid⟩ := Prod.mk.inj hkey
      rcases hids delete hmem with hswap | hacceptance | ⟨offerId, hboard⟩ | htombstone
      · rw [← hkind] at hswap
        cases hswap
      · exact absurd (hid.trans hacceptance) abandonmentRecordId_ne_acceptance
      · exact absurd (hid.trans hboard) abandonmentRecordId_ne_board
      · obtain rfl := abandonmentRecordId_inj.1 (hid.trans htombstone)
        obtain ⟨acceptance, hacceptance, hkind', hid'⟩ :=
          hpair ⟨delete, hmem, hkind.symm, htombstone⟩
        have hnone := hgone acceptance hacceptance
        rw [hkind', hid'] at hnone
        exact .inl hnone
    · rw [hoff.entities _ htouched]
      rcases hrow (.shakescapeBoardObject, localAcceptanceRecordId walletId sessionId) with
        hsame | hnone
      · rw [hsame]
        exact h.released
      · exact .inl hnone

theorem Abandoned.retireSwaps {now : UInt64} {removed : Nat}
    {rows : List (StoredEntity PersistedShakescapeDirectSwap)} :
    Abandoned policy walletId sessionId
      (retireSwaps policy walletId now store removed rows).2 := by
  induction rows generalizing store removed with
  | nil => exact h
  | cons row rows ih =>
    unfold HnsWallet.retireSwaps
    split
    next => exact h
    next => exact ih h
    next deletes hretire =>
      split
      next => exact h
      next hdelete => exact ih (h.retired hretire (liftStore_eq_ok.1 hdelete))

theorem Abandoned.prune :
    Abandoned policy walletId sessionId
      (pruneExpiredShakescapeDirectMarketState store policy walletId now).2 := by
  have hswaps : Abandoned policy walletId sessionId
      (pruneExpiredUnownedShakescapeDirectSwaps store policy walletId now).2 := by
    unfold pruneExpiredUnownedShakescapeDirectSwaps
    split
    next => exact h
    next =>
      split
      next => exact h
      next => exact h.retireSwaps
  unfold pruneExpiredShakescapeDirectMarketState
  split
  next => exact h
  next =>
    split
    next hresult =>
      rw [hresult] at hswaps
      exact hswaps
    next sessions between hresult =>
      rw [hresult] at hswaps
      have hbetween : Abandoned policy walletId sessionId between := hswaps
      split
      next => exact hbetween
      next => exact hbetween
      next own referenced _ _ =>
        have hpruned : Pruned policy.boardPolicy (own ++ referenced) now between
            (pruneExpiredUnreferencedShakescapeDirectOffers between policy.boardPolicy
              (own ++ referenced) now).2 := pruned_of_prune
        split
        all_goals
          next hresult =>
            rw [hresult] at hpruned
            exact hbetween.pruned hpruned

end

variable [BitcoinLibrary] [Serde V PersistedSecondFundingAuthorization] [OfferSigner V]

omit [Serde V PersistedLocalDirectAcceptance] in
theorem Abandoned.reconcile (h : Abandoned policy walletId sessionId store)
    (hapart : Apart policy sessionId store) :
    Abandoned policy walletId sessionId
      (reconcileDirectOfferLifecycle store policy own now).2 := by
  have hlifecycle : Abandoned policy walletId sessionId
      (reconcileLifecycle store policy own now).2 := by
    unfold reconcileLifecycle
    split
    next => exact h
    next records _ =>
      obtain ⟨hrecovered, hrecoveredApart⟩ : Abandoned policy walletId sessionId
          (recoverExecutions policy now store 0 records).2 ∧
        Apart policy sessionId (recoverExecutions policy now store 0 records).2 :=
        h.recover hapart
      split
      next hresult =>
        rw [hresult] at hrecovered
        exact hrecovered
      next recovered opened hresult =>
        rw [hresult] at hrecovered hrecoveredApart
        split
        next => exact hrecovered
        next expired _ =>
          have hfailed : Abandoned policy walletId sessionId
              (HnsWallet.failExpired policy now opened expired).2 :=
            Abandoned.failExpired hrecovered hrecoveredApart
          split
          next hresult =>
            rw [hresult] at hfailed
            exact hfailed
          next failed hresult =>
            rw [hresult] at hfailed
            split
            next => exact hfailed
            next offers _ =>
              have hretired : Abandoned policy walletId sessionId
                  (HnsWallet.retireOffers policy own now failed 0 offers).2 :=
                Abandoned.retireOffers hfailed
              split
              all_goals
                next hresult =>
                  rw [hresult] at hretired
                  exact hretired
  unfold reconcileDirectOfferLifecycle
  split
  next => exact h
  next => exact hlifecycle

end Steps

section Reservations

variable [DirectSwapProtocol] [Sha256] {V : Type} [Serde V SwapSession]
  [Serde V PersistedDirectOffer] [Serde V PersistedLocalDirectAcceptanceAbandonment]
  {policy : ShakescapeDirectSwapPolicy} {walletId : WalletId} {sessionId : SessionId}
  {store store' : WalletStore V} {acceptance : ShakescapeLocalDirectOfferAcceptance}
  {acceptances : List ShakescapeLocalDirectOfferAcceptance}

theorem foldlM_addReservation {asset : AssetId} {now total result : UInt64}
    {keep : ShakescapeLocalDirectOfferAcceptance → Bool}
    (hskip : ∀ acceptance ∈ acceptances, keep acceptance = false →
      localAcceptanceReserves store policy walletId acceptance now = .ok false)
    (h : acceptances.foldlM (addReservation store policy walletId asset now) total = .ok result) :
    (acceptances.filter keep).foldlM (addReservation store policy walletId asset now) total =
      .ok result := by
  induction acceptances generalizing total with
  | nil => exact h
  | cons acceptance acceptances ih =>
    have htail := fun a ha => hskip a (List.mem_cons_of_mem acceptance ha)
    rw [List.foldlM_cons] at h
    obtain ⟨next, hnext, hrest⟩ := ok_bind_iff.1 h
    cases hkeep : keep acceptance with
    | true =>
      rw [List.filter_cons_of_pos hkeep, List.foldlM_cons]
      exact ok_bind_iff.2 ⟨next, hnext, ih htail hrest⟩
    | false =>
      rw [List.filter_cons_of_neg (by simp [hkeep])]
      have hsame : next = total := by
        unfold addReservation at hnext
        split at hnext
        next =>
          cases hnext
          rfl
        next =>
          rw [hskip acceptance List.mem_cons_self hkeep] at hnext
          cases hnext
          rfl
      rw [hsame] at hrest
      exact ih htail hrest

variable [Serde V PersistedShakescapeDirectSwap]

theorem Abandoned.reserves {now : UInt64} (h : Abandoned policy walletId sessionId store)
    (hkey : store.unlocked) (hsession : acceptance.sessionId = sessionId)
    (hrow : (store.entities.lookup
      (.shakescapeBoardObject, localAcceptanceRecordId walletId sessionId)).isSome) :
    localAcceptanceReserves store policy walletId acceptance now = .ok false := by
  subst hsession
  obtain ⟨row, hlookup, htombstone⟩ := h.released.resolve_left fun hnone => by
    rw [hnone] at hrow
    cases hrow
  obtain ⟨value, habandonment⟩ := loadAbandonment_isSome hlookup htombstone hkey
  have hreleased : localAcceptanceIsReleased store policy walletId acceptance now = .ok true := by
    unfold localAcceptanceIsReleased isLocalAcceptanceAbandoned
    split
    next => rfl
    next =>
      rw [habandonment]
      rfl
  simp only [localAcceptanceReserves, ok_iff, liftStore_eq_ok]
  refine ⟨none, loadWorkflow_eq_none.2 ⟨hkey, h.noExecution⟩, ?_⟩
  simp only [Option.map_none, hreleased]
  rfl

variable [Serde V PersistedLocalDirectAcceptance]

omit [Sha256] [Serde V SwapSession] [Serde V PersistedDirectOffer]
  [Serde V PersistedLocalDirectAcceptanceAbandonment] in
theorem localAcceptance_stored
    (h : listLocalShakescapeDirectOfferAcceptances store policy walletId = .ok acceptances)
    (hmem : acceptance ∈ acceptances) :
    store.unlocked ∧ (store.entities.lookup (.shakescapeBoardObject,
      localAcceptanceRecordId walletId acceptance.sessionId)).isSome := by
  simp only [listLocalShakescapeDirectOfferAcceptances, ok_iff, liftStore_eq_ok] at h
  obtain ⟨stored, hlisted, hprojected⟩ := h
  obtain ⟨row, hrow, hprojected⟩ := (mem_of_mapM_eq_ok hprojected).1 hmem
  obtain ⟨-, hload⟩ := (mem_of_listEntitiesByIdPrefix hlisted).1 hrow
  obtain ⟨-, hkey, entity, value, hlookup, -, -⟩ := loadEntity_eq_some.1 hload
  obtain ⟨local_, hvalidated, hprojected⟩ := ok_bind_iff.1 hprojected
  simp only [validateStoredAcceptance, ok_iff, not_or, not_not] at hvalidated
  obtain ⟨_, ⟨-, -, -, -, -, -, -, hid⟩, hret⟩ := hvalidated
  cases hret
  have hsession : acceptance.sessionId = row.value.sessionId := by
    simp only [projectLocalAcceptance, ok_iff] at hprojected
    obtain ⟨_, -, _, -, _, -, _, -, _, -, _, -, _, -, hret⟩ := hprojected
    cases hret
    rfl
  rw [hsession, ← hid]
  exact ⟨hkey, Option.isSome_of_mem hlookup⟩

variable [Encoded V]

omit [Serde V PersistedDirectOffer] in
theorem abandoned_of_abandon {now : UInt64}
    (h : abandonPendingLocalShakescapeDirectOfferAcceptance store policy walletId sessionId now =
      .ok (store', acceptance)) : Abandoned policy walletId sessionId store' := by
  simp only [abandonPendingLocalShakescapeDirectOfferAcceptance, ok_iff] at h
  obtain ⟨_, hnow, _, hlocal, local_, rfl, projected, -, _, hload, swap, rfl, h⟩ := h
  have hhello : swap.hello = none := by
    refine Option.not_isSome_iff_eq_none.1 fun hsome => ?_
    rw [if_pos hsome] at h
    cases h
  rw [hhello, if_neg (by simp)] at h
  simp only [ok_iff] at h
  obtain ⟨hasExecution, hexecution, ⟨⟩, hno, existing, habandonment, h⟩ := h
  have hworkflow : store.workflows.lookup (shakescapeExecutionWorkflowId sessionId) = none := by
    obtain ⟨loaded, hloaded, hret⟩ := ok_bind_iff.1 hexecution
    cases hret
    cases loaded with
    | none => exact (loadWorkflow_eq_none.1 (liftStore_eq_ok.1 hloaded)).2
    | some => exact absurd rfl hno
  have hnoHello : ∀ row (value : PersistedShakescapeDirectSwap),
      store.entities.lookup (.swapSession, policy.recordId sessionId) = some row →
      Serde.fromSlice row.value = some value → value.helloHex = none := by
    intro row value hrow hvalue
    obtain ⟨-, row', hrow', -, value', hvalue', hdecode⟩ := loadShakescapeDirectSwap_iff.1 hload
    cases hrow.symm.trans hrow'
    cases hvalue.symm.trans hvalue'
    refine Option.not_isSome_iff_eq_none.1 ?_
    rw [hello_isSome_of_encoded (decodeStoredSwap_eq_ok.1 hdecode).2.encoded, hhello]
    exact Bool.false_ne_true
  cases existing with
  | some existing =>
    obtain ⟨_, -, hret⟩ := ok_bind_iff.1 h
    cases hret
    exact ⟨hworkflow, hnoHello, .inr (tombstone_of_load habandonment)⟩
  | none =>
    simp only [ok_iff, liftStore_eq_ok] at h
    obtain ⟨⟨written, revision⟩, hsave, hret⟩ := h
    cases hret
    obtain ⟨hid, -, -, -, hrevision, rfl⟩ := saveEntity_eq_ok.1 hsave
    have hofferId : local_.offerId.bytes.isZero = false := by
      obtain ⟨loaded, -, hrel⟩ := ok_bind_iff.1 hlocal
      cases optionMapM_eq_ok.1 hrel with
      | some hvalidated =>
        simp only [validateStoredAcceptance, ok_iff, not_or] at hvalidated
        obtain ⟨_, ⟨-, -, -, hzero, -⟩, hret⟩ := hvalidated
        cases hret
        exact Bool.not_eq_true _ ▸ hzero
    refine ⟨hworkflow, ?_, .inr ⟨_, putEntity_lookup, hid, _,
      Serde.fromSlice_toVec _, ?_, rfl, rfl, rfl, hofferId, hnow, rfl⟩⟩
    · intro row value hrow
      rw [putEntity_lookup_ne (by simp)] at hrow
      exact hnoHello row value hrow
    · exact UInt64.toNat_inj.1 hrevision

end Reservations

inductive MarketCall where
  | message (writer : SwapWriter) (envelope : List UInt8) (at_ : UInt64)
  | openExecution (sessionId : SessionId) (nowUnix : UInt64)
  | reconcile (nowUnix : UInt64)
  | prune (nowUnix : UInt64)

def MarketCall.TakesNoHello [DirectSwapProtocol] (sessionId : SessionId) : MarketCall → Prop
  | .message _ envelope _ => NoHelloFor sessionId envelope
  | _ => True

section MarketRuns

variable [DirectSwapProtocol] [Sha256] [InventoryLimit] [BitcoinLibrary] {V : Type} [Encoded V]
  [Serde V SwapSession] [Serde V PersistedShakescapeDirectSwap] [Serde V PersistedDirectOffer]
  [Serde V PersistedLocalDirectOffer] [Serde V PersistedLocalDirectAcceptance]
  [Serde V PersistedLocalDirectAcceptanceAbandonment]
  [Serde V PersistedSecondFundingAuthorization] [OfferSigner V]

def MarketCall.perform (policy : ShakescapeDirectSwapPolicy) (walletId : WalletId)
    (store : WalletStore V) : MarketCall → WalletStore V
  | .message writer envelope at_ => writer.after policy store envelope at_
  | .openExecution sessionId now =>
    match openShakescapeExecution store policy sessionId now with
    | .ok (store, _) => store
    | .error _ => store
  | .reconcile now => (reconcileDirectOfferLifecycle store policy walletId now).2
  | .prune now => (pruneExpiredShakescapeDirectMarketState store policy walletId now).2

def MarketStep (policy : ShakescapeDirectSwapPolicy) (walletId : WalletId)
    (store : WalletStore V) (call : MarketCall) (store' : WalletStore V) : Prop :=
  call.perform policy walletId store = store'

variable {policy : ShakescapeDirectSwapPolicy} {walletId : WalletId} {sessionId : SessionId}
  {store store' : WalletStore V}

theorem Abandoned.step {call : MarketCall} (h : Abandoned policy walletId sessionId store)
    (hapart : Apart policy sessionId store) (hno : call.TakesNoHello sessionId)
    (hstep : MarketStep policy walletId store call store') :
    Abandoned policy walletId sessionId store' := by
  subst hstep
  cases call with
  | message writer envelope at_ =>
    change Abandoned policy walletId sessionId (writer.after policy store envelope at_)
    unfold SwapWriter.after
    split
    next hcall => exact h.message hno hcall
    next => exact h
  | openExecution other now =>
    delta MarketCall.perform
    dsimp only
    split
    next hopen => exact (h.open hapart hopen).1
    next => exact h
  | reconcile now => exact h.reconcile hapart
  | prune now => exact h.prune

/-- Once an acceptance is abandoned, and as long as no countersigned terms of its session are
taken in, what the wallet reserves of either asset at any time is what its other acceptances
reserve.  The sessions that meet on the board are assumed to have execution workflows of their
own. -/
theorem abandoned_acceptance_reserves_nothing {store₀ : WalletStore V} {at_ : UInt64}
    {abandoned : ShakescapeLocalDirectOfferAcceptance} {calls : List MarketCall}
    (habandon : abandonPendingLocalShakescapeDirectOfferAcceptance store₀ policy walletId sessionId
      at_ = .ok (store, abandoned))
    (hrun : Run (MarketStep policy walletId) store calls store')
    (hapart : ∀ before call after mid, calls = before ++ call :: after →
      Run (MarketStep policy walletId) store before mid → Apart policy sessionId mid)
    (hno : ∀ call ∈ calls, call.TakesNoHello sessionId) (asset : AssetId) (now total : UInt64)
    (hreserved : reservedLocalShakescapeResponderAmount store' policy walletId asset now =
      .ok total) :
    ∃ acceptances, listLocalShakescapeDirectOfferAcceptances store' policy walletId =
        .ok acceptances ∧
      (acceptances.filter fun acceptance => acceptance.sessionId ≠ sessionId).foldlM
        (addReservation store' policy walletId asset now) 0 = .ok total := by
  have habandoned : Abandoned policy walletId sessionId store' := by
    refine Run.invariant_of_steps
      (C := fun mid call => Apart policy sessionId mid ∧ call.TakesNoHello sessionId)
      (fun h hc hstep => h.step hc.1 hc.2 hstep) (abandoned_of_abandon habandon) hrun ?_
    intro before call after mid hcalls hbefore
    exact ⟨hapart before call after mid hcalls hbefore, hno call (by simp [hcalls])⟩
  simp only [reservedLocalShakescapeResponderAmount, ok_iff] at hreserved
  obtain ⟨_, -, acceptances, hlisted, hsum⟩ := hreserved
  refine ⟨acceptances, hlisted, foldlM_addReservation (fun acceptance hmem hkeep => ?_) hsum⟩
  obtain ⟨hkey, hstored⟩ := localAcceptance_stored hlisted hmem
  have hsession : acceptance.sessionId = sessionId := by simpa using hkeep
  exact habandoned.reserves hkey hsession (hsession ▸ hstored)

end MarketRuns

namespace Sample

section

attribute [local instance] swapEnvelopes inventory sha256 bitcoin

@[reducible] def offerSigner : OfferSigner Value :=
  ⟨fun _ _ _ _ _ => .error .unknownShakescapeDirectOffer⟩

attribute [local instance] offerSigner

def acceptingStore : WalletStore Value :=
  acceptedStore.putEntity .shakescapeBoardObject (localAcceptanceRecordId makerWallet sessionId)
    ⟨1, .acceptance ⟨1, makerWallet, ⟨offer.offerId⟩, sessionId, 1000, 1699999600⟩, 1699999600⟩

def abandonedStore : WalletStore Value :=
  acceptingStore.putEntity .shakescapeBoardObject (abandonmentRecordId makerWallet sessionId)
    ⟨1, .abandonment ⟨1, makerWallet, ⟨offer.offerId⟩, sessionId, 1699999700⟩, 1699999700⟩

def lateCalls : List MarketCall :=
  [.message .proposal [13] 1700000010, .message .hello [14] 1700000020, .reconcile 1700000030]

def afterCalls (calls : List MarketCall) (store : WalletStore Value) : WalletStore Value :=
  calls.foldl (MarketCall.perform policy makerWallet) store

theorem run_afterCalls (calls : List MarketCall) (store : WalletStore Value) :
    Run (MarketStep policy makerWallet) store calls (afterCalls calls store) := by
  induction calls using List.reverseRecOn with
  | nil => exact .refl
  | append_singleton calls call ih =>
    refine ih.snoc ?_
    rw [MarketStep, afterCalls, afterCalls, List.foldl_append]
    rfl

theorem executionWorkflowId_sample (other : SessionId)
    (h : shakescapeExecutionWorkflowId other = shakescapeExecutionWorkflowId sessionId) :
    other = sessionId := by
  have hread : Sha256.digest (shakescapeExecutionWorkflowDomain ++ other.bytes.toList) =
      (digests.lookup (shakescapeExecutionWorkflowDomain ++ other.bytes.toList)).getD
        (.replicate 32 0) := rfl
  have hdigest : Sha256.digest (shakescapeExecutionWorkflowDomain ++ other.bytes.toList) ≠
      .replicate 32 0 := by
    intro hzero
    rw [shakescapeExecutionWorkflowId, hzero] at h
    exact absurd h (by decide)
  obtain ⟨digest, hlookup⟩ : ∃ digest,
      digests.lookup (shakescapeExecutionWorkflowDomain ++ other.bytes.toList) = some digest := by
    rw [← Option.isSome_iff_exists, Option.isSome_iff_ne_none]
    intro hnone
    exact hdigest (by rw [hread, hnone, Option.getD_none])
  have hvalue : shakescapeExecutionWorkflowId other = .ofDigest digest := by
    rw [shakescapeExecutionWorkflowId, hread, hlookup, Option.getD_some]
  obtain ⟨before, after, hdigests, -⟩ := List.lookup_eq_some_iff.1 hlookup
  have hmem : (shakescapeExecutionWorkflowDomain ++ other.bytes.toList, digest) ∈ digests := by
    rw [hdigests]
    simp
  have hkey := (show ∀ entry ∈ digests,
    WorkflowId.ofDigest entry.2 = shakescapeExecutionWorkflowId sessionId →
      entry.1 = shakescapeExecutionWorkflowDomain ++ sessionId.bytes.toList by decide) _ hmem
      (hvalue.symm.trans h)
  cases other
  exact congrArg SessionId.mk (Bytes.append_toList_inj.1 hkey)

set_option maxRecDepth 4000 in
theorem abandoned_acceptance_reserves_nothing_sample :
    (∃ abandoned, abandonPendingLocalShakescapeDirectOfferAcceptance acceptingStore policy
      makerWallet sessionId 1699999700 = .ok (abandonedStore, abandoned)) ∧
    ∃ acceptances, listLocalShakescapeDirectOfferAcceptances
        (afterCalls [.message .proposal [13] 1700000010, .openExecution sessionId 1700000020]
          abandonedStore) policy makerWallet = .ok acceptances ∧
      acceptances ≠ [] ∧
      (acceptances.filter fun acceptance => acceptance.sessionId ≠ sessionId).foldlM
        (addReservation (afterCalls [.message .proposal [13] 1700000010,
          .openExecution sessionId 1700000020] abandonedStore) policy makerWallet .hns
          1700000030) 0 = .ok 0 := by
  have habandon : ∃ abandoned, abandonPendingLocalShakescapeDirectOfferAcceptance acceptingStore
      policy makerWallet sessionId 1699999700 = .ok (abandonedStore, abandoned) := ⟨_, rfl⟩
  refine ⟨habandon, ?_⟩
  obtain ⟨abandoned, habandon⟩ := habandon
  obtain ⟨acceptances, hlisted, hsum⟩ := abandoned_acceptance_reserves_nothing
    habandon
    (run_afterCalls [.message .proposal [13] 1700000010, .openExecution sessionId 1700000020] _)
    (fun _ _ _ _ _ _ other _ _ => executionWorkflowId_sample other)
    (by
      rintro call hcall
      rcases List.mem_cons.1 hcall with rfl | hcall
      · intro requestId hello hdecode
        cases hdecode
      · rw [List.mem_singleton.1 hcall]
        trivial)
    .hns 1700000030 0 rfl
  refine ⟨acceptances, hlisted, ?_, hsum⟩
  rintro rfl
  cases hlisted

set_option maxRecDepth 4000 in
/-- The maker gives up its acceptance and reserves nothing.  The taker's countersigned terms
come late, are taken in, and the lifecycle of the wallet opens their execution: the whole
amount is reserved again. -/
theorem late_hello_reserves_again :
    (∃ abandoned, abandonPendingLocalShakescapeDirectOfferAcceptance acceptingStore policy
      makerWallet sessionId 1699999700 = .ok (abandonedStore, abandoned)) ∧
    reservedLocalShakescapeResponderAmount abandonedStore policy makerWallet .hns 1699999700 =
      .ok 0 ∧
    Run (MarketStep policy makerWallet) abandonedStore lateCalls
      (afterCalls lateCalls abandonedStore) ∧
    reservedLocalShakescapeResponderAmount (afterCalls lateCalls abandonedStore) policy makerWallet
      .hns 1700000030 = .ok 5000000 :=
  ⟨⟨_, rfl⟩, rfl, run_afterCalls _ _, rfl⟩

end

end Sample

end HnsWallet
