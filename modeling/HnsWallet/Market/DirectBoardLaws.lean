import HnsWallet.Market.SessionBoardLaws
import HnsWallet.Mobile.Redeem

/-! # The board over whole runs -/

namespace HnsWallet

open Lib WalletStore

theorem offerRecordId_inj {policy : ShakescapeDirectOfferBoardPolicy} {a b : Bytes 32} :
    policy.recordId a = policy.recordId b ↔ a = b := by
  rw [ShakescapeDirectOfferBoardPolicy.recordId, ShakescapeDirectOfferBoardPolicy.recordId,
    Bytes.append_toList_inj]

section Rows

theorem decodeBoardObject_eq_ok {α : Type} {codec : Codec α} {bytes : List UInt8}
    {authentic : α → Bool} {object : α} :
    decodeBoardObject codec bytes authentic = .ok object ↔
      codec.encode object = .ok bytes ∧ authentic object := by
  simp only [decodeBoardObject, ok_iff, not_or, Bool.not_eq_false, not_not, toOption_eq_some]
  constructor
  · rintro ⟨decoded, -, -, ⟨hauthentic, hencode⟩, hret⟩
    cases hret
    exact ⟨hencode, hauthentic⟩
  · rintro ⟨hencode, hauthentic⟩
    exact ⟨object, codec.decode_encode hencode, (), ⟨hauthentic, hencode⟩, rfl⟩

variable [DirectSwapProtocol]

structure ShakescapeDirectOfferRecord.WellFormed (policy : ShakescapeDirectOfferBoardPolicy)
    (record : ShakescapeDirectOfferRecord) : Prop where
  offerId : record.offer.offerId ≠ .replicate 32 0
  cancelledTime : record.cancelledAtUnix.isSome = record.cancellation.isSome
  offer : (peerObjectValidationTime record.offer.header.createdAt record.acceptedAtUnix).any
    fun at_ => (DirectSwapProtocol.verifyOffer record.offer policy.network at_).toOption.isSome
  cancellation : ∀ cancellation cancelledAt, record.cancellation = some cancellation →
    record.cancelledAtUnix = some cancelledAt →
    cancellationAuthentic policy record.offer record.acceptedAtUnix cancelledAt cancellation

structure ShakescapeDirectOfferRecord.StoredAs (policy : ShakescapeDirectOfferBoardPolicy)
    (record : ShakescapeDirectOfferRecord) (stored : StoredEntity PersistedDirectOffer) : Prop where
  encoded : encodeOffer policy record = .ok stored.value
  id : stored.id = policy.recordId record.offer.offerId
  revision : record.storeRevision = stored.revision
  updatedAt : stored.updatedAtUnix = record.cancelledAtUnix.getD record.acceptedAtUnix

variable {policy : ShakescapeDirectOfferBoardPolicy} {record : ShakescapeDirectOfferRecord}
  {stored : StoredEntity PersistedDirectOffer}

theorem decodeStoredOffer_eq_ok : decodeStoredOffer policy stored = .ok record ↔
    record.WellFormed policy ∧ record.StoredAs policy stored := by
  constructor
  · intro h
    simp only [decodeStoredOffer, ok_iff, not_or, not_not, decodeBoardObject_eq_ok,
      optionMapM_eq_ok] at h
    obtain ⟨-, ⟨hversion, hpolicy, hzero, hid, htimes⟩, offer, ⟨hoffer, hauthentic⟩, cancellation,
      hcancellation, -, hupdated, hret⟩ := h
    cases hret
    simp only [offerAuthentic, decide_eq_true_eq] at hauthentic
    obtain ⟨hofferId, hverified⟩ := hauthentic
    cases hhex : stored.value.cancellationHex with
    | none =>
      rw [hhex] at hcancellation htimes
      cases hcancellation
      refine ⟨⟨by rw [hofferId]; exact hzero, htimes.symm, hverified, fun c at_ h => by cases h⟩,
        ?_, by rw [hid, hofferId], rfl, hupdated⟩
      simp only [encodeOffer, ok_iff]
      refine ⟨_, hoffer, none, rfl, ?_⟩
      rw [← hversion, ← hpolicy, hofferId, ← hhex]
      rfl
    | some bytes =>
      rw [hhex] at hcancellation htimes
      cases hcancellation with
      | @some _ cancelled hdecoded =>
        obtain ⟨cancelledAt, hat, hencode, hauthentic⟩ := hdecoded
        refine ⟨⟨by rw [hofferId]; exact hzero, htimes.symm, hverified, ?_⟩,
          ?_, by rw [hid, hofferId], rfl, hupdated⟩
        · rintro c at_ ⟨⟩ hat'
          cases hat.symm.trans hat'
          exact hauthentic
        · simp only [encodeOffer, ok_iff, optionMapM_eq_ok]
          refine ⟨_, hoffer, some bytes, .some hencode, ?_⟩
          rw [← hversion, ← hpolicy, hofferId, ← hhex]
          rfl
  · rintro ⟨hrecord, hstored⟩
    have hencoded := hstored.encoded
    simp only [encodeOffer, ok_iff, optionMapM_eq_ok] at hencoded
    obtain ⟨offerHex, hoffer, cancellationHex, hcancellation, hret⟩ := hencoded
    have hvalue := (Except.ok.inj hret).symm
    simp only [decodeStoredOffer, ok_iff, not_or, not_not, decodeBoardObject_eq_ok,
      optionMapM_eq_ok, hvalue, offerAuthentic, decide_eq_true_eq]
    have hhex : cancellationHex.isSome = record.cancellation.isSome := by
      cases hc : record.cancellation with
      | none =>
        rw [hc] at hcancellation
        cases hcancellation
        rfl
      | some =>
        rw [hc] at hcancellation
        cases hcancellation
        rfl
    refine ⟨(), ⟨trivial, trivial, hrecord.offerId, hstored.id, ?_⟩, record.offer,
      ⟨hoffer, rfl, hrecord.offer⟩, record.cancellation, ?_, (), hstored.updatedAt, ?_⟩
    · rw [hhex, hrecord.cancelledTime]
    · cases hc : record.cancellation with
      | none =>
        rw [hc] at hcancellation
        cases hcancellation
        exact .none
      | some cancellation =>
        rw [hc] at hcancellation
        cases hcancellation with
        | @some _ bytes hencode =>
          have htime := hrecord.cancelledTime
          rw [hc, Option.isSome_some, Option.isSome_iff_exists] at htime
          obtain ⟨cancelledAt, htime⟩ := htime
          exact .some ⟨cancelledAt, htime, hencode, hrecord.cancellation _ _ hc htime⟩
    · rw [← hstored.revision]
      rfl

end Rows

section Writes

variable [DirectSwapProtocol] {V : Type} [Serde V PersistedDirectOffer]
  {policy : ShakescapeDirectOfferBoardPolicy} {store store' : WalletStore V} {offerId : Bytes 32}
  {record : ShakescapeDirectOfferRecord}

def WalletStore.offerRow {V : Type} (store : WalletStore V)
    (policy : ShakescapeDirectOfferBoardPolicy) (offerId : Bytes 32) : Option (EntityRow V) :=
  store.entities.lookup (.shakescapeBoardObject, policy.recordId offerId)

def RowDecodes (policy : ShakescapeDirectOfferBoardPolicy) (id : RecordId) (row : EntityRow V)
    (record : ShakescapeDirectOfferRecord) : Prop :=
  ∃ value, Serde.fromSlice row.value = some value ∧
    decodeStoredOffer policy ⟨.shakescapeBoardObject, id, row.revision, value,
      row.updatedAtUnix⟩ = .ok record

theorem loadShakescapeDirectOffer_eq_some :
    loadShakescapeDirectOffer store policy offerId = .ok (some record) ↔
      offerId ≠ .replicate 32 0 ∧ validateId (policy.recordId offerId) = .ok () ∧ store.unlocked ∧
        ∃ row, store.offerRow policy offerId = some row ∧
          RowDecodes policy (policy.recordId offerId) row record := by
  simp only [loadShakescapeDirectOffer, ok_iff, liftStore_eq_ok, optionMapM_eq_ok]
  constructor
  · rintro ⟨-, hzero, loaded, hload, hrel⟩
    cases hrel with
    | some hdecode =>
      obtain ⟨hid, hkey, row, value, hrow, hvalue, rfl⟩ := loadEntity_eq_some.1 hload
      exact ⟨hzero, hid, hkey, row, hrow, value, hvalue, hdecode⟩
  · rintro ⟨hzero, hid, hkey, row, hrow, value, hvalue, hdecode⟩
    exact ⟨(), hzero, _, loadEntity_eq_some.2
      ⟨hid, hkey, row, value, hrow, hvalue, rfl⟩, .some hdecode⟩

theorem loadShakescapeDirectOffer_eq_none
    (h : loadShakescapeDirectOffer store policy offerId = .ok none) :
    offerId ≠ .replicate 32 0 ∧ store.offerRow policy offerId = none := by
  simp only [loadShakescapeDirectOffer, ok_iff, liftStore_eq_ok, optionMapM_eq_ok] at h
  obtain ⟨-, hzero, loaded, hload, hrel⟩ := h
  cases hrel
  exact ⟨hzero, (loadEntity_eq_none.1 hload).2.2⟩

theorem RowDecodes.about {row : EntityRow V}
    (h : RowDecodes policy (policy.recordId offerId) row record) :
    record.offer.offerId = offerId ∧ record.WellFormed policy ∧
      record.storeRevision = row.revision := by
  obtain ⟨value, -, hdecode⟩ := h
  obtain ⟨hwell, hstored⟩ := decodeStoredOffer_eq_ok.1 hdecode
  exact ⟨(offerRecordId_inj.1 hstored.id).symm, hwell, hstored.revision⟩

theorem rowDecodes_of_wellFormed {persisted : PersistedDirectOffer} {updatedAt : UInt64}
    (revision : UInt64)
    (hwell : record.WellFormed policy) (hencoded : encodeOffer policy record = .ok persisted)
    (hupdated : updatedAt = record.cancelledAtUnix.getD record.acceptedAtUnix) :
    RowDecodes (V := V) policy (policy.recordId record.offer.offerId)
      ⟨revision, Serde.toVec persisted, updatedAt⟩ { record with storeRevision := revision } :=
  ⟨persisted, Serde.fromSlice_toVec persisted, decodeStoredOffer_eq_ok.2
    ⟨⟨hwell.offerId, hwell.cancelledTime, hwell.offer, hwell.cancellation⟩,
      ⟨hencoded, rfl, rfl, hupdated⟩⟩⟩

variable [Encoded V] {envelope : List UInt8}

theorem admitShakescapeDirectOffer_eq_ok [InventoryLimit] {now : UInt64}
    {admission : ShakescapeDirectOfferAdmission}
    (h : admitShakescapeDirectOffer store policy envelope now = .ok (admission, store')) :
    store' = store ∨ ∃ offer persisted revision,
      store.offerRow policy offer.offerId = none ∧
      (⟨0, now, none, offer, none⟩ : ShakescapeDirectOfferRecord).WellFormed policy ∧
      encodeOffer policy ⟨0, now, none, offer, none⟩ = .ok persisted ∧
      (store.entitiesByIdPrefix .shakescapeBoardObject policy.recordPrefix).length <
        maxShakescapeDirectOffers ∧
      store' = store.putEntity .shakescapeBoardObject (policy.recordId offer.offerId)
        ⟨revision, Serde.toVec persisted, now⟩ := by
  obtain ⟨⟨requestId, message⟩, -, h⟩ := ok_bind_iff.1 h
  cases message with
  | directOffer offer =>
    simp only [ok_iff] at h
    obtain ⟨_, ⟨⟩, at_, hat, ⟨⟩, hverify, -, -, loaded, hload, h⟩ := h
    cases loaded with
    | some existing =>
      obtain ⟨_, -, hret⟩ := ok_bind_iff.1 h
      cases hret
      exact .inl rfl
    | none =>
      simp only [ok_iff, liftStore_eq_ok, not_le] at h
      obtain ⟨physical, hphysical, -, hcapacity, persisted, hencoded, ⟨written, revision⟩, hsave,
        hret⟩ := h
      cases hret
      obtain ⟨hzero, hrow⟩ := loadShakescapeDirectOffer_eq_none hload
      obtain ⟨-, -, -, -, -, rfl⟩ := saveEntity_eq_ok.1 hsave
      rw [length_of_listEntitiesByIdPrefix (liftStore_eq_ok.1 hphysical)] at hcapacity
      refine .inr ⟨offer, persisted, revision, hrow, ⟨hzero, rfl, ?_, nofun⟩, hencoded, hcapacity,
        rfl⟩
      simp [hat, hverify, Except.toOption]
  | _ => cases h

theorem admitShakescapeDirectOfferCancellation_eq_ok {now : UInt64}
    {admission : ShakescapeDirectOfferCancellationAdmission}
    (h : admitShakescapeDirectOfferCancellation store policy envelope now =
      .ok (admission, store')) :
    store' = store ∨ ∃ requestId cancellation record at_ persisted revision,
      decodeCanonicalEnvelope envelope = .ok (requestId, .cancelDirectOffer cancellation) ∧
      loadShakescapeDirectOffer store policy cancellation.offerId = .ok (some record) ∧
      record.cancellation = none ∧
      peerObjectValidationTime cancellation.header.createdAt now = some at_ ∧
      DirectSwapProtocol.verifyCancellation cancellation record.offer policy.network at_ = .ok () ∧
      encodeOffer policy { record with
        cancelledAtUnix := some now, cancellation := some cancellation } = .ok persisted ∧
      store' = store.putEntity .shakescapeBoardObject (policy.recordId record.offer.offerId)
        ⟨revision, Serde.toVec persisted, now⟩ := by
  obtain ⟨⟨requestId, message⟩, henvelope, h⟩ := ok_bind_iff.1 h
  cases message with
  | cancelDirectOffer cancellation =>
    simp only [ok_iff] at h
    obtain ⟨_, ⟨⟩, at_, hat, _, hload, record, rfl, ⟨⟩, hverify, -, -, h⟩ := h
    split at h
    next =>
      obtain ⟨_, -, hret⟩ := ok_bind_iff.1 h
      cases hret
      exact .inl rfl
    next hnone =>
      simp only [ok_iff, liftStore_eq_ok] at h
      obtain ⟨persisted, hencoded, ⟨written, revision⟩, hsave, hret⟩ := h
      cases hret
      obtain ⟨-, -, -, -, -, rfl⟩ := saveEntity_eq_ok.1 hsave
      exact .inr ⟨requestId, cancellation, record, at_, persisted, revision, henvelope,
        hload, hnone,
        hat, hverify, hencoded, rfl⟩
  | _ => cases h

end Writes

section Maintenance

variable [DirectSwapProtocol] {V : Type} [Serde V PersistedDirectOffer]
  {policy : ShakescapeDirectOfferBoardPolicy} {protectedOfferIds : List (Bytes 32)} {now : UInt64}
  {store store' : WalletStore V}

def ShakescapeDirectOfferRecord.Removable (record : ShakescapeDirectOfferRecord)
    (protectedOfferIds : List (Bytes 32)) (now : UInt64) : Prop :=
  record.offer.offerId ∉ protectedOfferIds ∧
    (record.retainUntil ≤ now ∨ record.isBounded = false)

structure Pruned (policy : ShakescapeDirectOfferBoardPolicy) (protectedOfferIds : List (Bytes 32))
    (now : UInt64) (store store' : WalletStore V) : Prop where
  rows : ∀ key, store'.entities.lookup key = store.entities.lookup key ∨
    store'.entities.lookup key = none ∧ ∃ id row record,
      key = (.shakescapeBoardObject, id) ∧ store.entities.lookup key = some row ∧
      RowDecodes policy id row record ∧ record.Removable protectedOfferIds now
  length : (store'.entitiesByIdPrefix .shakescapeBoardObject policy.recordPrefix).length ≤
    (store.entitiesByIdPrefix .shakescapeBoardObject policy.recordPrefix).length
  workflows : store'.workflows = store.workflows

theorem Pruned.refl (store : WalletStore V) : Pruned policy protectedOfferIds now store store :=
  ⟨fun _ => .inl rfl, le_rfl, rfl⟩

theorem Pruned.drop {id : RecordId} {row : EntityRow V} {record : ShakescapeDirectOfferRecord}
    (h : Pruned policy protectedOfferIds now store store')
    (hrow : store.entities.lookup (.shakescapeBoardObject, id) = some row)
    (hdecodes : RowDecodes policy id row record)
    (hremovable : record.Removable protectedOfferIds now) :
    Pruned policy protectedOfferIds now store (store'.dropEntity .shakescapeBoardObject id) := by
  refine ⟨fun key => ?_, length_dropEntity_le.trans h.length, h.workflows⟩
  by_cases hkey : key = (.shakescapeBoardObject, id)
  · subst hkey
    exact .inr ⟨dropEntity_lookup, id, row, record, rfl, hrow, hdecodes, hremovable⟩
  · rw [dropEntity_lookup_ne hkey]
    exact h.rows key

theorem pruned_of_pruneOffers {rows : List (StoredEntity PersistedDirectOffer)} {removed : Nat}
    (hrows : ∀ row ∈ rows, store.loadEntity PersistedDirectOffer .shakescapeBoardObject row.id =
      .ok (some row)) (h : Pruned policy protectedOfferIds now store store') :
    Pruned policy protectedOfferIds now store
      (pruneOffers policy protectedOfferIds now store' removed rows).2 := by
  induction rows generalizing store' removed with
  | nil => exact h
  | cons row rows ih =>
    have htail : ∀ row ∈ rows, store.loadEntity PersistedDirectOffer .shakescapeBoardObject
        row.id = .ok (some row) := fun row' hrow' => hrows row' (List.mem_cons_of_mem row hrow')
    unfold pruneOffers
    split
    next => exact h
    next record hdecode =>
      split
      next => exact ih htail h
      next hkeep =>
        split
        next => exact h
        next pruned deleted hdelete =>
          refine ih htail ?_
          rcases deleteEntity_eq_ok (liftStore_eq_ok.1 hdelete) with rfl | rfl
          · exact h
          obtain ⟨-, -, entity, value, hlookup, hvalue, hstored⟩ :=
            loadEntity_eq_some.1 (hrows row List.mem_cons_self)
          refine h.drop hlookup ⟨value, hvalue, hstored ▸ hdecode⟩ ?_
          rw [not_or, not_and_or, UInt64.not_lt, Bool.not_eq_true] at hkeep
          exact ⟨hkeep.2, hkeep.1⟩

theorem pruned_of_prune :
    Pruned policy protectedOfferIds now store
      (pruneExpiredUnreferencedShakescapeDirectOffers store policy protectedOfferIds now).2 := by
  unfold pruneExpiredUnreferencedShakescapeDirectOffers
  split
  next => exact Pruned.refl store
  next =>
    split
    next => exact Pruned.refl store
    next stored hlist =>
      refine pruned_of_pruneOffers (fun row hrow => ?_) (Pruned.refl store)
      exact ((mem_of_listEntitiesByIdPrefix (liftStore_eq_ok.1 hlist)).1 hrow).2

end Maintenance

inductive BoardCall where
  | offer (envelope : List UInt8) (acceptedAtUnix : UInt64)
  | cancel (envelope : List UInt8) (acceptedAtUnix : UInt64)
  | prune (protectedOfferIds : List (Bytes 32)) (nowUnix : UInt64)

section BoardRuns

variable [DirectSwapProtocol] [InventoryLimit] {V : Type} [Serde V PersistedDirectOffer] [Encoded V]

def BoardCall.perform (policy : ShakescapeDirectOfferBoardPolicy) (store : WalletStore V) :
    BoardCall → WalletStore V
  | .offer envelope at_ =>
    match admitShakescapeDirectOffer store policy envelope at_ with
    | .ok (_, store) => store
    | .error _ => store
  | .cancel envelope at_ =>
    match admitShakescapeDirectOfferCancellation store policy envelope at_ with
    | .ok (_, store) => store
    | .error _ => store
  | .prune protectedOfferIds at_ =>
    (pruneExpiredUnreferencedShakescapeDirectOffers store policy protectedOfferIds at_).2

def BoardStep (policy : ShakescapeDirectOfferBoardPolicy) (store : WalletStore V)
    (call : BoardCall) (store' : WalletStore V) : Prop :=
  call.perform policy store = store'

def CancelsInOrder (policy : ShakescapeDirectOfferBoardPolicy) (store : WalletStore V) :
    BoardCall → Prop
  | .cancel envelope at_ => ∀ requestId cancellation record,
      decodeCanonicalEnvelope envelope = .ok (requestId, .cancelDirectOffer cancellation) →
      loadShakescapeDirectOffer store policy cancellation.offerId = .ok (some record) →
      record.acceptedAtUnix ≤ at_
  | _ => True

structure BoardSound (policy : ShakescapeDirectOfferBoardPolicy)
    (store : WalletStore V) : Prop where
  decodes : ∀ id row, policy.recordPrefix <+: id →
    store.entities.lookup (.shakescapeBoardObject, id) = some row →
    ∃ record, RowDecodes policy id row record
  capacity : (store.entitiesByIdPrefix .shakescapeBoardObject policy.recordPrefix).length ≤
    maxShakescapeDirectOffers

variable {policy : ShakescapeDirectOfferBoardPolicy} {store store' : WalletStore V}
  {offerId : Bytes 32} {row : EntityRow V} {envelope : List UInt8} {call : BoardCall}

section

variable (h : BoardSound policy store)
include h

omit [Encoded V] in
theorem BoardSound.put {record : ShakescapeDirectOfferRecord}
    (hrow : RowDecodes policy (policy.recordId offerId) row record)
    (hcapacity : ((store.putEntity .shakescapeBoardObject (policy.recordId offerId)
      row).entitiesByIdPrefix .shakescapeBoardObject policy.recordPrefix).length ≤
      maxShakescapeDirectOffers) :
    BoardSound policy (store.putEntity .shakescapeBoardObject (policy.recordId offerId) row) := by
  refine ⟨fun id row' hid hlookup => ?_, hcapacity⟩
  by_cases heq : id = policy.recordId offerId
  · subst heq
    rw [putEntity_lookup] at hlookup
    cases hlookup
    exact ⟨record, hrow⟩
  · rw [putEntity_lookup_ne (by simpa using heq)] at hlookup
    exact h.decodes id row' hid hlookup

omit [Encoded V] in
theorem BoardSound.prune {protectedOfferIds : List (Bytes 32)} {now : UInt64}
    (hpruned : Pruned policy protectedOfferIds now store store') :
    BoardSound policy store' := by
  refine ⟨fun id row hid hlookup => ?_, hpruned.length.trans h.capacity⟩
  rcases hpruned.rows (.shakescapeBoardObject, id) with hsame | ⟨hnone, -⟩
  · exact h.decodes id row hid (hsame ▸ hlookup)
  · cases hnone.symm.trans hlookup

theorem BoardSound.offer {now : UInt64} {admission : ShakescapeDirectOfferAdmission}
    (hcall : admitShakescapeDirectOffer store policy envelope now = .ok (admission, store')) :
    BoardSound policy store' := by
  rcases admitShakescapeDirectOffer_eq_ok hcall with
    rfl | ⟨offer, persisted, revision, -, hwell, hencoded, hcapacity, rfl⟩
  · exact h
  · exact h.put (rowDecodes_of_wellFormed revision hwell hencoded rfl)
      (length_putEntity_le.trans hcapacity)

theorem BoardSound.cancel {now : UInt64} {admission : ShakescapeDirectOfferCancellationAdmission}
    (hordered : CancelsInOrder policy store (.cancel envelope now))
    (hcall : admitShakescapeDirectOfferCancellation store policy envelope now =
      .ok (admission, store')) :
    BoardSound policy store' := by
  rcases admitShakescapeDirectOfferCancellation_eq_ok hcall with
    rfl | ⟨requestId, cancellation, record, at_, persisted, revision, henvelope, hload, -, hat,
      hverify, hencoded, rfl⟩
  · exact h
  have hafter := hordered requestId cancellation record henvelope hload
  obtain ⟨-, -, -, row, hlookup, hdecodes⟩ := loadShakescapeDirectOffer_eq_some.1 hload
  obtain ⟨hofferId, hwell, -⟩ := hdecodes.about
  have hcancelled : ({ record with
      cancelledAtUnix := some now
      cancellation := some cancellation } :
      ShakescapeDirectOfferRecord).WellFormed policy := by
    refine ⟨hwell.offerId, rfl, hwell.offer, ?_⟩
    rintro _ _ ⟨⟩ ⟨⟩
    simp [cancellationAuthentic, hafter, hat, hverify, Except.toOption]
  have hwritten := rowDecodes_of_wellFormed (V := V) revision hcancelled hencoded rfl
  refine h.put hwritten ?_
  rw [length_putEntity_of_isSome]
  · exact h.capacity
  · rw [hofferId]
    exact Option.isSome_of_mem hlookup

theorem BoardSound.step (hordered : CancelsInOrder policy store call)
    (hstep : BoardStep policy store call store') :
    BoardSound policy store' := by
  subst hstep
  cases call with
  | offer envelope at_ =>
    simp only [BoardCall.perform]
    split
    next hcall => exact h.offer hcall
    next => exact h
  | cancel envelope at_ =>
    simp only [BoardCall.perform]
    split
    next hcall => exact h.cancel hordered hcall
    next => exact h
  | prune protectedOfferIds at_ => exact h.prune pruned_of_prune

end

theorem cancelled_row_step {record : ShakescapeDirectOfferRecord}
    (hrow : store.offerRow policy offerId = some row)
    (hdecodes : RowDecodes policy (policy.recordId offerId) row record)
    (hcancelled : record.cancellation.isSome) (hstep : BoardStep policy store call store')
    (hkept : (store'.offerRow policy offerId).isSome) :
    store'.offerRow policy offerId = some row := by
  subst hstep
  cases call with
  | offer envelope at_ =>
    simp only [BoardCall.perform]
    split
    next store' hcall =>
      rcases admitShakescapeDirectOffer_eq_ok hcall with
        rfl | ⟨offer, persisted, revision, hnone, -, -, -, rfl⟩
      · exact hrow
      have hne : policy.recordId offerId ≠ policy.recordId offer.offerId := fun heq => by
        rw [WalletStore.offerRow, heq] at hrow
        cases hrow.symm.trans hnone
      rw [WalletStore.offerRow, putEntity_lookup_ne (by simpa using hne)]
      exact hrow
    next => exact hrow
  | cancel envelope at_ =>
    simp only [BoardCall.perform]
    split
    next store' hcall =>
      rcases admitShakescapeDirectOfferCancellation_eq_ok hcall with
        rfl | ⟨requestId, cancellation, other, at_, persisted, revision, -, hload, hnone, -, -, -,
          rfl⟩
      · exact hrow
      obtain ⟨-, -, -, row', hlookup, hdecodes'⟩ := loadShakescapeDirectOffer_eq_some.1 hload
      have hne : policy.recordId offerId ≠ policy.recordId other.offer.offerId := fun heq => by
        have hsame := offerRecordId_inj.1 heq
        rw [hdecodes'.about.1] at hsame
        subst hsame
        cases hrow.symm.trans hlookup
        obtain ⟨value, hvalue, hdecode⟩ := hdecodes
        obtain ⟨value', hvalue', hdecode'⟩ := hdecodes'
        cases hvalue.symm.trans hvalue'
        cases hdecode.symm.trans hdecode'
        rw [hnone] at hcancelled
        cases hcancelled
      rw [WalletStore.offerRow, putEntity_lookup_ne (by simpa using hne)]
      exact hrow
    next => exact hrow
  | prune protectedOfferIds at_ =>
    have hpruned : Pruned policy protectedOfferIds at_ store
        ((BoardCall.prune protectedOfferIds at_).perform policy store) := pruned_of_prune
    rcases hpruned.rows (.shakescapeBoardObject, policy.recordId offerId) with
      hsame | ⟨hnone, -⟩
    · exact hsame.trans hrow
    · rw [WalletStore.offerRow, hnone] at hkept
      cases hkept

theorem cancelled_row_run {calls : List BoardCall} {record : ShakescapeDirectOfferRecord}
    (hrow : store.offerRow policy offerId = some row)
    (hdecodes : RowDecodes policy (policy.recordId offerId) row record)
    (hcancelled : record.cancellation.isSome)
    (hrun : Run (fun s call t => BoardStep policy s call t ∧ (t.offerRow policy offerId).isSome)
      store calls store') :
    store'.offerRow policy offerId = some row := by
  refine Run.invariant (I := fun s => s.offerRow policy offerId = some row) ?_ hrow hrun
  exact fun hrow hstep => cancelled_row_step hrow hdecodes hcancelled hstep.1 hstep.2

/-- Over any run from an empty board whose cancellations come in order: every row decodes and
the board is within its bound.  A cancelled offer is the same, and never active, as long as its
row is kept.  Maintenance removes removable rows and changes nothing else. -/
theorem direct_offer_board_runs {store₀ : WalletStore V} {calls : List BoardCall}
    (hempty : ∀ id, policy.recordPrefix <+: id →
      store₀.entities.lookup (.shakescapeBoardObject, id) = none)
    (hrun : Run (BoardStep policy) store₀ calls store)
    (hordered : ∀ before call after mid, calls = before ++ call :: after →
      Run (BoardStep policy) store₀ before mid → CancelsInOrder policy mid call) :
    (∀ id row, policy.recordPrefix <+: id →
      store.entities.lookup (.shakescapeBoardObject, id) = some row →
      ∃ record, RowDecodes policy id row record) ∧
    (store.entitiesByIdPrefix .shakescapeBoardObject policy.recordPrefix).length ≤
      maxShakescapeDirectOffers ∧
    (∀ offerId row record, store.offerRow policy offerId = some row →
      RowDecodes policy (policy.recordId offerId) row record → record.cancellation.isSome →
      ∀ later store', Run (fun s call t => BoardStep policy s call t ∧
        (t.offerRow policy offerId).isSome) store later store' →
      store'.offerRow policy offerId = some row ∧ ∀ now, record.isActiveAt now = false) ∧
    (∀ protectedOfferIds now key,
      let store' := (BoardCall.prune protectedOfferIds now).perform policy store
      store'.entities.lookup key = store.entities.lookup key ∨
      store'.entities.lookup key = none ∧ ∃ id row record,
        key = (.shakescapeBoardObject, id) ∧ store.entities.lookup key = some row ∧
        RowDecodes policy id row record ∧ record.Removable protectedOfferIds now) := by
  have hsound₀ : BoardSound policy store₀ := by
    refine ⟨fun id row hid hlookup => ?_, ?_⟩
    · cases (hempty id hid).symm.trans hlookup
    · have hnil : store₀.entitiesByIdPrefix .shakescapeBoardObject policy.recordPrefix = [] := by
        refine List.eq_nil_iff_forall_not_mem.2 fun ⟨id, row⟩ hmem => ?_
        obtain ⟨hid, hlookup⟩ := mem_entitiesByIdPrefix.1 hmem
        cases (hempty id hid).symm.trans hlookup
      rw [hnil]
      exact Nat.zero_le _
  have hsound : BoardSound policy store :=
    Run.invariant_of_steps (fun h hc hstep => h.step hc hstep) hsound₀ hrun hordered
  refine ⟨hsound.decodes, hsound.capacity, ?_, fun _ _ => pruned_of_prune.rows⟩
  intro offerId row record hrow hdecodes hcancelled later store' hlater
  refine ⟨cancelled_row_run hrow hdecodes hcancelled hlater, fun now => ?_⟩
  simp [ShakescapeDirectOfferRecord.isActiveAt, Option.isSome_iff_ne_none.1 hcancelled]

end BoardRuns

namespace Sample

def cancellation : DirectOfferCancellation where
  header := ⟨network, takerKey, 2, 1699999900, 1700009000⟩
  offerId := offer.offerId
  signature := .replicate 64 6

@[reducible] def boardProtocol (envelopes : List (List UInt8 × UInt64 × CrossChainMessage)) :
    DirectSwapProtocol :=
  { protocol with
    decodeEnvelope := fun bytes => match envelopes.lookup bytes with
      | some envelope => .ok envelope
      | none => .error .rejected
    encodeEnvelope := fun message requestId =>
      match envelopes.find? (·.2 = (requestId, message)) with
      | some (bytes, _) => .ok bytes
      | none => .error .rejected
    cancellationCodec := codecOf cancellation [6]
    verifyOffer := fun o n at_ =>
      if o = offer ∧ n = network then timely o.header at_ else .error .rejected
    verifyCancellation := fun c o n at_ =>
      if c = cancellation ∧ o = offer ∧ n = network then timely c.header at_
      else .error .rejected }

@[reducible] def offerEnvelopes : DirectSwapProtocol :=
  boardProtocol [([10], 1, .directOffer offer), ([11], 2, .cancelDirectOffer cancellation)]

@[reducible] def inventory : InventoryLimit := ⟨256⟩

def boardPolicy : ShakescapeDirectOfferBoardPolicy := policy.boardPolicy

def emptyStore : WalletStore Value := ⟨true, ∅, ∅, ∅⟩

section

attribute [local instance] offerEnvelopes inventory

def afterBoard (calls : List BoardCall) : WalletStore Value :=
  calls.foldl (BoardCall.perform boardPolicy) emptyStore

theorem run_afterBoard (calls : List BoardCall) :
    Run (BoardStep boardPolicy) emptyStore calls (afterBoard calls) := by
  induction calls using List.reverseRecOn with
  | nil => exact .refl
  | append_singleton calls call ih =>
    refine ih.snoc ?_
    rw [BoardStep, afterBoard, afterBoard, List.foldl_append]
    rfl

def ordered : List BoardCall :=
  [.offer [10] 1700000000, .cancel [11] 1700000050, .offer [10] 1700000060]

theorem direct_offer_board_runs_ordered :
    (afterBoard ordered).offerRow boardPolicy offer.offerId ≠ none ∧
    (afterBoard ordered).offerRow boardPolicy offer.offerId =
      (afterBoard (ordered.take 2)).offerRow boardPolicy offer.offerId ∧
    (∃ record, loadShakescapeDirectOffer (afterBoard ordered) boardPolicy offer.offerId =
      .ok (some record) ∧ record.cancellation = some cancellation) ∧
    ∀ id row, boardPolicy.recordPrefix <+: id →
      (afterBoard ordered).entities.lookup (.shakescapeBoardObject, id) = some row →
      ∃ record, RowDecodes boardPolicy id row record := by
  refine ⟨nofun, rfl, ⟨_, rfl, rfl⟩,
    (direct_offer_board_runs (fun _ _ => rfl) (run_afterBoard ordered) ?_).1⟩
  intro before call after mid hcalls hrun
  rcases before with _ | ⟨first, _ | ⟨second, _ | ⟨third, rest⟩⟩⟩
  · cases hcalls
    trivial
  · cases hcalls
    obtain rfl : mid = afterBoard [.offer [10] 1700000000] :=
      Run.functional (fun h h' => h.symm.trans h') hrun (run_afterBoard _)
    intro requestId cancelled record henvelope hload
    cases henvelope
    have hrecord : loadShakescapeDirectOffer (afterBoard [.offer [10] 1700000000]) boardPolicy
        offer.offerId = .ok (some ⟨1, 1700000000, none, offer, none⟩) := rfl
    cases hrecord.symm.trans hload
    decide
  · cases hcalls
    trivial
  · exact absurd (congrArg List.length hcalls) (by simp [ordered])

/-- The device's clock steps back between the offer and its cancellation: both are taken in, and
the row no longer decodes. -/
theorem cancellation_before_offer_does_not_load :
    let store := afterBoard [.offer [10] 1700000000]
    (∃ admission, admitShakescapeDirectOffer emptyStore boardPolicy [10] 1700000000 =
      .ok (admission, store)) ∧
    ∃ admission store', admitShakescapeDirectOfferCancellation store boardPolicy [11] 1699999950 =
      .ok (admission, store') ∧
      loadShakescapeDirectOffer store' boardPolicy offer.offerId =
        .error .corruptShakescapeDirectOfferBoard ∧
      loadShakescapeDirectOffers store' boardPolicy 1700000100 =
        .error .corruptShakescapeDirectOfferBoard := by
  exact ⟨⟨_, rfl⟩, _, _, rfl, rfl, rfl⟩

end

end Sample

end HnsWallet
