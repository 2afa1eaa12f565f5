import HnsWallet.Market.SessionBoard

/-! # Laws of the session board -/

namespace HnsWallet

open Lib DirectSwapProtocol

section Codecs

variable {α : Type} {codec : Codec α} {value : α} {bytes : List UInt8} {field : String}

theorem encodeHex_eq_ok : encodeHex codec value = .ok bytes ↔ codec.encode value = .ok bytes :=
  mapError_eq_ok

theorem decodeHex_eq_ok : decodeHex codec bytes = .ok value ↔ codec.encode value = .ok bytes := by
  simp only [decodeHex, ok_iff, not_not, toOption_eq_some]
  constructor
  · rintro ⟨decoded, -, -, hencode, hret⟩
    cases hret
    exact hencode
  · intro hencode
    exact ⟨value, codec.decode_encode hencode, (), hencode, rfl⟩

theorem decodeField_eq_ok :
    decodeField codec field bytes = .ok value ↔ encodeHex codec value = .ok bytes := by
  rw [decodeField, mapError_eq_ok, decodeHex_eq_ok, encodeHex_eq_ok]

theorem decodeField_mapM {encoded : Option (List UInt8)} {decoded : Option α} :
    encoded.mapM (decodeField codec field) = .ok decoded ↔
      decoded.mapM (encodeHex codec) = .ok encoded :=
  ⟨optionMapM_inverse decodeField_eq_ok.1, optionMapM_inverse decodeField_eq_ok.2⟩

end Codecs

theorem recordId_inj {policy : ShakescapeDirectSwapPolicy} {a b : SessionId} :
    policy.recordId a = policy.recordId b ↔ a = b := by
  rw [ShakescapeDirectSwapPolicy.recordId, ShakescapeDirectSwapPolicy.recordId,
    Bytes.append_toList_inj]
  cases a
  cases b
  simp

section Rows

theorem verifyLate_eq_true {verify : UInt64 → Except MarketplaceError Unit} {at_ createdAt : UInt64}
    (h : verifyLate verify at_ createdAt) : ∃ t, verify t = .ok () := by
  unfold verifyLate at h
  split at h
  next hv => exact ⟨_, hv⟩
  next =>
    obtain ⟨⟨⟩, hv⟩ := Option.isSome_iff_exists.1 h
    exact ⟨_, toOption_eq_some.1 hv⟩
  next => cases h

variable [DirectSwapProtocol]

structure ShakescapeDirectSwapRecord.WellFormed (policy : ShakescapeDirectSwapPolicy)
    (record : ShakescapeDirectSwapRecord) : Prop where
  acceptanceRequestId : record.acceptanceRequestId ≠ 0
  proposalRequestId : record.proposalRequestId ≠ some 0
  proposalTime : record.proposalAcceptedAtUnix.isSome = record.proposal.isSome
  proposalRequest : record.proposalRequestId.isSome = record.proposal.isSome
  helloTime : record.helloAcceptedAtUnix.isSome = record.hello.isSome
  helloProposal : record.hello.isSome → record.proposal.isSome
  watchReadyTime : record.watchReadyAcceptedAtUnix.isSome = record.firstChainWatchReady.isSome
  watchReadyHello : record.firstChainWatchReady.isSome → record.hello.isSome
  acceptance : acceptanceAuthentic policy record.offer record.acceptance
    record.acceptanceReceivedAtUnix
  proposal : record.proposalAuthentic policy
  hello : record.helloAuthentic policy
  terms : record.helloMatchesProposal
  watchReady : record.watchReadyAuthentic policy
  peerFunding : record.peerFundingAuthentic policy
  times : timestampsMonotonic record

structure ShakescapeDirectSwapRecord.StoredAs (policy : ShakescapeDirectSwapPolicy)
    (record : ShakescapeDirectSwapRecord) (stored : StoredEntity PersistedShakescapeDirectSwap) :
    Prop where
  encoded : encodePersisted policy record = .ok stored.value
  id : stored.id = policy.recordId ⟨record.acceptance.swapSessionId⟩
  revision : record.storeRevision = stored.revision
  updatedAt : stored.updatedAtUnix = record.lastAcceptedAtUnix

variable {policy : ShakescapeDirectSwapPolicy} {record : ShakescapeDirectSwapRecord}
  {stored : StoredEntity PersistedShakescapeDirectSwap}

theorem decodeFunding_eq_ok {persisted : PersistedPeerFundingStatus}
    {status : ShakescapePeerFundingStatusRecord} :
    (do return (⟨persisted.acceptedAtUnix, ← decodeField fundingStatusCodec
        "canonical peer-funding encoding" persisted.statusHex⟩ :
        ShakescapePeerFundingStatusRecord)) = Except.ok status ↔
      (do return (⟨status.acceptedAtUnix, ← encodeHex fundingStatusCodec
        status.status⟩ : PersistedPeerFundingStatus)) = Except.ok persisted := by
  simp only [ok_iff, decodeField_eq_ok]
  constructor
  · rintro ⟨decoded, hencode, hret⟩
    cases hret
    exact ⟨_, hencode, rfl⟩
  · rintro ⟨bytes, hencode, hret⟩
    cases hret
    exact ⟨_, hencode, rfl⟩

theorem decodeStoredSwap_sound (h : decodeStoredSwap policy stored = .ok record) :
    record.WellFormed policy ∧ record.StoredAs policy stored := by
  simp only [decodeStoredSwap, decodeMessages, ok_iff, not_or, not_and, Bool.not_eq_false, not_not,
    decodeField_eq_ok, decodeField_mapM] at h
  obtain ⟨-, hshape, offer, hoffer, acceptance, hacceptance, -, ⟨hsession, hauthentic⟩, record',
    ⟨proposal, hproposals, hello, hhellos, watch, hwatches, fundings, hfundings, hret⟩, -,
    hproposal, -, hhello, -, -, -, hterms, -, hwatch, -, hfunding, -, ⟨hupdated, htimes⟩,
    hret'⟩ := h
  cases hret
  cases hret'
  have hfundings := mapM_inverse decodeFunding_eq_ok.1 hfundings
  simp only [malformedEnvelope, not_or, not_and, ← Option.not_isSome, Bool.not_eq_true',
    Bool.not_eq_false, ne_eq, not_not, isSome_of_optionMapM hproposals,
      isSome_of_optionMapM hhellos,
    isSome_of_optionMapM hwatches] at hshape
  obtain ⟨hversion, hpolicy, hrequest, hproposalRequest, hid, hproposalTime, hproposalId,
    hhelloTime, hhelloProposal, hwatchTime, hwatchHello⟩ := hshape
  refine ⟨⟨hrequest, hproposalRequest, hproposalTime, hproposalId, hhelloTime, hhelloProposal,
    hwatchTime, hwatchHello, hauthentic, hproposal, hhello, hterms, hwatch, hfunding, htimes⟩,
    ?_, by rw [hid, hsession], rfl, hupdated⟩
  simp only [encodePersisted, ok_iff]
  refine ⟨_, hoffer, _, hacceptance, _, hproposals, _, hhellos, _, hwatches, _, hfundings, ?_⟩
  rw [← hversion, ← hpolicy, hsession]
  rfl

theorem decodeStoredSwap_complete (hrecord : record.WellFormed policy)
    (hstored : record.StoredAs policy stored) : decodeStoredSwap policy stored = .ok record := by
  have hencoded := hstored.encoded
  simp only [encodePersisted, ok_iff] at hencoded
  obtain ⟨offerHex, hoffer, acceptanceHex, hacceptance, proposalHex, hproposals, helloHex,
    hhellos, watchHex, hwatches, fundings, hfundings, hret⟩ := hencoded
  have hvalue := (Except.ok.inj hret).symm
  have hfundings := mapM_inverse decodeFunding_eq_ok.2 hfundings
  simp only [decodeStoredSwap, decodeMessages, ok_iff, not_or, not_and, Bool.not_eq_false, not_not,
    decodeField_eq_ok, decodeField_mapM]
  have hshape : ¬ malformedEnvelope policy stored := by
    simp only [malformedEnvelope, not_or, not_and, ← Option.not_isSome, Bool.not_eq_true',
      Bool.not_eq_false, ne_eq, not_not, hvalue, isSome_of_optionMapM hproposals,
      isSome_of_optionMapM hhellos, isSome_of_optionMapM hwatches]
    exact ⟨trivial, trivial, hrecord.acceptanceRequestId, hrecord.proposalRequestId, hstored.id,
      hrecord.proposalTime, hrecord.proposalRequest, hrecord.helloTime, hrecord.helloProposal,
      hrecord.watchReadyTime, hrecord.watchReadyHello⟩
  rw [hvalue]
  refine ⟨(), hshape, _, hoffer, _, hacceptance, (), ⟨rfl, hrecord.acceptance⟩, record,
    ⟨_, hproposals, _, hhellos, _, hwatches, _, hfundings, ?_⟩, (), hrecord.proposal, (),
    hrecord.hello, (), ?_, (), hrecord.terms, (), hrecord.watchReady, (), hrecord.peerFunding, (),
    ⟨hstored.updatedAt, hrecord.times⟩, rfl⟩
  · rw [← hstored.revision]
    rfl
  · intro hhello
    rw [← Option.not_isSome, hrecord.helloProposal hhello]
    simp

theorem decodeStoredSwap_eq_ok : decodeStoredSwap policy stored = .ok record ↔
    record.WellFormed policy ∧ record.StoredAs policy stored :=
  ⟨decodeStoredSwap_sound, fun h => decodeStoredSwap_complete h.1 h.2⟩

theorem ShakescapeDirectSwapRecord.WellFormed.verified (h : record.WellFormed policy)
    {hello : SwapSessionHello} (hhello : record.hello = some hello) :
    ∃ t, verifyHello hello record.offer record.acceptance policy.network t =
      .ok () := by
  have htime := h.helloTime
  rw [hhello, Option.isSome_some, Option.isSome_iff_exists] at htime
  obtain ⟨acceptedAt, htime⟩ := htime
  have hauthentic := h.hello
  simp only [helloAuthentic, hhello, htime] at hauthentic
  split at hauthentic
  next => cases hauthentic
  next => exact verifyLate_eq_true hauthentic

variable {V : Type} [Serde V PersistedShakescapeDirectSwap] {store : WalletStore V}
  {sessionId : SessionId}

theorem loadShakescapeDirectSwap_eq_some :
    loadShakescapeDirectSwap store policy sessionId = .ok (some record) ↔
      ∃ stored, store.loadEntity PersistedShakescapeDirectSwap .swapSession
          (policy.recordId sessionId) = .ok (some stored) ∧
        decodeStoredSwap policy stored = .ok record := by
  simp only [loadShakescapeDirectSwap, ok_iff, liftStore_eq_ok, optionMapM_eq_ok]
  constructor
  · rintro ⟨loaded, hload, hrel⟩
    cases hrel with
    | some hdecode => exact ⟨_, hload, hdecode⟩
  · rintro ⟨stored, hload, hdecode⟩
    exact ⟨_, hload, .some hdecode⟩

theorem loadShakescapeDirectSwap_session
    (h : loadShakescapeDirectSwap store policy sessionId = .ok (some record)) :
    record.acceptance.swapSessionId = sessionId.bytes ∧
      ∀ hello, record.hello = some hello → hello.swapSessionId = sessionId.bytes := by
  obtain ⟨stored, hload, hdecode⟩ := loadShakescapeDirectSwap_eq_some.1 h
  obtain ⟨hwell, hstored⟩ := decodeStoredSwap_eq_ok.1 hdecode
  obtain ⟨-, -, row, value, -, -, rfl⟩ := WalletStore.loadEntity_eq_some.1 hload
  have hsession : record.acceptance.swapSessionId = sessionId.bytes :=
    congrArg SessionId.bytes (recordId_inj.1 hstored.id).symm
  refine ⟨hsession, fun hello hhello => ?_⟩
  obtain ⟨t, hverified⟩ := hwell.verified hhello
  exact (verifyHello_session hverified).trans hsession

end Rows

end HnsWallet
