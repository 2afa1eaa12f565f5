import Mathlib.Data.List.ReduceOption
import HnsWallet.Market.Admission
import HnsWallet.Market.DirectBoardLaws

/-! # The session board over whole runs -/

namespace HnsWallet

open Lib WalletStore

namespace ShakescapeDirectSwapRecord

variable {record : ShakescapeDirectSwapRecord} {t : UInt64} {funding : SwapFundingStatus}

def times (record : ShakescapeDirectSwapRecord) : List UInt64 :=
  record.acceptanceReceivedAtUnix :: ([record.proposalAcceptedAtUnix, record.helloAcceptedAtUnix,
    record.watchReadyAcceptedAtUnix].reduceOption ++
    record.peerFundingStatuses.map ShakescapePeerFundingStatusRecord.acceptedAtUnix)

theorem mem_times :
    t ∈ record.times ↔ t = record.acceptanceReceivedAtUnix ∨ record.proposalAcceptedAtUnix =
      some t ∨
      record.helloAcceptedAtUnix = some t ∨ record.watchReadyAcceptedAtUnix = some t ∨
      ∃ status ∈ record.peerFundingStatuses, status.acceptedAtUnix = t := by
  simp [times, List.reduceOption_mem_iff, eq_comm, or_assoc]

theorem le_lastAcceptedAtUnix (h : t ∈ record.times) : t ≤ record.lastAcceptedAtUnix :=
  le_foldl_max h

theorem lastAcceptedAtUnix_eq (hmem : t ∈ record.times) (hle : ∀ u ∈ record.times, u ≤ t) :
    record.lastAcceptedAtUnix = t :=
  foldl_max_eq hmem hle

theorem lastAcceptedAtUnix_added {record' : ShakescapeDirectSwapRecord} (hmem : t ∈ record'.times)
    (hadded : ∀ u ∈ record'.times, u = t ∨ u ∈ record.times)
    (hafter : record.lastAcceptedAtUnix ≤ t) : record'.lastAcceptedAtUnix = t := by
  refine lastAcceptedAtUnix_eq hmem fun u hu => ?_
  rcases hadded u hu with rfl | hold
  · exact UInt64.le_refl u
  · exact UInt64.le_trans (le_lastAcceptedAtUnix hold) hafter

/-! ## What a message adds -/

def accepted (offer : DirectOffer) (acceptance : DirectOfferAcceptance)
    (requestId at_ revision : UInt64) : ShakescapeDirectSwapRecord where
  storeRevision := revision
  acceptanceRequestId := requestId
  proposalRequestId := none
  acceptanceReceivedAtUnix := at_
  proposalAcceptedAtUnix := none
  helloAcceptedAtUnix := none
  offer := offer
  acceptance := acceptance
  proposal := none
  hello := none
  watchReadyAcceptedAtUnix := none
  firstChainWatchReady := none
  peerFundingStatuses := []

def withProposal (record : ShakescapeDirectSwapRecord) (proposal : SwapSessionProposal)
    (requestId at_ revision : UInt64) : ShakescapeDirectSwapRecord :=
  { record with
    storeRevision := revision
    proposalRequestId := some requestId
    proposalAcceptedAtUnix := some at_
    proposal := some proposal }

def withHello (record : ShakescapeDirectSwapRecord) (hello : SwapSessionHello)
    (at_ revision : UInt64) : ShakescapeDirectSwapRecord :=
  { record with
    storeRevision := revision
    helloAcceptedAtUnix := some at_
    hello := some hello }

def withWatchReady (record : ShakescapeDirectSwapRecord) (ready : SwapWatchReady)
    (at_ revision : UInt64) : ShakescapeDirectSwapRecord :=
  { record with
    storeRevision := revision
    watchReadyAcceptedAtUnix := some at_
    firstChainWatchReady := some ready }

def withFunding [DirectSwapProtocol] (record : ShakescapeDirectSwapRecord)
    (funding : SwapFundingStatus) (at_ revision : UInt64) : ShakescapeDirectSwapRecord :=
  { record with
    storeRevision := revision
    peerFundingStatuses := withFundingStatus record.peerFundingStatuses funding at_ }

theorem mem_withFundingStatus [DirectSwapProtocol] {at_ : UInt64}
    {statuses : List ShakescapePeerFundingStatusRecord}
    {status : ShakescapePeerFundingStatusRecord} :
    status ∈ withFundingStatus statuses funding at_ ↔
      (status ∈ statuses ∧ status.status.chain ≠ funding.chain) ∨ status = ⟨at_, funding⟩ := by
  simp [withFundingStatus]

theorem lastAcceptedAtUnix_withProposal {proposal : SwapSessionProposal}
    {requestId at_ revision : UInt64}
    (hafter : record.lastAcceptedAtUnix ≤ at_) :
    (record.withProposal proposal requestId at_ revision).lastAcceptedAtUnix = at_ := by
  refine lastAcceptedAtUnix_added ?_ (fun u hu => ?_) hafter
  · simp [mem_times, withProposal]
  · simp only [mem_times, withProposal, Option.some.injEq] at hu ⊢
    tauto

theorem lastAcceptedAtUnix_withHello {hello : SwapSessionHello} {at_ revision : UInt64}
    (hafter : record.lastAcceptedAtUnix ≤ at_) :
    (record.withHello hello at_ revision).lastAcceptedAtUnix = at_ := by
  refine lastAcceptedAtUnix_added ?_ (fun u hu => ?_) hafter
  · simp [mem_times, withHello]
  · simp only [mem_times, withHello, Option.some.injEq] at hu ⊢
    tauto

theorem lastAcceptedAtUnix_withWatchReady {ready : SwapWatchReady} {at_ revision : UInt64}
    (hafter : record.lastAcceptedAtUnix ≤ at_) :
    (record.withWatchReady ready at_ revision).lastAcceptedAtUnix = at_ := by
  refine lastAcceptedAtUnix_added ?_ (fun u hu => ?_) hafter
  · simp [mem_times, withWatchReady]
  · simp only [mem_times, withWatchReady, Option.some.injEq] at hu ⊢
    tauto

theorem lastAcceptedAtUnix_withFunding [DirectSwapProtocol] {at_ revision : UInt64}
    (hafter : record.lastAcceptedAtUnix ≤ at_) :
    (record.withFunding funding at_ revision).lastAcceptedAtUnix = at_ := by
  refine lastAcceptedAtUnix_added ?_ (fun u hu => ?_) hafter
  · refine mem_times.2 (.inr (.inr (.inr (.inr ⟨⟨at_, funding⟩, ?_, rfl⟩))))
    exact mem_withFundingStatus.2 (.inr rfl)
  · simp only [mem_times, withFunding, mem_withFundingStatus] at hu ⊢
    rcases hu with hu | hu | hu | hu | ⟨status, ⟨hold, -⟩ | rfl, rfl⟩
    · exact .inr (.inl hu)
    · exact .inr (.inr (.inl hu))
    · exact .inr (.inr (.inr (.inl hu)))
    · exact .inr (.inr (.inr (.inr (.inl hu))))
    · exact .inr (.inr (.inr (.inr (.inr ⟨status, hold, rfl⟩))))
    · exact .inl rfl

namespace WellFormed

variable [DirectSwapProtocol] {policy : ShakescapeDirectSwapPolicy}
  {requestId at_ validationTime revision : UInt64} {proposal : SwapSessionProposal}
  {hello : SwapSessionHello}

open DirectSwapProtocol

section

variable (h : record.WellFormed policy) (hhello : record.hello = none)
include h hhello

theorem watchReady_none :
    record.firstChainWatchReady = none ∧ record.watchReadyAcceptedAtUnix = none := by
  have hready : record.firstChainWatchReady = none := by
    refine Option.not_isSome_iff_eq_none.1 fun hsome => ?_
    have := h.watchReadyHello hsome
    rw [hhello] at this
    cases this
  refine ⟨hready, Option.not_isSome_iff_eq_none.1 ?_⟩
  rw [h.watchReadyTime, hready]
  exact Bool.false_ne_true

theorem helloTime_none :
    record.helloAcceptedAtUnix = none := by
  refine Option.not_isSome_iff_eq_none.1 ?_
  rw [h.helloTime, hhello]
  exact Bool.false_ne_true

theorem peerFunding_nil :
    record.peerFundingStatuses = [] := by
  have hpeer := h.peerFunding
  simp only [peerFundingAuthentic, decide_eq_true_eq, List.all_eq_true] at hpeer
  refine List.eq_nil_iff_forall_not_mem.2 fun status hstatus => ?_
  have := hpeer.2.2 status hstatus
  rw [fundingStatusAuthentic, hhello] at this
  cases this

end

theorem accepted {offer : DirectOffer} {acceptance : DirectOfferAcceptance}
    (hrequest : requestId ≠ 0)
    (hat : peerObjectValidationTime acceptance.header.createdAt at_ = some validationTime)
    (hverify : verifyAcceptance acceptance offer policy.network validationTime = .ok ()) :
    (accepted offer acceptance requestId at_ revision).WellFormed policy where
  acceptanceRequestId := hrequest
  proposalRequestId := nofun
  proposalTime := rfl
  proposalRequest := rfl
  helloTime := rfl
  helloProposal := nofun
  watchReadyTime := rfl
  watchReadyHello := nofun
  acceptance := by
    simp [ShakescapeDirectSwapRecord.accepted, acceptanceAuthentic, hat, hverify, Except.toOption]
  proposal := rfl
  hello := rfl
  terms := rfl
  watchReady := rfl
  peerFunding := rfl
  times := List.IsChain.singleton _

theorem withProposal (h : record.WellFormed policy) (hhello : record.hello = none)
    (hrequest : requestId ≠ 0)
    (hat : peerObjectValidationTime proposal.terms.header.createdAt at_ = some validationTime)
    (hverify : verifyProposal proposal record.offer record.acceptance policy.network
      validationTime = .ok ()) (hafter : record.lastAcceptedAtUnix ≤ at_) :
    (record.withProposal proposal requestId at_ revision).WellFormed policy :=
  { h with
    proposalRequestId := by simpa [ShakescapeDirectSwapRecord.withProposal] using hrequest
    proposalTime := rfl
    proposalRequest := rfl
    helloProposal := fun _ => rfl
    proposal := by
      simp [ShakescapeDirectSwapRecord.withProposal, proposalAuthentic, hat, verifyLate, hverify]
    terms := by simp [ShakescapeDirectSwapRecord.withProposal, helloMatchesProposal, hhello]
    times := by
      have hfirst : record.acceptanceReceivedAtUnix ≤ at_ :=
        UInt64.le_trans (le_lastAcceptedAtUnix (mem_times.2 (.inl rfl))) hafter
      simpa [timestampsMonotonic, ShakescapeDirectSwapRecord.withProposal, h.helloTime_none hhello,
        (h.watchReady_none hhello).2, List.reduceOption] using hfirst }

theorem withHello (h : record.WellFormed policy) (hnone : record.hello = none)
    (hproposal : record.proposal = some proposal)
    (hterms : proposal.terms = { hello with takerSignature := .replicate 64 0 })
    (hat : peerObjectValidationTime hello.header.createdAt at_ = some validationTime)
    (hverify : verifyLate (verifyHello hello record.offer record.acceptance policy.network)
      validationTime hello.header.createdAt) (hafter : record.lastAcceptedAtUnix ≤ at_) :
    (record.withHello hello at_ revision).WellFormed policy :=
  { h with
    helloTime := rfl
    helloProposal := fun _ => by simp [ShakescapeDirectSwapRecord.withHello, hproposal]
    watchReadyHello := fun _ => rfl
    hello := by simpa [ShakescapeDirectSwapRecord.withHello, helloAuthentic, hat] using hverify
    terms := by
      simp [ShakescapeDirectSwapRecord.withHello, helloMatchesProposal, hproposal, hterms]
    watchReady := by
      simp [ShakescapeDirectSwapRecord.withHello, watchReadyAuthentic, (h.watchReady_none hnone).1]
    peerFunding := by
      simp [ShakescapeDirectSwapRecord.withHello, peerFundingAuthentic, h.peerFunding_nil hnone]
    times := by
      obtain ⟨second, hsecond⟩ : ∃ second, record.proposalAcceptedAtUnix = some second :=
        Option.isSome_iff_exists.1 (by rw [h.proposalTime, hproposal]; rfl)
      have horder := h.times
      have hlast : second ≤ at_ :=
        UInt64.le_trans (le_lastAcceptedAtUnix (mem_times.2 (.inr (.inl hsecond)))) hafter
      simp only [timestampsMonotonic, hsecond, h.helloTime_none hnone, (h.watchReady_none hnone).2]
        at horder
      simp only [timestampsMonotonic, ShakescapeDirectSwapRecord.withHello, hsecond,
        (h.watchReady_none hnone).2]
      simp_all [List.reduceOption] }

theorem withWatchReady {ready : SwapWatchReady} (h : record.WellFormed policy)
    (hhello : record.hello = some hello) (hnone : record.firstChainWatchReady = none)
    (hchain : ready.chain = hello.firstFundingChain)
    (hat : peerObjectValidationTime ready.header.createdAt at_ = some validationTime)
    (hverify : verifyLate (verifyWatchReady ready hello policy.network) validationTime
      ready.header.createdAt) (hafter : record.lastAcceptedAtUnix ≤ at_) :
    (record.withWatchReady ready at_ revision).WellFormed policy :=
  { h with
    watchReadyTime := rfl
    watchReadyHello := fun _ => by simp [ShakescapeDirectSwapRecord.withWatchReady, hhello]
    watchReady := by
      simp [ShakescapeDirectSwapRecord.withWatchReady, watchReadyAuthentic, hhello, hat, hchain,
        hverify]
    times := by
      obtain ⟨third, hthird⟩ : ∃ third, record.helloAcceptedAtUnix = some third :=
        Option.isSome_iff_exists.1 (by rw [h.helloTime, hhello]; rfl)
      obtain ⟨second, hsecond⟩ : ∃ second, record.proposalAcceptedAtUnix = some second :=
        Option.isSome_iff_exists.1 (by
          rw [h.proposalTime]
          exact h.helloProposal (by rw [hhello]; rfl))
      have htime : record.watchReadyAcceptedAtUnix = none := by
        refine Option.not_isSome_iff_eq_none.1 ?_
        rw [h.watchReadyTime, hnone]
        exact Bool.false_ne_true
      have horder := h.times
      have hlast : third ≤ at_ := UInt64.le_trans
        (le_lastAcceptedAtUnix (mem_times.2 (.inr (.inr (.inl hthird))))) hafter
      simp only [timestampsMonotonic, hsecond, hthird, htime] at horder
      simp only [timestampsMonotonic, ShakescapeDirectSwapRecord.withWatchReady, hsecond, hthird]
      simp_all [List.reduceOption] }

theorem isChain_withFundingStatus {statuses : List ShakescapePeerFundingStatusRecord}
    {funding : SwapFundingStatus} (h : statuses.IsChain FundingBefore) :
    (withFundingStatus statuses funding at_).IsChain FundingBefore := by
  have htrans : ∀ {a b c : ShakescapePeerFundingStatusRecord}, FundingBefore a b →
      FundingBefore b c → FundingBefore a c := fun hab hbc => Nat.lt_trans hab hbc
  let codeLe : ShakescapePeerFundingStatusRecord → ShakescapePeerFundingStatusRecord → Prop :=
    fun a b => chainCode a.status.chain ≤ chainCode b.status.chain
  let apart : ShakescapePeerFundingStatusRecord → ShakescapePeerFundingStatusRecord → Prop :=
    fun a b => a.status.chain ≠ b.status.chain
  have hold : statuses.Pairwise apart := by
    have : Trans (FundingBefore) (FundingBefore) FundingBefore := ⟨htrans⟩
    refine (List.isChain_iff_pairwise.1 h).imp fun hlt heq => ?_
    exact absurd hlt (by simp [FundingBefore, heq])
  have hnew : (statuses.filter (·.status.chain ≠ funding.chain) ++
      [(⟨at_, funding⟩ : ShakescapePeerFundingStatusRecord)]).Pairwise apart := by
    refine List.pairwise_append.2 ⟨hold.sublist List.filter_sublist, List.pairwise_singleton _ _,
      ?_⟩
    intro a ha b hb
    obtain rfl := List.mem_singleton.1 hb
    simpa using (List.mem_filter.1 ha).2
  have : Std.Total codeLe := ⟨fun _ _ => Nat.le_total _ _⟩
  have : IsTrans _ codeLe := ⟨fun _ _ _ => Nat.le_trans⟩
  have hsorted := List.pairwise_insertionSort codeLe (statuses.filter
    (·.status.chain ≠ funding.chain) ++ [(⟨at_, funding⟩ : ShakescapePeerFundingStatusRecord)])
  have hapart := (List.Perm.pairwise_iff (fun {a b} => (Ne.symm : apart a b → apart b a))
    (List.perm_insertionSort codeLe _)).2 hnew
  refine (hsorted.imp₂ ?_ hapart).isChain
  intro a b hle hne
  exact lt_of_le_of_ne hle fun heq => hne (chainCode_injective heq)

theorem withFunding {funding : SwapFundingStatus} (h : record.WellFormed policy)
    (hhello : record.hello = some hello)
    (hat : peerObjectValidationTime funding.header.createdAt at_ = some validationTime)
    (hverify : verifyFundingStatus funding hello policy.network validationTime = .ok ())
    (hlength : (withFundingStatus record.peerFundingStatuses funding at_).length ≤ 2) :
    (record.withFunding funding at_ revision).WellFormed policy :=
  { h with
    peerFunding := by
      have hpeer := h.peerFunding
      simp only [peerFundingAuthentic, decide_eq_true_eq, List.all_eq_true] at hpeer ⊢
      refine ⟨hlength, isChain_withFundingStatus hpeer.2.1, fun status hstatus => ?_⟩
      rcases mem_withFundingStatus.1 hstatus with ⟨hold, -⟩ | rfl
      · exact hpeer.2.2 status hold
      · simp [fundingStatusAuthentic, ShakescapeDirectSwapRecord.withFunding, hhello, hat, hverify,
          Except.toOption] }

end WellFormed

end ShakescapeDirectSwapRecord

section Rows

variable [DirectSwapProtocol] {policy : ShakescapeDirectSwapPolicy}
  {record : ShakescapeDirectSwapRecord} {persisted : PersistedShakescapeDirectSwap}
  {requestId at_ revision : UInt64} {bytes : List UInt8}

open DirectSwapProtocol ShakescapeDirectSwapRecord

theorem encodePersisted_accepted {offer : DirectOffer} {acceptance : DirectOfferAcceptance}
    {offerHex : List UInt8} (hoffer : encodeHex offerCodec offer = .ok offerHex)
    (hacceptance : encodeHex acceptanceCodec acceptance = .ok bytes) :
    encodePersisted policy (accepted offer acceptance requestId at_ revision) = .ok {
      schemaVersion := shakescapeDirectSwapSchemaVersion
      policyFingerprint := policy.fingerprint
      sessionId := ⟨acceptance.swapSessionId⟩
      acceptanceRequestId := requestId
      proposalRequestId := none
      acceptanceReceivedAtUnix := at_
      proposalAcceptedAtUnix := none
      helloAcceptedAtUnix := none
      offerHex
      acceptanceHex := bytes
      proposalHex := none
      helloHex := none
      watchReadyAcceptedAtUnix := none
      firstChainWatchReadyHex := none
      peerFundingStatuses := [] } := by
  simp only [encodePersisted, ok_iff]
  exact ⟨_, hoffer, _, hacceptance, none, rfl, none, rfl, none, rfl, [], rfl, rfl⟩

section

variable (h : encodePersisted policy record = .ok persisted)
include h

theorem encodePersisted_withProposal {proposal : SwapSessionProposal}
    (hbytes : encodeHex proposalCodec proposal = .ok bytes) :
    encodePersisted policy (record.withProposal proposal requestId at_ revision) =
      .ok { persisted with
        proposalRequestId := some requestId
        proposalAcceptedAtUnix := some at_
        proposalHex := some bytes } := by
  simp only [encodePersisted, ok_iff, optionMapM_eq_ok] at h ⊢
  obtain ⟨_, hoffer, _, hacceptance, _, -, _, hhello, _, hready, _, hstatuses, hret⟩ := h
  cases hret
  exact ⟨_, hoffer, _, hacceptance, _, .some hbytes, _, hhello, _, hready, _, hstatuses, rfl⟩

theorem encodePersisted_withHello {hello : SwapSessionHello}
    (hbytes : encodeHex helloCodec hello = .ok bytes) :
    encodePersisted policy (record.withHello hello at_ revision) =
      .ok { persisted with helloAcceptedAtUnix := some at_, helloHex := some bytes } := by
  simp only [encodePersisted, ok_iff, optionMapM_eq_ok] at h ⊢
  obtain ⟨_, hoffer, _, hacceptance, _, hproposal, _, -, _, hready, _, hstatuses, hret⟩ := h
  cases hret
  exact ⟨_, hoffer, _, hacceptance, _, hproposal, _, .some hbytes, _, hready, _, hstatuses, rfl⟩

theorem encodePersisted_withWatchReady {ready : SwapWatchReady}
    (hbytes : encodeHex watchReadyCodec ready = .ok bytes) :
    encodePersisted policy (record.withWatchReady ready at_ revision) =
      .ok { persisted with
        watchReadyAcceptedAtUnix := some at_
        firstChainWatchReadyHex := some bytes } := by
  simp only [encodePersisted, ok_iff, optionMapM_eq_ok] at h ⊢
  obtain ⟨_, hoffer, _, hacceptance, _, hproposal, _, hhello, _, -, _, hstatuses, hret⟩ := h
  cases hret
  exact ⟨_, hoffer, _, hacceptance, _, hproposal, _, hhello, _, .some hbytes, _, hstatuses, rfl⟩

theorem hello_isSome_of_encoded :
    persisted.helloHex.isSome = record.hello.isSome := by
  simp only [encodePersisted, ok_iff] at h
  obtain ⟨_, -, _, -, _, -, _, hhello, _, -, _, -, hret⟩ := h
  cases hret
  exact isSome_of_optionMapM hhello

theorem helloHex_eq_none (hnone : record.hello = none) : persisted.helloHex = none := by
  have hsome := hello_isSome_of_encoded h
  rw [hnone] at hsome
  exact Option.not_isSome_iff_eq_none.1 (by rw [hsome]; exact Bool.false_ne_true)

end

variable {V : Type} [Serde V PersistedShakescapeDirectSwap] {store store' : WalletStore V}
  {sessionId : SessionId}

def SwapRowDecodes (policy : ShakescapeDirectSwapPolicy) (id : RecordId) (row : EntityRow V)
    (record : ShakescapeDirectSwapRecord) : Prop :=
  validateId id = .ok () ∧ ∃ value, Serde.fromSlice row.value = some value ∧
    decodeStoredSwap policy ⟨.swapSession, id, row.revision, value, row.updatedAtUnix⟩ = .ok record

theorem loadShakescapeDirectSwap_iff :
    loadShakescapeDirectSwap store policy sessionId = .ok (some record) ↔
      store.unlocked ∧ ∃ row, store.entities.lookup (.swapSession, policy.recordId sessionId) =
        some row ∧ SwapRowDecodes policy (policy.recordId sessionId) row record := by
  rw [loadShakescapeDirectSwap_eq_some]
  constructor
  · rintro ⟨stored, hload, hdecode⟩
    obtain ⟨hid, hkey, row, value, hrow, hvalue, rfl⟩ := loadEntity_eq_some.1 hload
    exact ⟨hkey, row, hrow, hid, value, hvalue, hdecode⟩
  · rintro ⟨hkey, row, hrow, hid, value, hvalue, hdecode⟩
    exact ⟨_, loadEntity_eq_some.2 ⟨hid, hkey, row, value, hrow, hvalue, rfl⟩, hdecode⟩

theorem length_of_loadShakescapeDirectSwaps {records : List ShakescapeDirectSwapRecord}
    (h : loadShakescapeDirectSwaps store policy = .ok records) :
    records.length = (store.entitiesByIdPrefix .swapSession policy.recordPrefix).length := by
  simp only [loadShakescapeDirectSwaps, ok_iff, liftStore_eq_ok] at h
  obtain ⟨stored, hlisted, _, -, hdecoded⟩ := h
  rw [← (mapM_eq_ok.1 hdecoded).length_eq,
    length_of_listEntitiesByIdPrefix hlisted]

structure WritesSwap (policy : ShakescapeDirectSwapPolicy) (store store' : WalletStore V)
    (record : ShakescapeDirectSwapRecord) : Prop where
  unlocked : store.unlocked
  fits : (store.entities.lookup
      (.swapSession, policy.recordId ⟨record.acceptance.swapSessionId⟩)).isSome ∨
    (store.entitiesByIdPrefix .swapSession policy.recordPrefix).length <
      maxShakescapeDirectSwapRecords
  written : ∃ row, SwapRowDecodes policy (policy.recordId ⟨record.acceptance.swapSessionId⟩) row
      record ∧
    store' = store.putEntity .swapSession (policy.recordId ⟨record.acceptance.swapSessionId⟩) row

theorem WritesSwap.load (h : WritesSwap policy store store' record) :
    loadShakescapeDirectSwap store' policy ⟨record.acceptance.swapSessionId⟩ =
      .ok (some record) := by
  obtain ⟨row, hrow, rfl⟩ := h.written
  exact loadShakescapeDirectSwap_iff.2 ⟨h.unlocked, row, putEntity_lookup, hrow⟩

theorem loaded_facts (hload : loadShakescapeDirectSwap store policy sessionId = .ok (some record)) :
    record.WellFormed policy ∧ record.acceptance.swapSessionId = sessionId.bytes ∧
      (store.entities.lookup (.swapSession, policy.recordId sessionId)).isSome := by
  obtain ⟨-, row, hrow, -, value, -, hdecode⟩ := loadShakescapeDirectSwap_iff.1 hload
  exact ⟨(decodeStoredSwap_eq_ok.1 hdecode).1, (loadShakescapeDirectSwap_session hload).1,
    Option.isSome_of_mem hrow⟩

variable [Encoded V]

theorem writesSwap_of_save {expected : UInt64} (hwell : record.WellFormed policy)
    (hencoded : encodePersisted policy record = .ok persisted)
    (hat : record.lastAcceptedAtUnix = at_)
    (hsession : record.acceptance.swapSessionId = sessionId.bytes)
    (hfits : (store.entities.lookup (.swapSession, policy.recordId sessionId)).isSome ∨
      (store.entitiesByIdPrefix .swapSession policy.recordPrefix).length <
        maxShakescapeDirectSwapRecords)
    (hsave : store.saveEntity .swapSession (policy.recordId sessionId) expected persisted at_ =
      .ok (store', record.storeRevision)) :
    WritesSwap policy store store' record := by
  obtain rfl : sessionId = ⟨record.acceptance.swapSessionId⟩ := by rw [hsession]
  obtain ⟨hid, -, hkey, -, -, rfl⟩ := saveEntity_eq_ok.1 hsave
  refine ⟨hkey, hfits, _, ⟨hid, persisted, Serde.fromSlice_toVec persisted, ?_⟩, rfl⟩
  exact decodeStoredSwap_eq_ok.2 ⟨hwell, hencoded, rfl, rfl, hat.symm⟩

end Rows

def CrossChainMessage.sessionId : CrossChainMessage → Option SessionId
  | .acceptDirectOffer acceptance => some ⟨acceptance.swapSessionId⟩
  | .swapSessionProposal proposal => some ⟨proposal.terms.swapSessionId⟩
  | .swapSessionHello hello => some ⟨hello.swapSessionId⟩
  | .swapFundingStatus status => some ⟨status.swapSessionId⟩
  | .swapRedeemStatus status => some ⟨status.swapSessionId⟩
  | .swapRefundStatus status => some ⟨status.swapSessionId⟩
  | .swapWatchReady ready => some ⟨ready.swapSessionId⟩
  | _ => none

section Writers

variable [DirectSwapProtocol] {V : Type} [Serde V PersistedShakescapeDirectSwap]

/-- The envelope has a request id other than zero, and it is not taken in at an earlier time than
the last message of its session. -/
def TakenInOrder (policy : ShakescapeDirectSwapPolicy) (store : WalletStore V)
    (envelope : List UInt8) (at_ : UInt64) : Prop :=
  ∀ requestId message, decodeCanonicalEnvelope envelope = .ok (requestId, message) →
    requestId ≠ 0 ∧ ∀ sessionId record, message.sessionId = some sessionId →
      loadShakescapeDirectSwap store policy sessionId = .ok (some record) →
      record.lastAcceptedAtUnix ≤ at_

variable {policy : ShakescapeDirectSwapPolicy} {store store' : WalletStore V}
  {envelope : List UInt8} {at_ : UInt64} {admission : ShakescapeDirectSwapAdmission}
  {sessionId : SessionId}

theorem takenInOrder_of {requestId : UInt64} {message : CrossChainMessage}
    {loaded : Option ShakescapeDirectSwapRecord}
    (henvelope : decodeCanonicalEnvelope envelope = .ok (requestId, message))
    (hrequest : requestId ≠ 0) (hsession : message.sessionId = some sessionId)
    (hload : loadShakescapeDirectSwap store policy sessionId = .ok loaded)
    (hlast : ∀ record, loaded = some record → record.lastAcceptedAtUnix ≤ at_) :
    TakenInOrder policy store envelope at_ := by
  intro requestId' message' henvelope'
  cases henvelope.symm.trans henvelope'
  refine ⟨hrequest, fun sessionId' record hsession' hload' => ?_⟩
  cases hsession.symm.trans hsession'
  cases hload.symm.trans hload'
  exact hlast record rfl

def Leaves (policy : ShakescapeDirectSwapPolicy) (store store' : WalletStore V)
    (record : ShakescapeDirectSwapRecord) : Prop :=
  store' = store ∧ loadShakescapeDirectSwap store policy ⟨record.acceptance.swapSessionId⟩ =
      .ok (some record) ∨
    WritesSwap policy store store' record

theorem Leaves.load {record : ShakescapeDirectSwapRecord} (h : Leaves policy store store' record) :
    loadShakescapeDirectSwap store' policy ⟨record.acceptance.swapSessionId⟩ =
      .ok (some record) := by
  rcases h with ⟨rfl, hload⟩ | hwrites
  · exact hload
  · exact hwrites.load

theorem leaves_of_load {record : ShakescapeDirectSwapRecord}
    (h : loadShakescapeDirectSwap store policy sessionId = .ok (some record)) :
    Leaves policy store store record := by
  obtain ⟨-, hsession, -⟩ := loaded_facts h
  obtain rfl : sessionId = ⟨record.acceptance.swapSessionId⟩ := by rw [hsession]
  exact .inl ⟨rfl, h⟩

variable [Encoded V]

open ShakescapeDirectSwapRecord

theorem admitShakescapeDirectSwapWatchReady_eq_ok
    (h : admitShakescapeDirectSwapWatchReady store policy envelope at_ = .ok (admission, store')) :
    ∃ requestId ready record hello validationTime,
      decodeCanonicalEnvelope envelope = .ok (requestId, .swapWatchReady ready) ∧
      peerObjectValidationTime ready.header.createdAt at_ = some validationTime ∧
      loadShakescapeDirectSwap store policy ⟨ready.swapSessionId⟩ = .ok (some record) ∧
      record.hello = some hello ∧ ready.chain = hello.firstFundingChain ∧
      ((store' = store ∧ admission.record = record) ∨
        ∃ persisted bytes revision, record.firstChainWatchReady = none ∧
          verifyLate (DirectSwapProtocol.verifyWatchReady ready hello policy.network) validationTime
            ready.header.createdAt ∧
          encodePersisted policy record = .ok persisted ∧
          encodeHex DirectSwapProtocol.watchReadyCodec ready = .ok bytes ∧
          store.saveEntity .swapSession (policy.recordId ⟨ready.swapSessionId⟩)
            record.storeRevision { persisted with
              watchReadyAcceptedAtUnix := some at_
              firstChainWatchReadyHex := some bytes } at_ = .ok (store', revision) ∧
          admission.record = record.withWatchReady ready at_ revision) := by
  obtain ⟨⟨requestId, message⟩, henvelope, h⟩ := ok_bind_iff.1 h
  cases message with
  | swapWatchReady ready =>
    simp only [ok_iff, not_not] at h
    obtain ⟨_, ⟨⟩, validationTime, hat, _, hload, record, rfl, hello, hhello, ⟨⟩, hchain, h⟩ := h
    refine ⟨requestId, ready, record, hello, validationTime, henvelope, hat, hload, hhello, hchain,
      ?_⟩
    split at h
    next existing =>
      obtain ⟨_, -, hret⟩ := ok_bind_iff.1 h
      cases hret
      exact .inl ⟨rfl, rfl⟩
    next hnone =>
      simp only [ok_iff, Bool.not_eq_false, liftStore_eq_ok] at h
      obtain ⟨⟨⟩, hverify, persisted, hencoded, bytes, hbytes, ⟨written, revision⟩, hsave, hret⟩ :=
        h
      cases hret
      exact .inr ⟨persisted, bytes, revision, hnone, hverify, hencoded, hbytes, hsave, rfl⟩
  | _ => cases h

theorem admitShakescapeDirectSwapWatchReady_leaves
    (hordered : TakenInOrder policy store envelope at_)
    (h : admitShakescapeDirectSwapWatchReady store policy envelope at_ = .ok (admission, store')) :
    Leaves policy store store' admission.record := by
  obtain ⟨requestId, ready, record, hello, validationTime, henvelope, hat, hload, hhello, hchain,
    ⟨rfl, hrecord⟩ | ⟨persisted, bytes, revision, hnone, hverify, hencoded, hbytes, hsave,
      hrecord⟩⟩ := admitShakescapeDirectSwapWatchReady_eq_ok h
  · rw [hrecord]
    exact leaves_of_load hload
  · obtain ⟨hwell, hsession, hrow⟩ := loaded_facts hload
    have hafter := (hordered requestId _ henvelope).2 _ record rfl hload
    rw [hrecord]
    exact .inr (writesSwap_of_save
      (hwell.withWatchReady hhello hnone hchain hat hverify hafter)
      (encodePersisted_withWatchReady hencoded hbytes) (lastAcceptedAtUnix_withWatchReady hafter)
      hsession (.inl hrow) hsave)

variable {status : ShakescapeDirectSwapPeerStatus}

omit [Encoded V] in
theorem validateShakescapeDirectSwapPeerStatus_eq_ok
    (h : validateShakescapeDirectSwapPeerStatus store policy envelope at_ = .ok status) :
    ∃ requestId message record hello validationTime,
      decodeCanonicalEnvelope envelope = .ok (requestId, message) ∧
      message.sessionId = some status.sessionId ∧
      peerObjectValidationTime status.createdAtUnix at_ = some validationTime ∧
      loadShakescapeDirectSwap store policy status.sessionId = .ok (some record) ∧
      record.hello = some hello ∧
      status.verifyForSession hello policy.network validationTime = .ok () := by
  obtain ⟨⟨requestId, message⟩, henvelope, h⟩ := ok_bind_iff.1 h
  cases message
  case swapFundingStatus | swapRedeemStatus | swapRefundStatus | swapWatchReady =>
    simp only [ok_iff] at h
    obtain ⟨_, ⟨⟩, validationTime, hat, _, hload, record, rfl, hello, hhello, ⟨⟩, hverify, hret⟩ :=
      h
    cases hret
    exact ⟨requestId, _, record, hello, validationTime, henvelope, rfl, hat, hload, hhello, hverify⟩
  all_goals cases h

theorem admitShakescapeDirectSwapPeerStatus_eq_ok
    (h : admitShakescapeDirectSwapPeerStatus store policy envelope at_ = .ok (status, store')) :
    ∃ requestId message record hello validationTime,
      decodeCanonicalEnvelope envelope = .ok (requestId, message) ∧
      message.sessionId = some status.sessionId ∧
      peerObjectValidationTime status.createdAtUnix at_ = some validationTime ∧
      loadShakescapeDirectSwap store policy status.sessionId = .ok (some record) ∧
      record.hello = some hello ∧
      status.verifyForSession hello policy.network validationTime = .ok () ∧
      ((store' = store ∧ ∀ funding, status = .funding funding →
          ∃ kept ∈ record.peerFundingStatuses, kept.status = funding) ∨
        ∃ funding persisted revision, status = .funding funding ∧
          (withFundingStatus record.peerFundingStatuses funding at_).length ≤ 2 ∧
          encodePersisted policy (record.withFunding funding at_ revision) = .ok persisted ∧
          store.saveEntity .swapSession (policy.recordId status.sessionId) record.storeRevision
            persisted at_ = .ok (store', revision)) := by
  simp only [admitShakescapeDirectSwapPeerStatus, ok_iff] at h
  obtain ⟨checked, hchecked, h⟩ := h
  obtain ⟨requestId, message, record, hello, validationTime, henvelope, hmessage, hat,
    hload, hhello,
    hverify⟩ := validateShakescapeDirectSwapPeerStatus_eq_ok hchecked
  cases checked with
  | funding funding =>
    simp only [ok_iff] at h
    obtain ⟨_, hagain, _, rfl, h⟩ := h
    cases hload.symm.trans hagain
    split at h
    next hexisting =>
      cases h
      obtain ⟨hsome, hsame⟩ := (Option.any_eq_true_iff_get _ _).1 hexisting
      refine ⟨requestId, message, record, hello, validationTime, henvelope, hmessage, hat, hload,
        hhello, hverify, .inl ⟨rfl, ?_⟩⟩
      rintro _ ⟨⟩
      exact ⟨_, List.mem_of_find?_eq_some (Option.some_get hsome).symm, of_decide_eq_true hsame⟩
    next =>
      simp only [ok_iff, not_lt, liftStore_eq_ok] at h
      obtain ⟨⟨⟩, -, ⟨⟩, hlength, persisted, hencoded, ⟨written, revision⟩, hsave, hret⟩ := h
      cases hret
      exact ⟨requestId, message, record, hello, validationTime, henvelope, hmessage, hat, hload,
        hhello, hverify, .inr ⟨funding, persisted, revision, rfl, hlength, hencoded, hsave⟩⟩
  | _ =>
    cases h
    exact ⟨requestId, message, record, hello, validationTime, henvelope, hmessage, hat, hload,
      hhello, hverify, .inl ⟨rfl, nofun⟩⟩

theorem admitShakescapeDirectSwapPeerStatus_leaves
    (hordered : TakenInOrder policy store envelope at_)
    (h : admitShakescapeDirectSwapPeerStatus store policy envelope at_ = .ok (status, store')) :
    ∃ record, Leaves policy store store' record ∧
      status.sessionId = ⟨record.acceptance.swapSessionId⟩ ∧
      ∀ funding, status = .funding funding →
        ∃ kept ∈ record.peerFundingStatuses, kept.status = funding := by
  obtain ⟨requestId, message, record, hello, validationTime, henvelope, hmessage, hat,
    hload, hhello,
    hverify, ⟨rfl, hkept⟩ | ⟨funding, persisted, revision, rfl, hlength, hencoded, hsave⟩⟩ :=
    admitShakescapeDirectSwapPeerStatus_eq_ok h
  · obtain ⟨-, hsession, -⟩ := loaded_facts hload
    exact ⟨record, leaves_of_load hload, by rw [hsession], hkept⟩
  · obtain ⟨hwell, hsession, hrow⟩ := loaded_facts hload
    have hafter := (hordered requestId message henvelope).2 _ record hmessage hload
    refine ⟨record.withFunding funding at_ revision, .inr (writesSwap_of_save
      (hwell.withFunding hhello hat hverify hlength) hencoded
      (lastAcceptedAtUnix_withFunding hafter) hsession (.inl hrow) hsave), ?_, ?_⟩
    · exact congrArg SessionId.mk hsession.symm
    · rintro _ ⟨⟩
      exact ⟨⟨at_, funding⟩, mem_withFundingStatus.2 (.inr rfl), rfl⟩

theorem admitShakescapeDirectSwapProposal_eq_ok
    (h : admitShakescapeDirectSwapProposal store policy envelope at_ = .ok (admission, store')) :
    ∃ requestId proposal record validationTime,
      decodeCanonicalEnvelope envelope = .ok (requestId, .swapSessionProposal proposal) ∧
      peerObjectValidationTime proposal.terms.header.createdAt at_ = some validationTime ∧
      loadShakescapeDirectSwap store policy ⟨proposal.terms.swapSessionId⟩ = .ok (some record) ∧
      ((store' = store ∧ admission.record = record) ∨
        ∃ persisted bytes revision, record.hello = none ∧
          DirectSwapProtocol.verifyProposal proposal record.offer record.acceptance policy.network
            validationTime = .ok () ∧
          encodePersisted policy record = .ok persisted ∧
          encodeHex DirectSwapProtocol.proposalCodec proposal = .ok bytes ∧
          store.saveEntity .swapSession (policy.recordId ⟨proposal.terms.swapSessionId⟩)
            record.storeRevision { persisted with
              proposalRequestId := some requestId
              proposalAcceptedAtUnix := some at_
              proposalHex := some bytes } at_ = .ok (store', revision) ∧
          admission.record = record.withProposal proposal requestId at_ revision) := by
  obtain ⟨⟨requestId, message⟩, henvelope, h⟩ := ok_bind_iff.1 h
  cases message with
  | swapSessionProposal proposal =>
    simp only [ok_iff] at h
    obtain ⟨_, ⟨⟩, validationTime, hat, _, hload, record, rfl, h⟩ := h
    refine ⟨requestId, proposal, record, validationTime, henvelope, hat, hload, ?_⟩
    obtain ⟨hwell, -, -⟩ := loaded_facts hload
    split at h
    next =>
      cases h
      exact .inl ⟨rfl, rfl⟩
    next =>
      simp only [ok_iff, liftStore_eq_ok] at h
      obtain ⟨⟨⟩, hconflict, ⟨⟩, hverify, persisted, hencoded, bytes, hbytes, ⟨written, revision⟩,
        hsave, hret⟩ := h
      cases hret
      have hhello : record.hello = none := by
        cases hproposal : record.proposal with
        | none =>
          refine Option.not_isSome_iff_eq_none.1 fun hsome => ?_
          have := hwell.helloProposal hsome
          rw [hproposal] at this
          cases this
        | some existing =>
          rw [hproposal] at hconflict
          simp only [Option.any_some, decide_eq_true_eq, not_not] at hconflict
          exact Option.isNone_iff_eq_none.1 hconflict.1
      exact .inr ⟨persisted, bytes, revision, hhello, hverify, hencoded, hbytes, hsave, rfl⟩
  | _ => cases h

theorem admitShakescapeDirectSwapProposal_leaves (hordered : TakenInOrder policy store envelope at_)
    (h : admitShakescapeDirectSwapProposal store policy envelope at_ = .ok (admission, store')) :
    Leaves policy store store' admission.record := by
  obtain ⟨requestId, proposal, record, validationTime, henvelope, hat, hload,
    ⟨rfl, hrecord⟩ | ⟨persisted, bytes, revision, hhello, hverify, hencoded, hbytes, hsave,
      hrecord⟩⟩ := admitShakescapeDirectSwapProposal_eq_ok h
  · rw [hrecord]
    exact leaves_of_load hload
  · obtain ⟨hwell, hsession, hrow⟩ := loaded_facts hload
    obtain ⟨hrequest, hlast⟩ := hordered requestId _ henvelope
    have hafter := hlast _ record rfl hload
    rw [hrecord]
    exact .inr (writesSwap_of_save
      (hwell.withProposal hhello hrequest hat hverify hafter)
      (encodePersisted_withProposal hencoded hbytes) (lastAcceptedAtUnix_withProposal hafter)
      hsession (.inl hrow) hsave)

variable [Sha256] [Serde V SwapSession]

theorem admitShakescapeDirectSwapHello_eq_ok
    (h : admitShakescapeDirectSwapHello store policy envelope at_ = .ok (admission, store')) :
    ∃ requestId hello record validationTime,
      decodeCanonicalEnvelope envelope = .ok (requestId, .swapSessionHello hello) ∧
      peerObjectValidationTime hello.header.createdAt at_ = some validationTime ∧
      loadShakescapeDirectSwap store policy ⟨hello.swapSessionId⟩ = .ok (some record) ∧
      ((store' = store ∧ admission.record = record) ∨
        ∃ proposal persisted bytes revision, record.hello = none ∧
          record.proposal = some proposal ∧
          proposal.terms = { hello with takerSignature := .replicate 64 0 } ∧
          verifyLate (DirectSwapProtocol.verifyHello hello record.offer record.acceptance
            policy.network) validationTime hello.header.createdAt ∧
          encodePersisted policy record = .ok persisted ∧
          encodeHex helloCodec hello = .ok bytes ∧
          store.saveEntity .swapSession (policy.recordId ⟨hello.swapSessionId⟩)
            record.storeRevision { persisted with
              helloAcceptedAtUnix := some at_
              helloHex := some bytes } at_ = .ok (store', revision) ∧
          admission.record = record.withHello hello at_ revision) := by
  obtain ⟨⟨requestId, message⟩, henvelope, h⟩ := ok_bind_iff.1 h
  cases message with
  | swapSessionHello hello =>
    simp only [ok_iff, not_not] at h
    obtain ⟨_, ⟨⟩, validationTime, hat, _, hload, record, rfl, ⟨⟩, -, h⟩ := h
    refine ⟨requestId, hello, record, validationTime, henvelope, hat, hload, ?_⟩
    split at h
    next existing =>
      obtain ⟨_, -, hret⟩ := ok_bind_iff.1 h
      cases hret
      exact .inl ⟨rfl, rfl⟩
    next hnone =>
      simp only [ok_iff, Bool.not_eq_false, not_not, not_le, liftStore_eq_ok] at h
      obtain ⟨proposal, hproposal, ⟨⟩, hterms, ⟨⟩, hverify, _, -, _, -, ⟨⟩, -, persisted, hencoded,
        bytes, hbytes, ⟨written, revision⟩, hsave, hret⟩ := h
      cases hret
      exact .inr ⟨proposal, persisted, bytes, revision, hnone, hproposal, hterms, hverify, hencoded,
        hbytes, hsave, rfl⟩
  | _ => cases h

theorem admitShakescapeDirectSwapHello_leaves (hordered : TakenInOrder policy store envelope at_)
    (h : admitShakescapeDirectSwapHello store policy envelope at_ = .ok (admission, store')) :
    Leaves policy store store' admission.record := by
  obtain ⟨requestId, hello, record, validationTime, henvelope, hat, hload,
    ⟨rfl, hrecord⟩ | ⟨proposal, persisted, bytes, revision, hnone, hproposal, hterms, hverify,
      hencoded, hbytes, hsave, hrecord⟩⟩ := admitShakescapeDirectSwapHello_eq_ok h
  · rw [hrecord]
    exact leaves_of_load hload
  · obtain ⟨hwell, hsession, hrow⟩ := loaded_facts hload
    have hafter := (hordered requestId _ henvelope).2 _ record rfl hload
    rw [hrecord]
    exact .inr (writesSwap_of_save
      (hwell.withHello hnone hproposal hterms hat hverify hafter)
      (encodePersisted_withHello hencoded hbytes) (lastAcceptedAtUnix_withHello hafter)
      hsession (.inl hrow) hsave)

theorem admitShakescapeDirectOfferAcceptance_eq_ok [Serde V PersistedDirectOffer]
    (h : admitShakescapeDirectOfferAcceptance store policy envelope at_ =
      .ok (admission, store')) :
    ∃ requestId acceptance validationTime,
      decodeCanonicalEnvelope envelope = .ok (requestId, .acceptDirectOffer acceptance) ∧
      peerObjectValidationTime acceptance.header.createdAt at_ = some validationTime ∧
      ((store' = store ∧ loadShakescapeDirectSwap store policy ⟨acceptance.swapSessionId⟩ =
          .ok (some admission.record)) ∨
        ∃ offer persisted revision,
          DirectSwapProtocol.verifyAcceptance acceptance offer policy.network validationTime =
            .ok () ∧
          (store.entitiesByIdPrefix .swapSession policy.recordPrefix).length <
            maxShakescapeDirectSwapRecords ∧
          encodePersisted policy (accepted offer acceptance requestId at_ revision) =
            .ok persisted ∧
          store.saveEntity .swapSession (policy.recordId ⟨acceptance.swapSessionId⟩) 0 persisted
            at_ = .ok (store', revision) ∧
          admission.record = accepted offer acceptance requestId at_ revision) := by
  obtain ⟨⟨requestId, message⟩, henvelope, h⟩ := ok_bind_iff.1 h
  cases message with
  | acceptDirectOffer acceptance =>
    simp only [ok_iff] at h
    obtain ⟨_, ⟨⟩, validationTime, hat, _, -, offer, rfl, loaded, hload, h⟩ := h
    refine ⟨requestId, acceptance, validationTime, henvelope, hat, ?_⟩
    cases loaded with
    | some existing =>
      obtain ⟨_, -, hret⟩ := ok_bind_iff.1 h
      cases hret
      exact .inl ⟨rfl, hload⟩
    | none =>
      simp only [ok_iff, liftStore_eq_ok, not_le] at h
      obtain ⟨⟨⟩, -, ⟨⟩, hverify, retained, hretained, ⟨⟩, hcapacity, _, -, ⟨⟩, -, offerHex, hoffer,
        acceptanceHex, hacceptance, ⟨written, revision⟩, hsave, hret⟩ := h
      cases hret
      have hfits := length_of_loadShakescapeDirectSwaps hretained ▸ hcapacity
      exact .inr ⟨offer.offer, _, revision, hverify, hfits,
        encodePersisted_accepted hoffer hacceptance, hsave, rfl⟩
  | _ => cases h

theorem admitShakescapeDirectOfferAcceptance_leaves [Serde V PersistedDirectOffer]
    (hordered : TakenInOrder policy store envelope at_)
    (h : admitShakescapeDirectOfferAcceptance store policy envelope at_ =
      .ok (admission, store')) :
    Leaves policy store store' admission.record := by
  obtain ⟨requestId, acceptance, validationTime, henvelope, hat,
    ⟨rfl, hload⟩ | ⟨offer, persisted, revision, hverify, hfits, hencoded, hsave, hrecord⟩⟩ :=
    admitShakescapeDirectOfferAcceptance_eq_ok h
  · exact leaves_of_load hload
  · rw [hrecord]
    exact .inr (writesSwap_of_save
      (WellFormed.accepted (hordered requestId _ henvelope).1 hat hverify) hencoded rfl rfl
      (.inr hfits) hsave)

end Writers

inductive SwapWriter where
  | acceptance
  | proposal
  | hello
  | watchReady
  | peerStatus

inductive SwapReport where
  | admission (admission : ShakescapeDirectSwapAdmission)
  | status (status : ShakescapeDirectSwapPeerStatus)

def SwapReport.Describes (record : ShakescapeDirectSwapRecord) : SwapReport → Prop
  | .admission admitted => admitted.record = record
  | .status reported => reported.sessionId = ⟨record.acceptance.swapSessionId⟩ ∧
      ∀ funding, reported = .funding funding →
        ∃ kept ∈ record.peerFundingStatuses, kept.status = funding

inductive SwapCall (V : Type) where
  | message (writer : SwapWriter) (envelope : List UInt8) (at_ : UInt64)
  | elsewhere (store : WalletStore V)

section SwapRuns

variable [DirectSwapProtocol] [Sha256] {V : Type} [Encoded V] [Serde V SwapSession]
  [Serde V PersistedShakescapeDirectSwap] [Serde V PersistedDirectOffer]

def SwapWriter.perform (policy : ShakescapeDirectSwapPolicy) (store : WalletStore V)
    (envelope : List UInt8) (at_ : UInt64) :
    SwapWriter → Except MarketError (SwapReport × WalletStore V)
  | .acceptance => (admitShakescapeDirectOfferAcceptance store policy envelope at_).map
      fun (admission, store) => (.admission admission, store)
  | .proposal => (admitShakescapeDirectSwapProposal store policy envelope at_).map
      fun (admission, store) => (.admission admission, store)
  | .hello => (admitShakescapeDirectSwapHello store policy envelope at_).map
      fun (admission, store) => (.admission admission, store)
  | .watchReady => (admitShakescapeDirectSwapWatchReady store policy envelope at_).map
      fun (admission, store) => (.admission admission, store)
  | .peerStatus => (admitShakescapeDirectSwapPeerStatus store policy envelope at_).map
      fun (status, store) => (.status status, store)

def SwapWriter.after (policy : ShakescapeDirectSwapPolicy) (store : WalletStore V)
    (envelope : List UInt8) (at_ : UInt64) (writer : SwapWriter) : WalletStore V :=
  match writer.perform policy store envelope at_ with
  | .ok (_, written) => written
  | .error _ => store

def SwapStep (policy : ShakescapeDirectSwapPolicy) (store : WalletStore V) :
    SwapCall V → WalletStore V → Prop
  | .message writer envelope at_, store' => store' = writer.after policy store envelope at_
  | .elsewhere other, store' => store' = other ∧
      other.entitiesByIdPrefix .swapSession policy.recordPrefix =
        store.entitiesByIdPrefix .swapSession policy.recordPrefix

def SwapCall.InOrder (policy : ShakescapeDirectSwapPolicy) (store : WalletStore V) :
    SwapCall V → Prop
  | .message _ envelope at_ => TakenInOrder policy store envelope at_
  | .elsewhere _ => True

structure SwapBoardSound (policy : ShakescapeDirectSwapPolicy) (store : WalletStore V) : Prop where
  decodes : ∀ id row, policy.recordPrefix <+: id →
    store.entities.lookup (.swapSession, id) = some row →
    ∃ record, SwapRowDecodes policy id row record
  capacity : (store.entitiesByIdPrefix .swapSession policy.recordPrefix).length ≤
    maxShakescapeDirectSwapRecords

variable {policy : ShakescapeDirectSwapPolicy} {store store' : WalletStore V}
  {envelope : List UInt8} {at_ : UInt64} {writer : SwapWriter} {report : SwapReport}

theorem SwapWriter.leaves (hordered : TakenInOrder policy store envelope at_)
    (h : writer.perform policy store envelope at_ = .ok (report, store')) :
    ∃ record, Leaves policy store store' record ∧ report.Describes record := by
  cases writer
  all_goals
    obtain ⟨⟨_, written⟩, hcall, hret⟩ := map_eq_ok.1 h
    cases hret
  case acceptance => exact ⟨_, admitShakescapeDirectOfferAcceptance_leaves hordered hcall, rfl⟩
  case proposal => exact ⟨_, admitShakescapeDirectSwapProposal_leaves hordered hcall, rfl⟩
  case hello => exact ⟨_, admitShakescapeDirectSwapHello_leaves hordered hcall, rfl⟩
  case watchReady => exact ⟨_, admitShakescapeDirectSwapWatchReady_leaves hordered hcall, rfl⟩
  case peerStatus => exact admitShakescapeDirectSwapPeerStatus_leaves hordered hcall

theorem SwapWriter.writes (h : writer.perform policy store envelope at_ = .ok (report, store')) :
    store' = store ∨ ∃ requestId message sessionId expected revision,
      ∃ persisted : PersistedShakescapeDirectSwap,
      decodeCanonicalEnvelope envelope = .ok (requestId, message) ∧
      message.sessionId = some sessionId ∧
      store.saveEntity .swapSession (policy.recordId sessionId) expected persisted at_ =
        .ok (store', revision) ∧
      (persisted.helloHex = none ∨
        (∃ record, loadShakescapeDirectSwap store policy sessionId = .ok (some record) ∧
          record.hello.isSome) ∨ ∃ hello, message = .swapSessionHello hello) := by
  cases writer
  all_goals
    obtain ⟨⟨_, written⟩, hcall, hret⟩ := map_eq_ok.1 h
    cases hret
  case acceptance =>
    obtain ⟨requestId, acceptance, _, henvelope, -, ⟨rfl, -⟩ | ⟨offer, persisted, revision, -, -,
      hencoded, hsave, -⟩⟩ := admitShakescapeDirectOfferAcceptance_eq_ok hcall
    · exact .inl rfl
    · have hnone : persisted.helloHex = none := helloHex_eq_none hencoded rfl
      exact .inr ⟨_, _, _, _, _, _, henvelope, rfl, hsave, .inl hnone⟩
  case proposal =>
    obtain ⟨requestId, proposal, record, _, henvelope, -, -, ⟨rfl, -⟩ | ⟨persisted, bytes, revision,
      hhello, -, hencoded, -, hsave, -⟩⟩ := admitShakescapeDirectSwapProposal_eq_ok hcall
    · exact .inl rfl
    · have hnone : persisted.helloHex = none := helloHex_eq_none hencoded hhello
      exact .inr ⟨_, _, _, _, _, _, henvelope, rfl, hsave, .inl hnone⟩
  case hello =>
    obtain ⟨requestId, hello, record, _, henvelope, -, -, ⟨rfl, -⟩ | ⟨_, _, _, _, -, -, -, -, -, -,
      hsave, -⟩⟩ := admitShakescapeDirectSwapHello_eq_ok hcall
    · exact .inl rfl
    · exact .inr ⟨_, _, _, _, _, _, henvelope, rfl, hsave, Or.inr (.inr ⟨hello, rfl⟩)⟩
  case watchReady =>
    obtain ⟨requestId, ready, record, hello, _, henvelope, -, hload, hhello, -, ⟨rfl, -⟩ | ⟨_, _, _,
      -, -, -, -, hsave, -⟩⟩ := admitShakescapeDirectSwapWatchReady_eq_ok hcall
    · exact .inl rfl
    · exact .inr ⟨_, _, _, _, _, _, henvelope, rfl, hsave,
        Or.inr (.inl ⟨record, hload, Option.isSome_of_mem hhello⟩)⟩
  case peerStatus =>
    obtain ⟨requestId, message, record, hello, _, henvelope, hmessage, -, hload, hhello, -,
      ⟨rfl, -⟩ | ⟨_, _, _, -, -, -, hsave⟩⟩ := admitShakescapeDirectSwapPeerStatus_eq_ok hcall
    · exact .inl rfl
    · exact .inr ⟨_, _, _, _, _, _, henvelope, hmessage, hsave,
        Or.inr (.inl ⟨record, hload, Option.isSome_of_mem hhello⟩)⟩

omit [Sha256] [Encoded V] [Serde V SwapSession] [Serde V PersistedDirectOffer]

theorem SwapBoardSound.of_empty (hempty : ∀ id, policy.recordPrefix <+: id →
    store.entities.lookup (.swapSession, id) = none) : SwapBoardSound policy store := by
  have hnil : store.entitiesByIdPrefix .swapSession policy.recordPrefix = [] := by
    refine List.eq_nil_iff_forall_not_mem.2 fun ⟨id, row⟩ hmem => ?_
    obtain ⟨hid, hlookup⟩ := mem_entitiesByIdPrefix.1 hmem
    cases (hempty id hid).symm.trans hlookup
  refine ⟨fun id row hid hlookup => ?_, by simp [hnil]⟩
  cases (hempty id hid).symm.trans hlookup

theorem SwapBoardSound.leaves {record : ShakescapeDirectSwapRecord}
    (h : SwapBoardSound policy store) (hleaves : Leaves policy store store' record) :
    SwapBoardSound policy store' := by
  rcases hleaves with ⟨rfl, -⟩ | ⟨-, hfits, row, hrow, rfl⟩
  · exact h
  refine ⟨fun id row' hid hlookup => ?_, ?_⟩
  · by_cases heq : id = policy.recordId ⟨record.acceptance.swapSessionId⟩
    · subst heq
      rw [putEntity_lookup] at hlookup
      cases hlookup
      exact ⟨record, hrow⟩
    · rw [putEntity_lookup_ne (by simpa using heq)] at hlookup
      exact h.decodes id row' hid hlookup
  · rcases hfits with hold | hnew
    · rw [length_putEntity_of_isSome hold]
      exact h.capacity
    · exact length_putEntity_le.trans hnew

theorem SwapBoardSound.elsewhere (h : SwapBoardSound policy store)
    (hsame : store'.entitiesByIdPrefix .swapSession policy.recordPrefix =
      store.entitiesByIdPrefix .swapSession policy.recordPrefix) :
    SwapBoardSound policy store' := by
  refine ⟨fun id row hid hlookup => ?_, hsame ▸ h.capacity⟩
  have hmem := mem_entitiesByIdPrefix.2 ⟨hid, hlookup⟩
  rw [hsame] at hmem
  exact h.decodes id row hid (mem_entitiesByIdPrefix.1 hmem).2

theorem SwapBoardSound.load (h : SwapBoardSound policy store) (hkey : store.unlocked) :
    ∃ records, loadShakescapeDirectSwaps store policy = .ok records := by
  have hid : validateId policy.recordPrefix = .ok () := by
    rw [validateId, refuseIf_eq_ok]
    simp [ShakescapeDirectSwapPolicy.recordPrefix, shakescapeDirectSwapRecordPrefix, ascii,
      maxRecordIdBytes]
  obtain ⟨listed, hlisted⟩ : ∃ listed, store.listEntitiesByIdPrefix PersistedShakescapeDirectSwap
      .swapSession policy.recordPrefix (maxShakescapeDirectSwapRecords + 1) = .ok listed := by
    refine exists_listEntitiesByIdPrefix hid (by decide) hkey
      (h.capacity.trans (Nat.le_succ _)) fun id row hid hlookup => ?_
    obtain ⟨record, hvalid, value, hvalue, -⟩ := h.decodes id row hid hlookup
    exact ⟨_, loadEntity_eq_some.2 ⟨hvalid, hkey, row, value, hlookup, hvalue, rfl⟩⟩
  obtain ⟨records, hrecords⟩ := exists_mapM_eq_ok (f := decodeStoredSwap policy)
    fun stored (hstored : stored ∈ listed) => by
      obtain ⟨hid, hload⟩ := (mem_of_listEntitiesByIdPrefix hlisted).1 hstored
      obtain ⟨-, -, row, value, hlookup, hvalue, heq⟩ := loadEntity_eq_some.1 hload
      obtain ⟨record, -, value', hvalue', hdecode⟩ := h.decodes stored.id row hid hlookup
      cases hvalue.symm.trans hvalue'
      exact ⟨record, heq ▸ hdecode⟩
  refine ⟨records, ?_⟩
  simp only [loadShakescapeDirectSwaps, ok_iff, liftStore_eq_ok, not_lt]
  refine ⟨listed, hlisted, (), ?_, hrecords⟩
  rw [length_of_listEntitiesByIdPrefix hlisted]
  exact h.capacity

variable [Sha256] [Encoded V] [Serde V SwapSession] [Serde V PersistedDirectOffer]

theorem SwapBoardSound.step {call : SwapCall V} (h : SwapBoardSound policy store)
    (hordered : call.InOrder policy store) (hstep : SwapStep policy store call store') :
    SwapBoardSound policy store' := by
  cases call with
  | message writer envelope at_ =>
    rw [SwapStep, SwapWriter.after] at hstep
    subst hstep
    split
    next report written hcall =>
      obtain ⟨record, hleaves, -⟩ := writer.leaves hordered hcall
      exact h.leaves hleaves
    next => exact h
  | elsewhere other =>
    obtain ⟨rfl, hsame⟩ := hstep
    exact h.elsewhere hsame

/-- Over any run from an empty board whose messages are taken in in order: every row decodes, the
board can be listed, and the next message, if it is taken in in order as well, either changes
nothing or leaves a row that decodes to the record it reports. -/
theorem session_board_runs {store₀ : WalletStore V} {calls : List (SwapCall V)}
    (hempty : ∀ id, policy.recordPrefix <+: id →
      store₀.entities.lookup (.swapSession, id) = none)
    (hrun : Run (SwapStep policy) store₀ calls store)
    (hordered : ∀ before call after mid, calls = before ++ call :: after →
      Run (SwapStep policy) store₀ before mid → call.InOrder policy mid) :
    (∀ id row, policy.recordPrefix <+: id → store.entities.lookup (.swapSession, id) = some row →
      ∃ record, SwapRowDecodes policy id row record) ∧
    (store.unlocked → ∃ records, loadShakescapeDirectSwaps store policy = .ok records) ∧
    ∀ writer envelope at_ store', TakenInOrder policy store envelope at_ →
      SwapStep policy store (.message writer envelope at_) store' →
      (∃ e, writer.perform policy store envelope at_ = .error e ∧ store' = store) ∨
      ∃ report record, writer.perform policy store envelope at_ = .ok (report, store') ∧
        loadShakescapeDirectSwap store' policy ⟨record.acceptance.swapSessionId⟩ =
          .ok (some record) ∧
        report.Describes record := by
  have hsound : SwapBoardSound policy store :=
    Run.invariant_of_steps (fun h hc hstep => h.step hc hstep) (.of_empty hempty) hrun hordered
  refine ⟨hsound.decodes, hsound.load, fun writer envelope at_ store' htaken hstep => ?_⟩
  rw [SwapStep, SwapWriter.after] at hstep
  split at hstep
  next report written hcall =>
    subst hstep
    obtain ⟨record, hleaves, hdescribes⟩ := writer.leaves htaken hcall
    exact .inr ⟨report, record, hcall, hleaves.load, hdescribes⟩
  next e hcall => exact .inl ⟨e, hcall, hstep⟩

end SwapRuns

namespace Sample

@[reducible] def swapEnvelopes : DirectSwapProtocol :=
  boardProtocol [([10], 1, .directOffer offer), ([12], 1, .acceptDirectOffer acceptance),
    ([13], 2, .swapSessionProposal proposal), ([14], 2, .swapSessionHello agreement),
    ([15], 3, .swapFundingStatus funding)]

section

attribute [local instance] swapEnvelopes inventory sha256

def offeredStore : WalletStore Value :=
  emptyStore.putEntity .shakescapeBoardObject (boardPolicy.recordId offer.offerId)
    ⟨1, .boardOffer ⟨1, boardPolicy.fingerprint, ⟨offer.offerId⟩, 1699999550, [2], none, none⟩,
      1699999550⟩

def acceptedStore : WalletStore Value :=
  SwapWriter.acceptance.after policy offeredStore [12] 1699999600

def proposedStore : WalletStore Value :=
  SwapWriter.proposal.after policy acceptedStore [13] 1700000010

def countersignedStore : WalletStore Value :=
  SwapWriter.hello.after policy proposedStore [14] 1700000020

theorem swapRun_functional {store store₁ store₂ : WalletStore Value} {calls : List (SwapCall Value)}
    (h₁ : Run (SwapStep policy) store calls store₁)
    (h₂ : Run (SwapStep policy) store calls store₂) : store₁ = store₂ := by
  refine Run.functional (fun {s call t u} ht hu => ?_) h₁ h₂
  cases call with
  | message writer envelope at_ => exact ht.trans hu.symm
  | elsewhere other => exact ht.1.trans hu.1.symm

set_option maxRecDepth 4000 in
theorem session_board_runs_sample :
    Run (SwapStep policy) offeredStore
      [.message .acceptance [12] 1699999600, .message .proposal [13] 1700000010,
        .message .hello [14] 1700000020] countersignedStore ∧
    (∃ record, loadShakescapeDirectSwap countersignedStore policy sessionId = .ok (some record) ∧
      record.hello = some agreement) ∧
    ∃ records, loadShakescapeDirectSwaps countersignedStore policy = .ok records := by
  have hfirst : Run (SwapStep policy) offeredStore [.message .acceptance [12] 1699999600]
      acceptedStore := .single rfl
  have hsecond : Run (SwapStep policy) offeredStore [.message .acceptance [12] 1699999600,
      .message .proposal [13] 1700000010] proposedStore := hfirst.snoc rfl
  have hthird : Run (SwapStep policy) offeredStore [.message .acceptance [12] 1699999600,
      .message .proposal [13] 1700000010, .message .hello [14] 1700000020] countersignedStore :=
    hsecond.snoc rfl
  have hempty : ∀ id, policy.recordPrefix <+: id →
      offeredStore.entities.lookup (.swapSession, id) = none := fun id _ =>
    putEntity_lookup_ne (by simp)
  refine ⟨hthird, ⟨_, rfl, rfl⟩, (session_board_runs hempty hthird ?_).2.1 rfl⟩
  intro before call after mid hcalls hrun
  rcases before with _ | ⟨first, _ | ⟨second, _ | ⟨third, rest⟩⟩⟩
  · cases hcalls
    obtain rfl := Run.nil_iff.1 hrun
    exact takenInOrder_of rfl (by decide) rfl rfl (fun _ h => by cases h)
  · cases hcalls
    obtain rfl := swapRun_functional hrun hfirst
    exact takenInOrder_of rfl (by decide) rfl rfl (by rintro _ ⟨⟩; decide)
  · cases hcalls
    obtain rfl := swapRun_functional hrun hsecond
    exact takenInOrder_of rfl (by decide) rfl rfl (by rintro _ ⟨⟩; decide)
  · exact absurd (congrArg List.length hcalls) (by simp)

/-- The device's clock steps back by ten seconds between the acceptance and the proposal: both
are taken in, and the board can no longer be read. -/
theorem proposal_before_acceptance_does_not_load :
    (∃ report, SwapWriter.acceptance.perform policy offeredStore [12] 1699999600 =
      .ok (report, acceptedStore)) ∧
    ∃ report store', SwapWriter.proposal.perform policy acceptedStore [13] 1699999590 =
      .ok (report, store') ∧
      loadShakescapeDirectSwap store' policy sessionId =
        .error (.corruptShakescapeDirectSwapDetail "record timestamps") ∧
      loadShakescapeDirectSwaps store' policy =
        .error (.corruptShakescapeDirectSwapDetail "record timestamps") :=
  ⟨⟨_, rfl⟩, _, _, rfl, rfl, rfl⟩

end

end Sample

end HnsWallet
