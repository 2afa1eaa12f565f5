import HnsWallet.Shakedex.Board

/-! # What a change does to the board -/

namespace HnsWallet

open Lib NameMarketLibrary

theorem hashKey_injective : Function.Injective hashKey := by
  rintro ⟨a⟩ ⟨b⟩ h
  obtain rfl : a = b := Bytes.ext (List.map_injective_iff.2 (fun _ _ => UInt8.toNat_inj.1) h)
  rfl

theorem watermarkKey_eq_iff {w w' : SequenceWatermark} :
    watermarkKey w = watermarkKey w' ↔ watermarkIdentity w = watermarkIdentity w' := by
  obtain ⟨⟨magic, genesis, name, seller⟩, sequence⟩ := w
  obtain ⟨⟨magic', genesis', name', seller'⟩, sequence'⟩ := w'
  constructor
  · intro h
    obtain ⟨hmagic, hrest⟩ := List.cons.inj h
    obtain ⟨hgenesis, hrest⟩ := List.append_inj hrest (by simp [hashKey])
    obtain ⟨hname, hseller⟩ := List.append_inj hrest (by simp [hashKey])
    obtain rfl := hashKey_injective hgenesis
    obtain rfl := hashKey_injective hname
    obtain rfl := UInt32.toNat_inj.1 hmagic
    obtain rfl := List.map_injective_iff.2 (fun _ _ => UInt8.toNat_inj.1) hseller
    rfl
  · intro h
    cases h
    rfl

namespace NameMarketBoard

variable {board board' : NameMarketBoard} {offer offer' : PersistedBoardOffer}
  {watermarks : List SequenceWatermark}

/-! ## The structure of a board -/

structure WellFormed (board : NameMarketBoard) : Prop where
  schema : board.schemaVersion = nameMarketBoardSchemaVersion
  capacity : board.offers.length ≤ maxNameMarketBoardOffers
  offers : SortedBy offerKey board.offers
  watermarks : SortedBy watermarkKey board.watermarks
  single : ∀ a ∈ board.offers, ∀ b ∈ board.offers, offerIdentity a = offerIdentity b → a = b
  linked : ∀ w, w ∈ board.watermarks ↔ ∃ o ∈ board.offers, o.watermark = w

theorem WellFormed.perm (h : board.WellFormed) :
    (board.offers.map PersistedBoardOffer.watermark).Perm board.watermarks := by
  have hnodup : (board.offers.map PersistedBoardOffer.watermark).Nodup :=
    h.offers.nodup.map_on fun a ha b hb hab =>
      h.single a ha b hb (congrArg watermarkIdentity hab)
  refine (List.perm_ext_iff_of_nodup hnodup h.watermarks.nodup).2 fun w => ?_
  rw [List.mem_map, h.linked]

theorem validateStructure_eq_ok : board.validateStructure = .ok () ↔ board.WellFormed := by
  simp only [validateStructure, ok_iff, not_or, not_not, not_lt, isChain_iff_sortedBy,
    takeEach_eq_nil, ne_eq]
  constructor
  · rintro ⟨_, ⟨hschema, hcapacity, -, -, hoffers, hwatermarks⟩, _, -, hperm⟩
    have hnodup := hperm.nodup_iff.2 hwatermarks.nodup
    have hmem : ∀ a ∈ board.offers, a.watermark ∈ board.watermarks := fun a ha =>
      hperm.mem_iff.1 (List.mem_map_of_mem ha)
    refine ⟨hschema, hcapacity, hoffers, hwatermarks, fun a ha b hb hab => ?_, fun w => ?_⟩
    · have heq := hwatermarks.eq_of_key (hmem a ha) (hmem b hb) (watermarkKey_eq_iff.2 hab)
      exact List.inj_on_of_nodup_map hnodup ha hb heq
    · rw [← hperm.mem_iff, List.mem_map]
  · intro h
    have hlength : board.offers.length = board.watermarks.length := by
      rw [← h.perm.length_eq, List.length_map]
    have hidentities : (board.watermarks.map watermarkIdentity).Nodup :=
      h.watermarks.nodup.map_on fun a ha b hb hab =>
        h.watermarks.eq_of_key ha hb (watermarkKey_eq_iff.2 hab)
    exact ⟨(), ⟨h.schema, h.capacity, hlength ▸ h.capacity, hlength, h.offers, h.watermarks⟩, (),
      hidentities, h.perm⟩

theorem WellFormed.default : default.WellFormed :=
  validateStructure_eq_ok.1 (by decide)

theorem WellFormed.ext (h : board.WellFormed) (h' : board'.WellFormed)
    (hmem : ∀ o, o ∈ board.offers ↔ o ∈ board'.offers) : board = board' := by
  have hwatermarks : ∀ w, w ∈ board.watermarks ↔ w ∈ board'.watermarks := by
    intro w
    simp only [h.linked, h'.linked, hmem]
  obtain ⟨schema, offers, watermarks⟩ := board
  obtain ⟨schema', offers', watermarks'⟩ := board'
  obtain rfl : offers = offers' := h.offers.ext h'.offers hmem
  obtain rfl : watermarks = watermarks' := h.watermarks.ext h'.watermarks hwatermarks
  rw [show schema = schema' from h.schema.trans h'.schema.symm]

theorem mem_of_offer {hash : ObjectHash} (h : board.offer hash = some offer) :
    offer ∈ board.offers ∧ offer.listingHash = hash :=
  ⟨List.mem_of_find?_eq_some h, by simpa using List.find?_some h⟩

theorem WellFormed.watermarkOf_eq (h : board.WellFormed) (ho : offer ∈ board.offers) :
    board.watermarkOf (offerIdentity offer) = some offer.watermark := by
  have hw : offer.watermark ∈ board.watermarks := (h.linked _).2 ⟨offer, ho, rfl⟩
  cases hfind : board.watermarkOf (offerIdentity offer) with
  | none => exact absurd (decide_eq_true rfl) (List.find?_eq_none.1 hfind _ hw)
  | some w =>
    have hid : watermarkIdentity w = offerIdentity offer := by simpa using List.find?_some hfind
    rw [h.watermarks.eq_of_key (List.mem_of_find?_eq_some hfind) hw (watermarkKey_eq_iff.2 hid)]

/-! ## One offer in the place of another -/

def Newer (o offer : PersistedBoardOffer) : Prop :=
  o.lastSequence < offer.lastSequence ∧ (o.lastSequence < offer.sequence ∨
    sameListing o offer ∧ offer.status = .cancelled ∧
      offer.cancellationSequence = some offer.lastSequence)

theorem hash_of_sameListing (h : sameListing offer offer') : offer.listingHash =
    offer'.listingHash :=
  (of_decide_eq_true h).1

structure Places (board : NameMarketBoard) (offer : PersistedBoardOffer)
    (board' : NameMarketBoard) : Prop where
  wellFormed : board'.WellFormed
  mem : ∀ o, o ∈ board'.offers ↔ o = offer ∨ o ∈ board.offers ∧ offerIdentity o ≠
    offerIdentity offer
  newer : ∀ o ∈ board.offers, offerIdentity o = offerIdentity offer → Newer o offer

theorem WellFormed.place {offers : List PersistedBoardOffer} (h : board.WellFormed)
    (hcapacity : offers.length ≤ maxNameMarketBoardOffers) (hoffers : SortedBy offerKey offers)
    (hwatermarks : SortedBy watermarkKey watermarks)
    (hmem : ∀ o, o ∈ offers ↔ o = offer ∨ o ∈ board.offers ∧ offerIdentity o ≠ offerIdentity offer)
    (hmark : ∀ w, w ∈ watermarks ↔ w = offer.watermark ∨
      w ∈ board.watermarks ∧ watermarkIdentity w ≠ offerIdentity offer) :
    WellFormed ⟨board.schemaVersion, offers, watermarks⟩ where
  schema := h.schema
  capacity := hcapacity
  offers := hoffers
  watermarks := hwatermarks
  single a ha b hb hab := by
    rcases (hmem a).1 ha with rfl | ⟨ha, hna⟩ <;> rcases (hmem b).1 hb with rfl | ⟨hb, hnb⟩
    · rfl
    · exact absurd hab.symm hnb
    · exact absurd hab hna
    · exact h.single a ha b hb hab
  linked w := by
    rw [hmark, h.linked]
    constructor
    · rintro (rfl | ⟨⟨o, ho, rfl⟩, hne⟩)
      · exact ⟨offer, (hmem _).2 (.inl rfl), rfl⟩
      · exact ⟨o, (hmem _).2 (.inr ⟨ho, hne⟩), rfl⟩
    · rintro ⟨o, ho, rfl⟩
      rcases (hmem o).1 ho with rfl | ⟨ho, hne⟩
      · exact .inl rfl
      · exact .inr ⟨⟨o, ho, rfl⟩, hne⟩

theorem WellFormed.mem_raise (h : board.WellFormed) {old : PersistedBoardOffer}
    (hold : old ∈ board.offers) (hsame : offerIdentity old = offerIdentity offer) :
    SortedBy watermarkKey (board.raise offer.watermark) ∧
      ∀ w, w ∈ board.raise offer.watermark ↔ w = offer.watermark ∨
        w ∈ board.watermarks ∧ watermarkIdentity w ≠ offerIdentity offer := by
  refine ⟨h.watermarks.replaceIf fun w _ hw => watermarkKey_eq_iff.2 hw, fun w => ?_⟩
  exact mem_replaceIf ⟨old.watermark, (h.linked _).2 ⟨old, hold, rfl⟩, hsame⟩

theorem WellFormed.monotonic (h' : board'.WellFormed)
    (hstep : ∀ o ∈ board.offers, ∃ o' ∈ board'.offers, offerIdentity o' = offerIdentity o ∧
      (o' = o ∨ Newer o o')) : validateMonotonicBoardTransition board board' = .ok () := by
  refine forM_eq_ok.2 fun current hcurrent => ?_
  obtain ⟨target, htarget, hsame, hstep⟩ := hstep current hcurrent
  have hsome : (board'.offers.reverse.find? (offerIdentity · = offerIdentity current)).isSome :=
    List.find?_isSome.2 ⟨target, List.mem_reverse.2 htarget, decide_eq_true hsame⟩
  obtain ⟨found, hfound⟩ := Option.isSome_iff_exists.1 hsome
  have heq : offerIdentity found = offerIdentity current := by simpa using List.find?_some hfound
  obtain rfl := h'.single found (List.mem_reverse.1 (List.mem_of_find?_eq_some hfound))
    target htarget (heq.trans hsame.symm)
  simp only [hfound, ok_iff]
  rcases hstep with rfl | ⟨hlt, hnewer⟩
  · refine ⟨found, rfl, (), UInt64.lt_irrefl _, ?_⟩
    rw [if_pos rfl, refuseIf_eq_ok]
    exact fun hne => hne rfl
  · refine ⟨found, rfl, (), UInt64.lt_asymm hlt, ?_⟩
    rw [if_neg (UInt64.ne_of_lt hlt).symm, refuseIf_eq_ok]
    rintro ⟨hno, hno'⟩
    exact hnewer.elim hno hno'

theorem WellFormed.monotonic_self (h : board.WellFormed) :
    validateMonotonicBoardTransition board board = .ok () :=
  h.monotonic fun o ho => ⟨o, ho, rfl, .inl rfl⟩

theorem Places.monotonic (h : Places board offer board') :
    validateMonotonicBoardTransition board board' = .ok () := by
  refine h.wellFormed.monotonic fun o ho => ?_
  by_cases hsame : offerIdentity o = offerIdentity offer
  · exact ⟨offer, (h.mem _).2 (.inl rfl), hsame.symm, .inr (h.newer o ho hsame)⟩
  · exact ⟨o, (h.mem _).2 (.inr ⟨ho, hsame⟩), rfl, .inl rfl⟩

theorem WellFormed.mem_replaced (h : board.WellFormed) {o : PersistedBoardOffer} :
    o ∈ insertBy offerKey offer (board.offers.eraseP (offerIdentity · = offerIdentity offer)) ↔
      o = offer ∨ o ∈ board.offers ∧ offerIdentity o ≠ offerIdentity offer := by
  rw [mem_insertBy, mem_eraseP_iff h.offers.nodup fun a ha b hb hpa hpb =>
    h.single a ha b hb ((of_decide_eq_true hpa).trans (of_decide_eq_true hpb).symm)]
  simp

theorem WellFormed.replaceOffer (h : board.WellFormed)
    (hfresh : ∀ o ∈ board.offers, o.listingHash ≠ offer.listingHash)
    (hcapacity : (∃ o ∈ board.offers, offerIdentity o = offerIdentity offer) ∨
      board.offers.length < maxNameMarketBoardOffers) (hsorted : SortedBy watermarkKey watermarks)
    (hmark : ∀ w, w ∈ watermarks ↔ w = offer.watermark ∨
      w ∈ board.watermarks ∧ watermarkIdentity w ≠ offerIdentity offer)
    (hnewer : ∀ o ∈ board.offers, offerIdentity o = offerIdentity offer →
      o.lastSequence < offer.lastSequence ∧ o.lastSequence < offer.sequence) :
    ∃ mutation board', mutation ≠ .existing ∧
      NameMarketBoard.replaceOffer { board with watermarks } offer = .ok mutation board' ∧
      Places board offer board' := by
  have hsub := List.eraseP_sublist (p := (offerIdentity · = offerIdentity offer))
    (l := board.offers)
  refine ⟨if (board.offers.find? (offerIdentity · = offerIdentity offer)).isSome then .updated
    else .inserted, _, by split <;> decide, if_neg ?_, ?_, fun o => ?_, fun o ho hsame => ?_⟩
  · rw [List.find?_isSome]
    rintro ⟨o, ho, heq⟩
    exact hfresh o (hsub.subset ho) (of_decide_eq_true heq)
  · refine h.place ?_ ?_ hsorted (fun o => ?_) hmark
    · rw [length_insertBy]
      rcases hcapacity with ⟨o, ho, hsame⟩ | hless
      · rw [List.length_eraseP_of_mem ho (decide_eq_true hsame),
          Nat.sub_add_cancel (List.length_pos_of_mem ho)]
        exact h.capacity
      · exact (Nat.succ_le_succ hsub.length_le).trans hless
    · exact SortedBy.insertBy (h.offers.sublist hsub) fun o ho heq =>
        hfresh o (hsub.subset ho) (hashKey_injective heq)
    · exact h.mem_replaced
  · exact h.mem_replaced
  · exact ⟨(hnewer o ho hsame).1, .inl (hnewer o ho hsame).2⟩

variable [NameMarketLibrary]

theorem validate_eq_ok : board.validate = .ok () ↔
    board.WellFormed ∧ ∀ o ∈ board.offers, validateOffer o = .ok () := by
  rw [validate, ok_bind_iff, ← validateStructure_eq_ok, ← forM_eq_ok]
  exact ⟨fun ⟨_, hs, ho⟩ => ⟨hs, ho⟩, fun ⟨hs, ho⟩ => ⟨(), hs, ho⟩⟩

theorem Places.validate (h : Places board offer board') (hboard : board.validate = .ok ())
    (hoffer : validateOffer offer = .ok ()) : board'.validate = .ok () := by
  refine validate_eq_ok.2 ⟨h.wellFormed, fun o ho => ?_⟩
  rcases (h.mem o).1 ho with rfl | ⟨ho, -⟩
  · exact hoffer
  · exact (validate_eq_ok.1 hboard).2 o ho

theorem validateOffer_activeOffer {listing : VerifiedFixedPriceListing} {nameHash : ObjectHash}
    (hname : hashName listing.listing = some nameHash) :
    validateOffer (activeOffer listing nameHash) = .ok () := by
  have hdecode := decode_encodeListing listing.encoded_eq
  obtain ⟨hash, hhash, htail⟩ := hashTail_listing hdecode
  obtain rfl := Option.some.inj (hhash.symm.trans listing.hash_eq)
  simp only [validateOffer, ok_iff]
  exact ⟨_, hdecode, _, htail, _, hname, (), by simp [activeOffer], rfl⟩

theorem validateOffer_cancel {cancellation : VerifiedListingCancellation}
    (h : validateOffer offer = .ok ())
    (hhash : offer.listingHash = cancellation.cancellation.listingHash) :
    validateOffer (offer.cancel cancellation) = .ok () := by
  simp only [validateOffer, ok_iff] at h
  obtain ⟨listing, hdecode, hash, htail, nameHash, hname, _, hfields, -⟩ := h
  obtain ⟨hash', hlisting, htail'⟩ := hashTail_listing hdecode
  obtain ⟨target, network, now, hverified⟩ := cancellation.verified
  -- The verified listing is the one of the offer, since both have the hash.
  obtain rfl : target = listing := by
    refine hashListing_injective (verifyForListing_hash hverified) ?_
    rw [hlisting, ← hhash, ← htail', htail]
    exact congrArg some (by tauto)
  simp only [validateOffer, PersistedBoardOffer.cancel, ok_iff]
  refine ⟨target, hdecode, hash, htail, nameHash, hname, (), refuseIf_eq_ok.2 hfields, _,
    decode_encodeCancellation cancellation.encoded_eq, (), ?_, _, cancellation.hash_eq, ?_⟩
  · rw [verifyForListing_own hverified]
    exact Bool.noConfusion
  · simp

theorem applyOfferToValidatedBoard_cases (h : board.WellFormed)
    (listing : VerifiedFixedPriceListing) :
    (∃ e, board.applyOfferToValidatedBoard listing = .error e board) ∨
    (board.applyOfferToValidatedBoard listing = .ok .existing board ∧
      ∃ o ∈ board.offers, o.listingHash = listing.listingHash) ∨
    ∃ nameHash mutation board', hashName listing.listing = some nameHash ∧ mutation ≠ .existing ∧
      board.applyOfferToValidatedBoard listing = .ok mutation board' ∧
      Places board (activeOffer listing nameHash) board' := by
  unfold applyOfferToValidatedBoard
  cases hname : hashName listing.listing with
  | none => exact .inl ⟨_, rfl⟩
  | some nameHash =>
    cases hoffer : board.offer listing.listingHash with
    | some existing =>
      obtain ⟨hmem, hhash⟩ := mem_of_offer hoffer
      dsimp only
      split
      next => exact .inr (.inl ⟨rfl, existing, hmem, hhash⟩)
      next => exact .inl ⟨_, rfl⟩
    | none =>
      have hfresh : ∀ o ∈ board.offers, o.listingHash ≠ listing.listingHash := fun o ho heq =>
        List.find?_eq_none.1 hoffer o ho (decide_eq_true heq)
      dsimp only
      split
      next => exact .inl ⟨_, rfl⟩
      next hcapacity =>
        cases hfound : board.offers.find?
          (offerIdentity · = offerIdentity (activeOffer listing nameHash)) with
        | some old =>
          have hold := List.mem_of_find?_eq_some hfound
          have hsame : offerIdentity old = offerIdentity (activeOffer listing nameHash) := by
            simpa using List.find?_some hfound
          rw [← hsame, h.watermarkOf_eq hold]
          dsimp only
          split
          next => exact .inl ⟨_, rfl⟩
          next hlt =>
            obtain ⟨hmarks, hmark⟩ := h.mem_raise hold hsame
            have hnewer : ∀ o ∈ board.offers, offerIdentity o = _ →
                o.lastSequence < listing.listing.sequence := fun o ho heq =>
              h.single o ho old hold (heq.trans hsame.symm) ▸ UInt64.not_le.1 hlt
            obtain ⟨mutation, board', hne, heq, hplaces⟩ := h.replaceOffer hfresh
              (.inl ⟨old, hold, hsame⟩) hmarks hmark fun o ho heq =>
                ⟨hnewer o ho heq, hnewer o ho heq⟩
            exact .inr (.inr ⟨nameHash, mutation, board', rfl, hne, heq, hplaces⟩)
        | none =>
          have hnone : ∀ o ∈ board.offers,
              offerIdentity o ≠ offerIdentity (activeOffer listing nameHash) := fun o ho heq =>
            List.find?_eq_none.1 hfound o ho (decide_eq_true heq)
          have hmark : ∀ w ∈ board.watermarks,
              watermarkIdentity w ≠ offerIdentity (activeOffer listing nameHash) := by
            intro w hw
            obtain ⟨o, ho, rfl⟩ := (h.linked w).1 hw
            exact hnone o ho
          have hwatermark : board.watermarkOf (offerIdentity (activeOffer listing nameHash)) =
            none :=
            List.find?_eq_none.2 fun w hw heq => hmark w hw (of_decide_eq_true heq)
          rw [hwatermark]
          dsimp only
          split
          next => exact .inl ⟨_, rfl⟩
          next =>
            have hsorted : SortedBy watermarkKey (insertBy watermarkKey
                (activeOffer listing nameHash).watermark board.watermarks) :=
              h.watermarks.insertBy fun w hw heq => hmark w hw (watermarkKey_eq_iff.1 heq)
            obtain ⟨mutation, board', hne, heq, hplaces⟩ := h.replaceOffer hfresh
              (.inr (by simpa [hfound] using hcapacity)) hsorted
              (fun w => mem_insertBy.trans (or_congr_right (iff_self_and.2 (hmark w))))
              fun o ho heq => absurd heq (hnone o ho)
            exact .inr (.inr ⟨nameHash, mutation, board', rfl, hne, heq, hplaces⟩)

theorem applyCancellationToValidatedBoard_cases (h : board.WellFormed)
    (cancellation : VerifiedListingCancellation) :
    (∃ e, board.applyCancellationToValidatedBoard cancellation = .error e board) ∨
    (board.applyCancellationToValidatedBoard cancellation = .ok false board ∧
      ∃ o ∈ board.offers, o.cancellationBytes = some cancellation.encoded) ∨
    ∃ o ∈ board.offers, o.listingHash = cancellation.cancellation.listingHash ∧ ∃ board',
      board.applyCancellationToValidatedBoard cancellation = .ok true board' ∧
      Places board (o.cancel cancellation) board' := by
  unfold applyCancellationToValidatedBoard
  cases hoffer : board.offer cancellation.cancellation.listingHash with
  | none => exact .inl ⟨_, rfl⟩
  | some o =>
    obtain ⟨ho, hhash⟩ := mem_of_offer hoffer
    simp only [h.watermarkOf_eq ho]
    split
    next heq => exact .inr (.inl ⟨rfl, o, ho, heq.2⟩)
    next =>
      split
      next => exact .inl ⟨_, rfl⟩
      next hlt =>
        -- Of the offers with the hash there is one, and it is the one with the identity.
        have hsame : ∀ a ∈ board.offers, a.listingHash = o.listingHash ↔
            offerIdentity a = offerIdentity (o.cancel cancellation) := fun a ha =>
          ⟨fun heq => h.offers.eq_of_key ha ho (congrArg hashKey heq) ▸ rfl,
            fun heq => h.single a ha o ho heq ▸ rfl⟩
        have hmem : ∀ a, a ∈ replaceIf (·.listingHash = o.listingHash) (o.cancel cancellation)
            board.offers ↔ a = o.cancel cancellation ∨
              a ∈ board.offers ∧ offerIdentity a ≠ offerIdentity (o.cancel cancellation) := by
          intro a
          rw [mem_replaceIf (p := (·.listingHash = o.listingHash)) ⟨o, ho, rfl⟩]
          exact or_congr_right (and_congr_right fun ha => not_congr (hsame a ha))
        have hidentity : offerIdentity o = offerIdentity (o.cancel cancellation) := rfl
        obtain ⟨hmarks, hmark⟩ := h.mem_raise ho hidentity
        refine .inr (.inr ⟨o, ho, hhash, _, rfl, h.place ?_ ?_ hmarks hmem hmark, hmem, ?_⟩)
        · exact (List.length_map _).trans_le h.capacity
        · exact h.offers.replaceIf fun a _ heq => congrArg hashKey heq
        · intro a ha heq
          obtain rfl := h.single a ha o ho heq
          exact ⟨UInt64.not_le.1 hlt, .inr ⟨by simp [sameListing, PersistedBoardOffer.cancel],
            rfl, rfl⟩⟩

end NameMarketBoard

end HnsWallet
