import HnsWallet.Shakedex.BoardLaws

/-! # Histories of the board -/

namespace HnsWallet

open Lib NameMarketLibrary

section Histories

variable [NameMarketLibrary]

inductive BoardMessage where
  | offer (listing : VerifiedFixedPriceListing)
  | cancellation (cancellation : VerifiedListingCancellation)

namespace NameMarketBoard

def receive (board : NameMarketBoard) : BoardMessage → Outcome Bool
  | .offer listing => board.applyOffer listing
  | .cancellation cancellation => board.applyCancellation cancellation

def deliver : NameMarketBoard × List BoardMessage → BoardMessage →
    NameMarketBoard × List BoardMessage
  | (board, accepted), message =>
    match board.receive message with
    | .ok _ board => (board, message :: accepted)
    | .error _ board => (board, accepted)

def deliverAll (messages : List BoardMessage) : NameMarketBoard × List BoardMessage :=
  messages.foldl deliver (default, [])

variable {board board' : NameMarketBoard} {offer offer' : PersistedBoardOffer}
  {listing listing' : VerifiedFixedPriceListing} {cancellation : VerifiedListingCancellation}
  {message : BoardMessage} {accepted accepted' : List BoardMessage}

inductive Proposes (listing : VerifiedFixedPriceListing) : BoardMessage → PersistedBoardOffer → Prop
  | offer {nameHash} : hashName listing.listing = some nameHash →
      Proposes listing (.offer listing) (activeOffer listing nameHash)
  | cancellation {nameHash cancellation} : hashName listing.listing = some nameHash →
      listing.listingHash = cancellation.cancellation.listingHash →
      Proposes listing (.cancellation cancellation) ((activeOffer listing nameHash).cancel
        cancellation)

theorem listing_eq_of_hash (h : listing.listingHash = listing'.listingHash) :
    listing = listing' := by
  have hlisting : listing.listing = listing'.listing :=
    hashListing_injective (h ▸ listing.hash_eq) listing'.hash_eq
  have hencoded := listing.encoded_eq.symm.trans (hlisting ▸ listing'.encoded_eq)
  exact VerifiedFixedPriceListing.ext hlisting (Option.some.inj hencoded) h

theorem cancellation_eq_of_encoded {other : VerifiedListingCancellation}
    (h : cancellation.encoded = other.encoded) : cancellation = other := by
  have hdecoded := decode_encodeCancellation cancellation.encoded_eq
  rw [h, decode_encodeCancellation other.encoded_eq] at hdecoded
  have hhash := cancellation.hash_eq
  rw [h, other.hash_eq] at hhash
  cases cancellation
  cases other
  cases h
  cases hdecoded
  cases hhash
  rfl

section

variable (h : Proposes listing message offer)
include h

theorem Proposes.listingHash :
    offer.listingHash = listing.listingHash := by
  cases h <;> rfl

theorem Proposes.validateOffer :
    validateOffer offer = .ok () := by
  cases h with
  | offer hname => exact validateOffer_activeOffer hname
  | cancellation hname hhash => exact validateOffer_cancel (validateOffer_activeOffer hname) hhash

theorem Proposes.cancel (hhash : offer.listingHash = cancellation.cancellation.listingHash) :
    Proposes listing (.cancellation cancellation) (offer.cancel cancellation) := by
  cases h with
  | offer hname => exact .cancellation hname hhash
  | cancellation hname _ => exact .cancellation hname hhash

theorem Proposes.unique (h' : Proposes listing' message offer') : offer = offer' := by
  cases h with
  | offer hname =>
    cases h' with
    | offer hname' => rw [Option.some.inj (hname.symm.trans hname')]
  | cancellation hname hhash =>
    cases h' with
    | cancellation hname' hhash' =>
      obtain rfl := listing_eq_of_hash (hhash.trans hhash'.symm)
      rw [Option.some.inj (hname.symm.trans hname')]

end

/-! ## What the board knows of its history -/

structure Explained (board : NameMarketBoard) (accepted : List BoardMessage) : Prop where
  valid : board.validate = .ok ()
  made : ∀ o ∈ board.offers, ∃ listing, .offer listing ∈ accepted ∧
    ∃ message ∈ accepted, Proposes listing message o
  covered : ∀ message ∈ accepted, ∀ listing o, Proposes listing message o →
    ∃ o' ∈ board.offers, offerIdentity o' = offerIdentity o ∧
      (o' = o ∨ o.lastSequence < o'.lastSequence)

theorem Explained.wellFormed (h : Explained board accepted) : board.WellFormed :=
  (validate_eq_ok.1 h.valid).1

theorem Explained.default : Explained default [] where
  valid := validate_eq_ok.2 ⟨.default, nofun⟩
  made := nofun
  covered := nofun

theorem Explained.place (h : Explained board accepted) (hplaces : Places board offer board')
    (hlisting : .offer listing ∈ message :: accepted) (hoffer : Proposes listing message offer) :
    Explained board' (message :: accepted) where
  valid := hplaces.validate h.valid hoffer.validateOffer
  made o ho := by
    rcases (hplaces.mem o).1 ho with rfl | ⟨ho, -⟩
    · exact ⟨listing, hlisting, message, .head _, hoffer⟩
    · obtain ⟨listing', hlisting', message', hmessage', ho⟩ := h.made o ho
      exact ⟨listing', .tail _ hlisting', message', .tail _ hmessage', ho⟩
  covered message' hmessage' listing' o ho := by
    have hnew : offer ∈ board'.offers := (hplaces.mem _).2 (.inl rfl)
    rcases List.mem_cons.1 hmessage' with rfl | hmessage'
    · exact ⟨offer, hnew, congrArg offerIdentity (hoffer.unique ho), .inl (hoffer.unique ho)⟩
    · obtain ⟨o', ho', hsame, hlast⟩ := h.covered message' hmessage' listing' o ho
      by_cases hid : offerIdentity o' = offerIdentity offer
      · have hnewer := (hplaces.newer o' ho' hid).1
        refine ⟨offer, hnew, hid.symm.trans hsame, .inr ?_⟩
        rcases hlast with rfl | hlast
        · exact hnewer
        · exact UInt64.lt_trans hlast hnewer
      · exact ⟨o', (hplaces.mem _).2 (.inr ⟨ho', hid⟩), hsame, hlast⟩

theorem Explained.receive (h : Explained board accepted) (message : BoardMessage) :
    (∃ e, board.receive message = .error e board) ∨
    (board.receive message = .ok false board ∧ message ∈ accepted) ∨
    ∃ listing offer board', board.receive message = .ok true board' ∧
      Places board offer board' ∧ .offer listing ∈ message :: accepted ∧
      Proposes listing message offer := by
  cases message with
  | offer listing =>
    simp only [NameMarketBoard.receive, applyOffer, h.valid]
    rcases applyOfferToValidatedBoard_cases h.wellFormed listing with
      ⟨e, he⟩ | ⟨heq, o, ho, hhash⟩ | ⟨nameHash, mutation, board', hname, hne, heq, hplaces⟩
    · exact .inl ⟨e, by rw [he]⟩
    · obtain ⟨listing', hlisting', message, -, hpropose⟩ := h.made o ho
      obtain rfl := listing_eq_of_hash (hpropose.listingHash.symm.trans hhash)
      exact .inr (.inl ⟨by rw [heq]; rfl, hlisting'⟩)
    · refine .inr (.inr ⟨listing, _, board', ?_, hplaces, .head _, .offer hname⟩)
      rw [heq]
      exact congrArg (EStateM.Result.ok · _) (decide_eq_true hne)
  | cancellation cancellation =>
    simp only [NameMarketBoard.receive, applyCancellation, h.valid]
    rcases applyCancellationToValidatedBoard_cases h.wellFormed cancellation with
      herror | ⟨heq, o, ho, hbytes⟩ | ⟨o, ho, hhash, board', heq, hplaces⟩
    · exact .inl herror
    · refine .inr (.inl ⟨heq, ?_⟩)
      obtain ⟨listing, -, message, hmessage, hpropose⟩ := h.made o ho
      cases hpropose with
      | offer hname => cases hbytes
      | cancellation hname _ => exact cancellation_eq_of_encoded (Option.some.inj hbytes) ▸ hmessage
    · obtain ⟨listing, hlisting, message, -, hpropose⟩ := h.made o ho
      exact .inr (.inr ⟨listing, _, board', heq, hplaces, .tail _ hlisting, hpropose.cancel hhash⟩)

theorem Explained.deliver (h : Explained board accepted) :
    Explained (deliver (board, accepted) message).1 (deliver (board, accepted) message).2 := by
  simp only [NameMarketBoard.deliver]
  rcases h.receive message with
    ⟨e, he⟩ | ⟨heq, hmem⟩ | ⟨listing, offer, board', heq, hplaces, hlisting, hpropose⟩
  · rw [he]
    exact h
  · have hsame : ∀ m, m ∈ message :: accepted ↔ m ∈ accepted := by grind
    rw [heq]
    exact ⟨h.valid, by simpa only [hsame] using h.made, by simpa only [hsame] using h.covered⟩
  · rw [heq]
    exact h.place hplaces hlisting hpropose

theorem explained_deliverAll (messages : List BoardMessage) :
    Explained (deliverAll messages).1 (deliverAll messages).2 :=
  List.foldlRecOn (motive := fun s => Explained s.1 s.2) messages deliver Explained.default
    fun _ h _ _ => h.deliver

theorem Explained.subset (h : Explained board accepted) (h' : Explained board' accepted')
    (hsame : ∀ m, m ∈ accepted ↔ m ∈ accepted') (ho : offer ∈ board.offers) :
    offer ∈ board'.offers := by
  obtain ⟨listing, -, message, hmessage, hpropose⟩ := h.made offer ho
  obtain ⟨o, ho', hid, rfl | hlast⟩ := h'.covered message ((hsame _).1 hmessage) listing
    offer hpropose
  · exact ho'
  · -- A later proposal was accepted here too, and would have taken the place of this one.
    obtain ⟨listing', -, message', hmessage', hpropose'⟩ := h'.made o ho'
    obtain ⟨o', ho', hid', hlast'⟩ := h.covered message' ((hsame _).2 hmessage') listing' o
      hpropose'
    obtain rfl := h.wellFormed.single o' ho' offer ho (hid'.trans hid)
    rcases hlast' with rfl | hlast'
    · exact absurd hlast (UInt64.lt_irrefl _)
    · exact absurd hlast (UInt64.lt_asymm hlast')

theorem Explained.board_eq (h : Explained board accepted) (h' : Explained board' accepted')
    (hsame : ∀ m, m ∈ accepted ↔ m ∈ accepted') : board = board' :=
  h.wellFormed.ext h'.wellFormed fun _ => ⟨h.subset h' hsame, h'.subset h fun m => (hsame m).symm⟩

theorem Explained.not_mem (h : Explained board accepted) (hplaces : Places board offer board')
    (hpropose : Proposes listing message offer) : message ∉ accepted := by
  intro hmem
  obtain ⟨o, ho, hid, hlast⟩ := h.covered message hmem listing offer hpropose
  have hnewer := (hplaces.newer o ho hid).1
  rcases hlast with rfl | hlast
  · exact UInt64.lt_irrefl _ hnewer
  · exact UInt64.lt_asymm hlast hnewer

/-- After any history the board validates and has one offer for each identity.  The next call
leaves it as it is, or puts one offer, with a message that is new, in the place of the one
that had its identity: under a higher sequence number, which for another listing is the
listing's own.  Histories that accept the same messages end in the same board. -/
theorem deliverAll_replayProof (messages : List BoardMessage) (message : BoardMessage) :
    let board := (deliverAll messages).1
    board.validate = .ok () ∧
    (∀ a ∈ board.offers, ∀ b ∈ board.offers, offerIdentity a = offerIdentity b → a = b) ∧
    validateMonotonicBoardTransition board board = .ok () ∧
    ((∃ e, board.receive message = .error e board) ∨ board.receive message = .ok false board ∨
      ∃ offer board', board.receive message = .ok true board' ∧
        message ∉ (deliverAll messages).2 ∧
        validateMonotonicBoardTransition board board' = .ok () ∧
        (∀ o, o ∈ board'.offers ↔
          o = offer ∨ o ∈ board.offers ∧ offerIdentity o ≠ offerIdentity offer) ∧
        ∀ o ∈ board.offers, offerIdentity o = offerIdentity offer →
          o.lastSequence < offer.lastSequence ∧
          (o.listingHash ≠ offer.listingHash → o.lastSequence < offer.sequence)) ∧
    ∀ others, (∀ m, m ∈ (deliverAll messages).2 ↔ m ∈ (deliverAll others).2) →
      board = (deliverAll others).1 := by
  have h := explained_deliverAll messages
  refine ⟨h.valid, h.wellFormed.single, h.wellFormed.monotonic_self, ?_, fun others hsame =>
    h.board_eq (explained_deliverAll others) hsame⟩
  rcases h.receive message with
    herror | ⟨heq, -⟩ | ⟨listing, offer, board', heq, hplaces, -, hpropose⟩
  · exact .inl herror
  · exact .inr (.inl heq)
  · refine .inr (.inr ⟨offer, board', heq, h.not_mem hplaces hpropose, hplaces.monotonic,
      hplaces.mem, fun o ho hid => ?_⟩)
    obtain ⟨hlast, hnewer⟩ := hplaces.newer o ho hid
    exact ⟨hlast, fun hne => hnewer.resolve_right fun hsame => hne (hash_of_sameListing hsame.1)⟩

def Carries (hashes : List ObjectHash) (network : SwapNetwork) (board : NameMarketBoard) : Prop :=
  ∀ o ∈ board.offers, o.status = .active → o.networkMagic = network.magic →
    o.networkGenesis = network.genesis → o.listingHash ∈ hashes

theorem validate_ne_ok_of_dropped {offers : List PersistedBoardOffer} (h : board.WellFormed)
    (hoffers : offers.length ≠ board.offers.length) :
    NameMarketBoard.validate { board with offers } ≠ .ok () := by
  intro hvalid
  have hleft := (validate_eq_ok.1 hvalid).1.perm.length_eq
  rw [List.length_map] at hleft
  have hright := h.perm.length_eq
  rw [List.length_map] at hright
  exact hoffers (hleft.trans hright.symm)

/-- The snapshot of a transport is taken only where it drops nothing; then the board stays as
it is and may be saved over itself. -/
theorem retainTransportActiveListings_iff (board : NameMarketBoard) (network : SwapNetwork)
    (hashes : List ObjectHash) (hvalid : board.validate = .ok ()) :
    ((∃ changed board', board.retainTransportActiveListings network hashes = .ok changed board') ↔
      Carries hashes network board) ∧
    (Carries hashes network board →
      board.retainTransportActiveListings network hashes = .ok false board ∧
      validateMonotonicBoardTransition board board = .ok ()) := by
  have hwell := (validate_eq_ok.1 hvalid).1
  have hkeeps : Carries hashes network board →
      board.retainTransportActiveListings network hashes = .ok false board := by
    intro hall
    have hfilter : board.offers.filter (fun offer => offer.status = BoardOfferStatus.cancelled ∨
        offer.networkMagic ≠ network.magic ∨ offer.networkGenesis ≠ network.genesis ∨
        offer.listingHash ∈ hashes) = board.offers := by
      refine List.filter_eq_self.2 fun o ho => decide_eq_true ?_
      cases hstatus : o.status with
      | cancelled => exact .inl rfl
      | active =>
        have := hall o ho hstatus
        tauto
    simp only [retainTransportActiveListings, hfilter, hvalid, ne_eq, not_true, decide_false]
  refine ⟨⟨?_, fun hall => ⟨_, _, hkeeps hall⟩⟩, fun hall => ⟨hkeeps hall, hwell.monotonic_self⟩⟩
  rintro ⟨changed, board', heq⟩ o ho hactive hmagic hgenesis
  by_contra hmem
  simp only [retainTransportActiveListings, hvalid] at heq
  split at heq
  next => contradiction
  next => cases heq
  next hretained =>
    refine validate_ne_ok_of_dropped hwell (fun hlength => ?_) hretained
    have hkept := List.length_filter_eq_length_iff.1 hlength o ho
    simp [hactive, hmagic, hgenesis, hmem] at hkept

end NameMarketBoard

end Histories

namespace Sample

open NameMarketBoard

def boardHash : ObjectHash := ⟨⟨List.replicate 32 7, rfl⟩⟩

def boardListing : FixedPriceListing where
  network := ⟨1, boardHash⟩
  sellerPublicKey := ⟨List.replicate 33 2, rfl⟩
  sequence := 1
  createdAt := 0
  expiresAt := 10
  proof := []

def boardCancellation : ListingCancellation := ⟨boardHash, 2, 5, []⟩

instance boardLibrary : NameMarketLibrary where
  decodeListing bytes := if bytes = List.replicate 32 7 then some boardListing else none
  encodeListing listing := if listing = boardListing then some (List.replicate 32 7) else none
  hashListing listing := if listing = boardListing then some boardHash else none
  hashName _ := some boardHash
  decodeCancellation bytes := if bytes = List.replicate 32 8 then some boardCancellation else none
  encodeCancellation c := if c = boardCancellation then some (List.replicate 32 8) else none
  verifyForListing c listing _ _ := c = boardCancellation ∧ listing = boardListing
  decode_encodeListing h := by
    split at h <;> simp_all
  hashTail_listing h := by
    split at h
    next heq =>
      cases h
      subst heq
      exact ⟨boardHash, if_pos rfl, rfl⟩
    next => cases h
  hashListing_injective h h' := by
    split at h <;> split at h' <;> simp_all
  decode_encodeCancellation h := by
    split at h <;> simp_all
  verifyForListing_hash h := by
    obtain ⟨rfl, rfl⟩ := of_decide_eq_true h
    exact if_pos rfl
  verifyForListing_own h := h

def boardMessage : VerifiedFixedPriceListing :=
  ⟨boardListing, List.replicate 32 7, boardHash, if_pos rfl, if_pos rfl⟩

def boardTombstone : VerifiedListingCancellation :=
  ⟨boardCancellation, List.replicate 32 8, ⟨⟨List.replicate 32 8, rfl⟩⟩, if_pos rfl, rfl,
    boardListing, ⟨1, boardHash⟩, 0, rfl⟩

def board : NameMarketBoard := (deliverAll [.offer boardMessage]).1

def cancelledBoard : NameMarketBoard :=
  (deliverAll [.offer boardMessage, .cancellation boardTombstone]).1

end Sample

open Sample NameMarketBoard

theorem deliverAll_replayProof_cancelled :
    let board := (deliverAll [.offer boardMessage, .cancellation boardTombstone]).1
    board.offers.map (·.status) = [.cancelled] ∧ board.validate = .ok () ∧
      board.receive (.offer boardMessage) = .ok false board :=
  ⟨by decide +kernel, (deliverAll_replayProof _ (.offer boardMessage)).1, by rfl⟩

/-- The listing is carried, or is one of another network, or has been cancelled. -/
theorem retainTransportActiveListings_carried :
    board.retainTransportActiveListings ⟨1, boardHash⟩ [boardHash] = .ok false board ∧
      board.retainTransportActiveListings ⟨2, boardHash⟩ [] = .ok false board ∧
      cancelledBoard.retainTransportActiveListings ⟨1, boardHash⟩ [] =
        .ok false cancelledBoard := by
  have hvalid : board.validate = .ok () ∧ cancelledBoard.validate = .ok () := by decide +kernel
  obtain ⟨hcarried, hforeign, hcancelled⟩ :
      NameMarketBoard.Carries [boardHash] ⟨1, boardHash⟩ board ∧
      NameMarketBoard.Carries [] ⟨2, boardHash⟩ board ∧
      NameMarketBoard.Carries [] ⟨1, boardHash⟩ cancelledBoard := by
    unfold NameMarketBoard.Carries
    refine ⟨?_, ?_, ?_⟩ <;> decide +kernel
  exact ⟨((retainTransportActiveListings_iff _ _ _ hvalid.1).2 hcarried).1,
    ((retainTransportActiveListings_iff _ _ _ hvalid.1).2 hforeign).1,
    ((retainTransportActiveListings_iff _ _ _ hvalid.2).2 hcancelled).1⟩

/-- The node no longer carries the listing: the sequence number is left and the board is not
valid any more. -/
theorem retainTransportActiveListings_dropped :
    board.validate = .ok () ∧ board.retainTransportActiveListings ⟨1, boardHash⟩ [] =
      .error .corruptNameMarketBoard { board with offers := [] } :=
  ⟨by decide +kernel, by rfl⟩

end HnsWallet
