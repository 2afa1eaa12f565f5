import HnsWallet.Lib.Chunks
import HnsWallet.Mobile.Settlement

/-! # Recovery publications -/

namespace HnsWallet

open Lib SwapRecoveryTerms

def frameMagic : List UInt8 := [0x53, 0x52]

def markerMagic : List UInt8 := [0x53, 0x52, 0x46, 0x31]

def commitmentDomain : List UInt8 :=
  ascii "shakescape/chain-swap-recovery/v1\x00"

def frameHeaderBytes : Nat := 4

def termsBytes : Nat := 204

def swapRecoveryMarkerBytes : Nat := 37

def maxSwapRecoveryFrames : Nat := 24

def takeBytes (n : Nat) (bytes : List UInt8) (offset : Nat) :
    Except SwapRecoveryPublicationError (Bytes n × Nat) :=
  if h : ((bytes.drop offset).take n).length = n then
    .ok (⟨(bytes.drop offset).take n, h⟩, offset + n)
  else .error .invalidPublication

def takeU64 (bytes : List UInt8) (offset : Nat) :
    Except SwapRecoveryPublicationError (UInt64 × Nat) := do
  let (value, offset) ← takeBytes 8 bytes offset
  return (.ofNat (ofBeBytes value.toList), offset)

def takeU32 (bytes : List UInt8) (offset : Nat) :
    Except SwapRecoveryPublicationError (UInt32 × Nat) := do
  let (value, offset) ← takeBytes 4 bytes offset
  return (.ofNat (ofBeBytes value.toList), offset)

section Reading

variable {bytes rest : List UInt8} {offset n : Nat}

theorem takeBytes_of_drop {value : Bytes n} (h : bytes.drop offset = value.toList ++ rest) :
    takeBytes n bytes offset = .ok (value, offset + n) ∧ bytes.drop (offset + n) = rest := by
  have htake : (bytes.drop offset).take n = value.toList := by
    rw [h]
    exact List.take_left' value.length_eq
  have hlength : ((bytes.drop offset).take n).length = n := by
    rw [htake, value.length_eq]
  constructor
  · rw [takeBytes, dif_pos hlength]
    have hvalue : (⟨(bytes.drop offset).take n, hlength⟩ : Bytes n) = value := Bytes.ext htake
    rw [hvalue]
  · rw [← List.drop_drop, h]
    exact List.drop_left' value.length_eq

/-- A number that was written in `n` bytes is taken off as it was written. -/
theorem takeBytes_beBytes {value : Nat} (hvalue : value < 256 ^ n)
    (h : bytes.drop offset = beBytes n value ++ rest) :
    ∃ word, takeBytes n bytes offset = .ok (word, offset + n) ∧ ofBeBytes word.toList = value ∧
      bytes.drop (offset + n) = rest := by
  let word : Bytes n := ⟨beBytes n value, length_beBytes _ _⟩
  obtain ⟨htake, hrest⟩ : takeBytes n bytes offset = .ok (word, offset + n) ∧
    bytes.drop (offset + n) = rest := takeBytes_of_drop h
  exact ⟨word, htake, ofBeBytes_beBytes hvalue, hrest⟩

theorem takeU64_of_drop {value : UInt64} (h : bytes.drop offset = beBytes 8 value.toNat ++ rest) :
    takeU64 bytes offset = .ok (value, offset + 8) ∧ bytes.drop (offset + 8) = rest := by
  obtain ⟨word, htake, hvalue, hrest⟩ := takeBytes_beBytes value.toNat_lt h
  refine ⟨?_, hrest⟩
  rw [takeU64, htake]
  show Except.ok (UInt64.ofNat (ofBeBytes word.toList), offset + 8) = _
  rw [hvalue, UInt64.ofNat_toNat]

theorem takeU32_of_drop {value : UInt32} (h : bytes.drop offset = beBytes 4 value.toNat ++ rest) :
    takeU32 bytes offset = .ok (value, offset + 4) ∧ bytes.drop (offset + 4) = rest := by
  obtain ⟨word, htake, hvalue, hrest⟩ := takeBytes_beBytes value.toNat_lt h
  refine ⟨?_, hrest⟩
  rw [takeU32, htake]
  show Except.ok (UInt32.ofNat (ofBeBytes word.toList), offset + 4) = _
  rw [hvalue, UInt32.ofNat_toNat]

end Reading

section Terms

variable [MarketplaceProtocol] [KeyDerivation] (terms : SwapRecoveryTerms)

def SwapRecoveryTerms.toBytes : List UInt8 :=
  [1, if terms.offeredAsset = .btc then 1 else 0] ++ (terms.sessionId.toList ++
    (terms.directOfferId.toList ++ (terms.makerPublicKey.toList ++
    (terms.takerPublicKey.toList ++ (terms.hashlock.toList ++
    (beBytes 8 terms.offeredAmount.toNat ++ (beBytes 8 terms.receivedAmount.toNat ++
    (beBytes 8 terms.offeredRefundAt.toNat ++ (beBytes 8 terms.receivedRefundAt.toNat ++
    (beBytes 4 terms.offeredMinimumConfirmations.toNat ++
      beBytes 4 terms.receivedMinimumConfirmations.toNat))))))))))

def SwapRecoveryTerms.encode :
    Except SwapRecoveryPublicationError (List UInt8) := do
  terms.validate
  return terms.toBytes

def SwapRecoveryTerms.decode (bytes : List UInt8) (network : NetworkBinding) :
    Except SwapRecoveryPublicationError SwapRecoveryTerms := do
  refuseIf (bytes.length ≠ termsBytes ∨ bytes.getD 0 0 ≠ 1 ∨ 1 < bytes.getD 1 0)
    .invalidPublication
  let (sessionId, offset) ← takeBytes 32 bytes 2
  let (directOfferId, offset) ← takeBytes 32 bytes offset
  let (makerPublicKey, offset) ← takeBytes 33 bytes offset
  let (takerPublicKey, offset) ← takeBytes 33 bytes offset
  let (hashlock, offset) ← takeBytes 32 bytes offset
  let (offeredAmount, offset) ← takeU64 bytes offset
  let (receivedAmount, offset) ← takeU64 bytes offset
  let (offeredRefundAt, offset) ← takeU64 bytes offset
  let (receivedRefundAt, offset) ← takeU64 bytes offset
  let (offeredMinimumConfirmations, offset) ← takeU32 bytes offset
  let (receivedMinimumConfirmations, _) ← takeU32 bytes offset
  let value : SwapRecoveryTerms := {
    network
    sessionId
    directOfferId
    makerPublicKey
    takerPublicKey
    hashlock
    offeredAsset := if bytes.getD 1 0 = 0 then .hns else .btc
    offeredAmount
    receivedAmount
    offeredRefundAt
    receivedRefundAt
    offeredMinimumConfirmations
    receivedMinimumConfirmations }
  value.validate
  return value

omit [MarketplaceProtocol] [KeyDerivation] in
theorem SwapRecoveryTerms.length_toBytes :
    terms.toBytes.length = termsBytes := by
  simp [toBytes, termsBytes]

theorem SwapRecoveryTerms.validate_eq_ok {terms : SwapRecoveryTerms} (h : terms.validate = .ok ()) :
    MarketplaceProtocol.validateForPair terms.network = .ok () ∧
      (terms.offeredAsset = .hns ∨ terms.offeredAsset = .btc) := by
  simp only [validate, ok_iff, not_or, not_and_or, not_not] at h
  obtain ⟨_, hpair, -, hasset, -⟩ := h
  exact ⟨hpair, hasset⟩

theorem SwapRecoveryTerms.decode_toBytes {terms : SwapRecoveryTerms}
    (h : terms.validate = .ok ()) : decode terms.toBytes terms.network = .ok terms := by
  have hlength := terms.length_toBytes
  have hasset : (if terms.toBytes.getD 1 0 = 0 then AssetId.hns else .btc) =
    terms.offeredAsset := by
    rcases (validate_eq_ok h).2 with hns | hbtc
    · simp [toBytes, hns]
    · simp [toBytes, hbtc]
  have hcode : ¬ 1 < terms.toBytes.getD 1 0 := by
    rcases (validate_eq_ok h).2 with hns | hbtc
    · simp [toBytes, hns]
    · simp [toBytes, hbtc]
  have hversion : terms.toBytes.getD 0 0 = 1 := rfl
  obtain ⟨h1, d1⟩ : takeBytes 32 terms.toBytes 2 = .ok (terms.sessionId, 34) ∧ _ :=
    takeBytes_of_drop rfl
  obtain ⟨h2, d2⟩ := takeBytes_of_drop d1
  obtain ⟨h3, d3⟩ := takeBytes_of_drop d2
  obtain ⟨h4, d4⟩ := takeBytes_of_drop d3
  obtain ⟨h5, d5⟩ := takeBytes_of_drop d4
  obtain ⟨h6, d6⟩ := takeU64_of_drop d5
  obtain ⟨h7, d7⟩ := takeU64_of_drop d6
  obtain ⟨h8, d8⟩ := takeU64_of_drop d7
  obtain ⟨h9, d9⟩ := takeU64_of_drop d8
  obtain ⟨h10, d10⟩ := takeU32_of_drop d9
  obtain ⟨h11, -⟩ := takeU32_of_drop (d10.trans (List.append_nil _).symm)
  simp only [decode, ok_iff, not_or, not_not]
  refine ⟨(), ⟨hlength, hversion, hcode⟩, _, h1, _, h2, _, h3, _, h4, _, h5, _, h6, _, h7, _, h8,
    _, h9, _, h10, _, h11, (), ?_, ?_⟩
  · rw [hasset]
    exact h
  · rw [hasset]
    rfl

theorem SwapRecoveryTerms.decode_network {bytes : List UInt8} {network : NetworkBinding}
    {terms : SwapRecoveryTerms} (h : decode bytes network = .ok terms) :
    terms.network = network := by
  simp only [decode, ok_iff] at h
  obtain ⟨_, -, _, -, _, -, _, -, _, -, _, -, _, -, _, -, _, -, _, -, _, -, _, -, _, -, hret⟩ := h
  cases hret
  rfl

end Terms

structure SwapRecoveryPublication where
  terms : SwapRecoveryTerms
  side : SwapAssetSide
  frames : List (List UInt8)
  marker : Bytes 37
deriving DecidableEq

def frameDataLimit : ChainId → Except SwapRecoveryPublicationError Nat
  | .bitcoin => .ok 80
  | .handshake => .ok 40
  | .other _ => .error .unsupportedChain

def sideCode : SwapAssetSide → UInt8
  | .offered => 0
  | .received => 1

def sideOfCode (code : UInt8) : Option SwapAssetSide :=
  if code = 0 then some .offered else if code = 1 then some .received else none

def recoveryFrame (countByte : UInt8) (payload : List UInt8) (index : Nat) : List UInt8 :=
  frameMagic ++ [.ofNat index, countByte] ++ payload

def framePayload (limit count : Nat) (frame : List UInt8) (index : Nat) :
    Except SwapRecoveryPublicationError (List UInt8) := do
  refuseIf (frame.length ≤ frameHeaderBytes ∨ limit < frame.length ∨ frame.take 2 ≠ frameMagic ∨
    (frame.getD 2 0).toNat ≠ index ∨ (frame.getD 3 0).toNat ≠ count ∨
    (index + 1 < count ∧ frame.length ≠ limit)) .invalidPublication
  return frame.drop frameHeaderBytes

def recoveryFrames (payloadBytes : Nat) (encoded : List UInt8) : List (List UInt8) :=
  (List.range (chunkCount payloadBytes encoded.length)).map fun i =>
    recoveryFrame (.ofNat (chunkCount payloadBytes encoded.length))
      ((encoded.drop (i * payloadBytes)).take payloadBytes) i

variable {payloadBytes count limit : Nat} {encoded : List UInt8}

theorem map_zip_chunks (hcount : chunkCount payloadBytes encoded.length = count)
    (hsize : count < UInt8.size) :
    ((chunks payloadBytes encoded).zip (List.range (UInt8.ofNat count).toNat)).map
      (fun (payload, index) => recoveryFrame (.ofNat count) payload index) =
    recoveryFrames payloadBytes encoded := by
  have hbyte : (UInt8.ofNat count).toNat = count := UInt8.toNat_ofNat_of_lt' hsize
  rw [hbyte, recoveryFrames, hcount, chunks, hcount, map_zip_self, List.map_map]
  rfl

theorem framePayload_recoveryFrame {index : Nat} {payload : List UInt8}
    (hcount : count < UInt8.size) (hindex : index < count) (hpos : 0 < payload.length)
    (hle : payload.length + frameHeaderBytes ≤ limit)
    (hfull : index + 1 < count → payload.length + frameHeaderBytes = limit) :
    framePayload limit count (recoveryFrame (.ofNat count) payload index) index = .ok payload := by
  have hlength : (recoveryFrame (.ofNat count) payload index).length =
      payload.length + frameHeaderBytes := by
    simp [recoveryFrame, frameMagic, frameHeaderBytes]
  simp only [framePayload, ok_iff, not_or, not_lt, not_not, not_and, hlength]
  refine ⟨(), ⟨by omega, hle, rfl, ?_, ?_, hfull⟩, rfl⟩
  · exact UInt8.toNat_ofNat_of_lt' (hindex.trans hcount)
  · exact UInt8.toNat_ofNat_of_lt' hcount

theorem mapM_framePayload (hpos : 0 < payloadBytes)
    (hlimit : payloadBytes + frameHeaderBytes = limit)
    (hsize : chunkCount payloadBytes encoded.length < UInt8.size) :
    ((recoveryFrames payloadBytes encoded).zipIdx.mapM fun (frame, index) =>
      framePayload limit (recoveryFrames payloadBytes encoded).length frame index) =
    .ok (chunks payloadBytes encoded) := by
  have hlength : (recoveryFrames payloadBytes encoded).length =
      chunkCount payloadBytes encoded.length := by
    simp [recoveryFrames]
  rw [hlength, recoveryFrames, zipIdx_map_range, mapM_eq_ok, chunks,
    List.forall₂_map_left_iff, List.forall₂_map_right_iff, List.forall₂_same]
  intro i hi
  have hi := List.mem_range.1 hi
  obtain ⟨hne, hle, hfull⟩ := length_chunk hpos hi
  exact framePayload_recoveryFrame hsize hi hne (by omega) fun hnext => by
    rw [hfull hnext, hlimit]

theorem flatMap_drop_recoveryFrames (hpos : 0 < payloadBytes) (encoded : List UInt8) :
    (recoveryFrames payloadBytes encoded).flatMap (List.drop frameHeaderBytes) = encoded := by
  have hdrop : (recoveryFrames payloadBytes encoded).map (List.drop frameHeaderBytes) =
      chunks payloadBytes encoded := by
    rw [recoveryFrames, List.map_map]
    rfl
  rw [List.flatMap_def, hdrop, flatten_chunks hpos]

theorem frameDataLimit_eq_ok {chain : ChainId} (h : frameDataLimit chain = .ok limit) :
    0 < limit - frameHeaderBytes ∧ limit - frameHeaderBytes + frameHeaderBytes = limit ∧
      0 < chunkCount (limit - frameHeaderBytes) termsBytes ∧
      chunkCount (limit - frameHeaderBytes) termsBytes ≤ maxSwapRecoveryFrames := by
  cases chain with
  | handshake | bitcoin =>
    cases h
    decide
  | other code => cases h

section Publications

variable [Sha256] [DirectSwapProtocol] [KeyDerivation]

def recoveryCommitment (encoded : List UInt8) (side : SwapAssetSide) (network : NetworkBinding) :
    Except SwapRecoveryPublicationError (Bytes 32) := do
  let networkEncoding ← (MarketplaceProtocol.encodeNetwork network).mapError
    fun _ => .invalidAgreement
  return Sha256.digest (commitmentDomain ++ [sideCode side] ++ networkEncoding ++ encoded)

def recoveryMarker (side : SwapAssetSide) (commitment : Bytes 32) : Bytes 37 :=
  ⟨markerMagic ++ [sideCode side] ++ commitment.toList, by simp [markerMagic]⟩

def SwapRecoveryPublication.chain (publication : SwapRecoveryPublication) : ChainId :=
  (publication.terms.htlc publication.side).chain

def SwapRecoveryPublication.fromTerms (terms : SwapRecoveryTerms) (side : SwapAssetSide) :
    Except SwapRecoveryPublicationError SwapRecoveryPublication := do
  let limit ← frameDataLimit (terms.htlc side).chain
  let payloadBytes := limit - frameHeaderBytes
  let encoded ← terms.encode
  let count := chunkCount payloadBytes encoded.length
  refuseIf (count = 0 ∨ maxSwapRecoveryFrames < count) .capacity
  refuseIf (UInt8.size ≤ count) .capacity
  let countByte := UInt8.ofNat count
  let frames := ((chunks payloadBytes encoded).zip (List.range countByte.toNat)).map
    fun (payload, index) => recoveryFrame countByte payload index
  let commitment ← recoveryCommitment encoded side terms.network
  return ⟨terms, side, frames, recoveryMarker side commitment⟩

def SwapRecoveryPublication.new (hello : SwapSessionHello) (side : SwapAssetSide)
    (expectedNetwork : NetworkBinding) :
    Except SwapRecoveryPublicationError SwapRecoveryPublication := do
  let terms ← fromHello hello expectedNetwork
  fromTerms terms side

def SwapRecoveryPublication.decode (expectedNetwork : NetworkBinding) (expectedChain : ChainId)
    (marker : List UInt8) (frames : List (List UInt8)) :
    Except SwapRecoveryPublicationError SwapRecoveryPublication := do
  let limit ← frameDataLimit expectedChain
  refuseIf (marker.length ≠ swapRecoveryMarkerBytes ∨ marker.take 4 ≠ markerMagic ∨
    frames = [] ∨ maxSwapRecoveryFrames < frames.length) .invalidPublication
  let side ← okOr (sideOfCode (marker.getD 4 0)) .invalidPublication
  let payloads ← frames.zipIdx.mapM fun (frame, index) =>
    framePayload limit frames.length frame index
  let encoded := payloads.flatten
  let commitment ← recoveryCommitment encoded side expectedNetwork
  refuseIf (marker.drop 5 ≠ commitment.toList) .invalidPublication
  let terms ← SwapRecoveryTerms.decode encoded expectedNetwork
  let publication ← SwapRecoveryPublication.fromTerms terms side
  refuseIf (publication.chain ≠ expectedChain ∨ publication.marker.toList ≠ marker ∨
    publication.frames ≠ frames) .invalidPublication
  return publication

/-! ## What is published is what is decoded -/

variable {terms : SwapRecoveryTerms} {side : SwapAssetSide} {p q : SwapRecoveryPublication}

theorem SwapRecoveryPublication.fromTerms_eq_ok : fromTerms terms side = .ok p ↔
    ∃ limit commitment, frameDataLimit (terms.htlc side).chain = .ok limit ∧
      terms.validate = .ok () ∧
      recoveryCommitment terms.toBytes side terms.network = .ok commitment ∧
      p = ⟨terms, side, recoveryFrames (limit - frameHeaderBytes) terms.toBytes,
        recoveryMarker side commitment⟩ := by
  simp only [fromTerms, encode, ok_iff]
  constructor
  · rintro ⟨limit, hlimit, _, ⟨_, hvalid, ⟨⟩⟩, _, hcount, _, hsize, commitment, hcommitment, hret⟩
    cases hret
    refine ⟨limit, commitment, hlimit, hvalid, hcommitment, ?_⟩
    rw [map_zip_chunks rfl (by omega)]
  · rintro ⟨limit, commitment, hlimit, hvalid, hcommitment, rfl⟩
    obtain ⟨-, -, hpos, hmax⟩ := frameDataLimit_eq_ok hlimit
    rw [← terms.length_toBytes] at hpos hmax
    have hsize : chunkCount (limit - frameHeaderBytes) terms.toBytes.length < UInt8.size :=
      hmax.trans_lt (by decide)
    refine ⟨limit, hlimit, _, ⟨(), hvalid, rfl⟩, (), by omega, (), by omega, commitment,
      hcommitment, ?_⟩
    rw [map_zip_chunks rfl hsize]
    rfl

omit [Sha256] in
theorem SwapRecoveryTerms.htlc_chain (h : terms.validate = .ok ()) (side : SwapAssetSide) :
    (terms.htlc side).chain = .handshake ∨ (terms.htlc side).chain = .bitcoin := by
  rcases (validate_eq_ok h).2 with hns | hbtc <;> cases side
  · exact .inl (by rw [htlc, hns, DirectSwapProtocol.chain_hns])
  · exact .inr (by rw [htlc, hns, if_pos rfl])
  · exact .inr (by rw [htlc, hbtc, DirectSwapProtocol.chain_btc])
  · exact .inl (by rw [htlc, hbtc, if_neg (by decide)])

theorem SwapRecoveryPublication.decode_eq_ok {network : NetworkBinding} {chain : ChainId}
    {marker : List UInt8} {frames : List (List UInt8)}
    (h : decode network chain marker frames = .ok p) :
    p.marker.toList = marker ∧ p.frames = frames ∧ p.chain = chain ∧
      p.terms.network = network ∧ fromTerms p.terms p.side = .ok p := by
  simp only [decode, ok_iff, not_or, not_not] at h
  obtain ⟨limit, hlimit, -, -, side, hside, payloads, hpayloads, commitment, hcommitment, -,
    hdigest, terms, hterms, q, hq, -, ⟨hchain, hmarker, hframes⟩, hret⟩ := h
  cases hret
  have hnetwork := decode_network hterms
  obtain ⟨_, _, -, -, -, rfl⟩ := fromTerms_eq_ok.1 hq
  exact ⟨hmarker, hframes, hchain, hnetwork, hq⟩

theorem SwapRecoveryPublication.decode_of_fromTerms (h : fromTerms terms side = .ok p) :
    decode terms.network (terms.htlc side).chain p.marker.toList p.frames = .ok p := by
  obtain ⟨limit, commitment, hlimit, hvalid, hcommitment, hp⟩ := fromTerms_eq_ok.1 h
  subst hp
  obtain ⟨hpos, hsum, hcount, hmax⟩ := frameDataLimit_eq_ok hlimit
  rw [← terms.length_toBytes] at hcount hmax
  have hlength : (recoveryFrames (limit - frameHeaderBytes) terms.toBytes).length =
      chunkCount (limit - frameHeaderBytes) terms.toBytes.length := by
    simp [recoveryFrames]
  have hne : recoveryFrames (limit - frameHeaderBytes) terms.toBytes ≠ [] := by
    rw [← List.length_pos_iff, hlength]
    exact hcount
  have hside : sideOfCode (sideCode side) = some side := by
    cases side <;> rfl
  have hpayloads := mapM_framePayload hpos hsum (hmax.trans_lt (by decide))
  simp only [decode, ok_iff, not_or, not_lt, not_not]
  refine ⟨limit, hlimit, (), ⟨Bytes.length_eq _, rfl, hne, hlength ▸ hmax⟩, side, hside, _,
    hpayloads, commitment, ?_, (), rfl, terms, ?_, _, h, (), ⟨rfl, rfl, rfl⟩, rfl⟩
  · rw [flatten_chunks hpos]
    exact hcommitment
  · rw [flatten_chunks hpos]
    exact decode_toBytes hvalid

open SwapRecoveryPublication

theorem SwapRecoveryPublication.frames_eq (hp : fromTerms p.terms p.side = .ok p)
    (hq : fromTerms q.terms q.side = .ok q) (hchain : q.chain = p.chain)
    (h : q.frames.length ≠ p.frames.length ∨ q.frames.Perm p.frames ∨
      q.frames.flatMap (List.drop frameHeaderBytes) =
        p.frames.flatMap (List.drop frameHeaderBytes)) : q.frames = p.frames := by
  obtain ⟨limit, _, hlimit, -, -, hpframes⟩ := fromTerms_eq_ok.1 hp
  obtain ⟨limit', _, hlimit', -, -, hqframes⟩ := fromTerms_eq_ok.1 hq
  replace hpframes := congrArg frames hpframes
  replace hqframes := congrArg frames hqframes
  obtain rfl : limit' = limit := by
    have hsame : (p.terms.htlc p.side).chain = (q.terms.htlc q.side).chain := hchain.symm
    rw [hsame, hlimit'] at hlimit
    exact Except.ok.inj hlimit
  obtain ⟨hpos, -, -, hmax⟩ := frameDataLimit_eq_ok hlimit
  have hcount : ∀ terms : SwapRecoveryTerms, chunkCount (limit' - frameHeaderBytes)
      terms.toBytes.length = chunkCount (limit' - frameHeaderBytes) termsBytes := by
    intro terms
    rw [terms.length_toBytes]
  have hindex : ∀ i < chunkCount (limit' - frameHeaderBytes) termsBytes,
      ∀ countByte payload, ((recoveryFrame countByte payload i).getD 2 0).toNat = i := by
    intro i hi countByte payload
    exact UInt8.toNat_ofNat_of_lt' (hi.trans_le (hmax.trans (by decide)))
  rw [hpframes, hqframes] at h ⊢
  rcases h with hlength | hperm | hpayload
  · simp [recoveryFrames, hcount] at hlength
  · simp only [recoveryFrames, hcount] at hperm ⊢
    exact eq_of_map_range_perm (fun frame => (frame.getD 2 0).toNat)
      (fun i hi => hindex i hi _ _) (fun i hi => hindex i hi _ _) hperm
  · rw [flatMap_drop_recoveryFrames hpos, flatMap_drop_recoveryFrames hpos] at hpayload
    rw [hpayload]

/-- Publications decode to exactly what was published, and nothing else decodes: not a
list of frames that is shorter or longer, in another order or cut elsewhere. -/
theorem recovery_publications_decode_exactly
    (hencode : ∀ network, MarketplaceProtocol.validateForPair network = .ok () →
      ∃ bytes, MarketplaceProtocol.encodeNetwork network = .ok bytes) :
    (∀ terms side, terms.validate = .ok () → ∃ p,
      fromTerms terms side = .ok p ∧ p.terms = terms ∧ p.side = side ∧
      SwapRecoveryPublication.decode terms.network (terms.htlc side).chain p.marker.toList
        p.frames = .ok p) ∧
    (∀ network chain marker frames p,
      SwapRecoveryPublication.decode network chain marker frames = .ok p →
      p.marker.toList = marker ∧ p.frames = frames ∧ p.chain = chain ∧
      p.terms.validate = .ok () ∧ p.terms.network = network ∧
      fromTerms p.terms p.side = .ok p) ∧
    ∀ terms side p network marker frames,
      fromTerms terms side = .ok p → frames ≠ p.frames →
      (frames.length ≠ p.frames.length ∨ frames.Perm p.frames ∨
        frames.flatMap (List.drop frameHeaderBytes) =
          p.frames.flatMap (List.drop frameHeaderBytes)) →
      ∀ q, SwapRecoveryPublication.decode network (terms.htlc side).chain marker
        frames ≠ .ok q := by
  refine ⟨?published, ?decoded, ?rejected⟩
  case published =>
    intro terms side hvalid
    obtain ⟨limit, hlimit⟩ : ∃ limit, frameDataLimit (terms.htlc side).chain = .ok limit := by
      rcases terms.htlc_chain hvalid side with hchain | hchain <;> rw [hchain]
      · exact ⟨40, rfl⟩
      · exact ⟨80, rfl⟩
    obtain ⟨bytes, hbytes⟩ := hencode _ (SwapRecoveryTerms.validate_eq_ok hvalid).1
    have hcommitment : recoveryCommitment terms.toBytes side terms.network =
        .ok (Sha256.digest (commitmentDomain ++ [sideCode side] ++ bytes ++ terms.toBytes)) := by
      rw [recoveryCommitment, hbytes]
      rfl
    have hp := fromTerms_eq_ok.2
      ⟨limit, _, hlimit, hvalid, hcommitment, rfl⟩
    exact ⟨_, hp, rfl, rfl, decode_of_fromTerms hp⟩
  case decoded =>
    intro network chain marker frames p h
    obtain ⟨hmarker, hframes, hchain, hnetwork, hp⟩ := decode_eq_ok h
    obtain ⟨_, _, -, hvalid, -, -⟩ := fromTerms_eq_ok.1 hp
    exact ⟨hmarker, hframes, hchain, hvalid, hnetwork, hp⟩
  case rejected =>
    intro terms side p network marker frames hp hne hchanged q hq
    obtain ⟨-, rfl, hchain, -, hq⟩ := decode_eq_ok hq
    obtain ⟨_, _, -, -, -, rfl⟩ := fromTerms_eq_ok.1 hp
    exact hne (frames_eq hp hq hchain hchanged)

end Publications

namespace Sample

open SwapRecoveryPublication

attribute [local instance] sha256 keys protocol

def recoveryTerms : SwapRecoveryTerms :=
  ⟨network, sessionId.bytes, offer.offerId, makerKey, takerKey, hashlock, .hns, 5000000, 100000,
    1700020224, 1700010000, 2, 1⟩

theorem recovery_publications_decode_exactly_sample :
    recoveryTerms.validate = .ok () ∧ ∃ p : SwapRecoveryPublication,
      fromTerms recoveryTerms .offered = .ok p ∧
      p.frames.length = 6 ∧
      SwapRecoveryPublication.decode network .handshake p.marker.toList p.frames = .ok p := by
  have hencode : ∀ n, MarketplaceProtocol.validateForPair n = .ok () →
      ∃ bytes, MarketplaceProtocol.encodeNetwork n = .ok bytes := by
    intro n hn
    by_cases heq : n = network
    · subst heq
      exact ⟨[1], rfl⟩
    · simp [MarketplaceProtocol.validateForPair, heq] at hn
  have hvalid : recoveryTerms.validate = .ok () := by rfl
  obtain ⟨p, hp, -, -, hdecode⟩ :=
    (recovery_publications_decode_exactly hencode).1 recoveryTerms .offered hvalid
  obtain ⟨limit, _, hlimit, -, -, hframes⟩ := fromTerms_eq_ok.1 hp
  cases hlimit
  refine ⟨hvalid, p, hp, ?_, hdecode⟩
  rw [hframes, recoveryFrames, List.length_map, List.length_range,
    SwapRecoveryTerms.length_toBytes]
  rfl

end Sample

end HnsWallet
