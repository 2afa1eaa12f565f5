import HnsWallet.Lib.Chunks
import HnsWallet.Store.Store

/-! # Associated data -/

namespace HnsWallet

open Lib

def asBytes (text : String) : List UInt8 := text.toUTF8.data.toList

def EntityKind.label : EntityKind → String
  | .walletAccount => "wallet_account"
  | .nativeHnsReadProfile => "native_hns_read_profile"
  | .derivedAddress => "derived_address"
  | .hnsUtxo => "hns_utxo"
  | .hnsTransaction => "hns_transaction"
  | .hnsLightChain => "hns_light_chain"
  | .hnsLightWallet => "hns_light_wallet"
  | .knownName => "known_name"
  | .nameOwnerOutpoint => "name_owner_outpoint"
  | .nameTransfer => "name_transfer"
  | .shakedex => "shakedex"
  | .hnsShakedexKeyAllocation => "hns_shakedex_key_allocation"
  | .hnsaHnsrPublisherSequence => "hnsa_hnsr_publisher_sequence"
  | .shakescapeBoardObject => "shakescape_board_object"
  | .bitcoinHeader => "bitcoin_header"
  | .bitcoinFilterHeader => "bitcoin_filter_header"
  | .bitcoinPeer => "bitcoin_peer"
  | .bitcoinWalletState => "bitcoin_wallet_state"
  | .bitcoinWalletChangeSet => "bitcoin_wallet_changeset"
  | .bitcoinScanState => "bitcoin_scan_state"
  | .bitcoinSwapKeyAllocation => "bitcoin_swap_key_allocation"
  | .bitcoinSwapWatch => "bitcoin_swap_watch"
  | .crossChainSwapKeyAllocation => "cross_chain_swap_key_allocation"
  | .bitcoinUtxo => "bitcoin_utxo"
  | .bitcoinTransaction => "bitcoin_transaction"
  | .ethereumAccount => "ethereum_account"
  | .ethereumTransaction => "ethereum_transaction"
  | .swapSession => "swap_session"
  | .swapFundingAuthorization => "swap_funding_authorization"
  | .refundTransaction => "refund_transaction"
  | .hnsRecoveryState => "hns_recovery_state"
  | .hnsShakescapeWatch => "hns_shakescape_watch"
  | .hnsVerifiedSettlement => "hns_verified_settlement"
  | .pendingApproval => "pending_approval"
  | .inputReservation => "input_reservation"

def SecretKind.label : SecretKind → String
  | .recoverySeed => "recovery_seed"
  | .privateKey => "private_key"
  | .metadataKey => "metadata_key"
  | .htlcPreimage => "htlc_preimage"
  | .providerCapability => "provider_capability"
  | .sessionAuthorization => "session_authorization"

def workflowKind : WorkflowKind → String
  | .hnsSend => "hns_send"
  | .nameTransfer => "name_transfer"
  | .nameFinalize => "name_finalize"
  | .nameUpdate => "name_update"
  | .shakedexSeller => "shakedex_seller"
  | .shakedexBuyer => "shakedex_buyer"
  | .shakedexSellerPlan => "shakedex_seller_plan"
  | .shakedexBuyerPlan => "shakedex_buyer_plan"
  | .shakedexSellerOffer => "shakedex_seller_offer"
  | .shakedexValue => "shakedex_value"
  | .directOffer => "direct_offer"
  | .directOfferAcceptance => "direct_offer_acceptance"
  | .atomicSwap => "atomic_swap"
  | .refund => "refund"

def aadDomain : List UInt8 := asBytes "hns-wallet-store/record/v1"

def entityLabel (kind : EntityKind) : String := "entity/" ++ kind.label

def workflowLabel (kind : WorkflowKind) : String := "workflow/" ++ workflowKind kind

def recordAad (databaseId : Bytes 16) (kind : String) (id : List UInt8) :
    Except StoreError (List UInt8) := do
  refuseIf (id.length = 0 ∨ maxRecordIdBytes + 64 < id.length) .invalidRecordId
  refuseIf ((asBytes kind).length = 0 ∨ 64 < (asBytes kind).length) .invalidRecordId
  return aadDomain ++ (databaseId.toList ++ (asBytes kind ++ 0 :: id))

def toBeBytes (value : UInt64) : List UInt8 := beBytes 8 value.toNat

def revisionedAadId (id : List UInt8) (revision updatedAtUnix : UInt64)
    (broadcastPrepared : Option Bool) : Except StoreError (List UInt8) := do
  validateId id
  return id ++ (toBeBytes revision ++ (toBeBytes updatedAtUnix ++
    (broadcastPrepared.map Bool.toUInt8).toList))

def permissionRecordId (originToken : Bytes 32) (generation : UInt64) (revoked : Bool)
    (updatedAtUnix : UInt64) : List UInt8 :=
  originToken.toList ++ (toBeBytes generation ++ ([revoked.toUInt8] ++ toBeBytes updatedAtUnix))

def approvalRecordId (id : Bytes 16) (originToken : Bytes 32) (expiresAtUnix : UInt64) :
    List UInt8 :=
  id.toList ++ (originToken.toList ++ toBeBytes expiresAtUnix)

def replayRecordId (originToken : Bytes 32) (nonce expiresAtUnix : UInt64) : List UInt8 :=
  originToken.toList ++ (toBeBytes nonce ++ toBeBytes expiresAtUnix)

def validateOrigin (origin : String) : Except StoreError Unit :=
  refuseIf ((asBytes origin).length = 0 ∨ 512 < (asBytes origin).length ∨
    ¬(asBytes origin).all (· < 128)) .invalidOrigin

/-- The keyed hash of an origin, and the authenticated cipher.  The cipher is
ideal: what was sealed opens to what was sealed, and under no other associated
data. -/
class RecordCipher where
  originToken : Bytes 32 → Bytes 16 → String → Bytes 32
  encrypt : Bytes 32 → List UInt8 → (aad msg : List UInt8) → Option (List UInt8)
  decrypt : Bytes 32 → List UInt8 → (aad ciphertext : List UInt8) → Option (List UInt8)
  decrypt_encrypt {key nonce aad msg ciphertext} :
    encrypt key nonce aad msg = some ciphertext → decrypt key nonce aad ciphertext = some msg
  decrypt_moved {key nonce aad aad' msg ciphertext} :
    encrypt key nonce aad msg = some ciphertext → aad ≠ aad' →
      decrypt key nonce aad' ciphertext = none

section

variable [RecordCipher] (key : Bytes 32) (databaseId : Bytes 16)

def encryptRecord (nonce : Option (Bytes 24)) (kind : String) (id cleartext : List UInt8) :
    Except StoreError (List UInt8) := do
  refuseIf (cleartext.length = 0 ∨ maxSecretBytes < cleartext.length) .recordTooLarge
  let nonce ← okOr nonce .randomness
  let aad ← recordAad databaseId kind id
  let ciphertext ← okOr (RecordCipher.encrypt key nonce.toList aad cleartext) .encryption
  return nonce.toList ++ ciphertext

def validateEncryptedRecordLength (length : Nat) : Except StoreError Unit :=
  refuseIf (length ≤ 24 ∨ maxSecretBytes + 24 + 16 < length) .encryption

def decryptRecord (kind : String) (id envelope : List UInt8) : Except StoreError (List UInt8) := do
  validateEncryptedRecordLength envelope.length
  let aad ← recordAad databaseId kind id
  okOr (RecordCipher.decrypt key (envelope.take 24) aad (envelope.drop 24)) .encryption

end

inductive RecordSpace where
  | secret (kind : SecretKind)
  | entity (kind : EntityKind)
  | workflow (kind : WorkflowKind)
  | permission
  | approval
  | replay
deriving DecidableEq

def RecordSpace.label : RecordSpace → String
  | .secret kind => kind.label
  | .entity kind => entityLabel kind
  | .workflow kind => workflowLabel kind
  | .permission => "provider_permission"
  | .approval => "pending_approval"
  | .replay => "replay_origin"

inductive LogicalRecord where
  | secret (kind : SecretKind) (id : RecordId)
  | entity (kind : EntityKind) (id : RecordId) (revision updatedAtUnix : UInt64)
  | workflow (kind : WorkflowKind) (id : WorkflowId) (revision updatedAtUnix : UInt64)
    (irreversibleBroadcastPrepared : Bool)
  | permission (origin : String) (generation : UInt64) (revoked : Bool) (updatedAtUnix : UInt64)
  | approval (id : Bytes 16) (origin : String) (expiresAtUnix : UInt64)
  | replay (origin : String) (nonce expiresAtUnix : UInt64)
deriving DecidableEq

namespace LogicalRecord

def space : LogicalRecord → RecordSpace
  | .secret kind _ => .secret kind
  | .entity kind _ _ _ => .entity kind
  | .workflow kind _ _ _ _ => .workflow kind
  | .permission .. => .permission
  | .approval .. => .approval
  | .replay .. => .replay

def origin : LogicalRecord → Option String
  | .permission origin _ _ _ | .approval _ origin _ | .replay origin _ _ => some origin
  | _ => none

def Accepted : LogicalRecord → Prop
  | .secret _ id | .entity _ id _ _ => validateId id = .ok ()
  | .workflow .. => True
  | .permission origin _ _ _ | .approval _ origin _ | .replay origin _ _ =>
    validateOrigin origin = .ok ()

variable [RecordCipher] (key : Bytes 32) (databaseId : Bytes 16)

def aadId : LogicalRecord → Except StoreError (List UInt8)
  | .secret _ id => do
    validateId id
    return id
  | .entity _ id revision updatedAtUnix => revisionedAadId id revision updatedAtUnix none
  | .workflow _ id revision updatedAtUnix prepared =>
    revisionedAadId id.bytes.toList revision updatedAtUnix (some prepared)
  | .permission origin generation revoked updatedAtUnix => do
    validateOrigin origin
    return permissionRecordId (RecordCipher.originToken key databaseId origin) generation revoked
      updatedAtUnix
  | .approval id origin expiresAtUnix => do
    validateOrigin origin
    return approvalRecordId id (RecordCipher.originToken key databaseId origin) expiresAtUnix
  | .replay origin nonce expiresAtUnix => do
    validateOrigin origin
    return replayRecordId (RecordCipher.originToken key databaseId origin) nonce expiresAtUnix

def aad (record : LogicalRecord) : Except StoreError (List UInt8) := do
  recordAad databaseId record.space.label (← record.aadId key databaseId)

def encrypt (record : LogicalRecord) (nonce : Option (Bytes 24)) (cleartext : List UInt8) :
    Except StoreError (List UInt8) := do
  encryptRecord key databaseId nonce record.space.label (← record.aadId key databaseId) cleartext

def decrypt (record : LogicalRecord) (envelope : List UInt8) : Except StoreError (List UInt8) := do
  decryptRecord key databaseId record.space.label (← record.aadId key databaseId) envelope

end LogicalRecord

namespace RecordSpace

def all : List RecordSpace :=
  (List.range 6).map (.secret ∘ SecretKind.ofNat) ++
    ((List.range 35).map (.entity ∘ EntityKind.ofNat) ++
      ((List.range 14).map (.workflow ∘ WorkflowKind.ofNat) ++ [.permission, .approval, .replay]))

theorem mem_all (space : RecordSpace) : space ∈ all := by
  cases space with
  | secret kind => cases kind <;> decide
  | entity kind => cases kind <;> decide
  | workflow kind => cases kind <;> decide
  | permission | approval | replay => decide

theorem nodup_labels : (all.map fun space => asBytes space.label).Nodup := by
  decide +kernel

theorem label_shape : ∀ space ∈ all, 0 ∉ asBytes space.label ∧
    ¬((asBytes space.label).length = 0 ∨ 64 < (asBytes space.label).length) := by
  decide +kernel

theorem eq_of_label_append {space space' : RecordSpace} {id id' : List UInt8}
    (h : asBytes space.label ++ 0 :: id = asBytes space'.label ++ 0 :: id') :
    space = space' ∧ id = id' := by
  obtain ⟨hlabel, rfl⟩ := append_cons_inj (label_shape space space.mem_all).1
    (label_shape space' space'.mem_all).1 h
  exact ⟨List.inj_on_of_nodup_map nodup_labels space.mem_all space'.mem_all hlabel, rfl⟩

end RecordSpace

theorem toBeBytes_inj {a b : UInt64} (h : toBeBytes a = toBeBytes b) : a = b := by
  have hread := congrArg ofBeBytes h
  simp only [toBeBytes] at hread
  rw [ofBeBytes_beBytes a.toNat_lt, ofBeBytes_beBytes b.toNat_lt] at hread
  exact UInt64.toNat_inj.1 hread

@[simp] theorem length_toBeBytes (value : UInt64) : (toBeBytes value).length = 8 :=
  length_beBytes 8 _

theorem toBeBytes_append_inj {a b : UInt64} {xs ys : List UInt8}
    (h : toBeBytes a ++ xs = toBeBytes b ++ ys) : a = b ∧ xs = ys := by
  obtain ⟨hhead, hrest⟩ := List.append_inj h (by simp)
  exact ⟨toBeBytes_inj hhead, hrest⟩

theorem toUInt8_iff {a b : Bool} : a.toUInt8 = b.toUInt8 ↔ a = b := by
  cases a <;> cases b <;> decide

theorem revisionedAadId_inj {id id' aadId : List UInt8}
    {revision revision' updated updated' : UInt64} {prepared prepared' : Option Bool}
    (hflag : prepared.isSome = prepared'.isSome)
    (h : revisionedAadId id revision updated prepared = .ok aadId)
    (h' : revisionedAadId id' revision' updated' prepared' = .ok aadId) :
    id = id' ∧ revision = revision' ∧ updated = updated' ∧ prepared = prepared' := by
  simp only [revisionedAadId, ok_iff] at h h'
  obtain ⟨-, -, hret⟩ := h
  cases hret
  obtain ⟨-, -, hret⟩ := h'
  obtain ⟨rfl, htail⟩ := List.append_inj' (Except.ok.inj hret) (by
    cases prepared <;> cases prepared' <;> simp_all)
  obtain ⟨hrevision, hrest⟩ := toBeBytes_append_inj htail
  obtain ⟨hupdated, hflags⟩ := toBeBytes_append_inj hrest
  refine ⟨rfl, hrevision.symm, hupdated.symm, ?_⟩
  cases prepared <;> cases prepared' <;> simp_all [toUInt8_iff]

namespace LogicalRecord

variable [RecordCipher] {key : Bytes 32} {databaseId : Bytes 16} {record record' : LogicalRecord}

def TokensApart (key : Bytes 32) (databaseId : Bytes 16) (record record' : LogicalRecord) : Prop :=
  ∀ origin ∈ record.origin, ∀ origin' ∈ record'.origin,
    RecordCipher.originToken key databaseId origin =
      RecordCipher.originToken key databaseId origin' → origin = origin'

theorem eq_of_aadId {id : List UInt8} (hspace : record.space = record'.space)
    (htokens : TokensApart key databaseId record record') (h : record.aadId key databaseId = .ok id)
    (h' : record'.aadId key databaseId = .ok id) :
    record = record' := by
  cases record <;> cases record' <;> cases hspace <;>
    simp only [aadId, ok_iff, pure, Except.pure, Except.ok.injEq] at h h'
  case secret =>
    obtain ⟨-, -, rfl⟩ := h
    obtain ⟨-, -, rfl⟩ := h'
    rfl
  case entity =>
    obtain ⟨rfl, rfl, rfl, -⟩ := revisionedAadId_inj (by rfl) h h'
    rfl
  case workflow kind id _ _ _ id' _ _ _ =>
    obtain ⟨hid, rfl, rfl, hflag⟩ := revisionedAadId_inj (by rfl) h h'
    obtain ⟨bytes⟩ := id
    obtain ⟨bytes'⟩ := id'
    cases Bytes.ext hid
    cases hflag
    rfl
  case permission =>
    obtain ⟨-, -, rfl⟩ := h
    obtain ⟨-, -, h'⟩ := h'
    obtain ⟨htoken, htail⟩ := Bytes.append_inj h'
    obtain ⟨hgeneration, hrest⟩ := toBeBytes_append_inj htail
    obtain ⟨hflag, hupdated⟩ := List.cons_eq_cons.1 hrest
    cases htokens _ rfl _ rfl htoken.symm
    rw [hgeneration, toUInt8_iff.1 hflag, toBeBytes_inj hupdated]
  case approval =>
    obtain ⟨-, -, rfl⟩ := h
    obtain ⟨-, -, h'⟩ := h'
    obtain ⟨hid, htail⟩ := Bytes.append_inj h'
    obtain ⟨htoken, hexpires⟩ := Bytes.append_inj htail
    cases htokens _ rfl _ rfl htoken.symm
    rw [hid, toBeBytes_inj hexpires]
  case replay =>
    obtain ⟨-, -, rfl⟩ := h
    obtain ⟨-, -, h'⟩ := h'
    obtain ⟨htoken, htail⟩ := Bytes.append_inj h'
    obtain ⟨hnonce, hexpires⟩ := toBeBytes_append_inj htail
    cases htokens _ rfl _ rfl htoken.symm
    rw [hnonce, toBeBytes_inj hexpires]

theorem aadId_accepted (key : Bytes 32) (databaseId : Bytes 16) (h : record.Accepted) :
    ∃ id, record.aadId key databaseId = .ok id ∧
      ¬(id.length = 0 ∨ maxRecordIdBytes + 64 < id.length) := by
  cases record with
  | secret kind id | entity kind id revision updatedAtUnix =>
    have hlength : ¬(id.length = 0 ∨ maxRecordIdBytes < id.length) := by
      simpa only [Accepted, validateId, ok_iff] using h
    refine ⟨_, by rw [aadId]; first | rw [revisionedAadId, h]; rfl | rw [h]; rfl, ?_⟩
    simp only [maxRecordIdBytes, List.length_append, length_toBeBytes, Option.map_none,
      Option.toList_none, List.length_nil] at hlength ⊢
    omega
  | workflow kind id revision updatedAtUnix prepared =>
    have hvalid : validateId id.bytes.toList = .ok () := by
      simp [validateId, refuseIf, maxRecordIdBytes]
    refine ⟨_, by rw [aadId, revisionedAadId, hvalid]; rfl, ?_⟩
    simp [maxRecordIdBytes]
  | permission | approval | replay =>
    refine ⟨_, by rw [aadId, h]; rfl, ?_⟩
    simp [maxRecordIdBytes, permissionRecordId, approvalRecordId, replayRecordId]

theorem aad_accepted (key : Bytes 32) (databaseId : Bytes 16) (h : record.Accepted) :
    ∃ id, record.aadId key databaseId = .ok id ∧ record.aad key databaseId =
      .ok (aadDomain ++ (databaseId.toList ++ (asBytes record.space.label ++ 0 :: id))) := by
  obtain ⟨id, hid, hlength⟩ := aadId_accepted key databaseId h
  have hlabel := (RecordSpace.label_shape _ record.space.mem_all).2
  refine ⟨id, hid, ?_⟩
  rw [aad, hid]
  change recordAad databaseId record.space.label id = _
  simp only [recordAad, refuseIf, if_neg hlength, if_neg hlabel]
  rfl

theorem eq_of_aad {bytes : List UInt8} (h : record.Accepted) (h' : record'.Accepted)
    (htokens : TokensApart key databaseId record record')
    (haad : record.aad key databaseId = .ok bytes)
    (haad' : record'.aad key databaseId = .ok bytes) :
    record = record' := by
  obtain ⟨id, hid, hbytes⟩ := aad_accepted key databaseId h
  obtain ⟨id', hid', hbytes'⟩ := aad_accepted key databaseId h'
  have heq := Except.ok.inj (hbytes.symm.trans (haad.trans (haad'.symm.trans hbytes')))
  obtain ⟨hspace, rfl⟩ :=
    RecordSpace.eq_of_label_append (List.append_cancel_left (List.append_cancel_left heq))
  exact eq_of_aadId hspace htokens hid hid'

theorem encrypt_eq_ok {nonce : Option (Bytes 24)} {cleartext envelope : List UInt8}
    (h : record.encrypt key databaseId nonce cleartext = .ok envelope) :
    ∃ (drawn : Bytes 24) (aad ciphertext : List UInt8), record.aad key databaseId = .ok aad ∧
      RecordCipher.encrypt key drawn.toList aad cleartext = some ciphertext ∧
      envelope = drawn.toList ++ ciphertext := by
  simp only [encrypt, encryptRecord, ok_iff] at h
  obtain ⟨id, hid, -, -, drawn, -, aad, haad, ciphertext, hseal, hret⟩ := h
  cases hret
  exact ⟨drawn, aad, ciphertext, by rw [LogicalRecord.aad, hid]; exact haad, hseal, rfl⟩

theorem decrypt_append {nonce : Bytes 24} {aad ciphertext : List UInt8}
    (haad : record.aad key databaseId = .ok aad) :
    record.decrypt key databaseId (nonce.toList ++ ciphertext) = (do
      validateEncryptedRecordLength (nonce.toList ++ ciphertext).length
      okOr (RecordCipher.decrypt key nonce.toList aad ciphertext) .encryption) := by
  obtain ⟨id, hid, hrecord⟩ := ok_bind_iff.1 haad
  rw [decrypt, hid]
  change decryptRecord key databaseId record.space.label id _ = _
  rw [decryptRecord, hrecord, List.take_left' nonce.length_eq, List.drop_left' nonce.length_eq]
  rfl

/-- Two rows that differ in any of table, kind, id, revision, flag, origin,
generation, nonce or expiry have different associated data, and what was
encrypted for the one never decrypts as the other. -/
theorem ciphertext_bound_to_record (key : Bytes 32) (databaseId : Bytes 16)
    {record record' : LogicalRecord} (h : record.Accepted) (h' : record'.Accepted)
    (hne : record ≠ record') (htokens : TokensApart key databaseId record record') :
    ∃ aad aad', record.aad key databaseId = .ok aad ∧ record'.aad key databaseId = .ok aad' ∧
      aad ≠ aad' ∧
      ∀ nonce cleartext envelope, record.encrypt key databaseId nonce cleartext = .ok envelope →
        record'.decrypt key databaseId envelope = .error .encryption ∧
        (validateEncryptedRecordLength envelope.length = .ok () →
          record.decrypt key databaseId envelope = .ok cleartext) := by
  obtain ⟨id, -, haad⟩ := aad_accepted key databaseId h
  obtain ⟨id', -, haad'⟩ := aad_accepted key databaseId h'
  refine ⟨_, _, haad, haad', fun heq => hne (eq_of_aad h h' htokens haad (heq ▸ haad')), ?_⟩
  intro nonce cleartext envelope hseal
  obtain ⟨drawn, aad, ciphertext, hown, hcipher, rfl⟩ := encrypt_eq_ok hseal
  have hother : aad ≠ _ := fun heq => hne (eq_of_aad h h' htokens hown (heq ▸ haad'))
  rw [decrypt_append haad', decrypt_append hown, RecordCipher.decrypt_moved hcipher hother,
    RecordCipher.decrypt_encrypt hcipher]
  refine ⟨?_, fun hlength => by rw [hlength]; rfl⟩
  unfold validateEncryptedRecordLength refuseIf
  split <;> rfl

end LogicalRecord

namespace Sample

/-- A toy cipher that writes the associated data out, its length in unary. -/
instance : RecordCipher where
  originToken _ _ origin := ⟨(asBytes origin ++ List.replicate 32 0).take 32, by simp⟩
  encrypt _ _ aad msg := some ((List.replicate aad.length 1 ++ 0 :: aad) ++ msg)
  decrypt _ _ aad ciphertext :=
    if (List.replicate aad.length 1 ++ 0 :: aad) <+: ciphertext then
      some (ciphertext.drop (List.replicate aad.length (1 : UInt8) ++ 0 :: aad).length)
    else none
  decrypt_encrypt h := by
    cases h
    rw [if_pos (List.prefix_append _ _), List.drop_left]
  decrypt_moved {_ _ aad aad' msg _} h hne := by
    cases h
    refine if_neg fun hprefix => ?_
    obtain ⟨rest, hrest⟩ := hprefix
    rw [List.append_assoc, List.append_assoc] at hrest
    obtain ⟨hlength, htail⟩ := append_cons_inj (by simp) (by simp) hrest
    exact hne (List.append_inj htail (by simpa using congrArg List.length hlength)).1.symm

def approvalRecord (expiresAtUnix : UInt64) : LogicalRecord :=
  .approval (Bytes.replicate 16 7) "https://shop.example" expiresAtUnix

theorem approvalRecord_bound :
    (approvalRecord 100).Accepted ∧ approvalRecord 100 ≠ approvalRecord 200 ∧
      ∃ envelope, (approvalRecord 100).encrypt (Bytes.replicate 32 1) (Bytes.replicate 16 2)
        (some (Bytes.replicate 24 3)) [4] = .ok envelope ∧
        (approvalRecord 200).decrypt (Bytes.replicate 32 1) (Bytes.replicate 16 2) envelope =
          .error .encryption := by
  have haccepted : ∀ expires, (approvalRecord expires).Accepted := fun _ => by
    change validateOrigin "https://shop.example" = .ok ()
    decide +kernel
  obtain ⟨aad, aad', haad, haad', hne, hmoved⟩ := LogicalRecord.ciphertext_bound_to_record
    (Bytes.replicate 32 1) (Bytes.replicate 16 2) (haccepted 100) (haccepted 200) (by decide)
    (fun origin ho origin' ho' _ => by cases ho; cases ho'; rfl)
  have hsealed : (approvalRecord 100).encrypt (Bytes.replicate 32 1) (Bytes.replicate 16 2)
      (some (Bytes.replicate 24 3)) [4] = .ok _ := rfl
  exact ⟨haccepted 100, by decide, _, hsealed, (hmoved _ _ _ hsealed).1⟩

end Sample

end HnsWallet
