import HnsWallet.Types

/-! # The marketplace protocol, as the wallet sees it

The codecs, signatures and time checks of the signed objects are not part of this repository:
they are the members of `MarketplaceProtocol`. -/

namespace HnsWallet

open Lib

class Sha256 where
  digest : List UInt8 → Bytes 32

inductive AssetId where
  | hns
  | btc
  | other (code : UInt32)
deriving DecidableEq, Repr

inductive ChainId where
  | handshake
  | bitcoin
  | other (code : UInt32)
deriving DecidableEq, Repr

inductive DeadlineKind where
  | unixTime
  | blockHeight
deriving DecidableEq, Repr

structure SettlementDeadline where
  kind : DeadlineKind
  value : UInt64
deriving DecidableEq

structure NetworkBinding where
  hnsMagic : UInt32
  hnsGenesis : Bytes 32
  counterchain : ChainId
  counterchainNetwork : UInt32
  counterchainGenesis : Bytes 32
deriving DecidableEq

structure SignedObjectHeader where
  network : NetworkBinding
  signerPublicKey : Bytes 33
  sequence : UInt64
  createdAt : UInt64
  expiresAt : UInt64
deriving DecidableEq

structure SwapSessionHello where
  header : SignedObjectHeader
  directOfferId : Bytes 32
  swapSessionId : Bytes 32
  makerSettlementPublicKey : Bytes 33
  takerSettlementPublicKey : Bytes 33
  offeredAsset : AssetId
  offeredAmount : BaseUnits
  receivedAsset : AssetId
  receivedAmount : BaseUnits
  hashlock : Bytes 32
  firstFundingChain : ChainId
  offeredLockCommitment : Bytes 32
  offeredRefundDeadline : SettlementDeadline
  offeredMinimumConfirmations : UInt32
  receivedLockCommitment : Bytes 32
  receivedRefundDeadline : SettlementDeadline
  receivedMinimumConfirmations : UInt32
  makerSignature : Bytes 64
  takerSignature : Bytes 64
deriving DecidableEq

inductive SwapAssetSide where
  | offered
  | received
deriving DecidableEq, Repr

def SwapSessionHello.lockKeys (hello : SwapSessionHello) : SwapAssetSide → Bytes 33 × Bytes 33
  | .offered => (hello.takerSettlementPublicKey, hello.makerSettlementPublicKey)
  | .received => (hello.makerSettlementPublicKey, hello.takerSettlementPublicKey)

structure HnsHtlc where
  value : UInt64
  hashlock : Bytes 32
  receiverPublicKey : Bytes 33
  refundPublicKey : Bytes 33
  refundLocktime : UInt32
deriving DecidableEq

structure HnsHtlcBinding where
  descriptor : HnsHtlc
  descriptorHash : Bytes 32
deriving DecidableEq

inductive MarketplaceError where
  | expired
  | rejected
deriving DecidableEq, Repr

/-- What the wallet calls of the protocol library. -/
class MarketplaceProtocol where
  chain : AssetId → ChainId
  decodeHello : List UInt8 → Except MarketplaceError SwapSessionHello
  encodeHello : SwapSessionHello → Except MarketplaceError (List UInt8)
  /-- Both signatures and the agreement's own consistency, at no particular time. -/
  verifyAgreement : SwapSessionHello → NetworkBinding → Except MarketplaceError Unit
  verifyNewFundingAt : SwapSessionHello → NetworkBinding → UInt64 → Except MarketplaceError Unit
  validateForPair : NetworkBinding → Except MarketplaceError Unit
  encodeNetwork : NetworkBinding → Except MarketplaceError (List UInt8)
  buildHnsHtlc : SwapSessionHello → SwapAssetSide → Bytes 33 → Bytes 33 →
    Except MarketplaceError HnsHtlcBinding
  hnsRefundTimeLock : SettlementDeadline → Except MarketplaceError UInt64

structure ShakescapeDirectOfferBoardPolicy where
  network : NetworkBinding
  fingerprint : ObjectHash

structure ShakescapeDirectSwapPolicy where
  boardPolicy : ShakescapeDirectOfferBoardPolicy
  fingerprint : ObjectHash

def ShakescapeDirectSwapPolicy.network (policy : ShakescapeDirectSwapPolicy) : NetworkBinding :=
  policy.boardPolicy.network

end HnsWallet
