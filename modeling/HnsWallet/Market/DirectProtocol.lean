import HnsWallet.Market.Protocol

/-! # The messages of a negotiation -/

namespace HnsWallet

open Lib

structure DirectOffer where
  header : SignedObjectHeader
  offerId : Bytes 32
  swapSessionId : Bytes 32
  offerSetterSettlementPublicKey : Bytes 33
  offeredAsset : AssetId
  offeredAmount : BaseUnits
  receivedAsset : AssetId
  receivedAmount : BaseUnits
  signature : Bytes 64
deriving DecidableEq

structure DirectOfferCancellation where
  header : SignedObjectHeader
  offerId : Bytes 32
  signature : Bytes 64
deriving DecidableEq

structure DirectOfferAcceptance where
  header : SignedObjectHeader
  offerId : Bytes 32
  swapSessionId : Bytes 32
  respondingMakerSettlementPublicKey : Bytes 33
  signature : Bytes 64
deriving DecidableEq

structure SwapSessionProposal where
  terms : SwapSessionHello
deriving DecidableEq

inductive FundingState where
  | broadcast
  | seen
  | confirmed
  | reorged
deriving DecidableEq, Repr

structure SwapFundingStatus where
  header : SignedObjectHeader
  swapSessionId : Bytes 32
  chain : ChainId
  lockCommitment : Bytes 32
  transactionId : Bytes 32
  outputIndex : UInt32
  amount : BaseUnits
  confirmations : UInt32
  state : FundingState
  signature : Bytes 64
deriving DecidableEq

structure SwapSettlementStatus where
  header : SignedObjectHeader
  swapSessionId : Bytes 32
  signature : Bytes 64
deriving DecidableEq

structure SwapWatchReady where
  header : SignedObjectHeader
  swapSessionId : Bytes 32
  chain : ChainId
  lockCommitment : Bytes 32
  minimumConfirmations : UInt32
  signature : Bytes 64
deriving DecidableEq

inductive CrossChainMessage where
  | directOfferInventory (offerIds : List (Bytes 32))
  | getDirectOffer (offerId : Bytes 32)
  | directOffer (offer : DirectOffer)
  | cancelDirectOffer (cancellation : DirectOfferCancellation)
  | acceptDirectOffer (acceptance : DirectOfferAcceptance)
  | swapSessionProposal (proposal : SwapSessionProposal)
  | swapSessionHello (hello : SwapSessionHello)
  | swapFundingStatus (status : SwapFundingStatus)
  | swapRedeemStatus (status : SwapSettlementStatus)
  | swapRefundStatus (status : SwapSettlementStatus)
  | swapWatchReady (ready : SwapWatchReady)
deriving DecidableEq

structure Codec (α : Type) where
  encode : α → Except MarketplaceError (List UInt8)
  decode : List UInt8 → Except MarketplaceError α
  decode_encode {a : α} {bytes : List UInt8} : encode a = .ok bytes → decode bytes = .ok a

/-- What the wallet calls of the protocol library while it negotiates.  The checks
cover signatures, identities, amounts and times, at the time they are given. -/
class DirectSwapProtocol extends MarketplaceProtocol where
  chain_hns : chain .hns = .handshake
  chain_btc : chain .btc = .bitcoin
  /-- A Handshake lock is redeemed by the given key with the preimage of the terms. -/
  buildHnsHtlc_redeem {hello : SwapSessionHello} {side : SwapAssetSide} {receiver refund : Bytes 33}
    {binding : HnsHtlcBinding} : buildHnsHtlc hello side receiver refund = .ok binding →
      binding.descriptor.receiverPublicKey = receiver ∧ binding.descriptor.hashlock = hello.hashlock
  decodeNetwork : List UInt8 → Except MarketplaceError NetworkBinding
  hashPreimage : Bytes 32 → Bytes 32
  decodeEnvelope : List UInt8 → Except MarketplaceError (UInt64 × CrossChainMessage)
  encodeEnvelope : CrossChainMessage → UInt64 → Except MarketplaceError (List UInt8)
  chainCode : ChainId → Nat
  chainCode_injective {c d : ChainId} : chainCode c = chainCode d → c = d
  offerCodec : Codec DirectOffer
  cancellationCodec : Codec DirectOfferCancellation
  acceptanceCodec : Codec DirectOfferAcceptance
  proposalCodec : Codec SwapSessionProposal
  fundingStatusCodec : Codec SwapFundingStatus
  watchReadyCodec : Codec SwapWatchReady
  decode_encodeHello {hello : SwapSessionHello} {bytes : List UInt8} :
    encodeHello hello = .ok bytes → decodeHello bytes = .ok hello
  verifyOffer : DirectOffer → NetworkBinding → UInt64 → Except MarketplaceError Unit
  verifyCancellation : DirectOfferCancellation → DirectOffer → NetworkBinding → UInt64 →
    Except MarketplaceError Unit
  verifyAcceptance : DirectOfferAcceptance → DirectOffer → NetworkBinding → UInt64 →
    Except MarketplaceError Unit
  verifyProposalAt : SwapSessionProposal → NetworkBinding → UInt64 →
    Except MarketplaceError Unit
  verifyProposal : SwapSessionProposal → DirectOffer → DirectOfferAcceptance →
    NetworkBinding → UInt64 → Except MarketplaceError Unit
  verifyHello : SwapSessionHello → DirectOffer → DirectOfferAcceptance → NetworkBinding →
    UInt64 → Except MarketplaceError Unit
  verifyHello_session {hello : SwapSessionHello} {offer : DirectOffer}
    {acceptance : DirectOfferAcceptance} {network : NetworkBinding} {at_ : UInt64} :
    verifyHello hello offer acceptance network at_ = .ok () →
      hello.swapSessionId = acceptance.swapSessionId
  verifyFundingStatus : SwapFundingStatus → SwapSessionHello → NetworkBinding → UInt64 →
    Except MarketplaceError Unit
  verifyRedeemStatus : SwapSettlementStatus → SwapSessionHello → NetworkBinding → UInt64 →
    Except MarketplaceError Unit
  verifyRefundStatus : SwapSettlementStatus → SwapSessionHello → NetworkBinding → UInt64 →
    Except MarketplaceError Unit
  verifyWatchReady : SwapWatchReady → SwapSessionHello → NetworkBinding → UInt64 →
    Except MarketplaceError Unit

def helloCodec [DirectSwapProtocol] : Codec SwapSessionHello where
  encode := MarketplaceProtocol.encodeHello
  decode := MarketplaceProtocol.decodeHello
  decode_encode := DirectSwapProtocol.decode_encodeHello

end HnsWallet
