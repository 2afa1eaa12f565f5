import HnsWallet.Lib.Bytes

/-! # Wallet-local types -/

namespace HnsWallet

open Lib

structure WalletId where
  bytes : Bytes 16
deriving DecidableEq

structure WorkflowId where
  bytes : Bytes 16
deriving DecidableEq

/-- A workflow is named after the first half of a digest. -/
def WorkflowId.ofDigest (digest : Bytes 32) : WorkflowId :=
  ⟨digest.take 16 (Nat.le_of_ble_eq_true rfl)⟩

structure SessionId where
  bytes : Bytes 32
deriving DecidableEq

structure ObjectHash where
  bytes : Bytes 32
deriving DecidableEq

def ObjectHash.nonZero (h : ObjectHash) : Bool :=
  !h.bytes.isZero

inductive WalletAsset where
  | hns
  | btc
  | eth
deriving DecidableEq, Repr

inductive ModuleId where
  | handshake
  | bitcoin
  | ethereum
deriving DecidableEq, Repr

def ModuleId.asset : ModuleId → WalletAsset
  | .handshake => .hns
  | .bitcoin => .btc
  | .ethereum => .eth

abbrev BaseUnits := Fin 340282366920938463463374607431768211456

instance baseUnitsNeZero :
    @NeZero Nat Zero.ofOfNat0 340282366920938463463374607431768211456 := ⟨by decide⟩

structure Amount where
  asset : WalletAsset
  baseUnits : BaseUnits
deriving DecidableEq

inductive WorkflowKind where
  | hnsSend
  | nameTransfer
  | nameFinalize
  | nameUpdate
  | shakedexSeller
  | shakedexBuyer
  | shakedexSellerPlan
  | shakedexBuyerPlan
  | shakedexSellerOffer
  | shakedexValue
  | directOffer
  | directOfferAcceptance
  | atomicSwap
  | refund
deriving DecidableEq, Repr

end HnsWallet
