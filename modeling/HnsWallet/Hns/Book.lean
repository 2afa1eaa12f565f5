import Mathlib.Logic.Function.Basic
import Mathlib.Logic.Relation
import HnsWallet.Hns.Cleanup
import HnsWallet.Hns.NameLaws

/-! # The book of an account

What the operations on name workflows, sends and reservations are for, without rows and revisions:
an account has workflows and a book of the outpoints that they hold. -/

namespace HnsWallet

open Lib
open Relation (ReflTransGen)

inductive HoldingEffect where
  | keep
  | reserve (items : List (HnsOutpoint × HnsInputReservationKind)) (expiresAtUnix : UInt64)
  | activate
  | release
deriving DecidableEq

abbrev Holdings := HnsOutpoint → Option HnsInputReservation

namespace HoldingEffect

variable (config : HnsRuntimeConfig) (id : WorkflowId)

def apply (reserved : Holdings) : HoldingEffect → Holdings
  | .keep => reserved
  | .reserve items expiresAtUnix => fun outpoint =>
    match items.find? fun item => item.1 = outpoint with
    | some item => some ⟨config.walletId, config.accountId, outpoint, id,
        some expiresAtUnix, item.2⟩
    | none => reserved outpoint
  | .activate => fun outpoint => (reserved outpoint).map fun reservation =>
    if reservation.workflowId = id then { reservation with expiresAtUnix := none }
    else reservation
  | .release => fun outpoint => (reserved outpoint).filter fun reservation =>
    reservation.workflowId ≠ id

def Possible (reserved : Holdings) : HoldingEffect → Prop
  | .reserve items _ => (items.map Prod.fst).Nodup ∧ ∀ item ∈ items, reserved item.1 = none
  | _ => True

variable {reserved : Holdings}

theorem possible_keep : HoldingEffect.keep.Possible reserved := trivial

theorem possible_activate : HoldingEffect.activate.Possible reserved := trivial

theorem possible_release : HoldingEffect.release.Possible reserved := trivial

end HoldingEffect

structure MovePowers where
  looks : HnsSnapshot → UInt64 → Prop
  commits : UInt64 → Prop
  withdraws : Prop

inductive NameMove [HnsTransactions] (config : HnsRuntimeConfig) (powers : MovePowers)
    (id : WorkflowId) :
    HoldingEffect → List (List UInt8) → Option HnsNameWorkflow → HnsNameWorkflow → Prop where
  | prepare {plan : HnsNamePlan} (own : plan.ofAccount config) (named : plan.workflowId = id)
      (ordinary : ∀ input ∈ plan.fundingInputs, isOrdinaryHnsSpendCandidate input)
      (funded : plan.fundingInputs ≠ []) :
      NameMove config powers id (.reserve plan.reservations plan.expiresAtUnix) [] none
        (newNameWorkflow plan)
  | mark {w : HnsNameWorkflow}
      (stage : w.stage = .prepared ∨ w.stage = .authorized ∨ w.stage = .requiresRebroadcast)
      (allowed : w.stage = .prepared → powers.withdraws) :
      NameMove config powers id .keep [] (some w) { w with stage := .reapprovalRequired }
  | authorize {w : HnsNameWorkflow} (stage : w.stage = .prepared) {commitNow : UInt64}
      (allowed : powers.commits commitNow) (live : commitNow < w.plan.expiresAtUnix)
      (signed : List UInt8) (transactionId : Bytes 32) (quote : HnsTransactionFeeQuote) :
      NameMove config powers id .activate [] (some w) { newNameWorkflow w.plan with
        stage := .authorized
        transaction := some transactionId
        signedTransaction := some signed
        feeQuote := some quote }
  | submit {w : HnsNameWorkflow} {raw : List UInt8}
      (stage : w.stage = .authorized ∨ w.stage = .requiresRebroadcast)
      (signed : w.signedTransaction = some raw) (transaction : w.transaction.isSome)
      (quote : HnsTransactionFeeQuote) :
      NameMove config powers id .keep [raw] (some w) { w with
        stage := .requiresRebroadcast
        feeQuote := some quote }
  | accept {w : HnsNameWorkflow} (stage : w.stage = .requiresRebroadcast) :
      NameMove config powers id .keep [] (some w) { w with stage := .broadcast }
  | cancel {w : HnsNameWorkflow}
      (stage : w.stage = .prepared ∨ w.stage = .reapprovalRequired) :
      NameMove config powers id .release [] (some w) { w with stage := .cancelled }
  | look {w : HnsNameWorkflow} {snapshot : HnsSnapshot} {nowUnix : UInt64}
      {observation : NameObservation} (allowed : powers.looks snapshot nowUnix)
      (is : reconcileNameWorkflow snapshot nowUnix w = .ok observation) :
      NameMove config powers id (if observation.deleteReservations then .release else .keep) []
        (some w) observation.workflow

inductive SendMove (config : HnsRuntimeConfig) (powers : MovePowers) (id : WorkflowId) :
    HoldingEffect → List (List UInt8) → Option HnsSendWorkflow → HnsSendWorkflow → Prop where
  | prepare {plan : HnsSpendPlan} (own : plan.ofAccount config) (named : plan.workflowId = id) :
      SendMove config powers id
        (.reserve (plan.inputs.map fun input => (input.coin.outpoint, .ordinary))
          plan.expiresAtUnix) [] none (newSendWorkflow plan)
  | authorize {plan : HnsSpendPlan} {commitNow : UInt64} (allowed : powers.commits commitNow)
      (live : commitNow < plan.expiresAtUnix) (signed : List UInt8) (transactionId : Bytes 32)
      (quote : HnsTransactionFeeQuote) :
      SendMove config powers id .activate [] (some (newSendWorkflow plan))
        ⟨plan, .authorized, some transactionId, some signed, some quote⟩
  | submit {w : HnsSendWorkflow} {raw : List UInt8} (stage : w.stage.isActive)
      (signed : w.signedTransaction = some raw) (quote : HnsTransactionFeeQuote) :
      SendMove config powers id .keep [raw] (some w) { w with
        stage := .requiresRebroadcast
        feeQuote := some quote }
  | accept {w : HnsSendWorkflow} (stage : w.stage = .requiresRebroadcast) :
      SendMove config powers id .keep [] (some w) { w with stage := .broadcast }
  | cancel {w : HnsSendWorkflow} (stage : w.stage = .prepared) :
      SendMove config powers id .release [] (some w) { w with stage := .cancelled }
  | expire {w : HnsSendWorkflow} {snapshot : HnsSnapshot} {nowUnix : UInt64}
      (allowed : powers.looks snapshot nowUnix) (stage : w.stage = .prepared)
      (ended : w.plan.expiresAtUnix ≤ nowUnix) :
      SendMove config powers id .release [] (some w) { w with stage := .expired }
  | look {stored : StoredWorkflow HnsSendWorkflow} {snapshot : HnsSnapshot} {nowUnix : UInt64}
      {transactionId : Bytes 32} {stage : HnsSendStage} {pending : Bool}
      (allowed : powers.looks snapshot nowUnix) (known : stored.state.transaction =
        some transactionId)
      (is : observeSend snapshot stored transactionId nowUnix = .ok (stage, pending)) :
      SendMove config powers id (if stage = .confirmed ∨ stage = .conflicted then
        .release else .keep)
        [] (some stored.state) { stored.state with stage }

structure HnsBook where
  names : WorkflowId → Option HnsNameWorkflow
  sends : WorkflowId → Option HnsSendWorkflow
  reserved : Holdings
  sent : List (WorkflowId × List UInt8)

structure BookPowers extends MovePowers where
  drops : HnsBook → HnsInputReservation → Prop

inductive HnsBook.Move [HnsTransactions] (config : HnsRuntimeConfig) (powers : BookPowers) :
    HnsBook → HnsBook → Prop where
  | name {b : HnsBook} {id : WorkflowId} {effect : HoldingEffect} {handed : List (List UInt8)}
      {w' : HnsNameWorkflow} (other : b.sends id = none) (possible : effect.Possible b.reserved)
      (move : NameMove config powers.toMovePowers id effect handed (b.names id) w') :
      Move config powers b { b with
        names := Function.update b.names id (some w')
        reserved := effect.apply config id b.reserved
        sent := b.sent ++ handed.map (id, ·) }
  | send {b : HnsBook} {id : WorkflowId} {effect : HoldingEffect} {handed : List (List UInt8)}
      {w' : HnsSendWorkflow} (other : b.names id = none) (possible : effect.Possible b.reserved)
      (move : SendMove config powers.toMovePowers id effect handed (b.sends id) w') :
      Move config powers b { b with
        sends := Function.update b.sends id (some w')
        reserved := effect.apply config id b.reserved
        sent := b.sent ++ handed.map (id, ·) }
  | drop {b : HnsBook} (dropped : HnsInputReservation → Bool)
      (allowed : ∀ outpoint reservation, b.reserved outpoint = some reservation →
        dropped reservation → powers.drops b reservation) :
      Move config powers b { b with
        reserved := fun outpoint => (b.reserved outpoint).filter fun reservation =>
          !dropped reservation }

def HnsBook.Moves [HnsTransactions] (config : HnsRuntimeConfig) (powers : BookPowers) :
    HnsBook → HnsBook → Prop :=
  ReflTransGen (HnsBook.Move config powers)

end HnsWallet
