import HnsWallet.Hns.Send

/-! # Cleaning up reservations -/

namespace HnsWallet

open Lib

structure NameHolding where
  id : WorkflowId
  reservations : List (HnsOutpoint × HnsInputReservationKind)
  terminal : Bool
deriving DecidableEq

def nameHolding (kind : WorkflowKind) (stored : StoredWorkflow HnsNameWorkflow) :
    Except HnsWalletError NameHolding := do
  refuseIf (stored.state.plan.workflowId ≠ stored.id ∨
    stored.state.plan.action.workflowKind ≠ kind) .invalidWorkflow
  refuseIf ((∃ input ∈ stored.state.plan.fundingInputs,
      isOrdinaryHnsSpendCandidate input = false) ∨
    ¬ (stored.state.plan.reservations.map Prod.fst).Nodup) .invalidWorkflow
  return ⟨stored.id, stored.state.plan.reservations, stored.state.stage.isTerminal⟩

section Cleanup

variable {V : Type} [Encoded V] [Serde V HnsInputReservation] [Serde V HnsNameWorkflow]
  [Serde V HnsPreparedSettlement] (config : HnsRuntimeConfig) (snapshot : HnsSnapshot)

def nameHoldings (store : WalletStore V) (kind : WorkflowKind) :
    Except HnsWalletError (List NameHolding) := do
  let workflows ← (store.listWorkflowsComplete HnsNameWorkflow kind maxHistoryResults).mapError
    .store
  (workflows.filter fun stored => stored.state.plan.ofAccount config).mapM (nameHolding kind)

def settlementConflicted (store : WalletStore V) (workflowId : WorkflowId) :
    Except HnsWalletError Bool :=
  match store.loadWorkflow HnsPreparedSettlement workflowId with
  | .ok (some stored) => do
    let evidence ← snapshot.getTransactionEvidence stored.state.transaction
    refuseIf (evidence.binding ≠ snapshot.binding ∨ evidence.mempool ≠ snapshot.mempool)
      .staleNodeSnapshot
    return evidence.status.conflicted
  | .ok none => .ok true
  | .error _ => .ok false

def HnsSnapshot.unspent : List HnsOutpoint :=
  (snapshot.coins.filter fun coin => isOrdinaryHnsDerivation coin.derivation).map fun coin =>
    coin.coin.outpoint

def dropsReservation (store : WalletStore V) (holdings : List NameHolding) (nowUnix : UInt64)
    (reservation : HnsInputReservation) : Except HnsWalletError Bool :=
  match holdings.find? fun holding => holding.id = reservation.workflowId with
  | some holding => do
    refuseIf ((reservation.outpoint, reservation.kind) ∉ holding.reservations) .invalidWorkflow
    return holding.terminal
  | none =>
    if reservation.kind.isName then .ok true
    else if reservation.kind.isProtectedShakedex then .ok false
    else do
      let conflicted ← (if reservation.expiresAtUnix = none then
        settlementConflicted snapshot store reservation.workflowId else .ok false)
      return reservation.expired nowUnix || reservation.outpoint ∉ snapshot.unspent || conflicted

def droppedReservations (store : WalletStore V) (holdings : List NameHolding) (nowUnix : UInt64) :
    List (StoredEntity HnsInputReservation) → Except HnsWalletError (List EntityBatchDelete)
  | [] => .ok []
  | stored :: rest => do
    let drops ← dropsReservation snapshot store holdings nowUnix stored.value
    let deletes ← droppedReservations store holdings nowUnix rest
    return if drops then deleteOf stored :: deletes else deletes

def NameHolding.complete (holding : NameHolding)
    (reservations : List (StoredEntity HnsInputReservation)) : Prop :=
  let observed := (reservations.filter fun stored => stored.value.workflowId = holding.id).map
    fun stored => stored.value.outpoint
  observed.Nodup ∧ (holding.terminal = false → observed.length = holding.reservations.length ∧
    ∀ expected ∈ holding.reservations, expected.1 ∈ observed)

instance (holding : NameHolding) (reservations : List (StoredEntity HnsInputReservation)) :
    Decidable (holding.complete reservations) :=
  inferInstanceAs (Decidable (_ ∧ _))

def cleanupInputReservations (nowUnix : UInt64) (store : WalletStore V) :
    Except HnsWalletError (WalletStore V × Unit) := do
  let transfers ← nameHoldings config store .nameTransfer
  let finalizations ← nameHoldings config store .nameFinalize
  let holdings := transfers ++ finalizations
  let reservations ← accountInputReservations store config
  let deletes ← droppedReservations snapshot store holdings nowUnix reservations
  refuseIf (∃ holding ∈ holdings, ¬ holding.complete reservations) .invalidWorkflow
  if deletes = [] then
    return (store, ())
  else
    let store ← (store.applyEntityBatch .inputReservation
      ([] : List (EntityBatchSave HnsInputReservation)) deletes).mapError .store
    return (store, ())

/-- The part of a reconciliation that moves name workflows, sends and reservations.  It is
done under one lock of the store.  Settlements have their own rows and reservations. -/
def reconcileWorkflows [HnsTransactions] [Serde V HnsSendWorkflow] (nowUnix : UInt64) :
    EStateM HnsWalletError (WalletStore V) (List WorkflowId) := do
  let names ← reconcileNameWorkflows config snapshot nowUnix
  let sends ← reconcileSendWorkflows config snapshot nowUnix
  transact (cleanupInputReservations config snapshot nowUnix)
  return names ++ sends

end Cleanup

end HnsWallet
