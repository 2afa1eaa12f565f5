import HnsWallet.Hns.Reconciliation
import HnsWallet.Lib.Runs

/-! # Calls of an account -/

namespace HnsWallet

open Lib
open Relation (ReflTransGen)

inductive HnsOperation where
  | prepareName (request : HnsNamePlan) (source : TrackedNameSource)
      (cachedCoins : List TrackedHnsCoin)
      (build : List TrackedHnsCoin → Except HnsWalletError NameAssembly)
      (cache : HnsRuntimeCache) (nowUnix : UInt64)
  | authorizeName (plan : HnsNamePlan) (given : NameAuthorization)
  | broadcastName (id : WorkflowId) (action : HnsNameAction) (transactionId : Bytes 32)
      (transactionBytes : List UInt8) (given : NameSubmission)
  | rebroadcastName (id : WorkflowId) (given : NameSubmission)
  | cancelName (id : WorkflowId) (nowUnix : UInt64)
  | prepareSend (request : SendRequest) (cachedCoins : List TrackedHnsCoin)
      (build : List TrackedHnsCoin → Except HnsWalletError SendAssembly) (nowUnix : UInt64)
  | authorizeSend (plan : HnsSpendPlan) (given : SendAuthorization)
  | broadcastSend (raw : List UInt8) (given : SendSubmission)
  | rebroadcastSend (id : WorkflowId) (given : SendSubmission)
  | cancelSend (id : WorkflowId) (nowUnix : UInt64)
  | reconcile (snapshot : HnsSnapshot) (nowUnix : UInt64)

section Calls

variable {V : Type} [Serde V HnsNameWorkflow]

def HnsSystem.empty : HnsSystem V := ⟨⟨true, ∅, ∅, ∅⟩, []⟩

theorem HnsSystem.empty_sound : (HnsSystem.empty (V := V)).store.Sound where
  workflows _ _ h := by cases h
  entities _ _ h := by cases h
  kinds _ _ _ h := by cases h

variable [Encoded V] [Serde V HnsInputReservation] [Serde V HnsSendWorkflow]
  [Serde V HnsPreparedSettlement] [HnsTransactions] [Sha256] (config : HnsRuntimeConfig)

namespace HnsOperation

def run : HnsOperation → EStateM HnsWalletError (HnsSystem V) Unit
  | .prepareName request source cachedCoins build cache nowUnix => do
    let _ ← onStore (persistPreparedNameOperation config request source cachedCoins build cache
      nowUnix)
  | .authorizeName plan given => do
    let _ ← onStore (authorizeNameOperation config plan given)
  | .broadcastName id action transactionId transactionBytes given => do
    let _ ← broadcastNameOperation id action transactionId transactionBytes given
  | .rebroadcastName id given => do
    let _ ← rebroadcastPendingNameOperation id given
  | .cancelName id nowUnix => onStore (transact (cancelPreparedNameOperation config id nowUnix))
  | .prepareSend request cachedCoins build nowUnix => do
    let _ ← onStore (HnsWallet.prepareSend config request cachedCoins build nowUnix)
  | .authorizeSend plan given => do
    let _ ← onStore (HnsWallet.authorizeSend config plan given)
  | .broadcastSend raw given => do
    let _ ← HnsWallet.broadcastSend config raw given
  | .rebroadcastSend id given => do
    let _ ← rebroadcastPendingSend config id given
  | .cancelSend id nowUnix => onStore (transact (cancelPreparedSend config id nowUnix))
  | .reconcile snapshot nowUnix => do
    let _ ← onStore (reconcileWorkflows config snapshot nowUnix)

def nowUnix? : HnsOperation → Option UInt64
  | .prepareName _ _ _ _ _ nowUnix | .prepareSend _ _ _ nowUnix | .reconcile _ nowUnix =>
    some nowUnix
  | .authorizeName _ given => some given.commitNow
  | .authorizeSend _ given => some given.commitNow
  | _ => none

def powers : HnsOperation → BookPowers
  | .reconcile snapshot nowUnix =>
    { looks := fun snapshot' nowUnix' => snapshot' = snapshot ∧ nowUnix' = nowUnix
      commits := fun _ => False
      withdraws := False
      drops := CleanupDrops config snapshot nowUnix }
  | .prepareName _ _ _ _ _ nowUnix | .prepareSend _ _ _ nowUnix =>
    { looks := fun _ _ => False
      commits := fun _ => False
      withdraws := False
      drops := fun _ reservation => reservation.expired nowUnix ∧
        reservation.kind.isProtectedShakedex = false }
  | .authorizeName plan given =>
    { looks := fun _ _ => False
      commits := fun commitNow => commitNow = given.commitNow
      withdraws := given.findsChange plan
      drops := fun _ _ => False }
  | .authorizeSend _ given =>
    { looks := fun _ _ => False
      commits := fun commitNow => commitNow = given.commitNow
      withdraws := False
      drops := fun _ _ => False }
  | _ => ⟨⟨fun _ _ => False, fun _ => False, False⟩, fun _ _ => False⟩

variable {config}

theorem run_keeps [SendsApart V] (op : HnsOperation) :
    Keeps (Refines config (op.powers config)) (op.run (V := V) config) := by
  cases op with
  | prepareName request source cachedCoins build cache nowUnix =>
    exact Keeps.discard .refl .trans (onStore_keeps (persistPreparedNameOperation_keeps
      fun _ _ hexpired hfree => ⟨hexpired, hfree⟩))
  | authorizeName plan given =>
    exact Keeps.discard .refl .trans (onStore_keeps (authorizeNameOperation_keeps rfl fun h => h))
  | broadcastName id action transactionId transactionBytes given =>
    exact Keeps.discard .refl .trans broadcastNameOperation_keeps
  | rebroadcastName id given =>
    exact Keeps.discard .refl .trans rebroadcastPendingNameOperation_keeps
  | cancelName id nowUnix =>
    exact onStore_keeps (.transact .refl fun s t r h => cancelPreparedNameOperation_refines h)
  | prepareSend request cachedCoins build nowUnix =>
    exact Keeps.discard .refl .trans (onStore_keeps (prepareSend_keeps
      fun _ _ hexpired hfree => ⟨hexpired, hfree⟩))
  | authorizeSend plan given =>
    exact Keeps.discard .refl .trans (onStore_keeps (authorizeSend_keeps rfl))
  | broadcastSend raw given => exact Keeps.discard .refl .trans broadcastSend_keeps
  | rebroadcastSend id given => exact Keeps.discard .refl .trans rebroadcastPendingSend_keeps
  | cancelSend id nowUnix =>
    exact onStore_keeps (.transact .refl fun s t r h => cancelPreparedSend_refines h)
  | reconcile snapshot nowUnix =>
    exact Keeps.discard .refl .trans (onStore_keeps (reconcileWorkflows_keeps ⟨rfl, rfl⟩
      fun _ _ h => h))

end HnsOperation

def HnsSystem.Step (s : HnsSystem V) (op : HnsOperation) (t : HnsSystem V) : Prop :=
  t = finalState (op.run config s)

def HnsSystem.afterCalls (ops : List HnsOperation) (s : HnsSystem V) : HnsSystem V :=
  ops.foldl (fun system op => finalState (op.run config system)) s

theorem HnsSystem.run_afterCalls (ops : List HnsOperation) (s : HnsSystem V) :
    Run (HnsSystem.Step config) s ops (s.afterCalls config ops) := by
  induction ops using List.reverseRecOn with
  | nil => exact .refl
  | append_singleton ops op ih =>
    refine ih.snoc ?_
    rw [HnsSystem.Step, afterCalls, afterCalls, List.foldl_append]
    rfl

variable {config} {P : HnsBook → Prop} {s t : HnsSystem V}

omit [Sha256] in
theorem HnsBook.Moves.invariant {powers : BookPowers} {b b' : HnsBook}
    (h : HnsBook.Moves config powers b b')
    (hmove : ∀ {b b'}, HnsBook.Move config powers b b' → P b → P b') (hb : P b) : P b' := by
  induction h with
  | refl => exact hb
  | tail _ hlast ih => exact hmove hlast ih

theorem HnsSystem.Step.moves [SendsApart V] {op : HnsOperation} (h : s.Step config op t)
    (hs : s.store.Sound) :
    t.store.Sound ∧ HnsBook.Moves config (op.powers config) (s.book config) (t.book config) := by
  rw [HnsSystem.Step] at h
  rw [h]
  exact op.run_keeps s hs

/-- The account refines the book: along every run of calls, whatever their outcomes, each call
moves the book that the rows show by the moves of its own. -/
theorem account_calls_move_the_book [SendsApart V] {ops : List HnsOperation}
    (hrun : Run (HnsSystem.Step config) s ops t) (hs : s.store.Sound) :
    t.store.Sound ∧ Run (fun b (op : HnsOperation) => HnsBook.Moves config (op.powers config) b)
      (s.book config) ops (t.book config) := by
  induction hrun with
  | refl => exact ⟨hs, .refl⟩
  | snoc _ hstep ih =>
    obtain ⟨hmid, hmoves⟩ := ih
    obtain ⟨ht, hlast⟩ := hstep.moves hmid
    exact ⟨ht, hmoves.snoc hlast⟩

theorem HnsSystem.run_invariant [SendsApart V] {ops : List HnsOperation}
    (hrun : Run (HnsSystem.Step config) s ops t) (hs : s.store.Sound)
    (hmove : ∀ op ∈ ops, ∀ {b b'}, HnsBook.Move config (op.powers config) b b' → P b → P b')
    (hb : P (s.book config)) : t.store.Sound ∧ P (t.book config) := by
  induction hrun with
  | refl => exact ⟨hs, hb⟩
  | snoc hrun hstep ih =>
    obtain ⟨hmid, hp⟩ := ih fun op hop => hmove op (List.mem_append_left _ hop)
    obtain ⟨ht, hmoves⟩ := hstep.moves hmid
    exact ⟨ht, hmoves.invariant (hmove _ (List.mem_append_right _ List.mem_cons_self)) hp⟩

end Calls

end HnsWallet
