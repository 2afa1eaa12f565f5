import HnsWallet.Lib.Runs
import HnsWallet.Store.AssociatedData

/-! # Pending approvals -/

namespace HnsWallet

open Lib

def maxPendingApprovals : Nat := 4096
def maxApprovalLifetimeSeconds : UInt64 := 3600

abbrev ApprovalId := Bytes 16

structure PendingApproval where
  id : ApprovalId
  origin : String
  requestJson : List UInt8
  expiresAtUnix : UInt64
deriving DecidableEq

structure ApprovalRow where
  origin : String
  requestJson : List UInt8
  expiresAtUnix : UInt64
deriving DecidableEq

structure WalletDatabase (V : Type) extends WalletStore V where
  approvals : AList fun _ : ApprovalId => ApprovalRow

def pruneExpiredApprovals (approvals : AList fun _ : ApprovalId => ApprovalRow)
    (nowUnix : UInt64) : AList fun _ : ApprovalId => ApprovalRow :=
  approvals.entries.foldl
    (fun rest row => if row.2.expiresAtUnix ≤ nowUnix then rest.erase row.1 else rest) approvals

namespace WalletDatabase

variable {V : Type} [Encoded V] (db : WalletDatabase V)

def authenticatedPendingApproval (id : ApprovalId) : Option PendingApproval :=
  (db.approvals.lookup id).map fun row =>
    ⟨id, row.origin, row.requestJson, row.expiresAtUnix⟩

def dropApproval (id : ApprovalId) : WalletDatabase V :=
  { db with approvals := db.approvals.erase id }

def putPendingApproval (id : ApprovalId) (origin : String) (requestJson : List UInt8)
    (nowUnix expiresAtUnix : UInt64) : Except StoreError (WalletDatabase V) := do
  validateOrigin origin
  refuseIf (expiresAtUnix ≤ nowUnix ∨ maxApprovalLifetimeSeconds < expiresAtUnix - nowUnix)
    .invalidApprovalWindow
  refuseIf (requestJson.length = 0 ∨ maxStateBytes < requestJson.length) .recordTooLarge
  db.requireKey
  -- the origin is encrypted with the request, behind its length in two bytes
  refuseIf (maxSecretBytes < 2 + (asBytes origin).length + requestJson.length) .recordTooLarge
  refuseIf (maxPendingApprovals < db.approvals.entries.length) .approvalCapacity
  let approvals := pruneExpiredApprovals db.approvals nowUnix
  refuseIf (maxPendingApprovals ≤ approvals.entries.length) .approvalCapacity
  -- a plain `INSERT`: the id is the primary key
  refuseIf (approvals.lookup id ≠ none) .sqlite
  return { db with approvals := approvals.insert id ⟨origin, requestJson, expiresAtUnix⟩ }

def getPendingApproval (id : ApprovalId) (nowUnix : UInt64) :
    Except StoreError (Option PendingApproval) := do
  db.requireKey
  return (db.authenticatedPendingApproval id).filter (nowUnix < ·.expiresAtUnix)

def takePendingApproval (id : ApprovalId) (nowUnix : UInt64) :
    Except StoreError (WalletDatabase V × Option PendingApproval) := do
  db.requireKey
  match db.authenticatedPendingApproval id with
  | none => return (db, none)
  | some approval =>
    if approval.expiresAtUnix ≤ nowUnix then return (db.dropApproval id, none)
    else return (db.dropApproval id, some approval)

def consumeApprovalAndSaveWorkflowWithEntityBatch {α β : Type} [Serde V α] [Serde V β]
    (expectedApproval : PendingApproval) (nowUnix : UInt64) (id : WorkflowId)
    (kind : WorkflowKind) (expectedRevision : UInt64) (state : α)
    (irreversibleBroadcastPrepared : Bool) (entityKind : EntityKind)
    (saves : List (EntityBatchSave β)) (deletes : List EntityBatchDelete) :
    Except StoreError (WalletDatabase V × Option UInt64) := do
  let encodedWorkflow : V := Serde.toVec state
  refuseIf (Encoded.length encodedWorkflow = 0 ∨
    maxStateBytes < Encoded.length encodedWorkflow) .recordTooLarge
  let preparedEntities ← WalletStore.prepareEntityBatch saves deletes
  db.requireKey
  match db.authenticatedPendingApproval expectedApproval.id with
  | none => return (db, none)
  | some currentApproval =>
    if currentApproval.expiresAtUnix ≤ nowUnix then
      return (db.dropApproval expectedApproval.id, none)
    else if currentApproval.origin ≠ expectedApproval.origin ∨
        currentApproval.expiresAtUnix ≠ expectedApproval.expiresAtUnix ∨
        currentApproval.requestJson ≠ expectedApproval.requestJson then
      return (db, none)
    else
      let actual ← db.authenticatedWorkflowRevision id kind
      WalletStore.requireRevision expectedRevision actual
      let writes ← db.authenticateEntityBatch entityKind preparedEntities deletes
      let next ← WalletStore.nextRevision actual
      let written := (db.writeEntityBatch entityKind writes deletes).putWorkflow id
        ⟨kind, next, encodedWorkflow, irreversibleBroadcastPrepared, nowUnix⟩
      return ({ db.dropApproval expectedApproval.id with toWalletStore := written }, some next)

end WalletDatabase

/-- A call that reads or writes approvals; `elsewhere` is any write to the other
tables, or a connection that has the key or has lost it. -/
inductive ApprovalCall (V : Type) : Type 1 where
  | put (id : ApprovalId) (origin : String) (requestJson : List UInt8)
    (nowUnix expiresAtUnix : UInt64)
  | get (id : ApprovalId) (nowUnix : UInt64)
  | take (id : ApprovalId) (nowUnix : UInt64)
  | commit {α β : Type} [Serde V α] [Serde V β] (expectedApproval : PendingApproval)
    (nowUnix : UInt64) (id : WorkflowId) (kind : WorkflowKind) (expectedRevision : UInt64)
    (state : α) (irreversibleBroadcastPrepared : Bool) (entityKind : EntityKind)
    (saves : List (EntityBatchSave β)) (deletes : List EntityBatchDelete)
  | elsewhere (store : WalletStore V)

def ApprovalCall.nowUnix {V : Type} : ApprovalCall V → Option UInt64
  | .put _ _ _ now _ | .get _ now | .take _ now | @commit _ _ _ _ _ _ now .. => some now
  | .elsewhere _ => none

/-- A call and its outcome: the error, or the approval that it used up. -/
abbrev ApprovalEvent (V : Type) := ApprovalCall V × Except StoreError (Option PendingApproval)

section

variable {V : Type} [Encoded V]

def ApprovalCall.perform (db : WalletDatabase V) : ApprovalCall V →
    Except StoreError (WalletDatabase V × Option PendingApproval)
  | .put id origin requestJson now expires => do
    return (← db.putPendingApproval id origin requestJson now expires, none)
  | .get id now => do
    let _ ← db.getPendingApproval id now
    return (db, none)
  | .take id now => db.takePendingApproval id now
  | @commit _ _ _ _ _ expected now id kind revision state prepared entityKind saves deletes => do
    let (db, next) ← db.consumeApprovalAndSaveWorkflowWithEntityBatch expected now id kind revision
      state prepared entityKind saves deletes
    return (db, next.map fun _ => expected)
  | .elsewhere store => return ({ db with toWalletStore := store }, none)

def ApprovalStep (db : WalletDatabase V) (event : ApprovalEvent V) (db' : WalletDatabase V) :
    Prop :=
  (∃ used, event.1.perform db = .ok (db', used) ∧ event.2 = .ok used) ∨
    ∃ e, event.1.perform db = .error e ∧ event.2 = .error e ∧ db' = db

end

namespace ApprovalEvent

variable {V : Type}

def Consumes (event : ApprovalEvent V) (approval : PendingApproval) : Prop :=
  event.2 = .ok (some approval)

def Stores (event : ApprovalEvent V) (approval : PendingApproval) : Prop :=
  event.2 = .ok none ∧ ∃ now, event.1 =
    .put approval.id approval.origin approval.requestJson now approval.expiresAtUnix

def Spares (event : ApprovalEvent V) (id : ApprovalId) : Prop :=
  ∀ approval, approval.id = id → ¬event.Consumes approval ∧ ¬event.Stores approval

end ApprovalEvent

/-! ## What one call does to one id -/

open WalletDatabase

theorem lookup_foldl_erase {nowUnix : UInt64} {id : ApprovalId} {found : ApprovalRow}
    (rows : List ((_ : ApprovalId) × ApprovalRow))
    (approvals : AList fun _ : ApprovalId => ApprovalRow) :
    (rows.foldl (fun rest row => if row.2.expiresAtUnix ≤ nowUnix then rest.erase row.1 else rest)
      approvals).lookup id = some found ↔
        approvals.lookup id = some found ∧
          ∀ row ∈ rows, row.1 = id → ¬row.2.expiresAtUnix ≤ nowUnix := by
  induction rows generalizing approvals with
  | nil => simp
  | cons row rows ih =>
    rw [List.foldl_cons, ih, List.forall_mem_cons]
    by_cases hexpired : row.2.expiresAtUnix ≤ nowUnix
    · by_cases hid : row.1 = id
      · simp [hexpired, hid]
      · simp [hexpired, hid, AList.lookup_erase_ne (Ne.symm hid)]
    · simp [hexpired]

theorem lookup_pruneExpiredApprovals {approvals : AList fun _ : ApprovalId => ApprovalRow}
    {nowUnix : UInt64} {id : ApprovalId} {found : ApprovalRow} :
    (pruneExpiredApprovals approvals nowUnix).lookup id = some found ↔
      approvals.lookup id = some found ∧ nowUnix < found.expiresAtUnix := by
  rw [pruneExpiredApprovals, lookup_foldl_erase]
  refine and_congr_right fun hfound => ?_
  constructor
  · intro hlive
    exact UInt64.not_le.1 (hlive ⟨id, found⟩ (AList.mem_lookup_iff.1 hfound) rfl)
  · rintro hlive ⟨id', row⟩ hmem rfl
    have hrow : approvals.lookup id' = some row := AList.mem_lookup_iff.2 hmem
    rw [hfound] at hrow
    cases hrow
    exact UInt64.not_le.2 hlive

variable {V : Type} {db db' : WalletDatabase V} {event : ApprovalEvent V}

/-- What a call does to the approval of one id. -/
inductive Effect (db : WalletDatabase V) (event : ApprovalEvent V) (db' : WalletDatabase V)
    (id : ApprovalId) : Prop where
  | spared : event.Spares id →
      db'.authenticatedPendingApproval id = db.authenticatedPendingApproval id →
      Effect db event db' id
  | stored (approval : PendingApproval) (nowUnix : UInt64) : approval.id = id →
      event.Stores approval → event.1.nowUnix = some nowUnix →
      (∀ old, db.authenticatedPendingApproval id = some old → old.expiresAtUnix ≤ nowUnix) →
      db'.authenticatedPendingApproval id = some approval → Effect db event db' id
  | consumed (approval : PendingApproval) (nowUnix : UInt64) : approval.id = id →
      event.Consumes approval → db.authenticatedPendingApproval id = some approval →
      event.1.nowUnix = some nowUnix → nowUnix < approval.expiresAtUnix →
      db'.authenticatedPendingApproval id = none → Effect db event db' id
  | expired (approval : PendingApproval) (nowUnix : UInt64) : event.Spares id →
      db.authenticatedPendingApproval id = some approval → event.1.nowUnix = some nowUnix →
      approval.expiresAtUnix ≤ nowUnix → db'.authenticatedPendingApproval id = none →
      Effect db event db' id

theorem WalletDatabase.dropApproval_approval {id id' : ApprovalId} :
    (db.dropApproval id').authenticatedPendingApproval id =
      if id = id' then none else db.authenticatedPendingApproval id := by
  unfold authenticatedPendingApproval dropApproval
  split
  next h => rw [h, AList.lookup_erase, Option.map_none]
  next h => rw [AList.lookup_erase_ne h]

theorem WalletDatabase.authenticatedPendingApproval_eq_some {id : ApprovalId}
    {approval : PendingApproval} :
    db.authenticatedPendingApproval id = some approval ↔ approval.id = id ∧
      db.approvals.lookup id =
        some ⟨approval.origin, approval.requestJson, approval.expiresAtUnix⟩ := by
  obtain ⟨aid, origin, request, expires⟩ := approval
  rw [authenticatedPendingApproval, Option.map_eq_some_iff]
  constructor
  · rintro ⟨row, hrow, heq⟩
    cases heq
    exact ⟨rfl, hrow⟩
  · rintro ⟨rfl, hrow⟩
    exact ⟨_, hrow, rfl⟩

theorem WalletDatabase.current_eq {current expected : PendingApproval}
    (h : db.authenticatedPendingApproval expected.id = some current)
    (hsame : ¬(current.origin ≠ expected.origin ∨ current.expiresAtUnix ≠ expected.expiresAtUnix ∨
      current.requestJson ≠ expected.requestJson)) : current = expected := by
  have hid := (authenticatedPendingApproval_eq_some.1 h).1
  simp only [not_or, not_not] at hsame
  cases current
  cases expected
  simp_all

theorem WalletDatabase.putPendingApproval_eq_ok {id : ApprovalId} {origin : String}
    {requestJson : List UInt8} {nowUnix expiresAtUnix : UInt64}
    (h : db.putPendingApproval id origin requestJson nowUnix expiresAtUnix = .ok db') :
    (pruneExpiredApprovals db.approvals nowUnix).lookup id = none ∧
      db'.approvals = (pruneExpiredApprovals db.approvals nowUnix).insert id
        ⟨origin, requestJson, expiresAtUnix⟩ := by
  simp only [putPendingApproval, ok_iff] at h
  obtain ⟨-, -, -, -, -, -, -, -, -, -, -, -, -, -, -, hfresh, hret⟩ := h
  cases hret
  exact ⟨not_not.1 hfresh, rfl⟩

/-- What a call that may use up the approval `target` does to the table: nothing,
or it deletes the row, which it has used if that was live. -/
def Uses (db : WalletDatabase V) (target : ApprovalId) (nowUnix : UInt64)
    (db' : WalletDatabase V) (used : Option PendingApproval) : Prop :=
  (used = none ∧ db'.approvals = db.approvals) ∨
    ∃ approval, db.authenticatedPendingApproval target = some approval ∧
      db'.approvals = (db.dropApproval target).approvals ∧
      (approval.expiresAtUnix ≤ nowUnix ∧ used = none ∨
        nowUnix < approval.expiresAtUnix ∧ used = some approval)

theorem Effect.of_uses {target : ApprovalId} {nowUnix : UInt64} {call : ApprovalCall V}
    {used : Option PendingApproval} (h : Uses db target nowUnix db' used)
    (hnow : call.nowUnix = some nowUnix)
    (hstores : ∀ approval, ¬ApprovalEvent.Stores (call, .ok used) approval) (id : ApprovalId) :
    Effect db (call, .ok used) db' id := by
  rcases h with ⟨rfl, htable⟩ | ⟨approval, happroval, htable, huse⟩
  · refine .spared (fun a _ => ⟨nofun, hstores a⟩) ?_
    rw [authenticatedPendingApproval, htable]
    rfl
  · have hid := (authenticatedPendingApproval_eq_some.1 happroval).1
    have hafter : db'.authenticatedPendingApproval id =
        if id = target then none else db.authenticatedPendingApproval id := by
      rw [← dropApproval_approval, authenticatedPendingApproval, htable]
      rfl
    by_cases htarget : id = target
    · subst htarget
      rw [if_pos rfl] at hafter
      rcases huse with ⟨hexpired, rfl⟩ | ⟨hlive, rfl⟩
      · exact .expired approval nowUnix (fun a _ => ⟨nofun, hstores a⟩) happroval hnow hexpired
          hafter
      · exact .consumed approval nowUnix hid rfl happroval hnow hlive hafter
    · rw [if_neg htarget] at hafter
      refine .spared (fun a ha => ⟨fun hconsumes => htarget ?_, hstores a⟩) hafter
      rcases huse with ⟨-, rfl⟩ | ⟨-, rfl⟩
      · cases hconsumes
      · cases hconsumes
        exact ha.symm.trans hid

theorem expired_of_pruned {nowUnix : UInt64} {id : ApprovalId} {old : PendingApproval}
    (hpruned : (pruneExpiredApprovals db.approvals nowUnix).lookup id = none)
    (hold : db.authenticatedPendingApproval id = some old) : old.expiresAtUnix ≤ nowUnix := by
  by_contra hlive
  have hrow := (authenticatedPendingApproval_eq_some.1 hold).2
  rw [lookup_pruneExpiredApprovals.2 ⟨hrow, UInt64.not_le.1 hlive⟩] at hpruned
  cases hpruned

theorem effect_of_put {id : ApprovalId} {origin : String} {requestJson : List UInt8}
    {nowUnix expiresAtUnix : UInt64}
    (h : db.putPendingApproval id origin requestJson nowUnix expiresAtUnix = .ok db')
    (id' : ApprovalId) :
    Effect db (.put id origin requestJson nowUnix expiresAtUnix, .ok none) db' id' := by
  obtain ⟨hfresh, htable⟩ := putPendingApproval_eq_ok h
  by_cases hid : id' = id
  · subst hid
    refine .stored ⟨id', origin, requestJson, expiresAtUnix⟩ nowUnix rfl ⟨rfl, nowUnix, rfl⟩ rfl
      (fun old hold => expired_of_pruned hfresh hold) ?_
    rw [authenticatedPendingApproval_eq_some, htable]
    exact ⟨rfl, AList.lookup_insert _⟩
  · have hspares : ApprovalEvent.Spares (V := V)
        (.put id origin requestJson nowUnix expiresAtUnix, .ok none) id' := by
      rintro approval rfl
      constructor
      · rintro ⟨⟩
      · rintro ⟨-, now, hput⟩
        cases hput
        exact hid rfl
    have hafter : db'.approvals.lookup id' =
        (pruneExpiredApprovals db.approvals nowUnix).lookup id' := by
      rw [htable, AList.lookup_insert_ne hid]
    -- what was pruned is what had expired
    cases hkept : (pruneExpiredApprovals db.approvals nowUnix).lookup id' with
    | some row =>
      refine .spared hspares ?_
      rw [authenticatedPendingApproval, authenticatedPendingApproval, hafter, hkept,
        (lookup_pruneExpiredApprovals.1 hkept).1]
    | none =>
      have hgone : db'.authenticatedPendingApproval id' = none := by
        rw [authenticatedPendingApproval, hafter, hkept, Option.map_none]
      cases hbefore : db.authenticatedPendingApproval id' with
      | none => exact .spared hspares (hgone.trans hbefore.symm)
      | some old =>
        exact .expired old nowUnix hspares hbefore rfl (expired_of_pruned hkept hbefore) hgone

theorem takePendingApproval_uses {id : ApprovalId} {nowUnix : UInt64}
    {used : Option PendingApproval} (h : db.takePendingApproval id nowUnix = .ok (db', used)) :
    Uses db id nowUnix db' used := by
  simp only [takePendingApproval, ok_iff] at h
  obtain ⟨-, -, h⟩ := h
  split at h
  next =>
    cases h
    exact .inl ⟨rfl, rfl⟩
  next approval happroval =>
    refine .inr ⟨approval, happroval, ?_⟩
    split at h <;> cases h
    next hexpired => exact ⟨rfl, .inl ⟨hexpired, rfl⟩⟩
    next hlive => exact ⟨rfl, .inr ⟨UInt64.not_le.1 hlive, rfl⟩⟩

variable [Encoded V]

theorem consumeApproval_uses {α β : Type} [Serde V α] [Serde V β] {expected : PendingApproval}
    {nowUnix : UInt64} {id : WorkflowId} {kind : WorkflowKind} {revision : UInt64} {state : α}
    {prepared : Bool} {entityKind : EntityKind} {saves : List (EntityBatchSave β)}
    {deletes : List EntityBatchDelete} {next : Option UInt64}
    (h : db.consumeApprovalAndSaveWorkflowWithEntityBatch expected nowUnix id kind revision state
      prepared entityKind saves deletes = .ok (db', next)) :
    Uses db expected.id nowUnix db' (next.map fun _ => expected) := by
  simp only [consumeApprovalAndSaveWorkflowWithEntityBatch, ok_iff] at h
  obtain ⟨-, -, preparedEntities, -, -, -, h⟩ := h
  split at h
  next =>
    cases h
    exact .inl ⟨rfl, rfl⟩
  next current hcurrent =>
    split at h
    next hexpired =>
      cases h
      exact .inr ⟨current, hcurrent, rfl, .inl ⟨hexpired, rfl⟩⟩
    next hlive =>
      split at h
      next =>
        cases h
        exact .inl ⟨rfl, rfl⟩
      next hsame =>
        have heq := current_eq hcurrent hsame
        simp only [ok_iff] at h
        obtain ⟨actual, -, -, -, writes, -, next', -, hret⟩ := h
        cases hret
        exact .inr ⟨current, hcurrent, rfl, .inr ⟨UInt64.not_le.1 hlive, by rw [heq]; rfl⟩⟩

theorem effect_of_step (h : ApprovalStep db event db') (id : ApprovalId) :
    Effect db event db' id := by
  obtain ⟨call, outcome⟩ := event
  rcases h with ⟨used, hperform, rfl⟩ | ⟨e, -, rfl, rfl⟩
  · cases call with
    | put aid origin requestJson now expires =>
      simp only [ApprovalCall.perform, ok_iff] at hperform
      obtain ⟨written, hput, hret⟩ := hperform
      cases hret
      exact effect_of_put hput id
    | get aid now =>
      simp only [ApprovalCall.perform, ok_iff] at hperform
      obtain ⟨-, -, hret⟩ := hperform
      cases hret
      exact .spared (fun a _ => ⟨nofun, by rintro ⟨-, _, ⟨⟩⟩⟩) rfl
    | take aid now =>
      exact .of_uses (takePendingApproval_uses hperform) rfl (by rintro a ⟨-, _, ⟨⟩⟩) id
    | commit expected now wid kind revision state prepared entityKind saves deletes =>
      simp only [ApprovalCall.perform, ok_iff] at hperform
      obtain ⟨⟨written, next⟩, hcommit, hret⟩ := hperform
      cases hret
      exact .of_uses (consumeApproval_uses hcommit) rfl (by rintro a ⟨-, _, ⟨⟩⟩) id
    | elsewhere store =>
      cases hperform
      exact .spared (fun a _ => ⟨nofun, by rintro ⟨-, _, ⟨⟩⟩⟩) rfl
  · exact .spared (fun a _ => ⟨nofun, by rintro ⟨⟨⟩, -⟩⟩) rfl

variable {history : List (ApprovalEvent V)}

theorem stored_since (h : Run ApprovalStep db history db') {approval : PendingApproval}
    (hthere : db'.authenticatedPendingApproval approval.id = some approval) :
    (∃ before event since, history = before ++ event :: since ∧ event.Stores approval ∧
        ∀ later ∈ since, later.Spares approval.id) ∨
      db.authenticatedPendingApproval approval.id = some approval ∧
        ∀ event ∈ history, event.Spares approval.id := by
  induction h with
  | refl => exact .inr ⟨hthere, by simp⟩
  | @snoc history event db' db'' _ hstep ih =>
    cases effect_of_step hstep approval.id with
    | spared hspares hsame =>
      rcases ih (hsame ▸ hthere) with ⟨before, stored, since, rfl, hstores, hsince⟩ | ⟨hfirst, hall⟩
      · refine .inl ⟨before, stored, since ++ [event], by simp, hstores, ?_⟩
        exact List.forall_mem_append.2 ⟨hsince, List.forall_mem_singleton.2 hspares⟩
      · exact .inr ⟨hfirst, List.forall_mem_append.2 ⟨hall, List.forall_mem_singleton.2 hspares⟩⟩
    | stored approval' _ _ hstores _ _ hthere' =>
      cases hthere.symm.trans hthere'
      exact .inl ⟨history, event, [], rfl, hstores, by simp⟩
    | consumed _ _ _ _ _ _ _ hgone => cases hthere.symm.trans hgone
    | expired _ _ _ _ _ _ hgone => cases hthere.symm.trans hgone

theorem gone_since {id : ApprovalId} (h : Run ApprovalStep db history db')
    (hpast : ∀ approval, db.authenticatedPendingApproval id = some approval →
      ∀ event ∈ history, ∀ now ∈ event.1.nowUnix, approval.expiresAtUnix ≤ now)
    (hstores : ∀ event ∈ history, ∀ approval, approval.id = id → ¬event.Stores approval) :
    (∀ approval, db'.authenticatedPendingApproval id = some approval →
      db.authenticatedPendingApproval id = some approval) ∧
      ∀ event ∈ history, ∀ approval, approval.id = id → ¬event.Consumes approval := by
  induction h with
  | refl => exact ⟨fun _ hthere => hthere, by simp⟩
  | @snoc history event db' db'' _ hstep ih =>
    rw [List.forall_mem_append, List.forall_mem_singleton] at hstores
    obtain ⟨hkept, hnone⟩ := ih
      (fun approval hfirst event hevent =>
        hpast approval hfirst event (List.mem_append_left _ hevent)) hstores.1
    rw [List.forall_mem_append, List.forall_mem_singleton]
    cases effect_of_step hstep id with
    | spared hspares hsame =>
      exact ⟨fun approval hthere => hkept approval (hsame ▸ hthere), hnone,
        fun approval hid => (hspares approval hid).1⟩
    | stored approval _ hid hstored _ _ _ => exact absurd hstored (hstores.2 approval hid)
    | consumed approval now _ _ hthere hnow hlive _ =>
      have hexpired := hpast approval (hkept approval hthere) event (by simp) now hnow
      exact absurd hlive (UInt64.not_lt.2 hexpired)
    | expired _ _ hspares _ _ _ hgone =>
      refine ⟨fun approval hthere => ?_, hnone, fun approval hid => (hspares approval hid).1⟩
      rw [hgone] at hthere
      cases hthere

/-- In every history an approval is used at most once: a call that uses one
finds it live, exactly as it was stored, and no call has used it since it was
stored.  No other call removes a live approval, whatever it fails on.  An id that
has no approval, or one that is past its expiry, is used by no call until it is
stored again. -/
theorem approval_authorizes_once (h : Run ApprovalStep db history db') :
    (∀ before event after approval, history = before ++ event :: after →
      event.Consumes approval →
      (∃ now, event.1.nowUnix = some now ∧ now < approval.expiresAtUnix) ∧
      ((∃ earlier stored since, before = earlier ++ stored :: since ∧ stored.Stores approval ∧
          ∀ later ∈ since, later.Spares approval.id) ∨
        db.authenticatedPendingApproval approval.id = some approval ∧
          ∀ earlier ∈ before, earlier.Spares approval.id)) ∧
    (∀ before event after mid mid' approval, history = before ++ event :: after →
      Run ApprovalStep db before mid → ApprovalStep mid event mid' →
      mid.authenticatedPendingApproval approval.id = some approval →
      (∀ now ∈ event.1.nowUnix, now < approval.expiresAtUnix) →
      ¬event.Consumes approval → mid'.authenticatedPendingApproval approval.id = some approval) ∧
    ∀ before after mid id, history = before ++ after → Run ApprovalStep db before mid →
      Run ApprovalStep mid after db' →
      (∀ approval, mid.authenticatedPendingApproval id = some approval →
        ∀ event ∈ after, ∀ now ∈ event.1.nowUnix, approval.expiresAtUnix ≤ now) →
      (∀ event ∈ after, ∀ approval, approval.id = id → ¬event.Stores approval) →
      ∀ event ∈ after, ∀ approval, approval.id = id → ¬event.Consumes approval := by
  refine ⟨?_, ?_, fun _ _ _ _ _ _ hafter hpast hstores => (gone_since hafter hpast hstores).2⟩
  · rintro before event after approval rfl hconsumes
    obtain ⟨mid, hbefore, hrest⟩ := Run.append_iff.1 h
    obtain ⟨mid', hstep, -⟩ := Run.cons_iff.1 hrest
    cases effect_of_step hstep approval.id with
    | spared hspares _ => exact absurd hconsumes (hspares approval rfl).1
    | stored _ _ _ hstored _ _ _ => cases hstored.1.symm.trans hconsumes
    | consumed approval' now _ hconsumes' hthere hnow hlive _ =>
      cases hconsumes'.symm.trans hconsumes
      exact ⟨⟨now, hnow, hlive⟩, stored_since hbefore hthere⟩
    | expired _ _ hspares _ _ _ _ => exact absurd hconsumes (hspares approval rfl).1
  · intro before event after mid mid' approval _ _ hstep hthere hlive hconsumes
    cases effect_of_step hstep approval.id with
    | spared _ hsame => rw [hsame, hthere]
    | stored _ now _ _ hnow hold _ =>
      exact absurd (hlive now hnow) (UInt64.not_lt.2 (hold approval hthere))
    | consumed approval' _ _ hconsumes' hthere' _ _ _ =>
      cases hthere'.symm.trans hthere
      exact absurd hconsumes' hconsumes
    | expired approval' now _ hthere' hnow hexpired _ =>
      cases hthere'.symm.trans hthere
      exact absurd (hlive now hnow) (UInt64.not_lt.2 hexpired)

namespace Sample

instance : Encoded Unit := ⟨fun _ => 1⟩

instance : Serde Unit Unit :=
  ⟨id, some, fun _ => rfl⟩

def approvalDatabase : WalletDatabase Unit := ⟨⟨true, ∅, ∅, ∅⟩, ∅⟩

def approval : PendingApproval := ⟨Bytes.replicate 16 7, "https://shop.example", [1], 100⟩

def approvedSend (nowUnix revision : UInt64) : ApprovalCall Unit :=
  .commit approval nowUnix ⟨Bytes.replicate 16 1⟩ .hnsSend revision () true .inputReservation
    ([] : List (EntityBatchSave Unit)) []

def approvalHistory : List (ApprovalEvent Unit) :=
  [(.put approval.id approval.origin approval.requestJson 10 100, .ok none),
    (approvedSend 15 3, .error (.staleRevision 3 0)), (approvedSend 20 0, .ok (some approval)),
    (approvedSend 30 1, .ok none)]

theorem approvalHistory_once : ∃ db, Run ApprovalStep approvalDatabase approvalHistory db ∧
    ∃ earlier stored since, approvalHistory.take 2 = earlier ++ stored :: since ∧
      stored.Stores approval ∧ ∀ later ∈ since, later.Spares approval.id := by
  have hrun : ∃ db, Run ApprovalStep approvalDatabase approvalHistory db :=
    ⟨_, .cons (.inl ⟨_, rfl, rfl⟩) (.cons (.inr ⟨_, rfl, rfl, rfl⟩)
      (.cons (.inl ⟨_, rfl, rfl⟩) (.cons (.inl ⟨_, rfl, rfl⟩) .refl)))⟩
  obtain ⟨db, hrun⟩ := hrun
  refine ⟨db, hrun, ?_⟩
  obtain ⟨-, hstored | ⟨hfirst, -⟩⟩ :=
    (approval_authorizes_once hrun).1 (approvalHistory.take 2) _ _ approval rfl rfl
  · exact hstored
  · cases hfirst

def lateThenEarly : List (ApprovalEvent Unit) :=
  [(.put approval.id approval.origin approval.requestJson 10 100, .ok none),
    (.get approval.id 150, .ok none), (.take approval.id 50, .ok (some approval))]

/-- A read past the expiry finds nothing and removes nothing, so a call with an earlier
clock uses the approval afterwards. -/
theorem expired_approval_is_used_by_an_earlier_clock :
    (∃ db, Run ApprovalStep approvalDatabase lateThenEarly db) ∧
      ∃ db, Run ApprovalStep approvalDatabase (lateThenEarly.take 2) db ∧
        db.getPendingApproval approval.id 150 = .ok none ∧
        ∃ event ∈ lateThenEarly.drop 2, event.Consumes approval :=
  ⟨⟨_, .cons (.inl ⟨_, rfl, rfl⟩) (.cons (.inl ⟨_, rfl, rfl⟩) (.cons (.inl ⟨_, rfl, rfl⟩) .refl))⟩,
    _, .cons (.inl ⟨_, rfl, rfl⟩) (.cons (.inl ⟨_, rfl, rfl⟩) .refl), rfl, _,
    List.mem_cons_self, rfl⟩

end Sample

end HnsWallet
