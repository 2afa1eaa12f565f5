import HnsWallet.Hns.BookLaws

/-! # Every operation is a sequence of moves -/

namespace HnsWallet

open Lib WalletStore HnsSystem HoldingEffect
open Relation (ReflTransGen)

section Rows

variable {V α : Type} [Serde V α] {s t written : WalletStore V} {id : WorkflowId}
  {kind : WorkflowKind} {w : α} {expected next updatedAt : UInt64} {irreversible : Bool}

structure RowSaved (id : WorkflowId) (kind : WorkflowKind) (w : α)
    (s t : WalletStore V) : Prop where
  row : ∃ row, t.workflows.lookup id = some row ∧ row.kind = kind ∧
    Serde.fromSlice row.state = some w ∧ row.revision ≠ 0
  others : ∀ id', id' ≠ id → t.workflows.lookup id' = s.workflows.lookup id'
  before : ∀ row, s.workflows.lookup id = some row → row.kind = kind

theorem rowSaved_putWorkflow (hrevision : s.authenticatedWorkflowRevision id kind = .ok expected)
    (hnext : next.toNat = expected.toNat + 1) (hworkflows : written.workflows = s.workflows) :
    RowSaved id kind w s
      (written.putWorkflow id ⟨kind, next, Serde.toVec w, irreversible, updatedAt⟩) where
  row := by
    refine ⟨_, putWorkflow_lookup, rfl, Serde.fromSlice_toVec w, ?_⟩
    rintro rfl
    exact Nat.succ_ne_zero _ hnext.symm
  others id' hid := by rw [putWorkflow_lookup_ne hid, hworkflows]
  before row hlookup := by
    rcases authenticatedWorkflowRevision_eq_ok.1 hrevision with ⟨hnone, -⟩ | ⟨r, hr, hk, -⟩
    · rw [hlookup] at hnone
      cases hnone
    · rw [hlookup] at hr
      cases hr
      exact hk

theorem RowSaved.kind_of_load {state : α} {loaded : Option (StoredWorkflow α)}
    {current : StoredWorkflow α} (h : RowSaved id kind state s t)
    (hload : s.loadWorkflow α id = .ok loaded) (hcurrent : loaded = some current) :
    current.kind = kind := by
  subst hcurrent
  obtain ⟨-, row, _, hlookup, -, rfl⟩ := loadWorkflow_eq_some.1 hload
  exact h.before row hlookup

theorem rowSaved_of_save [Encoded V]
    (h : s.saveWorkflow id kind expected w irreversible updatedAt = .ok (t, next)) :
    RowSaved id kind w s t ∧ t.entities = s.entities := by
  obtain ⟨-, -, hrevision, hnext, rfl⟩ := saveWorkflow_eq_ok.1 h
  exact ⟨rowSaved_putWorkflow hrevision hnext rfl, rfl⟩

theorem rowSaved_of_batch [Encoded V] {β : Type} [Serde V β] {ekind : EntityKind}
    {saves : List (EntityBatchSave β)} {deletes : List EntityBatchDelete}
    (h : s.saveWorkflowWithEntityBatch id kind expected w irreversible updatedAt ekind saves
      deletes = .ok (t, next)) :
    RowSaved id kind w s t ∧ s.authenticatedWorkflowRevision id kind = .ok expected ∧
      ∃ written, WalletStore.Batched ekind saves deletes s written ∧
        t.entities = written.entities := by
  obtain ⟨-, hrevision, hnext, written, hbatched, rfl⟩ :=
    saveWorkflowWithEntityBatch_batched h
  exact ⟨rowSaved_putWorkflow hrevision hnext hbatched.workflows, hrevision, written, hbatched, rfl⟩

variable [Serde V HnsNameWorkflow]

theorem lookup_eq_none_of_revision_zero (hs : s.Sound)
    (hrevision : s.authenticatedWorkflowRevision id kind = .ok 0) :
    s.workflows.lookup id = none := by
  rcases authenticatedWorkflowRevision_eq_ok.1 hrevision with ⟨hnone, -⟩ | ⟨r, hr, -, hz⟩
  · exact hnone
  · exact absurd hz.symm (hs.workflows id r hr)

theorem RowSaved.sound (h : RowSaved id kind w s t) (hs : s.Sound)
    (hentities : ∀ rid row, t.entities.lookup (.inputReservation, rid) = some row →
      row.revision ≠ 0)
    (hkind : ∀ row (w' : HnsNameWorkflow), t.workflows.lookup id = some row → kind.isName →
      Serde.fromSlice row.state = some w' →
        kind = w'.plan.action.workflowKind ∧ w'.plan.workflowId = id) :
    t.Sound where
  workflows id' row hlookup := by
    by_cases hid : id' = id
    · subst hid
      obtain ⟨row', hrow', -, -, hrevision⟩ := h.row
      rw [hlookup] at hrow'
      cases hrow'
      exact hrevision
    · rw [h.others id' hid] at hlookup
      exact hs.workflows id' row hlookup
  entities := hentities
  kinds id' row w' hlookup hname hstate := by
    by_cases hid : id' = id
    · subst hid
      obtain ⟨row', hrow', hrowKind, -, -⟩ := h.row
      rw [hlookup] at hrow'
      cases hrow'
      exact hrowKind ▸ hkind row w' hlookup (hrowKind ▸ hname) hstate
    · rw [h.others id' hid] at hlookup
      exact hs.kinds id' row w' hlookup hname hstate

theorem RowSaved.sound_name {w : HnsNameWorkflow} (h : RowSaved id kind w s t) (hs : s.Sound)
    (hentities : ∀ rid row, t.entities.lookup (.inputReservation, rid) = some row →
      row.revision ≠ 0)
    (hkind : kind = w.plan.action.workflowKind ∧ w.plan.workflowId = id) : t.Sound := by
  refine h.sound hs hentities fun row w' hlookup _ hstate => ?_
  obtain ⟨row', hrow', -, hstate', -⟩ := h.row
  rw [hlookup] at hrow'
  cases hrow'
  cases hstate.symm.trans hstate'
  exact hkind

theorem RowSaved.sound_send (h : RowSaved id .hnsSend w s t) (hs : s.Sound)
    (hentities : ∀ rid row, t.entities.lookup (.inputReservation, rid) = some row →
      row.revision ≠ 0) : t.Sound :=
  h.sound hs hentities fun _ _ _ hname _ => by cases hname

end Rows

section Books

variable {V : Type} {s t u : WalletStore V} {id : WorkflowId} {kind : WorkflowKind}
  {config : HnsRuntimeConfig} {powers : BookPowers} {effect : HoldingEffect}
  {handed : List (List UInt8)}

section Views

variable {α β : Type} [Serde V α] [Serde V β] {view : WalletStore V → WorkflowId → Option β}
  {P : WorkflowKind → Prop}

/-- The rows of some kinds, read by id. -/
def Views (view : WalletStore V → WorkflowId → Option β) (P : WorkflowKind → Prop) : Prop :=
  ∀ {store : WalletStore V} {id : WorkflowId} {w : β}, view store id = some w ↔
    ∃ row, store.workflows.lookup id = some row ∧ P row.kind ∧ Serde.fromSlice row.state = some w

theorem Views.congr (hview : Views view P) {id' : WorkflowId}
    (h : t.workflows.lookup id' = s.workflows.lookup id') : view t id' = view s id' :=
  Option.ext fun w => by rw [hview, hview, h]

theorem RowSaved.updates {w : β} (h : RowSaved id kind w s t) (hview : Views view P)
    (hkind : P kind) : view t = Function.update (view s) id (some w) := by
  obtain ⟨row, hlookup, rfl, hstate, -⟩ := h.row
  funext id'
  by_cases hid : id' = id
  · rw [hid, Function.update_self, hview]
    exact ⟨row, hlookup, hkind, hstate⟩
  · rw [Function.update_of_ne hid, hview.congr (h.others id' hid)]

theorem RowSaved.leaves {w : α} (h : RowSaved id kind w s t) (hview : Views view P)
    (hkind : ¬ P kind) : view t = view s ∧ view s id = none := by
  have hno : ∀ {store : WalletStore V},
      (∀ row, store.workflows.lookup id = some row → row.kind = kind) → view store id = none := by
    intro store hrow
    refine Option.eq_none_iff_forall_ne_some.2 fun w hw => ?_
    obtain ⟨row, hlookup, hshown, -⟩ := hview.1 hw
    exact hkind (hrow row hlookup ▸ hshown)
  obtain ⟨row, hlookup, hrowKind, -⟩ := h.row
  refine ⟨funext fun id' => ?_, hno h.before⟩
  by_cases hid : id' = id
  · rw [hid, hno h.before, hno]
    intro row' hlookup'
    rw [hlookup] at hlookup'
    cases hlookup'
    exact hrowKind
  · exact hview.congr (h.others id' hid)

end Views

variable [Serde V HnsNameWorkflow] [Serde V HnsSendWorkflow]

theorem RowSaved.names {w : HnsNameWorkflow} (h : RowSaved id kind w s t) (hkind : kind.isName) :
    t.nameWorkflow = Function.update s.nameWorkflow id (some w) ∧
      t.sendWorkflow = s.sendWorkflow ∧ s.sendWorkflow id = none :=
  ⟨h.updates (P := (·.isName)) nameWorkflow_eq_some hkind,
    h.leaves (P := (· = .hnsSend)) sendWorkflow_eq_some (by rintro rfl; cases hkind)⟩

theorem RowSaved.sends {w : HnsSendWorkflow} (h : RowSaved id .hnsSend w s t) :
    t.sendWorkflow = Function.update s.sendWorkflow id (some w) ∧
      t.nameWorkflow = s.nameWorkflow ∧ s.nameWorkflow id = none :=
  ⟨h.updates (P := (· = .hnsSend)) sendWorkflow_eq_some rfl,
    h.leaves (P := (·.isName)) nameWorkflow_eq_some (by rintro ⟨⟩)⟩

variable [Serde V HnsInputReservation] [HnsTransactions]

def Refines (config : HnsRuntimeConfig) (powers : BookPowers) (s t : HnsSystem V) : Prop :=
  s.store.Sound → t.store.Sound ∧ HnsBook.Moves config powers (s.book config) (t.book config)

theorem Refines.refl (s : HnsSystem V) : Refines config powers s s :=
  fun hs => ⟨hs, .refl⟩

theorem Refines.trans {s t u : HnsSystem V} (h : Refines config powers s t)
    (h' : Refines config powers t u) : Refines config powers s u := by
  intro hs
  obtain ⟨ht, hmoves⟩ := h hs
  obtain ⟨hu, hmoves'⟩ := h' ht
  exact ⟨hu, hmoves.trans hmoves'⟩

def StoreRefines (config : HnsRuntimeConfig) (powers : BookPowers) (s t : WalletStore V) : Prop :=
  ∀ sent, Refines config powers ⟨s, sent⟩ ⟨t, sent⟩

theorem StoreRefines.refl (s : WalletStore V) : StoreRefines config powers s s :=
  fun _ => .refl _

theorem StoreRefines.trans (h : StoreRefines config powers s t)
    (h' : StoreRefines config powers t u) : StoreRefines config powers s u :=
  fun sent => (h sent).trans (h' sent)

variable {α : Type} {m : EStateM HnsWalletError (WalletStore V) α}

theorem onStore_refines {system : HnsSystem V}
    (h : StoreRefines config powers system.store (finalState (m system.store))) :
    Refines config powers system (finalState (onStore m system)) := by
  have hstore := h system.sent
  unfold onStore
  cases hm : m system.store with
  | ok a store | error e store =>
    rw [hm] at hstore
    exact hstore

theorem onStore_keeps
    (h : Keeps (StoreRefines config powers) m) : Keeps (Refines config powers) (onStore m) :=
  fun system => onStore_refines (h system.store)

theorem RowSaved.refines_name {w : HnsNameWorkflow} (h : RowSaved id kind w s t)
    (hkind : kind.isName) (ht : t.Sound)
    (hreserved : t.reservation config = effect.apply config id (s.reservation config))
    (hpossible : effect.Possible (s.reservation config))
    (hmove : NameMove config powers.toMovePowers id effect handed (s.nameWorkflow id) w)
    (sent : List (WorkflowId × List UInt8)) :
    Refines config powers ⟨s, sent⟩ ⟨t, sent ++ handed.map (id, ·)⟩ := by
  intro _
  obtain ⟨hnames, hsends, hother⟩ := h.names hkind
  refine ⟨ht, .single ?_⟩
  have hbook : book config ⟨t, sent ++ handed.map (id, ·)⟩ =
      { book config ⟨s, sent⟩ with
        names := Function.update s.nameWorkflow id (some w)
        reserved := effect.apply config id (s.reservation config)
        sent := sent ++ handed.map (id, ·) } := by
    simp only [book, hnames, hsends, hreserved]
  rw [hbook]
  exact .name (b := book config ⟨s, sent⟩) hother hpossible hmove

theorem RowSaved.refines_name_alone {w : HnsNameWorkflow} (h : RowSaved id kind w s t)
    (hentities : t.entities = s.entities) (hkind : kind.isName)
    (hmatches : kind = w.plan.action.workflowKind ∧ w.plan.workflowId = id)
    (hmove : NameMove config powers.toMovePowers id .keep handed (s.nameWorkflow id) w)
    (sent : List (WorkflowId × List UInt8)) :
    Refines config powers ⟨s, sent⟩ ⟨t, sent ++ handed.map (id, ·)⟩ := by
  intro hs
  have ht : t.Sound := h.sound_name hs (by rw [hentities]; exact hs.entities) hmatches
  have hsame : t.reservation config = keep.apply config id (s.reservation config) :=
    reservation_congr (by rw [hentities]; intro; rfl)
  exact h.refines_name hkind ht hsame possible_keep hmove sent hs

variable {saves : List (EntityBatchSave HnsInputReservation)} {deletes : List EntityBatchDelete}

theorem RowSaved.refines_name_batch {w : HnsNameWorkflow} {written : WalletStore V}
    (h : RowSaved id kind w s t)
    (hbatched : WalletStore.Batched .inputReservation saves deletes s written)
    (hentities : t.entities = written.entities) (hkind : kind.isName)
    (hmatches : kind = w.plan.action.workflowKind ∧ w.plan.workflowId = id)
    (hreserved : s.Sound → effect.Possible (s.reservation config) ∧
      written.reservation config = effect.apply config id (s.reservation config))
    (hmove : NameMove config powers.toMovePowers id effect [] (s.nameWorkflow id) w) :
    StoreRefines config powers s t := by
  intro sent hs
  obtain ⟨hpossible, happly⟩ := hreserved hs
  have ht : t.Sound := h.sound_name hs (by rw [hentities]; exact (hbatched.sound hs).entities)
    hmatches
  have hsame : t.reservation config = written.reservation config :=
    reservation_congr (by rw [hentities]; intro; rfl)
  have hrefines := h.refines_name hkind ht (hsame.trans happly) hpossible hmove sent
  rw [List.map_nil, List.append_nil] at hrefines
  exact hrefines hs

theorem RowSaved.refines_send {w : HnsSendWorkflow} (h : RowSaved id .hnsSend w s t) (ht : t.Sound)
    (hreserved : t.reservation config = effect.apply config id (s.reservation config))
    (hpossible : effect.Possible (s.reservation config))
    (hmove : SendMove config powers.toMovePowers id effect handed (s.sendWorkflow id) w)
    (sent : List (WorkflowId × List UInt8)) :
    Refines config powers ⟨s, sent⟩ ⟨t, sent ++ handed.map (id, ·)⟩ := by
  intro _
  obtain ⟨hsends, hnames, hother⟩ := h.sends
  refine ⟨ht, .single ?_⟩
  have hbook : book config ⟨t, sent ++ handed.map (id, ·)⟩ =
      { book config ⟨s, sent⟩ with
        sends := Function.update s.sendWorkflow id (some w)
        reserved := effect.apply config id (s.reservation config)
        sent := sent ++ handed.map (id, ·) } := by
    simp only [book, hnames, hsends, hreserved]
  rw [hbook]
  exact .send (b := book config ⟨s, sent⟩) hother hpossible hmove

theorem RowSaved.refines_send_alone {w : HnsSendWorkflow} (h : RowSaved id .hnsSend w s t)
    (hentities : t.entities = s.entities)
    (hmove : SendMove config powers.toMovePowers id .keep handed (s.sendWorkflow id) w)
    (sent : List (WorkflowId × List UInt8)) :
    Refines config powers ⟨s, sent⟩ ⟨t, sent ++ handed.map (id, ·)⟩ := by
  intro hs
  have ht : t.Sound := h.sound_send hs (by rw [hentities]; exact hs.entities)
  have hsame : t.reservation config = keep.apply config id (s.reservation config) :=
    reservation_congr (by rw [hentities]; intro; rfl)
  exact h.refines_send ht hsame possible_keep hmove sent hs

theorem RowSaved.refines_send_batch {w : HnsSendWorkflow} {written : WalletStore V}
    (h : RowSaved id .hnsSend w s t)
    (hbatched : WalletStore.Batched .inputReservation saves deletes s written)
    (hentities : t.entities = written.entities)
    (hreserved : s.Sound → effect.Possible (s.reservation config) ∧
      written.reservation config = effect.apply config id (s.reservation config))
    (hmove : s.Sound → SendMove config powers.toMovePowers id effect [] (s.sendWorkflow id) w) :
    StoreRefines config powers s t := by
  intro sent hs
  obtain ⟨hpossible, happly⟩ := hreserved hs
  have ht : t.Sound := h.sound_send hs (by rw [hentities]; exact (hbatched.sound hs).entities)
  have hsame : t.reservation config = written.reservation config :=
    reservation_congr (by rw [hentities]; intro; rfl)
  have hrefines := h.refines_send ht (hsame.trans happly) hpossible (hmove hs) sent
  rw [List.map_nil, List.append_nil] at hrefines
  exact hrefines hs

theorem refines_drop {dropped : HnsInputReservation → Bool} (ht : t.Sound)
    (hworkflows : t.workflows = s.workflows) (hreserved : t.reservation config = fun outpoint =>
      (s.reservation config outpoint).filter fun reservation => !dropped reservation)
    {sent : List (WorkflowId × List UInt8)}
    (hallowed : ∀ outpoint reservation, s.reservation config outpoint = some reservation →
      dropped reservation → powers.drops (book config ⟨s, sent⟩) reservation) :
    Refines config powers ⟨s, sent⟩ ⟨t, sent⟩ := by
  intro _
  refine ⟨ht, .single ?_⟩
  have hnames : t.nameWorkflow = s.nameWorkflow :=
    funext fun id => nameWorkflow_congr (by rw [hworkflows])
  have hsends : t.sendWorkflow = s.sendWorkflow :=
    funext fun id => sendWorkflow_congr (by rw [hworkflows])
  have hbook : book config ⟨t, sent⟩ = { book config ⟨s, sent⟩ with
      reserved := fun outpoint => (s.reservation config outpoint).filter fun reservation =>
        !dropped reservation } := by
    simp only [book, hnames, hsends, hreserved]
  rw [hbook]
  exact .drop (b := book config ⟨s, sent⟩) dropped hallowed

end Books

section Names

variable {V : Type} [Serde V HnsNameWorkflow] {s t : WalletStore V} {id : WorkflowId}
  {kind : WorkflowKind} {config : HnsRuntimeConfig} {powers : BookPowers} {plan : HnsNamePlan}
  {stored : StoredWorkflow HnsNameWorkflow} {loaded : Option (StoredWorkflow HnsNameWorkflow)}
  {nowUnix startedAtUnix revision : UInt64} {r : SnapshotBinding × MempoolSnapshotBinding}
  {transactionId : Bytes 32} {submitted : HnsNameWorkflow} {system : HnsSystem V}
  {view : NameAuthorityView} {required : Option (SnapshotBinding × MempoolSnapshotBinding)}
  {quote : HnsTransactionFeeQuote}

theorem nameWorkflow_of_loaded (h : s.loadWorkflow HnsNameWorkflow id = .ok loaded)
    (hsome : loaded = some stored) (hkind : stored.kind.isName) :
    s.nameWorkflow id = some stored.state :=
  nameWorkflow_of_load (hsome ▸ h) hkind

theorem WalletStore.Sound.kind_of_loaded (hs : s.Sound)
    (h : s.loadWorkflow HnsNameWorkflow id = .ok loaded) (hsome : loaded = some stored)
    (hkind : stored.kind.isName) :
    stored.kind = stored.state.plan.action.workflowKind ∧ stored.state.plan.workflowId = id := by
  subst hsome
  obtain ⟨-, row, state, hlookup, hstate, rfl⟩ := loadWorkflow_eq_some.1 h
  exact hs.kinds id row state hlookup hkind hstate

theorem loadNameFor_eq_ok (h : loadNameFor id system = .ok stored) :
    system.store.loadWorkflow HnsNameWorkflow id = .ok (some stored) := by
  simp only [loadNameFor, ok_iff] at h
  obtain ⟨loaded, hload, hstored⟩ := h
  exact hstored ▸ hload

variable [Encoded V]

theorem reacquireNamePlanAuthority_eq_ok
    (h : reacquireNamePlanAuthority plan view required s = .ok r t) : t = s := by
  simp only [reacquireNamePlanAuthority, attempt_bind_eq_ok, lift_eq_ok] at h
  obtain ⟨verdict, _, ⟨-, rfl⟩, h⟩ := h
  cases verdict with
  | current binding mempool => exact (attempt_pure_eq_ok.1 h).2.symm
  | changed =>
    simp only [attempt_bind_eq_ok, lift_eq_ok] at h
    obtain ⟨-, _, -, herror, -⟩ := h
    cases herror

theorem onStore_reacquire {system' : HnsSystem V}
    (h : onStore (reacquireNamePlanAuthority plan view required) system = .ok r system') :
    system' = system := by
  unfold onStore at h
  cases hauthority : reacquireNamePlanAuthority plan view required system.store with
  | error e store =>
    rw [hauthority] at h
    cases h
  | ok a store =>
    rw [hauthority] at h
    cases h
    rw [reacquireNamePlanAuthority_eq_ok hauthority]

theorem beginNameSubmission_stage
    (h : beginNameSubmission stored quote startedAtUnix s = .ok (t, revision, submitted)) :
    submitted.stage = .requiresRebroadcast := by
  simp only [beginNameSubmission, ok_iff] at h
  obtain ⟨_, -, current, -, -, -, ⟨saved, next⟩, -, hret⟩ := h
  cases hret
  rfl

variable [Serde V HnsInputReservation] [Serde V HnsSendWorkflow] [HnsTransactions]

theorem markNameOperationReapprovalRequired_refines {r : Unit}
    (hmarks : s.Sound → ∀ w, s.nameWorkflow plan.workflowId = some w → w.stage = .prepared →
      powers.withdraws) (h : markNameOperationReapprovalRequired plan nowUnix s = .ok (t, r)) :
    StoreRefines config powers s t := by
  simp only [markNameOperationReapprovalRequired, ok_iff] at h
  obtain ⟨loaded, hload, stored, hstored, -, hchecks, ⟨saved, next⟩, hsave, hret⟩ := h
  cases hret
  simp only [not_or, not_and_or, not_not] at hchecks
  obtain ⟨hkind, hplan, hstage⟩ := hchecks
  obtain ⟨hsaved, hentities⟩ := rowSaved_of_save hsave
  have hread := nameWorkflow_of_loaded hload hstored (by rw [hkind]; simp)
  intro sent hs
  have hmove : NameMove config powers.toMovePowers plan.workflowId .keep [] (some stored.state) _ :=
    .mark hstage (hmarks hs stored.state hread)
  rw [← hread] at hmove
  have hrefines := hsaved.refines_name_alone hentities (by simp) (by rw [hplan]; exact ⟨rfl, rfl⟩)
    hmove sent
  rw [List.map_nil, List.append_nil] at hrefines
  exact hrefines hs

theorem reacquireNamePlanAuthority_refines
    (hmarks : plan.authorityVerdict view required = .ok .changed → s.Sound →
      ∀ w, s.nameWorkflow plan.workflowId = some w → w.stage = .prepared → powers.withdraws) :
    StoreRefines config powers s
      (finalState (reacquireNamePlanAuthority plan view required s)) := by
  refine finalState_bind .trans (Keeps.lift .refl _ s) fun verdict s₁ h₁ => ?_
  obtain ⟨hverdict, rfl⟩ := lift_eq_ok.1 h₁
  cases verdict with
  | current binding mempool => exact .refl s
  | changed =>
    refine finalState_bind .trans ?_ fun _ s₂ _ => Keeps.lift .refl _ s₂
    unfold transact
    cases hmark : markNameOperationReapprovalRequired plan view.nowUnix s with
    | error e => exact .refl s
    | ok result =>
      obtain ⟨t, r⟩ := result
      exact markNameOperationReapprovalRequired_refines (hmarks hverdict) hmark

theorem availableUnreservedCoins_refines {coins free : List TrackedHnsCoin}
    (hdrops : ∀ b reservation, HnsInputReservation.expired reservation nowUnix →
      reservation.kind.isProtectedShakedex = false → powers.drops b reservation)
    (h : availableUnreservedCoins s config coins nowUnix = .ok (t, free)) :
    StoreRefines config powers s t := by
  simp only [availableUnreservedCoins, ok_iff] at h
  obtain ⟨listed, hlisted, h⟩ := h
  split at h
  next =>
    cases h
    exact .refl _
  next =>
    obtain ⟨written, hbatch, hret⟩ := ok_bind_iff.1 h
    cases hret
    obtain ⟨-, hbatched⟩ := applyEntityBatch_batched (mapError_eq_ok.1 hbatch)
    intro sent hs
    refine refines_drop (hbatched.sound hs) hbatched.workflows
      (hbatched.reservation_delete hlisted (fun reservation => reservation.expired nowUnix &&
        !reservation.kind.isProtectedShakedex) fun _ _ => rfl)
      (fun outpoint reservation _ hdropped => ?_) hs
    rw [Bool.and_eq_true, Bool.not_eq_true'] at hdropped
    exact hdrops _ reservation hdropped.1 hdropped.2

theorem savePreparedName_refines {source : TrackedHnsCoin} {r : Unit} (hown : plan.ofAccount config)
    (hsource : source.coin.outpoint = plan.source.ownerOutpoint)
    (h : savePreparedName config plan source nowUnix s = .ok (t, r)) :
    StoreRefines config powers s t := by
  simp only [savePreparedName, nameReservationSaves, ok_iff] at h
  obtain ⟨saves, ⟨-, hchecks, -, -, hsaves⟩, loaded, hload, -, hnone, ⟨saved, next⟩, hsave,
    hret⟩ := h
  cases hret
  cases hsaves
  simp only [not_or, not_exists, not_and] at hchecks
  obtain ⟨-, hfunded, -, hordinary⟩ := hchecks
  obtain ⟨hsaved, -, written, hbatched, hentities⟩ := rowSaved_of_batch hsave
  rw [hsource] at hbatched
  have habsent : loaded = none := by simpa using hnone
  rw [habsent, loadWorkflow_eq_none] at hload
  have hmove : NameMove config powers.toMovePowers plan.workflowId
      (.reserve plan.reservations plan.expiresAtUnix) [] (s.nameWorkflow plan.workflowId)
      (newNameWorkflow plan) := by
    rw [WalletStore.nameWorkflow, hload.2]
    exact .prepare hown rfl (fun input hinput => by simpa using hordinary input hinput) hfunded
  exact hsaved.refines_name_batch hbatched hentities (by simp) ⟨rfl, rfl⟩
    (fun hs => reservation_reserve plan.reservations hs hbatched) hmove

theorem persistPreparedNameOperation_keeps [Sha256] {request : HnsNamePlan}
    {source : TrackedNameSource} {cachedCoins : List TrackedHnsCoin}
    {build : List TrackedHnsCoin → Except HnsWalletError NameAssembly} {cache : HnsRuntimeCache}
    (hdrops : ∀ b reservation, HnsInputReservation.expired reservation nowUnix →
      reservation.kind.isProtectedShakedex = false → powers.drops b reservation) :
    Keeps (StoreRefines config powers) (persistPreparedNameOperation (V := V) config request source
      cachedCoins build cache nowUnix) := by
  refine .bind .trans (.reading .refl _) fun loaded => ?_
  cases loaded with
  | some stored =>
    refine .lift_bind .refl fun _ _ => ?_
    exact .bind .trans (.reading .refl _) fun _ => .pure .refl _
  | none =>
    refine .bind .trans (.transact .refl fun s t r h =>
      availableUnreservedCoins_refines hdrops h) fun coins => ?_
    refine .lift_bind .refl fun assembly _ => ?_
    refine .lift_bind .refl fun expiresAtUnix _ => ?_
    refine .lift_bind .refl fun _ _ => ?_
    exact .bind .trans (.transact .refl fun s t r h =>
      savePreparedName_refines ⟨rfl, rfl⟩ source.outpoint_eq h) fun _ => .pure .refl _

omit [Encoded V] [Serde V HnsSendWorkflow] [HnsTransactions] in
theorem loadUnsignedPreparation_eq_ok (h : loadUnsignedPreparation config plan s = .ok stored) :
    s.loadWorkflow HnsNameWorkflow plan.workflowId = .ok (some stored) ∧
      isUnsignedPreparation stored plan := by
  simp only [loadUnsignedPreparation, ok_iff, not_not] at h
  obtain ⟨loaded, hload, stored', hstored, -, hunsigned, -, -, hret⟩ := h
  cases hret
  exact ⟨hstored ▸ hload, hunsigned⟩

theorem saveAuthorizedName_refines {signed : List UInt8} {approvalStands : Bool}
    {commitNow : UInt64} {r : Unit} (hcommits : powers.commits commitNow)
    (hlive : commitNow < plan.expiresAtUnix)
    (h : saveAuthorizedName config plan signed transactionId quote approvalStands commitNow s =
      .ok (t, r)) : StoreRefines config powers s t := by
  simp only [saveAuthorizedName, ok_iff] at h
  obtain ⟨stored, hload, saves, hsaves, -, -, ⟨saved, next⟩, hsave, hret⟩ := h
  cases hret
  obtain ⟨hload, hkind, hplan, hstage, -⟩ := loadUnsignedPreparation_eq_ok hload
  obtain ⟨hsaved, -, written, hbatched, hentities⟩ := rowSaved_of_batch hsave
  have hread := nameWorkflow_of_load hload (by rw [hkind]; simp)
  have hmove : NameMove config powers.toMovePowers plan.workflowId .activate []
      (some stored.state) _ :=
    .authorize hstage hcommits (hplan ▸ hlive) signed transactionId quote
  rw [hplan, ← hread] at hmove
  exact hsaved.refines_name_batch hbatched hentities (by simp) ⟨rfl, rfl⟩
    (fun _ => ⟨possible_activate, reservation_activate hsaves hbatched⟩) hmove

def NameAuthorization.findsChange (given : NameAuthorization) (plan : HnsNamePlan) : Prop :=
  plan.authorityVerdict given.first none = .ok .changed ∨
    ∃ quote, given.quote = .ok quote ∧
      plan.authorityVerdict given.second (some (quote.binding, quote.mempool)) = .ok .changed

theorem authorizeNameOperation_keeps {given : NameAuthorization}
    (hcommits : powers.commits given.commitNow)
    (hmarks : given.findsChange plan → powers.withdraws) :
    Keeps (StoreRefines config powers) (authorizeNameOperation (V := V) config plan given) := by
  refine .lift_bind .refl fun _ _ => ?_
  refine .lift_bind .refl fun _ _ => ?_
  refine .lift_bind .refl fun _ _ => ?_
  refine .bind .trans (fun s => reacquireNamePlanAuthority_refines fun hchanged _ _ _ _ =>
    hmarks (.inl hchanged)) fun _ => ?_
  refine .lift_bind .refl fun _ _ => ?_
  refine .bind .trans (.reading .refl _) fun _ => ?_
  refine .lift_bind .refl fun _ _ => ?_
  refine .lift_bind .refl fun quote hquote => ?_
  refine .lift_bind .refl fun _ hlive => ?_
  rw [refuseIf_eq_ok, UInt64.not_le] at hlive
  refine .bind .trans (fun s => reacquireNamePlanAuthority_refines fun hchanged _ _ _ _ =>
    hmarks (.inr ⟨quote, hquote, hchanged⟩)) fun _ => ?_
  exact .bind .trans (.transact .refl fun s t r h =>
    saveAuthorizedName_refines hcommits hlive h) fun _ => .pure .refl _

theorem beginNameSubmission_refines {raw : List UInt8} (hkind : stored.kind.isName)
    (hstage : stored.state.stage = .authorized ∨ stored.state.stage = .requiresRebroadcast)
    (hsigned : stored.state.signedTransaction = some raw)
    (htransaction : stored.state.transaction.isSome)
    (h : beginNameSubmission stored quote startedAtUnix s = .ok (t, revision, submitted))
    (sent : List (WorkflowId × List UInt8)) :
    Refines config powers ⟨s, sent⟩ ⟨t, sent ++ [(stored.id, raw)]⟩ := by
  simp only [beginNameSubmission, ok_iff] at h
  obtain ⟨loaded, hload, current, hcurrent, -, hsame, ⟨saved, next⟩, hsave, hret⟩ := h
  cases hret
  rw [not_or, not_not, not_not] at hsame
  obtain ⟨hsaved, hentities⟩ := rowSaved_of_save hsave
  intro hs
  have hcurrentKind := hsaved.kind_of_load hload hcurrent
  have hread := nameWorkflow_of_loaded hload hcurrent (hcurrentKind ▸ hkind)
  have hmatches := hs.kind_of_loaded hload hcurrent (hcurrentKind ▸ hkind)
  have hmove : NameMove config powers.toMovePowers stored.id .keep [raw] (some current.state) _ :=
    .submit (hsame.2.symm ▸ hstage) (hsame.2.symm ▸ hsigned) (hsame.2.symm ▸ htransaction) quote
  rw [← hread] at hmove
  exact hsaved.refines_name_alone hentities hkind ⟨hcurrentKind ▸ hmatches.1, hmatches.2⟩ hmove
    sent hs

theorem finishNameSubmission_refines {acceptedAtUnix : UInt64} {r : Unit} (hkind : kind.isName)
    (hstage : submitted.stage = .requiresRebroadcast)
    (h : finishNameSubmission id kind revision submitted acceptedAtUnix s = .ok (t, r)) :
    StoreRefines config powers s t := by
  simp only [finishNameSubmission, ok_iff] at h
  obtain ⟨loaded, hload, current, hcurrent, -, hsame, ⟨saved, next⟩, hsave, hret⟩ := h
  cases hret
  rw [not_or, not_not, not_not] at hsame
  obtain ⟨hsaved, hentities⟩ := rowSaved_of_save hsave
  intro sent hs
  have hcurrentKind := hsaved.kind_of_load hload hcurrent
  have hread := nameWorkflow_of_loaded hload hcurrent (hcurrentKind ▸ hkind)
  have hmatches := hs.kind_of_loaded hload hcurrent (hcurrentKind ▸ hkind)
  have hmove : NameMove config powers.toMovePowers id .keep [] (some current.state) _ :=
    .accept (hsame.2.symm ▸ hstage)
  rw [← hread] at hmove
  have hrefines := hsaved.refines_name_alone hentities hkind
    ⟨hcurrentKind ▸ hmatches.1, hmatches.2⟩ hmove sent
  rw [List.map_nil, List.append_nil] at hrefines
  exact hrefines hs

variable {given : NameSubmission}

theorem submitNameWorkflow_keeps (hkind : stored.kind.isName)
    (hstage : stored.state.stage = .authorized ∨ stored.state.stage = .requiresRebroadcast) :
    Keeps (Refines config powers) (submitNameWorkflow (V := V) stored quote given) := by
  refine .lift_bind .refl fun raw hraw => ?_
  refine .lift_bind .refl fun expected hexpected => ?_
  rw [okOr_eq_ok] at hraw hexpected
  refine .bind_of .trans (P := fun begun : UInt64 × HnsNameWorkflow =>
    begun.2.stage = .requiresRebroadcast) (.transact .refl fun s t begun h => ?_) (fun h => ?_)
    fun begun hbegun => ?_
  · simp only [ok_iff] at h
    obtain ⟨⟨store, revision, submitted⟩, hbegin, hret⟩ := h
    cases hret
    exact beginNameSubmission_refines hkind hstage hraw (by rw [hexpected]; rfl) hbegin s.sent
  · rw [transact_eq_ok] at h
    simp only [ok_iff] at h
    obtain ⟨⟨store, revision, submitted⟩, hbegin, hret⟩ := h
    cases hret
    exact beginNameSubmission_stage hbegin
  · refine .lift_bind .refl fun actual _ => ?_
    refine .lift_bind .refl fun _ _ => ?_
    refine .bind .trans (onStore_keeps (.transact .refl fun s t r h =>
      finishNameSubmission_refines hkind hbegun h)) fun _ => .pure .refl _

theorem resubmitName_refines
    (hload : system.store.loadWorkflow HnsNameWorkflow id = .ok (some stored))
    (hkind : stored.kind.isName)
    (hstage : stored.state.stage = .authorized ∨ stored.state.stage = .requiresRebroadcast) :
    Refines config powers system (finalState (resubmitName stored given system)) := by
  have hsigned : system.store.Sound → ∀ w,
      system.store.nameWorkflow stored.state.plan.workflowId = some w → w.stage = .prepared →
      powers.withdraws := by
    intro hs w hread hprepared
    rw [(hs.kind_of_loaded hload rfl hkind).2, nameWorkflow_of_load hload hkind] at hread
    cases hread
    rw [hprepared] at hstage
    rcases hstage with hstage | hstage <;> cases hstage
  have hauthority : ∀ view required, Refines config powers system (finalState (onStore
      (reacquireNamePlanAuthority stored.state.plan view required) system)) :=
    fun view required => onStore_refines (reacquireNamePlanAuthority_refines fun _ => hsigned)
  refine finalState_bind .trans (hauthority _ _) fun _ system₁ h₁ => ?_
  obtain rfl := onStore_reacquire h₁
  refine finalState_bind .trans (Keeps.lift .refl _ _) fun _ system₂ h₂ => ?_
  obtain ⟨-, rfl⟩ := lift_eq_ok.1 h₂
  refine finalState_bind .trans (Keeps.lift .refl _ _) fun _ system₃ h₃ => ?_
  obtain ⟨-, rfl⟩ := lift_eq_ok.1 h₃
  refine finalState_bind .trans (Keeps.lift .refl _ _) fun quote system₄ h₄ => ?_
  obtain ⟨-, rfl⟩ := lift_eq_ok.1 h₄
  refine finalState_bind .trans (hauthority _ _) fun _ system₅ _ => ?_
  exact submitNameWorkflow_keeps hkind hstage system₅

theorem broadcastNameOperation_keeps {action : HnsNameAction} {transactionBytes : List UInt8} :
    Keeps (Refines config powers)
      (broadcastNameOperation (V := V) id action transactionId transactionBytes given) := by
  intro system
  refine Keeps.reading_bind .refl fun stored hloaded => ?_
  refine finalState_bind .trans (Keeps.lift .refl _ _) fun _ system₁ h₁ => ?_
  obtain ⟨hchecks, rfl⟩ := lift_eq_ok.1 h₁
  rw [refuseIf_eq_ok] at hchecks
  simp only [not_or, not_not] at hchecks
  exact resubmitName_refines (loadNameFor_eq_ok hloaded) (by rw [hchecks.1]; simp)
    (.inl hchecks.2.1)

theorem rebroadcastPendingNameOperation_keeps :
    Keeps (Refines config powers) (rebroadcastPendingNameOperation (V := V) id given) := by
  intro system
  refine Keeps.reading_bind .refl fun stored hloaded => ?_
  refine finalState_bind .trans (Keeps.lift .refl _ _) fun _ system₁ h₁ => ?_
  obtain ⟨hchecks, rfl⟩ := lift_eq_ok.1 h₁
  rw [refuseIf_eq_ok] at hchecks
  simp only [not_or, not_and_or, not_not] at hchecks
  refine finalState_bind .trans (Keeps.lift .refl _ _) fun _ system₂ h₂ => ?_
  obtain ⟨-, rfl⟩ := lift_eq_ok.1 h₂
  exact resubmitName_refines (loadNameFor_eq_ok hloaded) (by rw [hchecks.1]; simp) hchecks.2

theorem cancelPreparedNameOperation_refines {r : Unit}
    (h : cancelPreparedNameOperation config id nowUnix s = .ok (t, r)) :
    StoreRefines config powers s t := by
  simp only [cancelPreparedNameOperation, ok_iff] at h
  obtain ⟨loaded, hload, stored, hstored, -, hchecks, deletes, hdeletes, ⟨saved, next⟩, hsave,
    hret⟩ := h
  cases hret
  simp only [not_or, not_and_or, not_not] at hchecks
  obtain ⟨-, hkind, hstage⟩ := hchecks
  obtain ⟨hsaved, -, written, hbatched, hentities⟩ := rowSaved_of_batch hsave
  have hread := nameWorkflow_of_loaded hload hstored (by rw [hkind]; simp)
  have hmove : NameMove config powers.toMovePowers id .release [] (some stored.state) _ :=
    .cancel hstage
  rw [← hread] at hmove
  intro sent hs
  have hnamed := (hs.kind_of_loaded hload hstored (by rw [hkind]; simp)).2
  exact hsaved.refines_name_batch hbatched hentities (by simp) ⟨rfl, hnamed⟩
    (fun _ => ⟨possible_release, reservation_release hdeletes hbatched⟩) hmove sent hs

end Names

end HnsWallet
