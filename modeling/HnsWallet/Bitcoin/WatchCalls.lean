import HnsWallet.Bitcoin.WatchSplits

/-! # Watches do not depend on each other -/

namespace HnsWallet

open Lib WalletStore

section Calls

variable {f : Bytes 32 → Bytes 32} {event event' : SeenTransaction} {tip tip' : BitcoinCheckpoint}
  {chain : CheckPoint} {blocks : List MatchedSwapBlock}

def BitcoinCheckpoint.relabel (f : Bytes 32 → Bytes 32) (checkpoint : BitcoinCheckpoint) :
    BitcoinCheckpoint :=
  { checkpoint with blockHash := f checkpoint.blockHash }

def SeenTransaction.relabel (f : Bytes 32 → Bytes 32) (event : SeenTransaction) :
    SeenTransaction :=
  { event with blockHash := f event.blockHash }

theorem relabel_eq (h : event.relabel f = event'.relabel f) :
    event.height = event'.height ∧ f event.blockHash = f event'.blockHash ∧
      event.transaction = event'.transaction := by
  simpa [SeenTransaction.relabel] using h

theorem confirmations_relabel {height : UInt32} (h : tip.relabel f = tip'.relabel f) :
    confirmations tip height = confirmations tip' height := by
  have hheight : tip.height = tip'.height := (BitcoinCheckpoint.mk.inj h).1
  rw [confirmations, confirmations, hheight]

variable [BlockLibrary]

open BlockLibrary

theorem checkMatchedBlocks_ok (hvalid : ∀ matched ∈ blocks, validateMatchedBlock matched = .ok ())
    (hchain : ∀ matched ∈ blocks, chain.get matched.height = some (blockHash matched.block)) :
    checkMatchedBlocks chain blocks = .ok () := by
  induction blocks with
  | nil => rfl
  | cons first rest ih =>
    obtain ⟨hfirst, hrest⟩ := List.forall_mem_cons.1 hvalid
    obtain ⟨hget, hgets⟩ := List.forall_mem_cons.1 hchain
    unfold checkMatchedBlocks
    simp only [ok_iff]
    exact ⟨(), hfirst, (), not_not.2 hget, ih hrest hgets⟩

theorem Hashed.of_valid (hvalid : ∀ matched ∈ blocks, validateMatchedBlock matched = .ok ()) :
    Hashed (eventsOf blocks) := by
  intro event hevent
  obtain ⟨matched, hmatched, transaction, -, rfl⟩ := mem_eventsOf.1 hevent
  have hone := hvalid matched hmatched
  simp only [validateMatchedBlock, refuseIf_eq_ok, not_or, Bool.not_eq_true] at hone
  exact hone.1

def PersistedBitcoinSwapObservation.relabel (f : Bytes 32 → Bytes 32)
    (observation : PersistedBitcoinSwapObservation) : PersistedBitcoinSwapObservation :=
  { observation with blockHash := f observation.blockHash }

theorem fundingRecord_relabel {index : UInt32} (htip : tip.relabel f = tip'.relabel f)
    (h : event.relabel f = event'.relabel f) :
    (fundingRecord tip event index).relabel f = (fundingRecord tip' event' index).relabel f := by
  obtain ⟨hheight, hhash, htransaction⟩ := relabel_eq h
  simp [fundingRecord, PersistedBitcoinSwapObservation.relabel, hheight, hhash, htransaction,
    confirmations_relabel htip]

theorem spendRecord_relabel {verified : VerifiedBitcoinHtlcChainSpend}
    (htip : tip.relabel f = tip'.relabel f) (h : event.relabel f = event'.relabel f) :
    (spendRecord tip event verified).relabel f = (spendRecord tip' event' verified).relabel f := by
  obtain ⟨hheight, hhash, htransaction⟩ := relabel_eq h
  simp [spendRecord, PersistedBitcoinSwapObservation.relabel, hheight, hhash, htransaction,
    confirmations_relabel htip]

variable [Sha256] [BitcoinLibrary] {V : Type} [Serde V PersistedBitcoinHtlcWatch]
  {store store' : WalletStore V} {network : BitcoinNetwork} {accountId : List UInt8}
  {binding : Bytes 32} {nowUnix : UInt64} {watches : List BitcoinHtlcWatch}

theorem ReconciledRows.load (hbinding : accountBinding network accountId = .ok binding)
    (hload : loadBitcoinHtlcWatches store network accountId = .ok watches)
    (hblocks : ∀ matched ∈ blocks, chain.get matched.height = some (blockHash matched.block))
    (h : ReconciledRows network binding chain tip blocks watches store store') :
    ∃ watches', loadBitcoinHtlcWatches store' network accountId = .ok watches' ∧
      ∀ watch' ∈ watches', ∃ watch ∈ watches, ∃ changed,
        reconcileWatch network binding chain tip blocks watch.persisted =
          .ok (watch'.persisted, changed) := by
  obtain ⟨hkey, -, hsound, -⟩ := loadBitcoinHtlcWatches_eq_ok hbinding hload
  have hload₀ := hload
  simp only [loadBitcoinHtlcWatches, ok_iff, not_lt] at hload
  obtain ⟨found, hfound, listed, hlisted, _, hcapacity, hdecode⟩ := hload
  cases hbinding.symm.trans hfound
  have hlength := length_of_listEntitiesByIdPrefix hlisted
  -- Every row of the account is a reconciled one.
  have hrow : ∀ id row, watchPrefix binding <+: id →
      store'.entities.lookup (.bitcoinSwapWatch, id) = some row →
      ∃ watch ∈ watches, ∃ reconciled changed, id = watchId binding watch.persisted.sessionId ∧
        reconcileWatch network binding chain tip blocks watch.persisted =
          .ok (reconciled, changed) ∧ Serde.fromSlice row.value = some reconciled := by
    intro id row hprefixed hlookup
    by_cases hmem : ∃ watch ∈ watches, id = watchId binding watch.persisted.sessionId
    · obtain ⟨watch, hwatch, rfl⟩ := hmem
      obtain ⟨reconciled, changed, hone, row', hlookup', hvalue⟩ := h.rows watch hwatch
      cases hlookup.symm.trans hlookup'
      exact ⟨watch, hwatch, reconciled, changed, rfl, hone, hvalue⟩
    · rw [h.others _ fun watch hwatch hkey => hmem ⟨watch, hwatch, (Prod.mk.inj hkey).2⟩] at hlookup
      have hstored := mem_entitiesByIdPrefix.2 ⟨hprefixed, hlookup⟩
      have hlisted' := hlisted
      simp only [WalletStore.listEntitiesByIdPrefix, ok_bind_iff] at hlisted'
      obtain ⟨_, -, _, -, _, -, _, -, hrows⟩ := hlisted'
      obtain ⟨stored, hmemStored, hread⟩ := exists_of_mapM_eq_ok hrows hstored
      obtain ⟨-, value, -, rfl⟩ := storedEntity_eq_ok.1 hread
      obtain ⟨watch, hwatch, hone⟩ := exists_of_mapM_eq_ok hdecode hmemStored
      obtain ⟨hid, -, rfl⟩ := decodeWatch_eq_ok hone
      exact absurd ⟨_, hwatch, hid⟩ hmem
  have hlisted' := hlisted
  simp only [WalletStore.listEntitiesByIdPrefix, ok_bind_iff] at hlisted'
  obtain ⟨_, hprefixId, -⟩ := hlisted'
  have hkey' : store'.unlocked := h.unlocked.trans hkey
  have hcount := h.count (watchPrefix binding)
  obtain ⟨listed', hagain⟩ : ∃ listed', store'.listEntitiesByIdPrefix PersistedBitcoinHtlcWatch
      .bitcoinSwapWatch (watchPrefix binding) (maxBitcoinSwapWatches + 1) = .ok listed' := by
    refine exists_listEntitiesByIdPrefix hprefixId ⟨Nat.succ_ne_zero _, by decide⟩
      hkey' (by omega) fun id row hprefixed hlookup => ?_
    obtain ⟨watch, -, reconciled, changed, rfl, -, hvalue⟩ := hrow id row hprefixed hlookup
    exact ⟨_, loadEntity_eq_some.2 ⟨validateId_watchId _, hkey', row, reconciled,
      hlookup, hvalue, rfl⟩⟩
  have hlength' := length_of_listEntitiesByIdPrefix hagain
  -- Each of them passes the checks of a load.
  have hone : ∀ stored ∈ listed', ∃ watch ∈ watches, ∃ changed,
      reconcileWatch network binding chain tip blocks watch.persisted =
        .ok (stored.value, changed) ∧
      decodeWatch network binding stored = .ok ⟨stored.revision, stored.value⟩ := by
    intro stored hstored
    obtain ⟨hprefixed, hloaded⟩ := (mem_of_listEntitiesByIdPrefix hagain).1 hstored
    obtain ⟨-, -, row, value, hlookup, hvalue, hstoredEq⟩ :=
      loadEntity_eq_some.1 hloaded
    obtain ⟨watch, hwatch, reconciled, changed, hid, hone, hvalue'⟩ :=
      hrow stored.id row hprefixed hlookup
    have hreconciled := reconcileWatch_eq_ok hblocks hone
    have hsame : stored.value = reconciled :=
      (congrArg StoredEntity.value hstoredEq).trans (Option.some.inj (hvalue.symm.trans hvalue'))
    refine ⟨watch, hwatch, changed, hsame ▸ hone, ?_⟩
    simp only [decodeWatch, ok_iff, ne_eq, not_not]
    refine ⟨(), ?_, (), ?_, rfl⟩
    · rw [hid, hsame, hreconciled.terms.sessionId]
    · rw [hsame]
      exact hreconciled.valid
  obtain ⟨watches', hwatches'⟩ : ∃ watches', listed'.mapM (decodeWatch network binding) =
      .ok watches' := exists_mapM_eq_ok fun stored hstored => by
    obtain ⟨-, -, -, -, hdecoded⟩ := hone stored hstored
    exact ⟨_, hdecoded⟩
  refine ⟨watches', ?_, fun watch' hwatch' => ?_⟩
  · simp only [loadBitcoinHtlcWatches, ok_iff, not_lt]
    exact ⟨binding, hbinding, listed', hagain, (), by omega, hwatches'⟩
  · obtain ⟨stored, hstored, hdecoded⟩ := (mem_of_mapM_eq_ok hwatches').1 hwatch'
    obtain ⟨watch, hwatch, changed, hreconciled, -⟩ := hone stored hstored
    obtain ⟨-, -, rfl⟩ := decodeWatch_eq_ok hdecoded
    exact ⟨watch, hwatch, changed, hreconciled⟩

variable [Encoded V]

theorem reconcileEach_result {u : Except BitcoinWalletError Unit}
    (hwatches : ∀ watch ∈ watches, ∃ reconciled,
      reconcileWatch network binding chain tip blocks watch.persisted = .ok reconciled)
    (h : reconcileEach network binding chain tip blocks nowUnix store watches = (store', u)) :
    u = .ok () ∨ ∃ error, u = .error (.store error) := by
  induction watches generalizing store with
  | nil =>
    cases h
    exact .inl rfl
  | cons first rest ih =>
    obtain ⟨⟨reconciled, hreconciled⟩, hrest⟩ := List.forall_mem_cons.1 hwatches
    unfold reconcileEach at h
    split at h
    next error herror => cases herror.symm.trans hreconciled
    next => exact ih hrest h
    next =>
      split at h
      next error herror =>
        obtain ⟨-, rfl⟩ := Prod.mk.inj h
        exact .inr ⟨error, rfl⟩
      next => exact ih hrest h

structure WatchCall where
  chain : CheckPoint
  tip : BitcoinCheckpoint
  blocks : List MatchedSwapBlock
  nowUnix : UInt64

def reconcileCalls (network : BitcoinNetwork) (accountId : List UInt8) (store : WalletStore V) :
    List WatchCall → WalletStore V × Except BitcoinWalletError Unit
  | [] => (store, .ok ())
  | call :: rest =>
    match reconcileBitcoinHtlcWatches store network accountId call.chain call.tip call.blocks
        call.nowUnix with
    | (written, .error error) => (written, .error error)
    | (written, .ok ()) => reconcileCalls network accountId written rest

def seenBy (calls : List WatchCall) : List SeenTransaction :=
  calls.flatMap fun call => eventsOf call.blocks

structure CanonicalCall (network : BitcoinNetwork) (events : List SeenTransaction)
    (call : WatchCall) : Prop where
  tip : call.tip.validate network = .ok ()
  chainTip : call.chain.tip = call.tip
  bounded : call.tip.height.toNat + 1 < UInt32.size
  valid : ∀ matched ∈ call.blocks, validateMatchedBlock matched = .ok ()
  onChain : ∀ matched ∈ call.blocks,
    call.chain.get matched.height = some (blockHash matched.block)
  below : ∀ event ∈ events ++ eventsOf call.blocks, event.height ≤ call.tip.height
  later : ∀ event ∈ events, ∀ next ∈ eventsOf call.blocks, event.height < next.height
  unreplaced : Unreplaced call.chain events

/-- Calls along one chain that is never reorganised. -/
def CanonicalCalls (network : BitcoinNetwork) : List SeenTransaction → List WatchCall → Prop
  | _, [] => True
  | events, call :: rest =>
    CanonicalCall network events call ∧ CanonicalCalls network (events ++ eventsOf call.blocks) rest

structure Awaits (network : BitcoinNetwork) (binding : Bytes 32)
    (watch : PersistedBitcoinHtlcWatch) (events : List SeenTransaction) (calls : List WatchCall) :
    Prop where
  fresh : FreshWatch network binding watch
  recognised : Recognised watch (events ++ seenBy calls)
  registered : ∀ call ∈ calls, watch.registeredCheckpoint.height ≤ call.tip.height

variable {watch : PersistedBitcoinHtlcWatch} {events events' : List SeenTransaction}
  {calls : List WatchCall} {call : WatchCall} {last : Option BitcoinCheckpoint}
  {watched : List PersistedBitcoinHtlcWatch} {result : Except BitcoinWalletError Unit}

theorem Recognised.left (h : Recognised watch (events ++ events')) : Recognised watch events := by
  have hfundings : fundings watch (events ++ events') =
      fundings watch events ++ fundings watch events' := eventsFrom_append _ _ _ _
  have hspends : ∀ lock height, spends lock height (events ++ events') =
      spends lock height events ++ spends lock height events' :=
    fun _ _ => eventsFrom_append _ _ _ _
  have hmem : ∀ event ∈ fundings watch events, event ∈ fundings watch (events ++ events') := by
    intro event hevent
    rw [hfundings]
    exact List.mem_append_left _ hevent
  refine ⟨?_, fun event hevent => h.funding event (hmem event hevent),
    fun event hevent lock hlock => ?_, fun event hevent lock hlock spending hspending =>
      h.spend event (hmem event hevent) lock hlock spending ?_⟩
  · have hone := h.oneFunding
    rw [hfundings, List.length_append] at hone
    omega
  · have hone := h.oneSpend event (hmem event hevent) lock hlock
    rw [hspends, List.length_append] at hone
    omega
  · rw [hspends]
    exact List.mem_append_left _ hspending

theorem Awaits.atStage (h : Awaits network binding watch events calls) :
    ∃ stage, AtStage watch events stage := by
  obtain ⟨hhtlc, hvalue⟩ := validatePersistedWatch_terms h.fresh.valid
  exact h.recognised.left.atStage hhtlc hvalue

theorem Awaits.tail (h : Awaits network binding watch events (call :: calls)) :
    Awaits network binding watch (events ++ eventsOf call.blocks) calls := by
  refine ⟨h.fresh, ?_, fun next hnext => h.registered next (List.mem_cons_of_mem _ hnext)⟩
  rw [List.append_assoc]
  exact h.recognised

structure AccountAt (network : BitcoinNetwork) (accountId : List UInt8) (binding : Bytes 32)
    (watched : List PersistedBitcoinHtlcWatch) (events : List SeenTransaction)
    (last : Option BitcoinCheckpoint) (store : WalletStore V) : Prop where
  loads : ∃ watches, loadBitcoinHtlcWatches store network accountId = .ok watches ∧
    ∀ row ∈ watches, ∃ watch ∈ watched, ∃ stage, AtStage watch events stage ∧
      row.persisted = stage.toWatch watch (last.getD watch.scannedCheckpoint)
  rows : ∀ watch ∈ watched, ∃ stage, AtStage watch events stage ∧
    WatchRow store binding watch.sessionId
      (stage.toWatch watch (last.getD watch.scannedCheckpoint))

theorem CanonicalCall.advances (hcall : CanonicalCall network events call)
    (hawaits : Awaits network binding watch events (call :: calls)) (hhashed : Hashed events) :
    Advances network binding watch events call.chain call.tip call.blocks where
  fresh := hawaits.fresh
  valid := hcall.valid
  covers := ⟨hcall.tip, hawaits.registered call List.mem_cons_self, fun event hevent =>
    ⟨hcall.below event hevent, hcall.bounded⟩⟩
  hashed := fun event hevent => (List.mem_append.1 hevent).elim (hhashed event)
    (Hashed.of_valid hcall.valid event)
  later := hcall.later
  kept := hcall.unreplaced

section

variable (hbinding : accountBinding network accountId = .ok binding)
  (h : AccountAt network accountId binding watched events last store)
include hbinding h

theorem AccountAt.reconcile
    (hawaits : ∀ watch ∈ watched, Awaits network binding watch events (call :: calls))
    (hcall : CanonicalCall network events call) (hhashed : Hashed events)
    (hrun : reconcileBitcoinHtlcWatches store network accountId call.chain call.tip call.blocks
      call.nowUnix = (store', result)) (hstore : ∀ error, result ≠ .error (.store error)) :
    result = .ok () ∧ AccountAt network accountId binding watched (events ++ eventsOf call.blocks)
      (some call.tip) store' := by
  obtain ⟨⟨watches, hload, hrows⟩, hwatched⟩ := h
  have hstep : ∀ watch ∈ watched, ∀ stage, AtStage watch events stage → ∃ stage',
      AtStage watch (events ++ eventsOf call.blocks) stage' ∧ ∃ changed,
        reconcileWatch network binding call.chain call.tip call.blocks
          (stage.toWatch watch (last.getD watch.scannedCheckpoint)) =
            .ok (stage'.toWatch watch call.tip, changed) := by
    intro watch hwatch stage hstage
    obtain ⟨stage', hstage'⟩ := (hawaits watch hwatch).tail.atStage
    exact ⟨stage', hstage',
      (hcall.advances (hawaits watch hwatch) hhashed).reconcileWatch_eq hstage hstage'⟩
  have hpass : loadForReconciliation store network accountId call.chain call.tip call.blocks =
      .ok (binding, watches) := by
    simp only [loadForReconciliation, ok_iff, ne_eq, not_not]
    exact ⟨(), hcall.tip, (), hcall.chainTip, (), checkMatchedBlocks_ok hcall.valid hcall.onChain,
      binding, hbinding, watches, hload, rfl⟩
  have heach := hrun
  simp only [reconcileBitcoinHtlcWatches, hpass] at heach
  have hall : ∀ row ∈ watches, ∃ reconciled, reconcileWatch network binding call.chain call.tip
      call.blocks row.persisted = .ok reconciled := by
    intro row hrow
    obtain ⟨watch, hwatch, stage, hstage, hpersisted⟩ := hrows row hrow
    obtain ⟨stage', -, changed, hone⟩ := hstep watch hwatch stage hstage
    exact ⟨_, hpersisted ▸ hone⟩
  have hresult : result = .ok () :=
    (reconcileEach_result hall heach).resolve_right fun hfailed =>
      hstore hfailed.choose hfailed.choose_spec
  subst hresult
  obtain ⟨-, hnodup, hsound, hsessions⟩ := loadBitcoinHtlcWatches_eq_ok hbinding hload
  have hreconciled := reconcileEach_rows hcall.onChain hnodup
    (fun row hrow => (hsound row hrow).1) heach
  obtain ⟨watches', hload', hfrom⟩ := hreconciled.load hbinding hload hcall.onChain
  refine ⟨rfl, ⟨watches', hload', fun row' hrow' => ?_⟩, fun watch hwatch => ?_⟩
  · obtain ⟨row, hrow, changed, hone⟩ := hfrom row' hrow'
    obtain ⟨watch, hwatch, stage, hstage, hpersisted⟩ := hrows row hrow
    obtain ⟨stage', hstage', changed', hone'⟩ := hstep watch hwatch stage hstage
    rw [hpersisted, hone'] at hone
    obtain ⟨hrowEq, -⟩ := Prod.mk.inj (Except.ok.inj hone)
    exact ⟨watch, hwatch, stage', hstage', hrowEq.symm⟩
  · obtain ⟨stage, hstage, found, hlookup, hvalue⟩ := hwatched watch hwatch
    obtain ⟨row, hrow, hsession⟩ := hsessions watch.sessionId found hlookup
    obtain ⟨found', hlookup', hvalue'⟩ := (hsound row hrow).1
    rw [hsession] at hlookup'
    cases hlookup.symm.trans hlookup'
    have hpersisted := Option.some.inj (hvalue'.symm.trans hvalue)
    obtain ⟨stage', hstage', changed', hone'⟩ := hstep watch hwatch stage hstage
    obtain ⟨reconciled, changed, hone, hafter⟩ := hreconciled.rows row hrow
    rw [hpersisted, hone'] at hone
    obtain ⟨rfl, -⟩ := Prod.mk.inj (Except.ok.inj hone)
    rw [hsession] at hafter
    exact ⟨stage', hstage', hafter⟩

theorem AccountAt.reconcileCalls
    (hawaits : ∀ watch ∈ watched, Awaits network binding watch events calls)
    (hcalls : CanonicalCalls network events calls) (hhashed : Hashed events)
    (hrun : reconcileCalls network accountId store calls = (store', result))
    (hstore : ∀ error, result ≠ .error (.store error)) :
    result = .ok () ∧ AccountAt network accountId binding watched (events ++ seenBy calls)
      ((calls.getLast?.map WatchCall.tip).or last) store' := by
  induction calls generalizing store events last with
  | nil =>
    cases hrun
    rw [seenBy, List.flatMap_nil, List.append_nil]
    exact ⟨rfl, h⟩
  | cons call rest ih =>
    obtain ⟨hcall, hrest⟩ := hcalls
    unfold HnsWallet.reconcileCalls at hrun
    split at hrun
    next written error hone =>
      cases hrun
      cases (h.reconcile hbinding hawaits hcall hhashed hone hstore).1
    next written hone =>
      obtain ⟨-, hnext⟩ := h.reconcile hbinding hawaits hcall hhashed hone
        fun error herror => by cases herror
      have hhashed' : Hashed (events ++ eventsOf call.blocks) := fun event hevent =>
        (List.mem_append.1 hevent).elim (hhashed event) (Hashed.of_valid hcall.valid event)
      obtain ⟨hresult, hlast⟩ := ih hnext (fun watch hwatch => (hawaits watch hwatch).tail) hrest
        hhashed' hrun
      refine ⟨hresult, ?_⟩
      have hevents : events ++ seenBy (call :: rest) =
          events ++ eventsOf call.blocks ++ seenBy rest := by
        rw [List.append_assoc]
        rfl
      have htip : ((call :: rest).getLast?.map WatchCall.tip).or last =
          (rest.getLast?.map WatchCall.tip).or (some call.tip) := by
        rw [List.getLast?_cons]
        cases rest.getLast? <;> rfl
      rw [hevents, htip]
      exact hlast

end

def PersistedBitcoinHtlcWatch.relabel (f : Bytes 32 → Bytes 32)
    (watch : PersistedBitcoinHtlcWatch) : PersistedBitcoinHtlcWatch :=
  { watch with
    scannedCheckpoint := watch.scannedCheckpoint.relabel f
    funding := watch.funding.map (PersistedBitcoinSwapObservation.relabel f)
    spend := watch.spend.map (PersistedBitcoinSwapObservation.relabel f) }

/-- Two chains that show the same of a watch: the same fundings and the same spends of
their outputs, at the same heights. -/
structure SameEvidence (f : Bytes 32 → Bytes 32) (watch : PersistedBitcoinHtlcWatch)
    (events events' : List SeenTransaction) : Prop where
  fundings : (fundings watch events).map (SeenTransaction.relabel f) =
    (HnsWallet.fundings watch events').map (SeenTransaction.relabel f)
  spends : ∀ event ∈ HnsWallet.fundings watch events, ∀ lock,
    verifyHtlcFunding (serialize event.transaction) watch.htlc watch.expectedValueSats 0 0 =
      .ok lock → (spends lock event.height events).map (SeenTransaction.relabel f) =
        (HnsWallet.spends lock event.height events').map (SeenTransaction.relabel f)

theorem AtStage.same_row {stage stage' : LockStage} (htip : tip.relabel f = tip'.relabel f)
    (hsame : SameEvidence f watch events events') (h : AtStage watch events stage)
    (h' : AtStage watch events' stage') :
    (stage.toWatch watch tip).relabel f = (stage'.toWatch watch tip').relabel f := by
  have hfundings := hsame.fundings
  -- The funding is the same transaction with the same paying output.
  have hfunded : ∀ {event event' : SeenTransaction} {index index' : UInt32},
      fundings watch events = [event] → fundings watch events' = [event'] →
      PaysAt watch event index → PaysAt watch event' index' →
      event.relabel f = event'.relabel f ∧ index = index' ∧
        (spends (lockOf watch event index) event.height events).map (SeenTransaction.relabel f) =
          (spends (lockOf watch event' index') event'.height events').map
            (SeenTransaction.relabel f) := by
    intro event event' index index' hone hone' hverify hverify'
    have hspends := hsame.spends event (by rw [hone]; exact List.mem_singleton.2 rfl) _ (hverify 0)
    rw [hone, hone'] at hfundings
    have hevent : event.relabel f = event'.relabel f := (List.cons.inj hfundings).1
    obtain ⟨hheight, -, htransaction⟩ := relabel_eq hevent
    rw [PaysAt, htransaction] at hverify
    have hindex : index = index' := by
      have hboth := (hverify 0).symm.trans (hverify' 0)
      simpa using hboth
    refine ⟨hevent, hindex, ?_⟩
    rw [lockOf, lockOf, ← hindex, ← htransaction, ← hheight]
    exact hspends
  cases h with
  | unfunded hnone =>
    rw [hnone] at hfundings
    cases h' with
    | unfunded => simp [LockStage.toWatch, PersistedBitcoinHtlcWatch.relabel, htip]
    | funded hone' => simp [hone'] at hfundings
    | spent hone' => simp [hone'] at hfundings
  | funded hone _ hverify hspends =>
    cases h' with
    | unfunded hnone' => simp [hone, hnone'] at hfundings
    | funded hone' _ hverify' =>
      obtain ⟨hevent, rfl, -⟩ := hfunded hone hone' hverify hverify'
      simp [LockStage.toWatch, PersistedBitcoinHtlcWatch.relabel, htip,
        fundingRecord_relabel htip hevent]
    | spent hone' _ hverify' hspends' =>
      obtain ⟨-, -, hsame⟩ := hfunded hone hone' hverify hverify'
      simp [hspends, hspends'] at hsame
  | spent hone _ hverify hspends _ hclassify =>
    cases h' with
    | unfunded hnone' => simp [hone, hnone'] at hfundings
    | funded hone' _ hverify' hspends' =>
      obtain ⟨-, -, hsame⟩ := hfunded hone hone' hverify hverify'
      simp [hspends, hspends'] at hsame
    | spent hone' _ hverify' hspends' _ hclassify' =>
      obtain ⟨hevent, rfl, hsame⟩ := hfunded hone hone' hverify hverify'
      rw [hspends, hspends'] at hsame
      have hspending := (List.cons.inj hsame).1
      rw [(relabel_eq hspending).2.2, lockOf, (relabel_eq hevent).2.2] at hclassify
      cases hclassify.symm.trans hclassify'
      simp [LockStage.toWatch, PersistedBitcoinHtlcWatch.relabel, htip,
        fundingRecord_relabel htip hevent, spendRecord_relabel htip hspending]

theorem FreshWatch.toWatch_eq (h : FreshWatch network binding watch) :
    LockStage.unfunded.toWatch watch watch.scannedCheckpoint = watch := by
  obtain ⟨-, hunfunded, hunspent, hunrevealed⟩ := h
  cases watch
  simp only at hunfunded hunspent hunrevealed
  subst hunfunded hunspent hunrevealed
  rfl

omit [Encoded V] in
theorem AccountAt.registered {loaded : List BitcoinHtlcWatch}
    (hbinding : accountBinding network accountId = .ok binding)
    (hload : loadBitcoinHtlcWatches store network accountId = .ok loaded)
    (hawaits : ∀ row ∈ loaded, Awaits network binding row.persisted [] calls) :
    AccountAt network accountId binding (loaded.map BitcoinHtlcWatch.persisted) [] none store := by
  obtain ⟨-, -, hsound, -⟩ := loadBitcoinHtlcWatches_eq_ok hbinding hload
  have hstart : ∀ watch : PersistedBitcoinHtlcWatch, AtStage watch [] .unfunded :=
    fun _ => .unfunded rfl
  refine ⟨⟨loaded, hload, fun row hrow => ?_⟩, fun watch hwatch => ?_⟩
  · exact ⟨row.persisted, List.mem_map.2 ⟨row, hrow, rfl⟩, .unfunded, hstart _,
      (hawaits row hrow).fresh.toWatch_eq.symm⟩
  · obtain ⟨row, hrow, rfl⟩ := List.mem_map.1 hwatch
    refine ⟨.unfunded, hstart _, ?_⟩
    rw [Option.getD_none, (hawaits row hrow).fresh.toWatch_eq]
    exact (hsound row hrow).1

/-- Reconcile the blocks of a chain on two stores of an account, in any two ways of cutting
them into calls and with any other sessions registered.  When both chains show every
registered lock in a recognised form and the same of one watch, no call is refused and both
stores end with the same row for that watch.  `f` is what is compared of a block hash:
all of it for one chain, nothing of it for two chains whose blocks differ in the
transactions of other sessions. -/
theorem watch_result_depends_on_own_evidence {store₁ store₂ store₁' store₂' : WalletStore V}
    {calls₁ calls₂ : List WatchCall} {loaded₁ loaded₂ : List BitcoinHtlcWatch}
    {result₁ result₂ : Except BitcoinWalletError Unit} {row₁ row₂ : BitcoinHtlcWatch}
    (f : Bytes 32 → Bytes 32) (hbinding : accountBinding network accountId = .ok binding)
    (hload₁ : loadBitcoinHtlcWatches store₁ network accountId = .ok loaded₁)
    (hload₂ : loadBitcoinHtlcWatches store₂ network accountId = .ok loaded₂)
    (hawaits₁ : ∀ row ∈ loaded₁, Awaits network binding row.persisted [] calls₁)
    (hawaits₂ : ∀ row ∈ loaded₂, Awaits network binding row.persisted [] calls₂)
    (hcalls₁ : CanonicalCalls network [] calls₁) (hcalls₂ : CanonicalCalls network [] calls₂)
    (hrun₁ : reconcileCalls network accountId store₁ calls₁ = (store₁', result₁))
    (hrun₂ : reconcileCalls network accountId store₂ calls₂ = (store₂', result₂))
    (hstore₁ : ∀ error, result₁ ≠ .error (.store error))
    (hstore₂ : ∀ error, result₂ ≠ .error (.store error))
    (htip : calls₁.getLast?.map (·.tip.relabel f) = calls₂.getLast?.map (·.tip.relabel f))
    (hrow₁ : row₁ ∈ loaded₁) (hrow₂ : row₂ ∈ loaded₂) (hsame : row₁.persisted = row₂.persisted)
    (hevidence : SameEvidence f row₁.persisted (seenBy calls₁) (seenBy calls₂)) :
    result₁ = .ok () ∧ result₂ = .ok () ∧ ∃ watch₁ watch₂,
      WatchRow store₁' binding row₁.persisted.sessionId watch₁ ∧
      WatchRow store₂' binding row₁.persisted.sessionId watch₂ ∧
      watch₁.relabel f = watch₂.relabel f ∧
      (calls₁.getLast?.map WatchCall.tip = calls₂.getLast?.map WatchCall.tip →
        watch₁.scannedCheckpoint = watch₂.scannedCheckpoint) := by
  have hnone : Hashed [] := fun event hevent => absurd hevent List.not_mem_nil
  obtain ⟨hok₁, hend₁⟩ := (AccountAt.registered hbinding hload₁ hawaits₁).reconcileCalls hbinding
    (List.forall_mem_map.2 hawaits₁) hcalls₁ hnone hrun₁ hstore₁
  obtain ⟨hok₂, hend₂⟩ := (AccountAt.registered hbinding hload₂ hawaits₂).reconcileCalls hbinding
    (List.forall_mem_map.2 hawaits₂) hcalls₂ hnone hrun₂ hstore₂
  obtain ⟨stage₁, hstage₁, hfinal₁⟩ := hend₁.rows row₁.persisted (List.mem_map.2 ⟨row₁, hrow₁, rfl⟩)
  obtain ⟨stage₂, hstage₂, hfinal₂⟩ := hend₂.rows row₁.persisted
    (List.mem_map.2 ⟨row₂, hrow₂, hsame.symm⟩)
  rw [List.nil_append] at hstage₁ hstage₂
  have hscanned : ∀ (stage : LockStage) tip,
      (stage.toWatch row₁.persisted tip).scannedCheckpoint = tip := fun stage _ => by
    cases stage <;> rfl
  refine ⟨hok₁, hok₂, _, _, hfinal₁, hfinal₂, hstage₁.same_row ?_ hevidence hstage₂, fun heq => ?_⟩
  · have hmap : ∀ last : Option WatchCall,
        (((last.map WatchCall.tip).or none).getD row₁.persisted.scannedCheckpoint).relabel f =
          (last.map (·.tip.relabel f)).getD (row₁.persisted.scannedCheckpoint.relabel f) := by
      intro last
      cases last <;> rfl
    rw [hmap, hmap, htip]
  · rw [hscanned, hscanned, heq]

end Calls

namespace Sample

attribute [local instance] watchSha256 watchBitcoin watchBlocks watchCodec watchLength

def shownFunding (store : WalletStore PersistedBitcoinHtlcWatch) : Option (Bytes 32) := do
  let loaded ← (loadBitcoinHtlcWatch store .bitcoin [0x61] watchedSession).toOption
  let funding ← (← loaded).persisted.funding
  return funding.txid

def neighbourStore : WalletStore PersistedBitcoinHtlcWatch :=
  watchedStore.putEntity .bitcoinSwapWatch (watchId watchedBinding neighbourSession)
    ⟨1, neighbourRow, 1700000000⟩

def callAt (tip : BitcoinCheckpoint) (below : List BitcoinCheckpoint)
    (blocks : List MatchedSwapBlock) : WatchCall :=
  ⟨⟨tip, below⟩, tip, blocks, 1700000100⟩

def cutCalls (first second : Block) : List WatchCall :=
  [callAt (watchCheckpoint 100 200) [watchCheckpoint 99 199] [⟨100, first⟩],
    callAt (watchCheckpoint 101 201) [watchCheckpoint 100 200, watchCheckpoint 99 199]
      [⟨101, second⟩]]

def oneCall (first second : Block) : List WatchCall :=
  [callAt (watchCheckpoint 101 201) [watchCheckpoint 100 200, watchCheckpoint 99 199]
    [⟨100, first⟩, ⟨101, second⟩]]

def reconciled (store : WalletStore PersistedBitcoinHtlcWatch) (calls : List WatchCall) :
    WalletStore PersistedBitcoinHtlcWatch × Except BitcoinWalletError Unit :=
  reconcileCalls .bitcoin [0x61] store calls

set_option maxRecDepth 8000 in
/-- A lock that is funded twice: two calls keep the first funding, one call is refused and
shows none.  And a transaction that pays the lock of the neighbour twice stops the pass
before it comes to the session, whose funding is shown only when the neighbour is not
registered. -/
theorem cut_and_neighbour_change_the_result :
    ((reconciled watchedStore (cutCalls ⟨[200], [lockFunding]⟩ ⟨[201], [lockFundedAgain]⟩)).2 =
        .ok () ∧
      shownFunding (reconciled watchedStore
        (cutCalls ⟨[200], [lockFunding]⟩ ⟨[201], [lockFundedAgain]⟩)).1 = some (.replicate 32 51) ∧
      (reconciled watchedStore (oneCall ⟨[200], [lockFunding]⟩ ⟨[201], [lockFundedAgain]⟩)).2 =
        .error .swapWatchConflict ∧
      shownFunding (reconciled watchedStore
        (oneCall ⟨[200], [lockFunding]⟩ ⟨[201], [lockFundedAgain]⟩)).1 = none) ∧
    ((reconciled watchedStore (oneCall ⟨[200], [lockFunding]⟩ ⟨[201], [neighbourFunding]⟩)).2 =
        .ok () ∧
      shownFunding (reconciled watchedStore
        (oneCall ⟨[200], [lockFunding]⟩ ⟨[201], [neighbourFunding]⟩)).1 = some (.replicate 32 51) ∧
      (reconciled neighbourStore (oneCall ⟨[200], [lockFunding]⟩ ⟨[201], [neighbourFunding]⟩)).2 =
        .error .ambiguousEvidence ∧
      shownFunding (reconciled neighbourStore
        (oneCall ⟨[200], [lockFunding]⟩ ⟨[201], [neighbourFunding]⟩)).1 = none) :=
  ⟨⟨rfl, rfl, rfl, rfl⟩, rfl, rfl, rfl, rfl⟩

abbrev redeemCut : List WatchCall := cutCalls ⟨[200], [lockFunding]⟩ ⟨[201], [lockRedeem]⟩

abbrev redeemAtOnce : List WatchCall := oneCall ⟨[200], [lockFunding]⟩ ⟨[201], [lockRedeem]⟩

def fundingEvent : SeenTransaction := ⟨100, .replicate 32 200, lockFunding⟩

def redeemEvent : SeenTransaction := ⟨101, .replicate 32 201, lockRedeem⟩

set_option maxRecDepth 8000 in
theorem watchedRow_fundings : fundings watchedRow [fundingEvent, redeemEvent] = [fundingEvent] :=
  rfl

set_option maxRecDepth 8000 in
theorem neighbourRow_fundings : fundings neighbourRow [fundingEvent, redeemEvent] = [] := rfl

def redeemedLock : VerifiedBitcoinLock :=
  ⟨.replicate 32 51, 0, 50000, 0, watchedHtlc watchedHash⟩

set_option maxRecDepth 8000 in
theorem fundingEvent_lock : verifyHtlcFunding (watchBlocks.serialize fundingEvent.transaction)
    watchedRow.htlc watchedRow.expectedValueSats 0 0 = .ok redeemedLock := rfl

set_option maxRecDepth 8000 in
theorem redeemedLock_spends :
    spends redeemedLock fundingEvent.height [fundingEvent, redeemEvent] = [redeemEvent] := rfl

set_option maxRecDepth 8000 in
theorem watchedRow_recognised : Recognised watchedRow [fundingEvent, redeemEvent] := by
  have hlock : ∀ event ∈ fundings watchedRow [fundingEvent, redeemEvent], ∀ lock,
      verifyHtlcFunding (watchBlocks.serialize event.transaction) watchedRow.htlc
        watchedRow.expectedValueSats 0 0 = .ok lock → event = fundingEvent ∧ lock =
          redeemedLock := by
    intro event hevent lock hverify
    rw [watchedRow_fundings] at hevent
    obtain rfl := List.mem_singleton.1 hevent
    exact ⟨rfl, Except.ok.inj (hverify.symm.trans fundingEvent_lock)⟩
  refine ⟨?_, fun event hevent => ?_, fun event hevent lock hverify => ?_,
    fun event hevent lock hverify spending hspending => ?_⟩
  · rw [watchedRow_fundings]
    exact le_refl 1
  · rw [watchedRow_fundings] at hevent
    obtain rfl := List.mem_singleton.1 hevent
    exact ⟨⟨rfl, rfl, rfl⟩, by decide, by decide, by decide, rfl⟩
  · obtain ⟨rfl, rfl⟩ := hlock event hevent lock hverify
    rw [redeemedLock_spends]
    exact le_refl 1
  · obtain ⟨rfl, rfl⟩ := hlock event hevent lock hverify
    rw [redeemedLock_spends] at hspending
    obtain rfl := List.mem_singleton.1 hspending
    exact ⟨⟨rfl, rfl, rfl⟩, _, rfl⟩

theorem neighbourRow_recognised : Recognised neighbourRow [fundingEvent, redeemEvent] := by
  have hnone : ∀ event ∈ fundings neighbourRow [fundingEvent, redeemEvent], False := by
    rw [neighbourRow_fundings]
    exact fun event hevent => absurd hevent List.not_mem_nil
  refine ⟨?_, fun event hevent => (hnone event hevent).elim,
    fun event hevent => (hnone event hevent).elim, fun event hevent => (hnone event hevent).elim⟩
  rw [neighbourRow_fundings]
  exact Nat.zero_le 1

theorem registered_in_time {row : PersistedBitcoinHtlcWatch} {first second : Block}
    {calls : List WatchCall} (hrow : row.registeredCheckpoint = watchCheckpoint 99 199)
    (hcalls : calls = cutCalls first second ∨ calls = oneCall first second) :
    ∀ call ∈ calls, row.registeredCheckpoint.height ≤ call.tip.height := by
  rw [hrow]
  rcases hcalls with rfl | rfl
  · simp [cutCalls, callAt, watchCheckpoint]
  · simp [oneCall, callAt, watchCheckpoint]

set_option maxRecDepth 8000 in
theorem watchedRow_fresh : FreshWatch .bitcoin watchedBinding watchedRow := ⟨rfl, rfl, rfl, rfl⟩

set_option maxRecDepth 8000 in
theorem neighbourRow_fresh : FreshWatch .bitcoin watchedBinding neighbourRow :=
  ⟨rfl, rfl, rfl, rfl⟩

theorem redeemCut_canonical : CanonicalCalls .bitcoin [] redeemCut := by
  refine ⟨⟨rfl, rfl, by decide, ?_, ?_, ?_, ?_, ?_⟩, ⟨rfl, rfl, by decide, ?_, ?_, ?_, ?_, ?_⟩,
    trivial⟩
  · exact List.forall_mem_singleton.2 rfl
  · exact List.forall_mem_singleton.2 rfl
  · exact List.forall_mem_singleton.2 (by decide)
  · exact fun event hevent => absurd hevent List.not_mem_nil
  · exact fun event hevent => absurd hevent List.not_mem_nil
  · exact List.forall_mem_singleton.2 rfl
  · exact List.forall_mem_singleton.2 rfl
  · exact List.forall_mem_cons.2 ⟨by decide, List.forall_mem_singleton.2 (by decide)⟩
  · exact List.forall_mem_singleton.2 (List.forall_mem_singleton.2 (by decide))
  · exact List.forall_mem_singleton.2 fun hash hget => (Option.some.inj hget).symm

theorem redeemAtOnce_canonical : CanonicalCalls .bitcoin [] redeemAtOnce := by
  refine ⟨⟨rfl, rfl, by decide, ?_, ?_, ?_, ?_, ?_⟩, trivial⟩
  · exact List.forall_mem_cons.2 ⟨rfl, List.forall_mem_singleton.2 rfl⟩
  · exact List.forall_mem_cons.2 ⟨rfl, List.forall_mem_singleton.2 rfl⟩
  · exact List.forall_mem_cons.2 ⟨by decide, List.forall_mem_singleton.2 (by decide)⟩
  · exact fun event hevent => absurd hevent List.not_mem_nil
  · exact fun event hevent => absurd hevent List.not_mem_nil

set_option maxRecDepth 8000 in
theorem watchedStore_loads :
    loadBitcoinHtlcWatches watchedStore .bitcoin [0x61] = .ok [⟨1, watchedRow⟩] := rfl

set_option maxRecDepth 8000 in
theorem neighbourStore_loads : loadBitcoinHtlcWatches neighbourStore .bitcoin [0x61] =
    .ok [⟨1, neighbourRow⟩, ⟨1, watchedRow⟩] := rfl

set_option maxRecDepth 8000 in
theorem redeemed_both_ways : (reconciled watchedStore redeemCut).2 = .ok () ∧
    (reconciled neighbourStore redeemAtOnce).2 = .ok () := ⟨rfl, rfl⟩

theorem watchedRow_awaits {calls : List WatchCall}
    (hcalls : calls = redeemCut ∨ calls = redeemAtOnce) :
    Awaits .bitcoin watchedBinding watchedRow [] calls := by
  refine ⟨watchedRow_fresh, ?_, registered_in_time rfl hcalls⟩
  rcases hcalls with rfl | rfl
  · exact watchedRow_recognised
  · exact watchedRow_recognised

theorem neighbourRow_awaits : Awaits .bitcoin watchedBinding neighbourRow [] redeemAtOnce :=
  ⟨neighbourRow_fresh, neighbourRow_recognised, registered_in_time rfl (.inr rfl)⟩

theorem redeemed_row_is_the_same : ∃ watch₁ watch₂,
    WatchRow (reconciled watchedStore redeemCut).1 watchedBinding watchedSession watch₁ ∧
    WatchRow (reconciled neighbourStore redeemAtOnce).1 watchedBinding watchedSession watch₂ ∧
    watch₁ = watch₂ := by
  have hok := redeemed_both_ways
  obtain ⟨-, -, watch₁, watch₂, hrow₁, hrow₂, hsame, -⟩ :=
    watch_result_depends_on_own_evidence id watchedBinding_eq watchedStore_loads
      neighbourStore_loads
      (List.forall_mem_singleton.2 (watchedRow_awaits (.inl rfl)))
      (List.forall_mem_cons.2 ⟨neighbourRow_awaits,
        List.forall_mem_singleton.2 (watchedRow_awaits (.inr rfl))⟩)
      redeemCut_canonical redeemAtOnce_canonical
      (Prod.mk.eta (p := reconciled watchedStore redeemCut)).symm
      (Prod.mk.eta (p := reconciled neighbourStore redeemAtOnce)).symm
      (by rw [hok.1]; exact fun error herror => by cases herror)
      (by rw [hok.2]; exact fun error herror => by cases herror)
      rfl (List.mem_singleton.2 rfl) (List.mem_cons_of_mem _ (List.mem_singleton.2 rfl)) rfl
      ⟨rfl, fun event hevent lock hlock => rfl⟩
  refine ⟨watch₁, watch₂, hrow₁, hrow₂, ?_⟩
  have hid : ∀ watch : PersistedBitcoinHtlcWatch, watch.relabel id = watch := by
    intro watch
    cases watch with
    | mk _ _ _ _ _ _ _ _ _ _ funding spend _ => cases funding <;> cases spend <;> rfl
  rw [← hid watch₁, ← hid watch₂]
  exact hsame

end Sample

end HnsWallet
