import HnsWallet.Bitcoin.Watch
import HnsWallet.Lib.Runs

/-! # Watches stay on the chain -/

namespace HnsWallet

open Lib WalletStore PersistedBitcoinHtlcWatch

section Laws

def OnChain (chain : CheckPoint) (observation : PersistedBitcoinSwapObservation) : Prop :=
  chain.get observation.blockHeight = some observation.blockHash

def PersistedBitcoinHtlcWatch.observations (watch : PersistedBitcoinHtlcWatch) :
    List PersistedBitcoinSwapObservation :=
  watch.funding.toList ++ watch.spend.toList

structure SameTerms (watch watch' : PersistedBitcoinHtlcWatch) : Prop where
  sessionId : watch'.sessionId = watch.sessionId
  htlc : watch'.htlc = watch.htlc
  expectedValueSats : watch'.expectedValueSats = watch.expectedValueSats
  minimumConfirmations : watch'.minimumConfirmations = watch.minimumConfirmations
  registeredCheckpoint : watch'.registeredCheckpoint = watch.registeredCheckpoint

theorem SameTerms.trans {first watch watch' : PersistedBitcoinHtlcWatch}
    (h : SameTerms first watch) (h' : SameTerms watch watch') : SameTerms first watch' :=
  ⟨h'.1.trans h.1, h'.2.trans h.2, h'.3.trans h.3, h'.4.trans h.4, h'.5.trans h.5⟩

def KeepsPreimage (watch watch' : PersistedBitcoinHtlcWatch) : Prop :=
  ∀ preimage, watch.revealedPreimage = some preimage → watch'.revealedPreimage = some preimage

variable {network : BitcoinNetwork} {binding : Bytes 32} {chain : CheckPoint}
  {tip checkpoint : BitcoinCheckpoint} {blocks : List MatchedSwapBlock}
  {watch watch' : PersistedBitcoinHtlcWatch} {changed changed' : Bool}
  {observation : PersistedBitcoinSwapObservation} {matched : MatchedSwapBlock}
  {transaction : Transaction} {lock : VerifiedBitcoinLock} {sessionId : SessionId}
  {loaded : BitcoinHtlcWatch} {watches : List BitcoinHtlcWatch} {id : RecordId}
  {preimage : Bytes 32}

theorem mem_observations : observation ∈ watch.observations ↔
    watch.funding = some observation ∨ watch.spend = some observation := by
  simp [observations]

structure WatchStays (chain : CheckPoint) (watch watch' : PersistedBitcoinHtlcWatch) : Prop where
  terms : SameTerms watch watch'
  preimage : KeepsPreimage watch watch'
  onChain : (∀ observation ∈ watch.observations, OnChain chain observation) →
    ∀ observation ∈ watch'.observations, OnChain chain observation

theorem WatchStays.refl (chain : CheckPoint) (watch : PersistedBitcoinHtlcWatch) :
    WatchStays chain watch watch :=
  ⟨⟨rfl, rfl, rfl, rfl, rfl⟩, fun _ h => h, fun h => h⟩

theorem WatchStays.trans {watch'' : PersistedBitcoinHtlcWatch} (h : WatchStays chain watch watch')
    (h' : WatchStays chain watch' watch'') : WatchStays chain watch watch'' where
  terms := h.terms.trans h'.terms
  preimage := fun preimage hknown => h'.preimage preimage (h.preimage preimage hknown)
  onChain := fun hchain => h'.onChain (h.onChain hchain)

theorem dropStale_spec (hheights : ∀ observation ∈ watch.observations,
      (chain.get observation.blockHeight).isSome) :
    SameTerms watch (dropStale chain watch).1 ∧ KeepsPreimage watch (dropStale chain watch).1 ∧
      ∀ observation ∈ (dropStale chain watch).1.observations, OnChain chain observation := by
  have hkept : ∀ observation ∈ watch.observations,
      observationConflictsWithChain chain observation = false → OnChain chain observation := by
    intro observation hmem hsound
    obtain ⟨hash, hhash⟩ := Option.isSome_iff_exists.1 (hheights observation hmem)
    simp only [observationConflictsWithChain, hhash, Option.any_some, decide_eq_false_iff_not,
      ne_eq, not_not] at hsound
    rw [OnChain, hhash, hsound]
  unfold dropStale
  split
  next =>
    refine ⟨⟨rfl, rfl, rfl, rfl, rfl⟩, fun _ h => h, fun observation hmem => ?_⟩
    rcases mem_observations.1 hmem with h | h <;> cases h
  next hfunding =>
    rw [Bool.not_eq_true, Option.any_eq_false] at hfunding
    split
    next =>
      refine ⟨⟨rfl, rfl, rfl, rfl, rfl⟩, fun _ h => h, fun observation hmem => ?_⟩
      rcases mem_observations.1 hmem with h | h
      · refine hkept observation (mem_observations.2 (.inl h)) ?_
        simpa using hfunding observation h
      · cases h
    next hspend =>
      rw [Bool.not_eq_true, Option.any_eq_false] at hspend
      refine ⟨⟨rfl, rfl, rfl, rfl, rfl⟩, fun _ h => h, fun observation hmem => ?_⟩
      refine hkept observation hmem ?_
      rcases mem_observations.1 hmem with h | h
      · simpa using hfunding observation h
      · simpa using hspend observation h

theorem revealPreimage_keeps {known found after : Option (Bytes 32)}
    (h : revealPreimage known found = .ok after) :
    ∀ preimage, known = some preimage → after = some preimage := by
  intro preimage hknown
  unfold revealPreimage at h
  split at h
  next =>
    cases h
    exact hknown
  next other =>
    simp only [ok_iff, not_exists, not_and, ne_eq, not_not] at h
    obtain ⟨-, hsame, hret⟩ := h
    cases hret
    rw [hsame preimage hknown]

theorem recount_eq_ok {observation' : PersistedBitcoinSwapObservation}
    (h : recount tip observation = .ok observation') :
    ∃ confirmations, confirmationCount tip.height observation.blockHeight = .ok confirmations ∧
      observation' = { observation with confirmationCount := confirmations } := by
  simp only [recount, ok_iff] at h
  obtain ⟨confirmations, hcount, hret⟩ := h
  cases hret
  exact ⟨confirmations, hcount, rfl⟩

theorem confirmationCount_eq_ok {tipHeight blockHeight confirmations : UInt32}
    (h : confirmationCount tipHeight blockHeight = .ok confirmations) :
    blockHeight ≤ tipHeight ∧
      confirmations.toNat = tipHeight.toNat - blockHeight.toNat + 1 := by
  simp only [confirmationCount, okOr_eq_ok] at h
  split at h
  next => cases h
  next hle =>
    rw [UInt32.not_lt] at hle
    exact ⟨hle, toU32_eq_some.1 h⟩

theorem recounted_onChain {funding spend : Option PersistedBitcoinSwapObservation}
    (hfunding : watch.funding.mapM (recount tip) = .ok funding)
    (hspend : watch.spend.mapM (recount tip) = .ok spend)
    (hchain : ∀ observation ∈ watch.observations, OnChain chain observation) :
    ∀ observation, funding = some observation ∨ spend = some observation →
      OnChain chain observation := by
  have hback : ∀ before after : Option PersistedBitcoinSwapObservation,
      before.mapM (recount tip) = .ok after →
      (∀ observation, before = some observation → OnChain chain observation) →
      ∀ observation, after = some observation → OnChain chain observation := by
    intro before after hmap hbefore observation hafter
    subst hafter
    cases before with
    | none => cases optionMapM_eq_ok.1 hmap
    | some found =>
      cases optionMapM_eq_ok.1 hmap with
      | some hone =>
        obtain ⟨confirmations, -, rfl⟩ := recount_eq_ok hone
        exact (hbefore found rfl : OnChain chain found)
  rintro observation (h | h)
  · exact hback _ _ hfunding (fun o ho => hchain o (mem_observations.2 (.inl ho))) observation h
  · exact hback _ _ hspend (fun o ho => hchain o (mem_observations.2 (.inr ho))) observation h

theorem watchId_inj {sessionId' : SessionId} :
    watchId binding sessionId = watchId binding sessionId' ↔ sessionId = sessionId' := by
  unfold watchId
  rw [Bytes.append_toList_inj]
  exact ⟨fun h => by cases sessionId; cases sessionId'; cases h; rfl, fun h => by rw [h]⟩

theorem validateId_watchId (sessionId : SessionId) :
    validateId (watchId binding sessionId) = .ok () := by
  simp [validateId, watchId, watchPrefix, bitcoinSwapWatchPrefix, ascii, refuseIf,
    maxRecordIdBytes]

theorem verifiedLockAt_eq_some (h : loaded.verifiedLockAt checkpoint = some lock) :
    checkpoint = loaded.persisted.scannedCheckpoint ∧ ∃ funding,
      loaded.persisted.funding = some funding ∧
      loaded.persisted.minimumConfirmations ≤ funding.confirmationCount := by
  simp only [BitcoinHtlcWatch.verifiedLockAt, Option.bind_eq_bind, Option.bind_eq_some_iff] at h
  obtain ⟨funding, hfunding, h⟩ := h
  split at h
  next hcurrent => exact ⟨hcurrent.1, funding, hfunding, hcurrent.2⟩
  next => cases h

variable [BlockLibrary]

open BlockLibrary

theorem checkMatchedBlocks_mem {u : Unit} (h : checkMatchedBlocks chain blocks = .ok u) :
    ∀ matched ∈ blocks, chain.get matched.height = some (blockHash matched.block) := by
  induction blocks with
  | nil => exact fun matched hmatched => absurd hmatched List.not_mem_nil
  | cons first rest ih =>
    unfold checkMatchedBlocks at h
    simp only [ok_iff, ne_eq, not_not] at h
    obtain ⟨-, -, -, hfirst, h⟩ := h
    intro matched hmatched
    rcases List.mem_cons.1 hmatched with rfl | hmatched
    · exact hfirst
    · exact ih h matched hmatched

theorem candidates_block {minimum : UInt32} {p : Transaction → Bool}
    {observe : MatchedSwapBlock → Transaction →
      Except BitcoinWalletError PersistedBitcoinSwapObservation}
    {lists : List (List PersistedBitcoinSwapObservation)}
    (hobserve : ∀ matched transaction observation, observe matched transaction = .ok observation →
      observation.blockHeight = matched.height ∧ observation.blockHash = blockHash matched.block)
    (h : (blocks.mapM fun matched => if matched.height < minimum then Except.ok []
      else do
        validateMatchedBlock matched
        (matched.block.txdata.filter p).mapM (observe matched)) = .ok lists)
    (hobservation : observation ∈ lists.flatten) : ∃ matched ∈ blocks,
      observation.blockHeight = matched.height ∧
        observation.blockHash = blockHash matched.block := by
  obtain ⟨found, hfound, hmem⟩ := List.mem_flatten.1 hobservation
  obtain ⟨matched, hmatched, hcandidates⟩ := (mem_of_mapM_eq_ok h).1 hfound
  refine ⟨matched, hmatched, ?_⟩
  split at hcandidates
  next =>
    cases hcandidates
    cases hmem
  next =>
    simp only [ok_iff] at hcandidates
    obtain ⟨-, -, hcandidates⟩ := hcandidates
    obtain ⟨transaction, -, hone⟩ := (mem_of_mapM_eq_ok hcandidates).1 hmem
    exact hobserve matched transaction observation hone

variable [BitcoinLibrary]

theorem fundingObservation_block
    (h : fundingObservation watch tip ⟨matched.height, blockHash matched.block, transaction⟩ =
      .ok observation) :
    observation.blockHeight = matched.height ∧
      observation.blockHash = blockHash matched.block := by
  simp only [fundingObservation, ok_iff] at h
  obtain ⟨_, -, _, -, hret⟩ := h
  cases hret
  exact ⟨rfl, rfl⟩

variable {candidates : List PersistedBitcoinSwapObservation}

theorem fundingCandidates_block (h : fundingCandidates watch blocks tip = .ok candidates)
    (hobservation : observation ∈ candidates) : ∃ matched ∈ blocks,
      observation.blockHeight = matched.height ∧
        observation.blockHash = blockHash matched.block := by
  simp only [fundingCandidates, ok_iff] at h
  obtain ⟨lists, hlists, hret⟩ := h
  cases hret
  exact candidates_block (fun matched transaction observation hone =>
    fundingObservation_block hone) hlists hobservation

theorem findFunding_stays
    (hblocks : ∀ matched ∈ blocks, chain.get matched.height = some (blockHash matched.block))
    (h : findFunding blocks tip watch changed = .ok (watch', changed')) :
    WatchStays chain watch watch' := by
  unfold findFunding at h
  split at h
  next =>
    cases h
    exact .refl chain watch
  next hnone =>
    simp only [ok_iff] at h
    obtain ⟨candidates, hcandidates, h⟩ := h
    split at h
    next =>
      cases h
      exact .refl chain watch
    next candidate =>
      cases h
      refine ⟨⟨rfl, rfl, rfl, rfl, rfl⟩, fun _ h => h, fun hchain observation hmem => ?_⟩
      rcases mem_observations.1 hmem with h | h
      · cases h
        obtain ⟨matched, hmatched, hheight, hhash⟩ :=
          fundingCandidates_block hcandidates (List.mem_singleton.2 rfl)
        rw [OnChain, hheight, hhash]
        exact hblocks matched hmatched
      · exact hchain observation (mem_observations.2 (.inr h))
    next => cases h

variable [Sha256]

theorem spendObservation_block
    (h : spendObservation lock tip ⟨matched.height, blockHash matched.block, transaction⟩ =
      .ok observation) :
    observation.blockHeight = matched.height ∧
      observation.blockHash = blockHash matched.block := by
  simp only [spendObservation, ok_iff] at h
  obtain ⟨_, -, _, -, hret⟩ := h
  cases hret
  exact ⟨rfl, rfl⟩

theorem spendCandidates_block {funding : PersistedBitcoinSwapObservation}
    (h : spendCandidates watch funding blocks tip = .ok candidates)
    (hobservation : observation ∈ candidates) : ∃ matched ∈ blocks,
      observation.blockHeight = matched.height ∧
        observation.blockHash = blockHash matched.block := by
  simp only [spendCandidates, ok_iff] at h
  obtain ⟨lists, hlists, hret⟩ := h
  cases hret
  exact candidates_block (fun matched transaction observation hone =>
    spendObservation_block hone) hlists hobservation

theorem findSpend_stays
    (hblocks : ∀ matched ∈ blocks, chain.get matched.height = some (blockHash matched.block))
    (h : findSpend blocks tip watch changed = .ok (watch', changed')) :
    WatchStays chain watch watch' := by
  unfold findSpend at h
  split at h
  next funding hspend hfunding =>
    simp only [ok_iff] at h
    obtain ⟨candidates, hcandidates, h⟩ := h
    split at h
    next =>
      cases h
      exact .refl chain watch
    next candidate =>
      simp only [ok_iff] at h
      obtain ⟨preimage, hpreimage, h⟩ := h
      cases h
      refine ⟨⟨rfl, rfl, rfl, rfl, rfl⟩, revealPreimage_keeps hpreimage,
        fun hchain observation hmem => ?_⟩
      rcases mem_observations.1 hmem with h | h
      · exact hchain observation (mem_observations.2 (.inl h))
      · cases h
        obtain ⟨matched, hmatched, hheight, hhash⟩ :=
          spendCandidates_block hcandidates (List.mem_singleton.2 rfl)
        rw [OnChain, hheight, hhash]
        exact hblocks matched hmatched
    next => cases h
  next =>
    cases h
    exact .refl chain watch

structure Reconciled (network : BitcoinNetwork) (binding : Bytes 32) (chain : CheckPoint)
    (tip : BitcoinCheckpoint) (watch watch' : PersistedBitcoinHtlcWatch) : Prop where
  terms : SameTerms watch watch'
  preimage : KeepsPreimage watch watch'
  scanned : watch'.scannedCheckpoint = tip
  valid : validatePersistedWatch network binding watch' = .ok ()
  onChain : (∀ observation ∈ watch.observations, (chain.get observation.blockHeight).isSome) →
    ∀ observation ∈ watch'.observations, OnChain chain observation

theorem reconcileWatch_eq_ok
    (hblocks : ∀ matched ∈ blocks, chain.get matched.height = some (blockHash matched.block))
    (h : reconcileWatch network binding chain tip blocks watch = .ok (watch', changed)) :
    Reconciled network binding chain tip watch watch' := by
  simp only [reconcileWatch, ok_iff] at h
  obtain ⟨⟨funded, c₁⟩, hfunded, ⟨spent, c₂⟩, hspent, funding, hfunding, spend, hspend, _, hvalid,
    hret⟩ := h
  cases hret
  have hstays := (findFunding_stays hblocks hfunded).trans (findSpend_stays hblocks hspent)
  have hdropped : SameTerms watch (dropStale chain watch).1 ∧
      KeepsPreimage watch (dropStale chain watch).1 := by
    unfold dropStale
    split
    · exact ⟨⟨rfl, rfl, rfl, rfl, rfl⟩, fun _ h => h⟩
    · split
      · exact ⟨⟨rfl, rfl, rfl, rfl, rfl⟩, fun _ h => h⟩
      · exact ⟨⟨rfl, rfl, rfl, rfl, rfl⟩, fun _ h => h⟩
  obtain ⟨hterms, hpreimage⟩ := hdropped
  refine ⟨⟨hstays.terms.sessionId.trans hterms.sessionId, hstays.terms.htlc.trans hterms.htlc,
    hstays.terms.expectedValueSats.trans hterms.expectedValueSats,
    hstays.terms.minimumConfirmations.trans hterms.minimumConfirmations,
    hstays.terms.registeredCheckpoint.trans hterms.registeredCheckpoint⟩,
    fun preimage hknown => hstays.preimage preimage (hpreimage preimage hknown), rfl, hvalid, ?_⟩
  intro hheights observation hmem
  have hchain := hstays.onChain (dropStale_spec hheights).2.2
  exact recounted_onChain hfunding hspend hchain observation (mem_observations.1 hmem)

theorem reconcileWatch_unchanged
    (h : reconcileWatch network binding chain tip blocks watch = .ok (watch', false)) :
    watch' = watch := by
  simp only [reconcileWatch, ok_iff] at h
  obtain ⟨⟨funded, c₁⟩, hfunded, ⟨spent, c₂⟩, hspent, funding, -, spend, -, _, -, hret⟩ := h
  simp only [pure, Except.pure, Except.ok.injEq, Prod.mk.injEq, Bool.or_eq_false_iff,
    decide_eq_false_iff_not, ne_eq, not_not] at hret
  obtain ⟨rfl, hc₂, hsame⟩ := hret
  rw [hsame]
  have hspentSame : spent = funded ∧ c₁ = false := by
    unfold findSpend at hspent
    split at hspent
    next =>
      simp only [ok_iff] at hspent
      obtain ⟨candidates, -, hspent⟩ := hspent
      split at hspent
      next =>
        cases hspent
        exact ⟨rfl, hc₂⟩
      next =>
        simp only [ok_iff] at hspent
        obtain ⟨_, -, hspent⟩ := hspent
        cases hspent
        cases hc₂
      next => cases hspent
    next =>
      cases hspent
      exact ⟨rfl, hc₂⟩
  obtain ⟨rfl, rfl⟩ := hspentSame
  have hfundedSame : spent = (dropStale chain watch).1 ∧ (dropStale chain watch).2 = false := by
    unfold findFunding at hfunded
    split at hfunded
    next =>
      obtain ⟨rfl, hflag⟩ := Prod.mk.inj (Except.ok.inj hfunded)
      exact ⟨rfl, hflag⟩
    next =>
      simp only [ok_iff] at hfunded
      obtain ⟨candidates, -, hfunded⟩ := hfunded
      split at hfunded
      next =>
        obtain ⟨rfl, hflag⟩ := Prod.mk.inj (Except.ok.inj hfunded)
        exact ⟨rfl, hflag⟩
      next => cases hfunded
      next => cases hfunded
  obtain ⟨rfl, hkept⟩ := hfundedSame
  unfold dropStale at hkept ⊢
  split at hkept
  next => cases hkept
  next hfunding =>
    split at hkept
    next => cases hkept
    next hspend => rw [if_neg hfunding, if_neg hspend]

theorem validatePersistedWatch_facts {u : Unit}
    (h : validatePersistedWatch network binding watch = .ok u) :
    (∀ observation ∈ watch.observations,
      confirmationCount watch.scannedCheckpoint.height observation.blockHeight =
        .ok observation.confirmationCount) ∧
    (∀ spend, watch.spend = some spend →
      ∃ funding, watch.funding = some funding ∧ funding.blockHeight ≤ spend.blockHeight) ∧
    ∀ preimage, watch.revealedPreimage = some preimage →
      Sha256.digest preimage.toList = watch.htlc.hashlock := by
  simp only [validatePersistedWatch, ok_iff, not_or, not_exists, not_and, ne_eq, not_not] at h
  obtain ⟨_, -, commitment, -, _, ⟨-, -, hspend, hpreimage⟩, _, -, _, -, _, hfunding, h⟩ := h
  refine ⟨fun observation hmem => ?_, fun spend hsome => ?_, hpreimage⟩
  · rcases mem_observations.1 hmem with hsome | hsome
    · rw [hsome] at hfunding
      change watch.validateFunding observation = .ok _ at hfunding
      simp only [validateFunding, ok_iff, ne_eq, not_not] at hfunding
      obtain ⟨_, -, _, -, confirmations, hcount, _, rfl, -⟩ := hfunding
      exact hcount
    · cases hfunded : watch.funding with
      | none =>
        refine absurd hfunded (by simpa using hspend (by rw [hsome]; rfl))
      | some funding =>
        rw [hfunded, hsome] at h
        simp only [validateSpend, ok_iff, ne_eq, not_not] at h
        obtain ⟨_, -, confirmations, hcount, _, rfl, -⟩ := h
        exact hcount
  · cases hfunded : watch.funding with
    | none => exact absurd hfunded (by simpa using hspend (by rw [hsome]; rfl))
    | some funding =>
      rw [hfunded, hsome] at h
      simp only [validateSpend, ok_iff, ne_eq, not_not, not_or, UInt32.not_lt] at h
      obtain ⟨_, -, confirmations, -, _, -, branch, -, verified, -, -, -, -, -, hheight⟩ := h
      exact ⟨funding, rfl, hheight⟩

/-! ## All watches of an account -/

variable {V : Type} [Serde V PersistedBitcoinHtlcWatch]
  {store store' : WalletStore V} {accountId : List UInt8} {nowUnix : UInt64}

def WatchRow (store : WalletStore V) (binding : Bytes 32) (sessionId : SessionId)
    (watch : PersistedBitcoinHtlcWatch) : Prop :=
  ∃ row, store.entities.lookup (.bitcoinSwapWatch, watchId binding sessionId) = some row ∧
    Serde.fromSlice row.value = some watch

theorem decodeWatch_eq_ok {stored : StoredEntity PersistedBitcoinHtlcWatch}
    (h : decodeWatch network binding stored = .ok loaded) :
    stored.id = watchId binding stored.value.sessionId ∧
      validatePersistedWatch network binding stored.value = .ok () ∧
      loaded = ⟨stored.revision, stored.value⟩ := by
  simp only [decodeWatch, ok_iff, ne_eq, not_not] at h
  obtain ⟨_, hid, _, hvalid, hret⟩ := h
  cases hret
  exact ⟨hid, hvalid, rfl⟩

theorem loadBitcoinHtlcWatches_eq_ok (hbinding : accountBinding network accountId = .ok binding)
    (h : loadBitcoinHtlcWatches store network accountId = .ok watches) :
    store.unlocked ∧ (watches.map fun watch => watch.persisted.sessionId).Nodup ∧
      (∀ watch ∈ watches, WatchRow store binding watch.persisted.sessionId watch.persisted ∧
        validatePersistedWatch network binding watch.persisted = .ok ()) ∧
      ∀ sessionId row, store.entities.lookup (.bitcoinSwapWatch, watchId binding sessionId) =
        some row → ∃ watch ∈ watches, watch.persisted.sessionId = sessionId := by
  simp only [loadBitcoinHtlcWatches, ok_iff] at h
  obtain ⟨found, hfound, listed, hlisted, _, -, hdecode⟩ := h
  cases hbinding.symm.trans hfound
  have hrows := hlisted
  simp only [WalletStore.listEntitiesByIdPrefix, ok_iff, requireKey_eq_ok] at hrows
  obtain ⟨_, -, _, -, _, hkey, _, -, hrows⟩ := hrows
  refine ⟨hkey, ?_, fun watch hwatch => ?_, fun sessionId row hrow => ?_⟩
  · have hids : watches.map (fun watch => watchId binding watch.persisted.sessionId) =
        listed.map StoredEntity.id := by
      refine map_of_mapM_eq_ok (fun hone => ?_) hdecode
      obtain ⟨hid, -, rfl⟩ := decodeWatch_eq_ok hone
      exact hid.symm
    have hlistedIds : listed.map StoredEntity.id =
        (store.entitiesByIdPrefix .bitcoinSwapWatch (watchPrefix binding)).map Prod.fst := by
      refine map_of_mapM_eq_ok (fun hread => ?_) hrows
      obtain ⟨-, value, -, rfl⟩ := storedEntity_eq_ok.1 hread
      rfl
    have hnodup : ((store.entitiesByIdPrefix .bitcoinSwapWatch (watchPrefix binding)).map
        Prod.fst).Nodup := nodup_entitiesByIdPrefix store
    rw [← hlistedIds, ← hids] at hnodup
    refine (List.pairwise_map.2 ((List.pairwise_map.1 hnodup).imp fun hne hsame => hne ?_))
    rw [hsame]
  · obtain ⟨stored, hstored, hone⟩ := (mem_of_mapM_eq_ok hdecode).1 hwatch
    obtain ⟨hid, hvalid, rfl⟩ := decodeWatch_eq_ok hone
    obtain ⟨-, hload⟩ := (mem_of_listEntitiesByIdPrefix hlisted).1 hstored
    obtain ⟨-, -, row, value, hlookup, hvalue, hvalueEq⟩ := loadEntity_eq_some.1 hload
    rw [hid] at hlookup
    refine ⟨⟨row, hlookup, ?_⟩, hvalid⟩
    rw [hvalue]
    exact congrArg (some ∘ StoredEntity.value) hvalueEq.symm
  · have hmem : (watchId binding sessionId, row) ∈
        store.entitiesByIdPrefix .bitcoinSwapWatch (watchPrefix binding) :=
      mem_entitiesByIdPrefix.2 ⟨List.prefix_append _ _, hrow⟩
    obtain ⟨stored, hstored, hread⟩ := exists_of_mapM_eq_ok hrows hmem
    obtain ⟨-, value, -, rfl⟩ := storedEntity_eq_ok.1 hread
    obtain ⟨watch, hwatch, hone⟩ := exists_of_mapM_eq_ok hdecode hstored
    obtain ⟨hid, -, rfl⟩ := decodeWatch_eq_ok hone
    exact ⟨_, hwatch, (watchId_inj.1 hid).symm⟩

theorem loadBitcoinHtlcWatch_eq_some (hbinding : accountBinding network accountId = .ok binding)
    (h : loadBitcoinHtlcWatch store network accountId sessionId = .ok (some loaded)) :
    WatchRow store binding sessionId loaded.persisted ∧
      loaded.persisted.sessionId = sessionId ∧
      validatePersistedWatch network binding loaded.persisted = .ok () := by
  simp only [loadBitcoinHtlcWatch, ok_iff] at h
  obtain ⟨found, hfound, stored, hstored, hdecode⟩ := h
  cases hbinding.symm.trans hfound
  cases stored with
  | none => cases optionMapM_eq_ok.1 hdecode
  | some entity =>
    cases optionMapM_eq_ok.1 hdecode with
    | some hone =>
      obtain ⟨hid, hvalid, rfl⟩ := decodeWatch_eq_ok hone
      obtain ⟨-, -, row, value, hlookup, hvalue, rfl⟩ :=
        loadEntity_eq_some.1 hstored
      exact ⟨⟨row, hlookup, hvalue⟩, (watchId_inj.1 hid).symm, hvalid⟩

theorem loadBitcoinHtlcWatch_of_row (hbinding : accountBinding network accountId = .ok binding)
    (hkey : store.unlocked) (hrow : WatchRow store binding sessionId watch)
    (hsession : watch.sessionId = sessionId)
    (hvalid : validatePersistedWatch network binding watch = .ok ()) :
    ∃ loaded, loadBitcoinHtlcWatch store network accountId sessionId = .ok (some loaded) ∧
      loaded.persisted = watch := by
  obtain ⟨row, hlookup, hvalue⟩ := hrow
  refine ⟨⟨row.revision, watch⟩, ?_, rfl⟩
  simp only [loadBitcoinHtlcWatch, ok_iff]
  refine ⟨binding, hbinding, some ⟨.bitcoinSwapWatch, watchId binding sessionId, row.revision,
    watch, row.updatedAtUnix⟩, ?_, optionMapM_eq_ok.2 (.some ?_)⟩
  · exact loadEntity_eq_some.2
      ⟨validateId_watchId sessionId, hkey, row, watch, hlookup, hvalue, rfl⟩
  · simp only [decodeWatch, ok_iff, ne_eq, not_not]
    exact ⟨(), by rw [hsession], (), hvalid, rfl⟩

theorem loadBitcoinHtlcWatch_eq_none (hbinding : accountBinding network accountId = .ok binding)
    (h : loadBitcoinHtlcWatch store network accountId sessionId = .ok none) :
    store.entities.lookup (.bitcoinSwapWatch, watchId binding sessionId) = none := by
  simp only [loadBitcoinHtlcWatch, ok_iff] at h
  obtain ⟨found, hfound, stored, hstored, hdecode⟩ := h
  cases hbinding.symm.trans hfound
  cases stored with
  | none => exact (loadEntity_eq_none.1 hstored).2.2
  | some entity => cases optionMapM_eq_ok.1 hdecode

variable [Encoded V]

structure ReconciledRows (network : BitcoinNetwork) (binding : Bytes 32) (chain : CheckPoint)
    (tip : BitcoinCheckpoint) (blocks : List MatchedSwapBlock)
    (watches : List BitcoinHtlcWatch) (store store' : WalletStore V) : Prop where
  unlocked : store'.unlocked = store.unlocked
  count : ∀ idPrefix, (store'.entitiesByIdPrefix .bitcoinSwapWatch idPrefix).length =
    (store.entitiesByIdPrefix .bitcoinSwapWatch idPrefix).length
  rows : ∀ watch ∈ watches, ∃ reconciled changed,
    reconcileWatch network binding chain tip blocks watch.persisted = .ok (reconciled, changed) ∧
      WatchRow store' binding watch.persisted.sessionId reconciled
  others : ∀ key, (∀ watch ∈ watches,
      key ≠ (EntityKind.bitcoinSwapWatch, watchId binding watch.persisted.sessionId)) →
    store'.entities.lookup key = store.entities.lookup key

theorem reconcileEach_rows
    (hblocks : ∀ matched ∈ blocks, chain.get matched.height = some (blockHash matched.block))
    (hnodup : (watches.map fun watch => watch.persisted.sessionId).Nodup)
    (hrows : ∀ watch ∈ watches, WatchRow store binding watch.persisted.sessionId watch.persisted)
    (h : reconcileEach network binding chain tip blocks nowUnix store watches =
      (store', .ok ())) :
    ReconciledRows network binding chain tip blocks watches store store' := by
  induction watches generalizing store with
  | nil =>
    cases h
    exact ⟨rfl, fun _ => rfl, fun watch hwatch => absurd hwatch List.not_mem_nil,
      fun _ _ => rfl⟩
  | cons first rest ih =>
    rw [List.map_cons, List.nodup_cons] at hnodup
    obtain ⟨hfirst, hrest⟩ := List.forall_mem_cons.1 hrows
    have hapart : ∀ watch ∈ rest, watchId binding watch.persisted.sessionId ≠
        watchId binding first.persisted.sessionId := by
      intro watch hwatch hid
      exact hnodup.1 (List.mem_map.2 ⟨watch, hwatch, watchId_inj.1 hid⟩)
    -- The pass goes on in a store that differs at most in the row of the first watch.
    obtain ⟨reconciled, changed, written, hreconciled, hrow, hunlocked, hcount, hframe, hpass⟩ :
        ∃ reconciled changed written,
          reconcileWatch network binding chain tip blocks first.persisted =
            .ok (reconciled, changed) ∧
          WatchRow written binding first.persisted.sessionId reconciled ∧
          written.unlocked = store.unlocked ∧
          (∀ idPrefix, (written.entitiesByIdPrefix .bitcoinSwapWatch idPrefix).length =
            (store.entitiesByIdPrefix .bitcoinSwapWatch idPrefix).length) ∧
          (∀ key, key ≠ (EntityKind.bitcoinSwapWatch,
            watchId binding first.persisted.sessionId) →
            written.entities.lookup key = store.entities.lookup key) ∧
          reconcileEach network binding chain tip blocks nowUnix written rest =
            (store', .ok ()) := by
      unfold reconcileEach at h
      split at h
      next => cases (Prod.mk.inj h).2
      next reconciled hreconciled =>
        have hsame := reconcileWatch_unchanged hreconciled
        exact ⟨reconciled, false, store, hreconciled, hsame ▸ hfirst, rfl, fun _ => rfl,
          fun _ _ => rfl, h⟩
      next reconciled hreconciled =>
        split at h
        next => cases (Prod.mk.inj h).2
        next written next hsave =>
          have hterms := (reconcileWatch_eq_ok hblocks hreconciled).terms
          obtain ⟨-, -, -, -, -, rfl⟩ := saveEntity_eq_ok.1 hsave
          rw [hterms.sessionId] at h
          refine ⟨reconciled, true, store.putEntity .bitcoinSwapWatch
            (watchId binding first.persisted.sessionId)
            ⟨next, Serde.toVec reconciled, nowUnix⟩, hreconciled, ?_, rfl, fun idPrefix => ?_,
            fun key hkey => ?_, h⟩
          · exact ⟨_, putEntity_lookup, Serde.fromSlice_toVec reconciled⟩
          · obtain ⟨row, hlookup, -⟩ := hfirst
            exact length_putEntity_of_isSome (by rw [hlookup]; rfl)
          · exact putEntity_lookup_ne hkey
    have hkept : ∀ watch ∈ rest,
        WatchRow written binding watch.persisted.sessionId watch.persisted := by
      intro watch hwatch
      obtain ⟨row, hlookup, hvalue⟩ := hrest watch hwatch
      refine ⟨row, ?_, hvalue⟩
      rw [hframe _ fun hkey => hapart watch hwatch (Prod.mk.inj hkey).2]
      exact hlookup
    have hpassed := ih hnodup.2 hkept hpass
    refine ⟨hpassed.unlocked.trans hunlocked,
      fun idPrefix => (hpassed.count idPrefix).trans (hcount idPrefix),
      fun watch hwatch => ?_, fun key hkey => ?_⟩
    · rcases List.mem_cons.1 hwatch with rfl | hwatch
      · obtain ⟨row, hlookup, hvalue⟩ := hrow
        refine ⟨reconciled, changed, hreconciled, row, ?_, hvalue⟩
        rw [hpassed.others _ fun other hother hkey =>
          hapart other hother (Prod.mk.inj hkey).2.symm]
        exact hlookup
      · exact hpassed.rows watch hwatch
    · rw [hpassed.others key fun watch hwatch => hkey watch (List.mem_cons_of_mem _ hwatch)]
      exact hframe key (hkey first List.mem_cons_self)

theorem reconcileBitcoinHtlcWatches_rows
    (h : reconcileBitcoinHtlcWatches store network accountId chain tip blocks nowUnix =
      (store', .ok ())) :
    ∃ binding watches, accountBinding network accountId = .ok binding ∧
      loadBitcoinHtlcWatches store network accountId = .ok watches ∧ chain.tip = tip ∧
      (∀ matched ∈ blocks, chain.get matched.height = some (blockHash matched.block)) ∧
      ReconciledRows network binding chain tip blocks watches store store' := by
  unfold reconcileBitcoinHtlcWatches at h
  split at h
  next => cases (Prod.mk.inj h).2
  next binding watches hload =>
    simp only [loadForReconciliation, ok_iff, ne_eq, not_not] at hload
    obtain ⟨_, -, _, htip, _, hblocks, found, hbinding, listed, hwatches, hret⟩ := hload
    cases hret
    have hcanonical := checkMatchedBlocks_mem hblocks
    obtain ⟨-, hnodup, hrows, -⟩ := loadBitcoinHtlcWatches_eq_ok hbinding hwatches
    exact ⟨binding, watches, hbinding, hwatches, htip, hcanonical,
      reconcileEach_rows hcanonical hnodup (fun watch hwatch => (hrows watch hwatch).1) h⟩

theorem reconciledRow
    (h : reconcileBitcoinHtlcWatches store network accountId chain tip blocks nowUnix =
      (store', .ok ())) (hbinding : accountBinding network accountId = .ok binding)
    {row : EntityRow V}
    (hrow : store'.entities.lookup (.bitcoinSwapWatch, watchId binding sessionId) = some row) :
    store.unlocked ∧ store'.unlocked ∧ ∃ before after, WatchRow store binding sessionId before ∧
      validatePersistedWatch network binding before = .ok () ∧ before.sessionId = sessionId ∧
      WatchRow store' binding sessionId after ∧
      Reconciled network binding chain tip before after := by
  obtain ⟨found, watches, hfound, hload, -, hblocks, hrows⟩ := reconcileBitcoinHtlcWatches_rows h
  cases hbinding.symm.trans hfound
  obtain ⟨hkey, -, hsound, hall⟩ := loadBitcoinHtlcWatches_eq_ok hbinding hload
  refine ⟨hkey, hrows.unlocked.trans hkey, ?_⟩
  obtain ⟨watch, hwatch, hsession⟩ : ∃ watch ∈ watches, watch.persisted.sessionId = sessionId := by
    by_cases hmem : ∃ watch ∈ watches, watch.persisted.sessionId = sessionId
    · exact hmem
    · have hsame : store'.entities.lookup (.bitcoinSwapWatch, watchId binding sessionId) =
          store.entities.lookup (.bitcoinSwapWatch, watchId binding sessionId) := by
        refine hrows.others _ fun watch hwatch hkey => hmem ⟨watch, hwatch, ?_⟩
        exact (watchId_inj.1 (Prod.mk.inj hkey).2).symm
      exact hall sessionId row (hsame ▸ hrow)
  subst hsession
  obtain ⟨reconciled, changed, hone, hafter⟩ := hrows.rows watch hwatch
  obtain ⟨hbefore, hvalid⟩ := hsound watch hwatch
  exact ⟨watch.persisted, reconciled, hbefore, hvalid, rfl, hafter,
    reconcileWatch_eq_ok hblocks hone⟩

inductive WatchAction where
  | register (network : BitcoinNetwork) (accountId : List UInt8)
      (request : BitcoinHtlcWatchRequest) (checkpoint : BitcoinCheckpoint) (nowUnix : UInt64)
  | reconcile (network : BitcoinNetwork) (accountId : List UInt8) (chain : CheckPoint)
      (tip : BitcoinCheckpoint) (blocks : List MatchedSwapBlock) (nowUnix : UInt64)
  | elsewhere

/-- The chain has a checkpoint at the height of every observation that the account holds. -/
def KnowsHeights (store : WalletStore V) (network : BitcoinNetwork) (accountId : List UInt8)
    (chain : CheckPoint) : Prop :=
  ∀ sessionId loaded, loadBitcoinHtlcWatch store network accountId sessionId = .ok (some loaded) →
    ∀ observation ∈ loaded.persisted.observations,
      (chain.get observation.blockHeight).isSome

def WatchStep (store : WalletStore V) (action : WatchAction) (store' : WalletStore V) : Prop :=
  match action with
  | .register network accountId request checkpoint nowUnix =>
    registerBitcoinHtlcWatch store network accountId request checkpoint nowUnix = .ok store'
  | .reconcile network accountId chain tip blocks nowUnix =>
    KnowsHeights store network accountId chain ∧
    reconcileBitcoinHtlcWatches store network accountId chain tip blocks nowUnix =
      (store', .ok ())
  | .elsewhere => ∀ id, store'.entities.lookup (.bitcoinSwapWatch, id) =
      store.entities.lookup (.bitcoinSwapWatch, id)

/-- A watch goes on in a row, under its terms and with the preimage that it had. -/
def Continues (first : PersistedBitcoinHtlcWatch) (id : RecordId) (store : WalletStore V) : Prop :=
  ∃ row watch, store.entities.lookup (.bitcoinSwapWatch, id) = some row ∧
    Serde.fromSlice row.value = some watch ∧ SameTerms first watch ∧ KeepsPreimage first watch

theorem Continues.register {request : BitcoinHtlcWatchRequest} (h : Continues watch id store)
    (hregister : registerBitcoinHtlcWatch store network accountId request checkpoint nowUnix =
      .ok store') : Continues watch id store' := by
  simp only [registerBitcoinHtlcWatch, ok_iff] at hregister
  obtain ⟨_, -, _, -, binding, hbinding, existing, hexisting, hregister⟩ := hregister
  cases existing with
  | some existing =>
    simp only [ok_iff] at hregister
    obtain ⟨_, -, _, -, hret⟩ := hregister
    cases hret
    exact h
  | none =>
    simp only [ok_iff] at hregister
    obtain ⟨_, -, _, -, _, -, commitment, -, hbatch⟩ := hregister
    obtain ⟨-, hbatched⟩ := applyEntityBatch_batched hbatch
    obtain ⟨row, current, hlookup, hvalue⟩ := h
    refine ⟨row, current, ?_, hvalue⟩
    rw [← hlookup]
    refine hbatched.lookup_ne (fun save hsave hid => ?_) fun delete hdelete => by cases hdelete
    -- A new row is written only where there is none.
    rw [List.mem_singleton.1 hsave] at hid
    subst hid
    cases (loadBitcoinHtlcWatch_eq_none hbinding hexisting).symm.trans hlookup

theorem Continues.reconcile (h : Continues watch id store)
    (hreconcile : reconcileBitcoinHtlcWatches store network accountId chain tip blocks nowUnix =
      (store', .ok ())) : Continues watch id store' := by
  obtain ⟨binding, watches, hbinding, hload, -, hblocks, hrows⟩ :=
    reconcileBitcoinHtlcWatches_rows hreconcile
  obtain ⟨-, -, hsound, -⟩ := loadBitcoinHtlcWatches_eq_ok hbinding hload
  obtain ⟨row, current, hlookup, hvalue, hterms, hpreimage⟩ := h
  by_cases htouched : ∃ loaded ∈ watches, watchId binding loaded.persisted.sessionId = id
  · obtain ⟨loaded, hloaded, rfl⟩ := htouched
    obtain ⟨reconciled, changed, hone, after, hafter, hvalue'⟩ := hrows.rows loaded hloaded
    obtain ⟨⟨before, hbefore, hpersisted⟩, -⟩ := hsound loaded hloaded
    cases hlookup.symm.trans hbefore
    cases hvalue.symm.trans hpersisted
    have hreconciled := reconcileWatch_eq_ok hblocks hone
    exact ⟨after, reconciled, hafter, hvalue', hterms.trans hreconciled.terms,
      fun preimage hrevealed => hreconciled.preimage preimage (hpreimage preimage hrevealed)⟩
  · refine ⟨row, current, ?_, hvalue, hterms, hpreimage⟩
    rw [hrows.others _ fun loaded hloaded hkey => htouched ⟨loaded, hloaded,
      (Prod.mk.inj hkey).2.symm⟩]
    exact hlookup

theorem Continues.step {action : WatchAction} (h : Continues watch id store)
    (hstep : WatchStep store action store') : Continues watch id store' := by
  cases action with
  | register => exact h.register hstep
  | reconcile => exact h.reconcile hstep.2
  | elsewhere =>
    obtain ⟨row, current, hlookup, hvalue⟩ := h
    exact ⟨row, current, (hstep id).trans hlookup, hvalue⟩

theorem verifiedSpendAt_eq_some {spend : VerifiedBitcoinHtlcSpendObservation}
    (h : loaded.verifiedSpendAt checkpoint = some spend) :
    ∃ lock, loaded.verifiedLockAt checkpoint = some lock := by
  unfold BitcoinHtlcWatch.verifiedSpendAt at h
  split at h
  next => cases h
  next =>
    simp only [Option.bind_eq_bind, Option.bind_eq_some_iff] at h
    obtain ⟨funding, -, found, -, branch, -, lock, hlock, -⟩ := h
    exact ⟨lock, hlock⟩

/-- Whatever happened before, a successful reconciliation leaves rows that load, with all
evidence on its chain and counted to its tip; what the rows vouch for they vouch for at
that tip only.  A watch that was there at any time is still there, under its terms, and a
preimage that was known is still known. -/
theorem watch_evidence_stays_canonical
    (hcall : WatchStep store (.reconcile network accountId chain tip blocks nowUnix) store')
    (hbinding : accountBinding network accountId = .ok binding) (sessionId : SessionId) :
    (∀ row, store'.entities.lookup (.bitcoinSwapWatch, watchId binding sessionId) = some row →
      ∃ loaded, loadBitcoinHtlcWatch store' network accountId sessionId = .ok (some loaded)) ∧
    (∀ loaded, loadBitcoinHtlcWatch store' network accountId sessionId = .ok (some loaded) →
      (∀ observation ∈ loaded.persisted.observations,
        chain.get observation.blockHeight = some observation.blockHash ∧
        observation.blockHeight ≤ tip.height ∧
        observation.confirmationCount.toNat =
          tip.height.toNat - observation.blockHeight.toNat + 1) ∧
      (∀ spend, loaded.persisted.spend = some spend →
        ∃ funding, loaded.persisted.funding = some funding ∧
          funding.blockHeight ≤ spend.blockHeight) ∧
      (∀ preimage, loaded.persisted.revealedPreimage = some preimage →
        Sha256.digest preimage.toList = loaded.persisted.htlc.hashlock) ∧
      (∀ checkpoint lock, loaded.verifiedLockAt checkpoint = some lock → checkpoint = tip ∧
        ∃ funding, loaded.persisted.funding = some funding ∧
          loaded.persisted.minimumConfirmations ≤ funding.confirmationCount) ∧
      (∀ checkpoint spend, loaded.verifiedSpendAt checkpoint = some spend → checkpoint = tip ∧
        ∃ funding, loaded.persisted.funding = some funding ∧
          loaded.persisted.minimumConfirmations ≤ funding.confirmationCount)) ∧
    (∀ earlier actions loaded, Run WatchStep earlier actions store →
      loadBitcoinHtlcWatch earlier network accountId sessionId = .ok (some loaded) →
      ∃ loaded', loadBitcoinHtlcWatch store' network accountId sessionId = .ok (some loaded') ∧
        SameTerms loaded.persisted loaded'.persisted ∧
        ∀ preimage, loaded.persisted.revealedPreimage = some preimage →
          loaded'.persisted.revealedPreimage = some preimage) := by
  obtain ⟨hheights, hreconcile⟩ := hcall
  have hloads : ∀ row,
      store'.entities.lookup (.bitcoinSwapWatch, watchId binding sessionId) = some row →
      ∃ loaded, loadBitcoinHtlcWatch store' network accountId sessionId = .ok (some loaded) := by
    intro row hrow
    obtain ⟨-, hkey, before, after, -, -, hsession, hafter, hreconciled⟩ :=
      reconciledRow hreconcile hbinding hrow
    obtain ⟨loaded, hloaded, -⟩ := loadBitcoinHtlcWatch_of_row hbinding hkey hafter
      (hreconciled.terms.sessionId.trans hsession) hreconciled.valid
    exact ⟨loaded, hloaded⟩
  refine ⟨hloads, fun loaded hloaded => ?_, ?_⟩
  · obtain ⟨⟨row, hlookup, hvalue⟩, hsession, hvalid⟩ := loadBitcoinHtlcWatch_eq_some
      hbinding hloaded
    obtain ⟨hkey, -, before, after, hbefore, hbeforeValid, hbeforeSession,
      ⟨row', hlookup', hvalue'⟩, hreconciled⟩ := reconciledRow hreconcile hbinding hlookup
    cases hlookup.symm.trans hlookup'
    obtain rfl := Option.some.inj (hvalue.symm.trans hvalue')
    obtain ⟨hcounts, hspends, hpreimage⟩ := validatePersistedWatch_facts hvalid
    have hknown : ∀ observation ∈ before.observations,
        (chain.get observation.blockHeight).isSome := by
      obtain ⟨loaded₀, hloaded₀, rfl⟩ := loadBitcoinHtlcWatch_of_row hbinding hkey hbefore
        hbeforeSession hbeforeValid
      exact hheights sessionId loaded₀ hloaded₀
    have hlock : ∀ checkpoint lock, loaded.verifiedLockAt checkpoint = some lock →
        checkpoint = tip ∧ ∃ funding, loaded.persisted.funding = some funding ∧
          loaded.persisted.minimumConfirmations ≤ funding.confirmationCount := by
      intro checkpoint lock hsome
      obtain ⟨hcurrent, hfunding⟩ := verifiedLockAt_eq_some hsome
      exact ⟨hcurrent.trans hreconciled.scanned, hfunding⟩
    refine ⟨fun observation hmem => ?_, hspends, hpreimage, hlock, fun checkpoint spend hsome => ?_⟩
    · have hcount := hcounts observation hmem
      rw [hreconciled.scanned] at hcount
      exact ⟨hreconciled.onChain hknown observation hmem, confirmationCount_eq_ok hcount⟩
    · obtain ⟨lock, hsome⟩ := verifiedSpendAt_eq_some hsome
      exact hlock checkpoint lock hsome
  · intro earlier actions loaded hrun hloaded
    obtain ⟨⟨row, hlookup, hvalue⟩, -, -⟩ := loadBitcoinHtlcWatch_eq_some hbinding hloaded
    have hcontinues : Continues loaded.persisted (watchId binding sessionId) store :=
      Run.invariant (I := Continues loaded.persisted (watchId binding sessionId))
        (fun h hstep => h.step hstep) ⟨row, _, hlookup, hvalue, ⟨rfl, rfl, rfl, rfl, rfl⟩,
          fun _ h => h⟩ hrun
    obtain ⟨row', watch, hlookup', hvalue', hkept⟩ := hcontinues.reconcile hreconcile
    obtain ⟨loaded', hloaded'⟩ := hloads row' hlookup'
    obtain ⟨⟨row'', hlookup'', hvalue''⟩, -, -⟩ := loadBitcoinHtlcWatch_eq_some hbinding hloaded'
    cases hlookup'.symm.trans hlookup''
    obtain rfl := Option.some.inj (hvalue'.symm.trans hvalue'')
    exact ⟨loaded', hloaded', hkept⟩

end Laws

namespace Sample

open Lib

def watchedHash : Bytes 32 :=
  .ofNat 32 0xf849d67325facf04177bc663b2dc544051831c589ef581d412f2eba44834e77c

def neighbourHash : Bytes 32 :=
  .ofNat 32 0xe802086ad6a1e16b78352ad7296d2aabd835b1b16dbe951e1135b97c68e29d81

def watchedReceiver : List UInt8 := 2 :: List.replicate 32 9

def watchedRefund : List UInt8 := 3 :: List.replicate 32 8

def watchedScript (hashlock : Bytes 32) : List UInt8 :=
  htlcScript hashlock watchedReceiver watchedRefund 1700000000

def watchedCommitment : Bytes 32 :=
  .ofNat 32 0xd4782ee2e25be1be15e21c6c2b2cc22741322d6be023ef73dc5f9da56a06d739

def neighbourCommitment : Bytes 32 :=
  .ofNat 32 0xa1686840d9c28c2661b2088e607a95f72c0cf57cd37b7ea75f1b1fd421ef669c

def watchedBinding : Bytes 32 :=
  .ofNat 32 0x595d3d2661b151b77a2132b0294a1f06db8b77d7bdb39563805047c9048ea702

def watchedTerms : Bytes 32 :=
  .ofNat 32 0xe2a6ceca67cbd155a6e7fb106f6b2942b1b09eba74fd284119812d6d7ba60366

def neighbourTerms : Bytes 32 :=
  .ofNat 32 0x5821655e53d8a0dc65919a240507d241a78ada16382556f397632a66ef6cb3f8

def watchedSession : SessionId := ⟨.replicate 32 71⟩

def neighbourSession : SessionId := ⟨.replicate 32 70⟩

def watchDigests : List (List UInt8 × Bytes 32) :=
  [(List.replicate 32 5, watchedHash), (List.replicate 32 6, neighbourHash),
    (htlcCommitmentDomain ++ watchedScript watchedHash, watchedCommitment),
    (htlcCommitmentDomain ++ watchedScript neighbourHash, neighbourCommitment),
    (bitcoinSwapWatchTermsDomain ++ watchedSession.bytes.toList ++ watchedCommitment.toList ++
      beBytes 8 50000 ++ beBytes 4 2, watchedTerms),
    (bitcoinSwapWatchTermsDomain ++ neighbourSession.bytes.toList ++ neighbourCommitment.toList ++
      beBytes 8 50000 ++ beBytes 4 2, neighbourTerms),
    (bitcoinSwapWatchAccountDomain ++ [0xf9, 0xbe, 0xb4, 0xd9] ++ beBytes 8 1 ++ [0x61],
      watchedBinding),
    (watchedScript watchedHash,
      .ofNat 32 0xc9da482ff3c1b829d94caf1e914d50d56675c7d6d6e50fae2f964930a37cb30d),
    (watchedScript neighbourHash,
      .ofNat 32 0x89f0341a9a8413283eb8bfb35820f2fd892be5854149a6a903348e48940bccf8)]

@[reducible] def watchSha256 : Sha256 where
  digest input := (watchDigests.lookup input).getD (.replicate 32 1)

@[reducible] def watchBitcoin : BitcoinLibrary where
  publicKey key := if key.length = 33 then some key else none
  publicKey_compressed := compressed_of_length
  p2wsh script := [0x00, 0x20] ++ ((watchDigests.lookup script).getD (.replicate 32 1)).toList

def watchedHtlc (hashlock : Bytes 32) : BitcoinHtlc where
  hashlock := hashlock
  receiverPublicKey := watchedReceiver
  refundPublicKey := watchedRefund
  refundLocktime := 1700000000
  witnessScript := watchedScript hashlock
  scriptPubkey := watchBitcoin.p2wsh (watchedScript hashlock)

def lockFunding : Transaction :=
  ⟨2, 0, [⟨⟨.replicate 32 40, 0⟩, [], 0xfffffffd, [[1]]⟩],
    [⟨50000, (watchedHtlc watchedHash).scriptPubkey⟩, ⟨7000, [0x51]⟩]⟩

def lockRedeem : Transaction :=
  ⟨2, 0, [⟨⟨.replicate 32 51, 0⟩, [], 0xfffffffd,
    [[0x30, 0x06, 0x01], List.replicate 32 5, [1], watchedScript watchedHash]⟩], [⟨49000, [0x51]⟩]⟩

def lockFundedAgain : Transaction :=
  ⟨2, 0, [⟨⟨.replicate 32 41, 0⟩, [], 0xfffffffd, [[1]]⟩],
    [⟨50000, (watchedHtlc watchedHash).scriptPubkey⟩]⟩

def neighbourFunding : Transaction :=
  ⟨2, 0, [⟨⟨.replicate 32 42, 0⟩, [], 0xfffffffd, [[1]]⟩],
    [⟨50000, (watchedHtlc neighbourHash).scriptPubkey⟩,
      ⟨50000, (watchedHtlc neighbourHash).scriptPubkey⟩]⟩

def watchTransactions : List (Transaction × List UInt8 × UInt8) :=
  [(lockFunding, [2, 0, 0, 0, 0, 1, 0xf1], 51), (lockRedeem, [2, 0, 0, 0, 0, 1, 0xf2], 52),
    (lockFundedAgain, [2, 0, 0, 0, 0, 1, 0xf3], 53),
    (neighbourFunding, [2, 0, 0, 0, 0, 1, 0xf4], 54)]

@[reducible] def watchBlocks : BlockLibrary where
  deserialize raw := (watchTransactions.find? fun entry => entry.2.1 = raw).map Prod.fst
  serialize transaction := ((watchTransactions.lookup transaction).map Prod.fst).getD []
  computeTxid transaction :=
    .replicate 32 (((watchTransactions.lookup transaction).map Prod.snd).getD 255)
  computeWtxid transaction :=
    .replicate 32 (((watchTransactions.lookup transaction).map Prod.snd).getD 155 + 100)
  blockHash block := .replicate 32 (block.header.headD 1)
  checkMerkleRoot _ := true
  checkWitnessCommitment _ := true
  genesisHash _ := .replicate 32 99
  p2wshSignatureHash _ _ _ _ _ := some (.replicate 32 77)
  signatureFromDer bytes := if bytes = [0x30, 0x06] then some ⟨5, 6⟩ else none
  verifyEcdsa _ _ key := key = watchedReceiver

@[reducible] def watchCodec : Serde PersistedBitcoinHtlcWatch PersistedBitcoinHtlcWatch :=
  ⟨id, some, fun _ => rfl⟩

@[reducible] def watchLength : Encoded PersistedBitcoinHtlcWatch := ⟨fun _ => 1⟩

attribute [local instance] watchSha256 watchBitcoin watchBlocks watchCodec watchLength

def noWatches : WalletStore PersistedBitcoinHtlcWatch where
  unlocked := true
  workflows := ∅
  entities := ∅
  secrets := ∅

def watchCheckpoint (height : UInt32) (hash : UInt8) : BitcoinCheckpoint :=
  ⟨height, .replicate 32 hash⟩

def watchedRow : PersistedBitcoinHtlcWatch :=
  newWatch .bitcoin watchedBinding ⟨watchedSession, watchedHtlc watchedHash, 50000, 2⟩
    ⟨watchedTerms⟩ (watchCheckpoint 99 199)

def neighbourRow : PersistedBitcoinHtlcWatch :=
  newWatch .bitcoin watchedBinding ⟨neighbourSession, watchedHtlc neighbourHash, 50000, 2⟩
    ⟨neighbourTerms⟩ (watchCheckpoint 99 199)

def watchedStore : WalletStore PersistedBitcoinHtlcWatch :=
  noWatches.putEntity .bitcoinSwapWatch (watchId watchedBinding watchedSession)
    ⟨1, watchedRow, 1700000000⟩

def watchedChain : CheckPoint :=
  ⟨watchCheckpoint 101 201, [watchCheckpoint 100 200, watchCheckpoint 99 199]⟩

def watchedBlocks : List MatchedSwapBlock :=
  [⟨100, ⟨[200], [lockFunding]⟩⟩, ⟨101, ⟨[201], [lockRedeem]⟩⟩]

def redeemedStore : WalletStore PersistedBitcoinHtlcWatch :=
  (reconcileBitcoinHtlcWatches watchedStore .bitcoin [0x61] watchedChain (watchCheckpoint 101 201)
    watchedBlocks 1700000100).1

set_option maxRecDepth 8000 in
theorem watchedBinding_eq : accountBinding .bitcoin [0x61] = .ok watchedBinding := rfl

set_option maxRecDepth 8000 in
theorem watchedStore_step : WatchStep watchedStore (.reconcile .bitcoin [0x61] watchedChain
    (watchCheckpoint 101 201) watchedBlocks 1700000100) redeemedStore := by
  refine ⟨fun sessionId loaded hloaded observation hmem => ?_, rfl⟩
  obtain ⟨⟨row, hlookup, hvalue⟩, -, -⟩ := loadBitcoinHtlcWatch_eq_some watchedBinding_eq hloaded
  have hrow : row = ⟨1, watchedRow, 1700000000⟩ := by
    by_cases hid : (EntityKind.bitcoinSwapWatch, watchId watchedBinding sessionId) =
        (EntityKind.bitcoinSwapWatch, watchId watchedBinding watchedSession)
    · rw [hid] at hlookup
      exact Option.some.inj (hlookup.symm.trans putEntity_lookup)
    · cases hlookup.symm.trans (putEntity_lookup_ne hid)
  subst hrow
  rw [← Option.some.inj hvalue] at hmem
  cases hmem

theorem redeemed_evidence_is_canonical : ∃ loaded,
    loadBitcoinHtlcWatch redeemedStore .bitcoin [0x61] watchedSession = .ok (some loaded) ∧
      loaded.persisted.observations.length = 2 ∧
      loaded.persisted.revealedPreimage = some (.replicate 32 5) ∧
      (∀ observation ∈ loaded.persisted.observations,
        watchedChain.get observation.blockHeight = some observation.blockHash ∧
        observation.blockHeight ≤ 101 ∧
        observation.confirmationCount.toNat = 101 - observation.blockHeight.toNat + 1) ∧
      ∀ preimage, loaded.persisted.revealedPreimage = some preimage →
        Sha256.digest preimage.toList = loaded.persisted.htlc.hashlock := by
  have hevidence := watch_evidence_stays_canonical watchedStore_step watchedBinding_eq
    watchedSession
  have hloads : ∃ loaded,
      loadBitcoinHtlcWatch redeemedStore .bitcoin [0x61] watchedSession = .ok (some loaded) ∧
        loaded.persisted.observations.length = 2 ∧
        loaded.persisted.revealedPreimage = some (.replicate 32 5) := by
    set_option maxRecDepth 8000 in exact ⟨_, rfl, rfl, rfl⟩
  obtain ⟨loaded, hloaded, hcount, hrevealed⟩ := hloads
  obtain ⟨hcanonical, -, hpreimage, -⟩ := hevidence.2.1 loaded hloaded
  exact ⟨loaded, hloaded, hcount, hrevealed, hcanonical, hpreimage⟩

end Sample

end HnsWallet
