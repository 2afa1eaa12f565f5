import HnsWallet.Bitcoin.Htlc
import HnsWallet.Bitcoin.TxGraph
import Mathlib.Data.List.Sort

/-! # The scan of the Bitcoin chain -/

namespace HnsWallet

open Lib

structure QueuedBitcoinBlock where
  height : UInt32
  swapMatch : Bool
deriving DecidableEq

structure IndexedFilter (H : Type) where
  hash : H
  height : UInt32
  contains : List UInt8 → Bool

def IndexedFilter.containsAny {H : Type} (filter : IndexedFilter H)
    (scripts : List (List UInt8)) : Bool :=
  scripts.any filter.contains

inductive BlockHeaderChanges (H : Type) where
  | connected (height : UInt32) (hash : H)
  | reorganized (accepted : List (UInt32 × H))
  | forkAdded

structure IncrementalRecoveryScan where
  coveredTipHeight : UInt32
  canonicalChainChanged : Bool
  newWalletScripts : List (List UInt8)

def IncrementalRecoveryScan.observeChainEvent {H : Type} (scan : IncrementalRecoveryScan)
    (event : BlockHeaderChanges H) : IncrementalRecoveryScan :=
  { scan with
    canonicalChainChanged := scan.canonicalChainChanged || (match event with
      | .reorganized _ => true
      | .connected height _ => height ≤ scan.coveredTipHeight
      | .forkAdded => false) }

def IncrementalRecoveryScan.scriptsForFilter (scan : IncrementalRecoveryScan) (height : UInt32)
    (allWalletScripts : List (List UInt8)) : List (List UInt8) × Bool :=
  if height ≤ scan.coveredTipHeight ∧ scan.canonicalChainChanged = false then
    (scan.newWalletScripts, false)
  else (allWalletScripts, true)

class CheckPoints (H C : Type) where
  insert : C → UInt32 → H → C

structure KyotoWalletSwapSubscriber (H C : Type) where
  queuedBlocks : List (H × QueuedBitcoinBlock)
  walletScripts : List (List UInt8)
  swapScripts : List (SessionId × List UInt8)
  chain : C
  graph : IndexedTxGraph H
  recoveryGapLimit : Option Nat
  recoveryScriptCount : Nat
  incrementalRecoveryScan : Option IncrementalRecoveryScan

structure MatchedBitcoinBlock (H : Type) where
  height : UInt32
  block : IndexedBlock H

structure KyotoWalletSwapUpdate (H C : Type) where
  txs : List BlockTransaction
  anchors : List (Bytes 32 × ConfirmationBlockTime H)
  lastActiveIndices : KeychainKind → Option Nat
  chain : C
  swapBlocks : List (MatchedBitcoinBlock H)

inductive ScanEvent (H : Type) where
  | indexedFilter (filter : IndexedFilter H)
  | chainUpdate (changes : BlockHeaderChanges H)
  | filtersSynced (tipHeight : UInt32) (unobserved : Except BitcoinWalletError (List (Bytes 32)))

structure Requester (H : Type) where
  requestBlock : H → Option (IndexedBlock H)
  rescan : Bool
  rescanFrom : UInt32 → Except String Unit

structure ScanPass (H C : Type) where
  subscriber : KyotoWalletSwapSubscriber H C
  swapBlocks : List (MatchedBitcoinBlock H)
  recoveryRescannedTxids : List (Bytes 32)

def maxRecoveryScriptIndex : Nat := 100000

def maxApprovedBroadcastRecoveryBlocks : Nat := 144

def approvedBroadcastRecoveryRescanHeight (tipHeight : UInt32) : UInt32 :=
  .ofNat (tipHeight.toNat - maxApprovedBroadcastRecoveryBlocks)

def extendedRecoveryScriptCount (lastUsedIndex : Option Nat) (currentScriptCount gapLimit : Nat) :
    Except BitcoinWalletError Nat :=
  match lastUsedIndex with
  | none => .ok currentScriptCount
  | some lastUsedIndex => do
    let required := lastUsedIndex + 1 + gapLimit
    refuseIf (UInt32.size ≤ required) .invalidRecoveryScriptIndex
    refuseIf (maxRecoveryScriptIndex < required) .invalidRecoveryScriptIndex
    return max currentScriptCount required

section Scan

variable {H C : Type}

section Filters

variable [DecidableEq H]

def queueBlock (queue : List (H × QueuedBitcoinBlock)) (hash : H) (height : UInt32)
    (swapMatch : Bool) : Except BitcoinWalletError (List (H × QueuedBitcoinBlock)) :=
  match queue.lookup hash with
  | some queued => do
    refuseIf (queued.height ≠ height) .invalidEvidence
    return queue.map fun (h, q) =>
      if h = hash then (h, { q with swapMatch := q.swapMatch || swapMatch }) else (h, q)
  | none => .ok ((hash, ⟨height, swapMatch⟩) :: queue)

def KyotoWalletSwapSubscriber.scriptsAt (s : KyotoWalletSwapSubscriber H C) (height : UInt32) :
    List (List UInt8) × Bool :=
  match s.incrementalRecoveryScan with
  | some scan => scan.scriptsForFilter height s.walletScripts
  | none => (s.walletScripts, true)

def onFilter (s : KyotoWalletSwapSubscriber H C) (filter : IndexedFilter H) :
    Except BitcoinWalletError (KyotoWalletSwapSubscriber H C) := do
  let walletMatch := filter.containsAny (s.scriptsAt filter.height).1
  let swapMatch := (s.scriptsAt filter.height).2 &&
    filter.containsAny (s.swapScripts.map Prod.snd)
  if walletMatch || swapMatch then
    let queue ← queueBlock s.queuedBlocks filter.hash filter.height swapMatch
    return { s with queuedBlocks := queue }
  else return s

end Filters

def applyChainEvent [CheckPoints H C] (s : KyotoWalletSwapSubscriber H C)
    (event : BlockHeaderChanges H) : KyotoWalletSwapSubscriber H C :=
  { s with
    incrementalRecoveryScan := s.incrementalRecoveryScan.map (·.observeChainEvent event)
    chain := match event with
      | .connected height hash => CheckPoints.insert s.chain height hash
      | .reorganized accepted =>
        accepted.foldl (fun chain header => CheckPoints.insert chain header.1 header.2) s.chain
      | .forkAdded => s.chain }

variable [Descriptors]

def walletScripts (index : KeychainTxOutIndex) (toIndex : Nat) : List (List UInt8) :=
  [KeychainKind.external, .internal].flatMap fun keychain =>
    (List.range (min ((index.lastRevealed keychain).getD 0 + toIndex) (UInt32.size - 1))).map
      (Descriptors.script keychain)

def walletScriptsToLookahead (index : KeychainTxOutIndex) : List (List UInt8) :=
  walletScripts index index.lookahead

def insertExactApprovedBroadcasts (graph : IndexedTxGraph H) (block : IndexedBlock H)
    (approved : List (Bytes 32)) : IndexedTxGraph H × List (Bytes 32) × Bool :=
  let matched := block.txdata.filter fun tx => approved.contains tx.txid
  (matched.foldl (fun graph tx => (graph.insertTx tx).insertAnchor tx.txid block.anchor) graph,
    approved.filter fun txid => !(matched.map (·.txid)).contains txid,
    !matched.isEmpty)

section Passes

variable [LinearOrder H] [CheckPoints H C]

def byHash (queue : List (H × QueuedBitcoinBlock)) : List (H × QueuedBitcoinBlock) :=
  queue.insertionSort fun a b => a.1 ≤ b.1

def fetchBlock (requester : Requester H) (queued : H × QueuedBitcoinBlock) :
    Except BitcoinWalletError (IndexedBlock H × Bool) := do
  let indexed ← okOr (requester.requestBlock queued.1) .kyotoNodeStopped
  refuseIf (indexed.height ≠ queued.2.height ∨ indexed.hash ≠ queued.1) .invalidEvidence
  return (indexed, queued.2.swapMatch)

def applyFetched (pass : ScanPass H C × List (Bytes 32)) (fetched : IndexedBlock H × Bool) :
    ScanPass H C × List (Bytes 32) :=
  let s := pass.1.subscriber
  let chain := CheckPoints.insert s.chain fetched.1.height fetched.1.hash
  let graph := s.graph.applyBlockRelevant fetched.1
  let (graph, unobserved, approvedBroadcastMatch) :=
    insertExactApprovedBroadcasts graph fetched.1 pass.2
  let swapBlocks := if fetched.2 || approvedBroadcastMatch then
      (pass.1.swapBlocks.filter fun b => b.block.hash ≠ fetched.1.hash) ++
        [⟨fetched.1.height, fetched.1⟩]
    else pass.1.swapBlocks
  ({ pass.1 with
      subscriber := { s with chain, graph }
      swapBlocks }, unobserved)

inductive ScanProgress (H C : Type) where
  | more (pass : ScanPass H C)
  | done (update : KyotoWalletSwapUpdate H C) (subscriber : KyotoWalletSwapSubscriber H C)

def finishUpdate (pass : ScanPass H C) : ScanProgress H C :=
  let s := pass.subscriber
  .done
    { txs := s.graph.txs
      anchors := s.graph.anchors
      lastActiveIndices := s.graph.index.lastUsedIndex
      chain := s.chain
      swapBlocks := pass.swapBlocks.insertionSort fun a b => a.block.hash ≤ b.block.hash }
    { s with
      walletScripts := s.walletScripts ++ walletScriptsToLookahead s.graph.index
      incrementalRecoveryScan := none
      graph := ⟨s.graph.index, [], []⟩ }

def extendRecovery (requester : Requester H) (tipHeight : UInt32) (pass : ScanPass H C) :
    Except BitcoinWalletError (ScanProgress H C) :=
  let s := pass.subscriber
  match s.recoveryGapLimit with
  | none => .ok (finishUpdate pass)
  | some gapLimit => do
    let lastUsed := ([KeychainKind.external, .internal].filterMap s.graph.index.lastUsedIndex).max?
    let required ← extendedRecoveryScriptCount lastUsed s.recoveryScriptCount gapLimit
    if s.recoveryScriptCount < required then
      let newWalletScripts := (walletScripts s.graph.index required).filter
        fun script => !s.walletScripts.contains script
      refuseIf (requester.rescan = false) .kyotoNodeStopped
      return .more { pass with subscriber := { s with
        recoveryScriptCount := required
        walletScripts := s.walletScripts ++ newWalletScripts
        incrementalRecoveryScan := some ⟨tipHeight, false, newWalletScripts⟩ } }
    else return finishUpdate pass

def ScanProgress.graph : ScanProgress H C → IndexedTxGraph H
  | .more pass => pass.subscriber.graph
  | .done update s => ⟨s.graph.index, update.txs, update.anchors⟩

omit [CheckPoints H C] in
theorem extendRecovery_graph {requester : Requester H} {tipHeight : UInt32} {pass : ScanPass H C}
    {progress : ScanProgress H C} (h : extendRecovery requester tipHeight pass = .ok progress) :
    progress.graph = pass.subscriber.graph := by
  simp only [extendRecovery] at h
  split at h
  · cases h
    rfl
  · obtain ⟨required, -, h⟩ := ok_bind_iff.1 h
    split at h
    · obtain ⟨_, -, hret⟩ := ok_bind_iff.1 h
      cases hret
      rfl
    · cases h
      rfl

def onSynced (requester : Requester H) (pass : ScanPass H C) (tipHeight : UInt32)
    (unobserved : Except BitcoinWalletError (List (Bytes 32))) :
    Except BitcoinWalletError (ScanProgress H C) := do
  let unobserved ← unobserved
  let fetched ← (byHash pass.subscriber.queuedBlocks).mapM (fetchBlock requester)
  let (pass, unobserved) := fetched.foldl applyFetched
    ({ pass with subscriber := { pass.subscriber with queuedBlocks := [] } }, unobserved)
  if unobserved.any fun txid => !pass.recoveryRescannedTxids.contains txid then
    (requester.rescanFrom (approvedBroadcastRecoveryRescanHeight tipHeight)).mapError .kyoto
    return .more { pass with
      recoveryRescannedTxids := pass.recoveryRescannedTxids ++ unobserved
      subscriber := { pass.subscriber with incrementalRecoveryScan := none } }
  else extendRecovery requester tipHeight pass

def onEvent (requester : Requester H) (pass : ScanPass H C) :
    ScanEvent H → Except BitcoinWalletError (ScanProgress H C)
  | .indexedFilter filter => do
    let s ← onFilter pass.subscriber filter
    return .more { pass with subscriber := s }
  | .chainUpdate changes =>
    .ok (.more { pass with subscriber := applyChainEvent pass.subscriber changes })
  | .filtersSynced tipHeight unobserved => onSynced requester pass tipHeight unobserved

def runUpdate (requester : Requester H) : List (ScanEvent H) → ScanPass H C →
    Except BitcoinWalletError (KyotoWalletSwapUpdate H C × KyotoWalletSwapSubscriber H C)
  | [], _ => .error .kyotoNodeStopped
  | event :: events, pass => do
    match ← onEvent requester pass event with
    | .more pass => runUpdate requester events pass
    | .done update s => return (update, s)

def KyotoWalletSwapSubscriber.update (requester : Requester H) (events : List (ScanEvent H))
    (s : KyotoWalletSwapSubscriber H C) :
    Except BitcoinWalletError (KyotoWalletSwapUpdate H C × KyotoWalletSwapSubscriber H C) :=
  runUpdate requester events ⟨s, [], []⟩

/-! ## What a pass does to the graph -/

variable {requester : Requester H} {pass pass' : ScanPass H C} {event : ScanEvent H}
  {progress : ScanProgress H C} {F : List (IndexedBlock H × Bool)} {block : IndexedBlock H}
  {before after : List (IndexedBlock H × Bool)}

def fetchedBlocks (requester : Requester H) (pass : ScanPass H C) :
    ScanEvent H → List (IndexedBlock H)
  | .filtersSynced _ _ =>
    match (byHash pass.subscriber.queuedBlocks).mapM (fetchBlock requester) with
    | .ok fetched => fetched.map Prod.fst
    | .error _ => []
  | _ => []

omit [Descriptors] in
theorem fetchBlock_eq_ok {queued : H × QueuedBitcoinBlock} {fetched : IndexedBlock H × Bool}
    (h : fetchBlock requester queued = .ok fetched) :
    requester.requestBlock queued.1 = some fetched.1 ∧ fetched.1.hash = queued.1 := by
  simp only [fetchBlock, ok_iff, not_or, not_not] at h
  obtain ⟨indexed, hrequest, _, ⟨-, hhash⟩, hret⟩ := h
  cases hret
  exact ⟨hrequest, hhash⟩

structure Downloaded (requester : Requester H) (F : List (IndexedBlock H × Bool)) : Prop where
  ordered : F.Pairwise fun a b => a.1.hash ≤ b.1.hash
  requested : ∀ f ∈ F, requester.requestBlock f.1.hash = some f.1

omit [Descriptors] in
theorem downloaded_of_mapM {queue : List (H × QueuedBitcoinBlock)}
    (h : (byHash queue).mapM (fetchBlock requester) = .ok F) : Downloaded requester F := by
  have hall := mapM_eq_ok.1 h
  have hhashes : F.map (fun f => f.1.hash) = (byHash queue).map Prod.fst := by
    clear h
    generalize byHash queue = sorted at hall
    induction hall with
    | nil => rfl
    | cons hf _ ih => rw [List.map_cons, List.map_cons, ih, (fetchBlock_eq_ok hf).2]
  constructor
  · have hsorted : ((byHash queue).map Prod.fst).Pairwise (· ≤ ·) :=
      List.pairwise_map.2 (List.pairwise_insertionSort (fun a b => a.1 ≤ b.1) queue)
    rw [← hhashes] at hsorted
    exact List.pairwise_map.1 hsorted
  · intro f hf
    obtain ⟨queued, -, hfetch⟩ := (mem_of_mapM_eq_ok h).1 hf
    obtain ⟨hrequest, hhash⟩ := fetchBlock_eq_ok hfetch
    rw [hhash]
    exact hrequest

omit [LinearOrder H] in
theorem insertExactApprovedBroadcasts_grows {graph : IndexedTxGraph H}
    {approved : List (Bytes 32)} :
    graph.Grows (insertExactApprovedBroadcasts graph block approved).1 := by
  show graph.Grows ((block.txdata.filter _).foldl _ graph)
  generalize block.txdata.filter _ = matched
  induction matched generalizing graph with
  | nil => exact .refl _
  | cons tx matched ih =>
    exact (IndexedTxGraph.insertTx_grows.trans IndexedTxGraph.insertAnchor_grows).trans ih

variable {acc : ScanPass H C × List (Bytes 32)} {f : IndexedBlock H × Bool}

theorem applyFetched_grows :
    (acc.1.subscriber.graph.applyBlockRelevant f.1).Grows
      (applyFetched acc f).1.subscriber.graph :=
  insertExactApprovedBroadcasts_grows

theorem foldl_applyFetched_grows (F : List (IndexedBlock H × Bool))
    (acc : ScanPass H C × List (Bytes 32)) :
    acc.1.subscriber.graph.Grows (F.foldl applyFetched acc).1.subscriber.graph := by
  induction F generalizing acc with
  | nil => exact .refl _
  | cons f F ih =>
    exact (IndexedTxGraph.applyBlockRelevant_grows.trans applyFetched_grows).trans (ih _)

theorem onEvent_graph (h : onEvent requester pass event = .ok progress) :
    ∃ F, ∃ acc : ScanPass H C × List (Bytes 32),
      acc.1.subscriber.graph = pass.subscriber.graph ∧ Downloaded requester F ∧
      fetchedBlocks requester pass event = F.map Prod.fst ∧
      progress.graph = (F.foldl applyFetched acc).1.subscriber.graph := by
  cases event with
  | indexedFilter filter =>
    obtain ⟨s, hs, hret⟩ := ok_bind_iff.1 h
    cases hret
    refine ⟨[], (pass, []), rfl, ⟨.nil, nofun⟩, rfl, ?_⟩
    simp only [onFilter] at hs
    split at hs
    · obtain ⟨queue, -, hret⟩ := ok_bind_iff.1 hs
      cases hret
      rfl
    · cases hs
      rfl
  | chainUpdate changes =>
    cases h
    exact ⟨[], (pass, []), rfl, ⟨.nil, nofun⟩, rfl, rfl⟩
  | filtersSynced tipHeight unobserved =>
    simp only [onEvent, onSynced, ok_iff] at h
    obtain ⟨unobserved, rfl, F, hF, h⟩ := h
    refine ⟨F, ({ pass with subscriber := { pass.subscriber with queuedBlocks := [] } },
      unobserved), rfl, downloaded_of_mapM hF, ?_, ?_⟩
    · rw [fetchedBlocks, hF]
    · split at h
      · obtain ⟨_, -, hret⟩ := ok_bind_iff.1 h
        cases hret
        rfl
      · exact extendRecovery_graph h

/-! ## Which transactions are found -/

def IndexedBlock.SpendsFrom (block parent : IndexedBlock H) : Prop :=
  ∃ tx ∈ block.txdata, ∃ spent ∈ parent.txdata, ∃ o ∈ tx.inputs, o.txid = spent.txid

/-- What makes a transaction the wallet's: it pays a script that the index knows, spends
an output that the index has, or spends what a scanned block pays to such a script. -/
def Concerns (index : KeychainTxOutIndex) (scanned : List (IndexedBlock H))
    (tx : BlockTransaction) : Prop :=
  (∃ vout script, tx.Pays vout script ∧ index.recognises script = true) ∨
  (∃ o ∈ tx.inputs, index.contains o = true) ∨
  ∃ parent ∈ scanned, ∃ spent ∈ parent.txdata, ∃ vout script, spent.Pays vout script ∧
    index.recognises script = true ∧ ⟨spent.txid, vout⟩ ∈ tx.inputs

/-- The transactions that concern the wallet are in the graph, under their blocks. -/
structure Complete (requester : Requester H) (index : KeychainTxOutIndex)
    (scanned : List (IndexedBlock H)) (graph : IndexedTxGraph H) : Prop where
  grows : index.Grows graph.index
  requested : ∀ block ∈ scanned, requester.requestBlock block.hash = some block
  outputs : ∀ block ∈ scanned, ∀ tx ∈ block.txdata, ∀ vout script, tx.Pays vout script →
    index.recognises script = true → graph.index.contains ⟨tx.txid, vout⟩ = true
  found : ∀ block ∈ scanned, ∀ tx ∈ block.txdata, Concerns index scanned tx →
    graph.Keeps tx block.anchor

def SpendersLast (seen fetched : List (IndexedBlock H)) : Prop :=
  ∀ parent ∈ fetched, ∀ block ∈ seen ++ fetched, block.SpendsFrom parent →
    block.hash ≠ parent.hash → block ∈ fetched ∧ parent.hash < block.hash

variable {index : KeychainTxOutIndex} {seen : List (IndexedBlock H)} {graph : IndexedTxGraph H}

theorem foldl_applyFetched_keeps {tx : BlockTransaction} (htx : tx ∈ f.1.txdata)
    (hparents : f.1.ParentsFirst)
    (hgrows : index.Grows (before.foldl applyFetched acc).1.subscriber.graph.index)
    (h : (∃ vout script, tx.Pays vout script ∧ index.recognises script = true) ∨
      (∃ o ∈ tx.inputs, (before.foldl applyFetched acc).1.subscriber.graph.index.contains
        o = true) ∨
      ∃ spent ∈ f.1.txdata, ∃ vout script, spent.Pays vout script ∧
        index.recognises script = true ∧ ⟨spent.txid, vout⟩ ∈ tx.inputs) :
    ((before ++ f :: after).foldl applyFetched acc).1.subscriber.graph.Keeps tx f.1.anchor := by
  rw [List.foldl_append, List.foldl_cons]
  refine IndexedTxGraph.Keeps.mono ?_ (foldl_applyFetched_grows _ _)
  refine IndexedTxGraph.Keeps.mono ?_ applyFetched_grows
  refine IndexedTxGraph.applyBlockRelevant_keeps htx hparents ?_
  rcases h with ⟨vout, script, hpays, hs⟩ | hspends |
    ⟨spent, hspent, vout, script, hpays, hs, ho⟩
  · exact .inl ⟨vout, script, hpays, hgrows.recognises hs⟩
  · exact .inr (.inl hspends)
  · exact .inr (.inr ⟨spent, hspent, vout, script, hpays, hgrows.recognises hs, ho⟩)

theorem foldl_applyFetched_contains {tx : BlockTransaction}
    {vout : Nat} {script : List UInt8} (hf : f ∈ F) (htx : tx ∈ f.1.txdata)
    (hpays : tx.Pays vout script) (hs : acc.1.subscriber.graph.index.recognises script = true) :
    (F.foldl applyFetched acc).1.subscriber.graph.index.contains ⟨tx.txid, vout⟩ = true := by
  obtain ⟨before, after, rfl⟩ := List.append_of_mem hf
  have hbefore := foldl_applyFetched_grows before acc
  rw [List.foldl_append, List.foldl_cons]
  refine (foldl_applyFetched_grows _ _).index.contains _ ?_
  refine applyFetched_grows.index.contains _ ?_
  exact IndexedTxGraph.applyBlockRelevant_contains htx hpays (hbefore.index.recognises hs)

omit [Descriptors] in
theorem Downloaded.mem_before (hF : Downloaded requester (before ++ f :: after))
    {g : IndexedBlock H × Bool} (hg : g ∈ before ++ f :: after) (hlt : g.1.hash < f.1.hash) :
    g ∈ before := by
  rcases List.mem_append.1 hg with hbefore | htail
  · exact hbefore
  · rcases List.mem_cons.1 htail with rfl | hafter
    · exact absurd hlt (lt_irrefl _)
    · have hordered := (List.pairwise_append.1 hF.ordered).2.1
      exact absurd hlt ((List.pairwise_cons.1 hordered).1 g hafter).not_gt

theorem Complete.download (h : Complete requester index seen acc.1.subscriber.graph)
    (hF : Downloaded requester F)
    (hparents : ∀ hash block, requester.requestBlock hash = some block → block.ParentsFirst)
    (hlast : SpendersLast seen (F.map Prod.fst)) :
    Complete requester index (seen ++ F.map Prod.fst)
      (F.foldl applyFetched acc).1.subscriber.graph := by
  have hgrows := foldl_applyFetched_grows F acc
  have hrequested : ∀ block ∈ seen ++ F.map Prod.fst,
      requester.requestBlock block.hash = some block := by
    intro block hblock
    rcases List.mem_append.1 hblock with hseen | hfetched
    · exact h.requested block hseen
    · obtain ⟨f, hf, rfl⟩ := List.mem_map.1 hfetched
      exact hF.requested f hf
  refine ⟨h.grows.trans hgrows.index, hrequested, ?outputs, ?found⟩
  case outputs =>
    intro block hblock tx htx vout script hpays hs
    rcases List.mem_append.1 hblock with hseen | hfetched
    · exact hgrows.index.contains _ (h.outputs block hseen tx htx vout script hpays hs)
    · obtain ⟨f, hf, rfl⟩ := List.mem_map.1 hfetched
      exact foldl_applyFetched_contains hf htx hpays (h.grows.recognises hs)
  case found =>
    -- A block of this pass is applied after everything seen before and after its parents.
    have hfetchedFound : ∀ f ∈ F, ∀ tx ∈ f.1.txdata, Concerns index (seen ++ F.map Prod.fst) tx →
        (F.foldl applyFetched acc).1.subscriber.graph.Keeps tx f.1.anchor := by
      intro f hf tx htx hconcerns
      obtain ⟨before, after, rfl⟩ := List.append_of_mem hf
      have hbefore := foldl_applyFetched_grows before acc
      refine foldl_applyFetched_keeps htx (hparents _ _ (hF.requested f hf))
        (h.grows.trans hbefore.index) ?_
      rcases hconcerns with hpays | ⟨o, ho, hin⟩ |
        ⟨parent, hparent, spent, hspent, vout, script, hpays, hs, ho⟩
      · exact .inl hpays
      · exact .inr (.inl ⟨o, ho, (h.grows.trans hbefore.index).contains o hin⟩)
      · by_cases hhash : f.1.hash = parent.hash
        · have hsame : f.1 = parent := by
            have := hrequested parent hparent
            rw [← hhash, hF.requested f hf] at this
            exact Option.some.inj this
          exact .inr (.inr ⟨spent, hsame ▸ hspent, vout, script, hpays, hs, ho⟩)
        · refine .inr (.inl ⟨_, ho, ?_⟩)
          rcases List.mem_append.1 hparent with hseen | hnew
          · exact hbefore.index.contains _ (h.outputs parent hseen spent hspent _ _ hpays hs)
          · have hspends : f.1.SpendsFrom parent := ⟨tx, htx, spent, hspent, _, ho, rfl⟩
            have hlt := (hlast parent hnew f.1 (List.mem_append_right _
              (List.mem_map_of_mem hf)) hspends hhash).2
            obtain ⟨g, hg, rfl⟩ := List.mem_map.1 hnew
            exact foldl_applyFetched_contains (hF.mem_before hg hlt) hspent hpays
              (h.grows.recognises hs)
    intro block hblock tx htx hconcerns
    rcases List.mem_append.1 hblock with hseen | hfetched
    · by_cases hold : Concerns index seen tx
      · exact (h.found block hseen tx htx hold).mono hgrows
      · -- It spends from a block of this pass, so it is of this pass too.
        obtain ⟨parent, hparent, spent, hspent, vout, script, hpays, hs, ho⟩ :
            ∃ parent ∈ F.map Prod.fst, ∃ spent ∈ parent.txdata, ∃ vout script,
              spent.Pays vout script ∧ index.recognises script = true ∧
                ⟨spent.txid, vout⟩ ∈ tx.inputs := by
          rcases hconcerns with hpays | hspends | ⟨parent, hparent, hrest⟩
          · exact absurd (.inl hpays) hold
          · exact absurd (.inr (.inl hspends)) hold
          · rcases List.mem_append.1 hparent with hseen' | hnew
            · exact absurd (.inr (.inr ⟨parent, hseen', hrest⟩)) hold
            · exact ⟨parent, hnew, hrest⟩
        have hblockFetched : block ∈ F.map Prod.fst := by
          by_cases hhash : block.hash = parent.hash
          · have := hrequested parent (List.mem_append_right _ hparent)
            rw [← hhash, h.requested block hseen] at this
            rw [Option.some.inj this]
            exact hparent
          · exact (hlast parent hparent block hblock ⟨tx, htx, spent, hspent, _, ho, rfl⟩ hhash).1
        obtain ⟨f, hf, rfl⟩ := List.mem_map.1 hblockFetched
        exact hfetchedFound f hf tx htx hconcerns
    · obtain ⟨f, hf, rfl⟩ := List.mem_map.1 hfetched
      exact hfetchedFound f hf tx htx hconcerns

def scannedBlocks (requester : Requester H) : List (ScanEvent H) → ScanPass H C →
    List (IndexedBlock H)
  | [], _ => []
  | event :: events, pass =>
    fetchedBlocks requester pass event ++ match onEvent requester pass event with
      | .ok (.more pass') => scannedBlocks requester events pass'
      | _ => []

def HashesRespectSpends (requester : Requester H) : List (ScanEvent H) → ScanPass H C →
    List (IndexedBlock H) → Prop
  | [], _, _ => True
  | event :: events, pass, seen =>
    SpendersLast seen (fetchedBlocks requester pass event) ∧
      match onEvent requester pass event with
      | .ok (.more pass') =>
        HashesRespectSpends requester events pass' (seen ++ fetchedBlocks requester pass event)
      | _ => True

variable {events : List (ScanEvent H)} {update : KyotoWalletSwapUpdate H C}
  {s s' : KyotoWalletSwapSubscriber H C}

section

variable (h : Complete requester index seen pass.subscriber.graph)
  (hparents : ∀ hash block, requester.requestBlock hash = some block → block.ParentsFirst)
include h hparents

theorem Complete.step (hevent : onEvent requester pass event = .ok progress)
    (hlast : SpendersLast seen (fetchedBlocks requester pass event)) :
    Complete requester index (seen ++ fetchedBlocks requester pass event) progress.graph := by
  obtain ⟨F, acc, hacc, hF, hfetched, hgraph⟩ := onEvent_graph hevent
  rw [hfetched] at hlast ⊢
  rw [hgraph]
  rw [← hacc] at h
  exact h.download hF hparents hlast

theorem runUpdate_complete (hrespect : HashesRespectSpends requester events pass seen)
    (hrun : runUpdate requester events pass = .ok (update, s')) :
    Complete requester index (seen ++ scannedBlocks requester events pass)
      ⟨s'.graph.index, update.txs, update.anchors⟩ := by
  induction events generalizing pass seen with
  | nil => cases hrun
  | cons event events ih =>
    obtain ⟨progress, hevent, hrest⟩ := ok_bind_iff.1 hrun
    obtain ⟨hlast, hrespect⟩ := hrespect
    have hcomplete := h.step hparents hevent hlast
    rw [scannedBlocks, ← List.append_assoc]
    rw [hevent] at hrespect ⊢
    cases progress with
    | more pass' => exact ih hcomplete hrespect hrest
    | done update' s'' =>
      cases hrest
      rw [List.append_nil]
      exact hcomplete

end

end Passes

/-! ## Renamed hashes -/

/-- An injective renaming of the block hashes, with the checkpoints that go with it. -/
structure HashRenaming (H C H' C' : Type) [CheckPoints H C] [CheckPoints H' C'] where
  hash : H → H'
  chain : C → C'
  injective : Function.Injective hash
  chain_insert : ∀ c height h,
    chain (CheckPoints.insert c height h) = CheckPoints.insert (chain c) height (hash h)

variable {H' : Type}

def IndexedBlock.rename (f : H → H') (block : IndexedBlock H) : IndexedBlock H' :=
  ⟨f block.hash, block.height, block.time, block.txdata⟩

def ConfirmationBlockTime.rename (f : H → H') (anchor : ConfirmationBlockTime H) :
    ConfirmationBlockTime H' :=
  ⟨f anchor.hash, anchor.height, anchor.confirmationTime⟩

def IndexedTxGraph.rename (f : H → H') (graph : IndexedTxGraph H) : IndexedTxGraph H' :=
  ⟨graph.index, graph.txs, graph.anchors.map (Prod.map id (·.rename f))⟩

def MatchedBitcoinBlock.rename (f : H → H') (matched : MatchedBitcoinBlock H) :
    MatchedBitcoinBlock H' :=
  ⟨matched.height, matched.block.rename f⟩

theorem IndexedTxGraph.applyBlockRelevant_rename (f : H → H') (graph : IndexedTxGraph H)
    (block : IndexedBlock H) :
    (graph.rename f).applyBlockRelevant (block.rename f) =
      (graph.applyBlockRelevant block).rename f := by
  rw [applyBlockRelevant, applyBlockRelevant]
  change block.txdata.foldl (applyTxRelevant (block.anchor.rename f)) _ = _
  generalize block.txdata = txs
  induction txs generalizing graph with
  | nil => rfl
  | cons tx txs ih =>
    rw [List.foldl_cons, List.foldl_cons, ← ih]
    congr 1
    by_cases hrelevant : (graph.index.indexTx tx).isTxRelevant tx <;>
      simp [applyTxRelevant, rename, hrelevant]

theorem insertExactApprovedBroadcasts_rename (f : H → H') (graph : IndexedTxGraph H)
    (block : IndexedBlock H) (approved : List (Bytes 32)) :
    insertExactApprovedBroadcasts (graph.rename f) (block.rename f) approved =
      ((insertExactApprovedBroadcasts graph block approved).1.rename f,
        (insertExactApprovedBroadcasts graph block approved).2) := by
  refine Prod.ext ?_ rfl
  change (block.txdata.filter _).foldl _ _ = IndexedTxGraph.rename f _
  change _ = IndexedTxGraph.rename f ((block.txdata.filter _).foldl _ _)
  generalize block.txdata.filter _ = matched
  induction matched generalizing graph with
  | nil => rfl
  | cons tx matched ih => exact ih ((graph.insertTx tx).insertAnchor tx.txid block.anchor)

variable [LinearOrder H] [CheckPoints H C]

namespace HashRenaming

variable {C' : Type} [LinearOrder H'] [CheckPoints H' C'] (f : HashRenaming H C H' C')

def subscriber (s : KyotoWalletSwapSubscriber H C) : KyotoWalletSwapSubscriber H' C' :=
  { s with
    queuedBlocks := s.queuedBlocks.map (Prod.map f.hash id)
    chain := f.chain s.chain
    graph := s.graph.rename f.hash }

def pass (pass : ScanPass H C) : ScanPass H' C' :=
  { pass with
    subscriber := f.subscriber pass.subscriber
    swapBlocks := pass.swapBlocks.map (·.rename f.hash) }

def event : ScanEvent H → ScanEvent H'
  | .indexedFilter filter => .indexedFilter ⟨f.hash filter.hash, filter.height, filter.contains⟩
  | .chainUpdate (.connected height hash) => .chainUpdate (.connected height (f.hash hash))
  | .chainUpdate (.reorganized accepted) =>
    .chainUpdate (.reorganized (accepted.map (Prod.map id f.hash)))
  | .chainUpdate .forkAdded => .chainUpdate .forkAdded
  | .filtersSynced tipHeight unobserved => .filtersSynced tipHeight unobserved

/-- The second node serves the renamed blocks. -/
structure Serves (requester : Requester H) (requester' : Requester H') : Prop where
  block : ∀ hash, requester'.requestBlock (f.hash hash) =
    (requester.requestBlock hash).map (·.rename f.hash)
  rescan : requester'.rescan = requester.rescan
  rescanFrom : requester'.rescanFrom = requester.rescanFrom

/-- The outcomes of the two scans agree up to the names of the blocks. -/
structure Agrees (update : KyotoWalletSwapUpdate H C) (update' : KyotoWalletSwapUpdate H' C') :
    Prop where
  txs : update'.txs = update.txs
  anchors : update'.anchors = update.anchors.map (Prod.map id (·.rename f.hash))
  lastActiveIndices : update'.lastActiveIndices = update.lastActiveIndices
  chain : update'.chain = f.chain update.chain
  swapBlocks : update'.swapBlocks.Perm (update.swapBlocks.map (·.rename f.hash))

/-- The renaming keeps the order in which the pass that ends here applies its blocks. -/
def KeepsOrder (pass : ScanPass H C) (event : ScanEvent H) : Prop :=
  ∀ tipHeight unobserved, event = .filtersSynced tipHeight unobserved →
    ∀ a ∈ pass.subscriber.queuedBlocks, ∀ b ∈ pass.subscriber.queuedBlocks,
      a.1 ≤ b.1 ↔ f.hash a.1 ≤ f.hash b.1

def KeepsOrders (requester : Requester H) : List (ScanEvent H) → ScanPass H C → Prop
  | [], _ => True
  | event :: events, pass => f.KeepsOrder pass event ∧
      match onEvent requester pass event with
      | .ok (.more pass') => KeepsOrders requester events pass'
      | _ => True

inductive Progress : ScanProgress H C → ScanProgress H' C' → Prop where
  | more (pass : ScanPass H C) : Progress (.more pass) (.more (f.pass pass))
  | done {update : KyotoWalletSwapUpdate H C} {update' : KyotoWalletSwapUpdate H' C'}
      (s : KyotoWalletSwapSubscriber H C) (h : f.Agrees update update') :
      Progress (.done update s) (.done update' (f.subscriber s))

theorem applyFetched (acc : ScanPass H C × List (Bytes 32)) (fetched : IndexedBlock H × Bool) :
    HnsWallet.applyFetched (f.pass acc.1, acc.2) (fetched.1.rename f.hash, fetched.2) =
      (f.pass (HnsWallet.applyFetched acc fetched).1, (HnsWallet.applyFetched acc fetched).2) := by
  have happly := acc.1.subscriber.graph.applyBlockRelevant_rename f.hash fetched.1
  have hinsert := insertExactApprovedBroadcasts_rename f.hash
    (acc.1.subscriber.graph.applyBlockRelevant fetched.1) fetched.1 acc.2
  have hhash : (fetched.1.rename f.hash).hash = f.hash fetched.1.hash := rfl
  have hheight : (fetched.1.rename f.hash).height = fetched.1.height := rfl
  simp only [HnsWallet.applyFetched, pass, subscriber, happly, hinsert, hhash, hheight,
    f.chain_insert]
  split <;> simp [List.filter_map, Function.comp_def, MatchedBitcoinBlock.rename,
    IndexedBlock.rename, f.injective.eq_iff]

theorem foldl_applyFetched (F : List (IndexedBlock H × Bool))
    (acc : ScanPass H C × List (Bytes 32)) :
    (F.map fun fetched => (fetched.1.rename f.hash, fetched.2)).foldl HnsWallet.applyFetched
        (f.pass acc.1, acc.2) =
      (f.pass (F.foldl HnsWallet.applyFetched acc).1,
        (F.foldl HnsWallet.applyFetched acc).2) := by
  induction F generalizing acc with
  | nil => rfl
  | cons fetched F ih => rw [List.map_cons, List.foldl_cons, List.foldl_cons, applyFetched, ih]

section

variable {f} {requester : Requester H} {requester' : Requester H'} {p : ScanPass H C}
  {e : ScanEvent H} {progress : ScanProgress H C} {F : List (IndexedBlock H × Bool)}

omit [Descriptors] in
theorem Serves.fetch (h : f.Serves requester requester') {queue : List (H × QueuedBitcoinBlock)}
    (hF : queue.mapM (fetchBlock requester) = .ok F) :
    (queue.map (Prod.map f.hash id)).mapM (fetchBlock requester') =
      .ok (F.map fun fetched => (fetched.1.rename f.hash, fetched.2)) := by
  rw [mapM_eq_ok] at hF ⊢
  rw [List.forall₂_map_left_iff, List.forall₂_map_right_iff]
  refine hF.imp fun queued fetched hfetch => ?_
  simp only [fetchBlock, ok_iff, not_or, not_not] at hfetch ⊢
  obtain ⟨indexed, hblock, _, ⟨hheight, hhash⟩, hret⟩ := hfetch
  cases hret
  exact ⟨_, by rw [Prod.map_fst, h.block, hblock]; rfl, (), ⟨hheight, congrArg f.hash hhash⟩, rfl⟩

omit [Descriptors] in
theorem byHash_map {queue : List (H × QueuedBitcoinBlock)}
    (h : ∀ a ∈ queue, ∀ b ∈ queue, a.1 ≤ b.1 ↔ f.hash a.1 ≤ f.hash b.1) :
    byHash (queue.map (Prod.map f.hash id)) = (byHash queue).map (Prod.map f.hash id) :=
  (List.map_insertionSort (fun a b : H × QueuedBitcoinBlock => a.1 ≤ b.1)
    (fun a b : H' × QueuedBitcoinBlock => a.1 ≤ b.1) (Prod.map f.hash id) queue h).symm

theorem finishUpdate (p : ScanPass H C) :
    f.Progress (HnsWallet.finishUpdate p) (HnsWallet.finishUpdate (f.pass p)) := by
  refine .done _ ⟨rfl, rfl, rfl, rfl, ?_⟩
  exact (List.perm_insertionSort _ _).trans ((List.perm_insertionSort _ _).map _).symm

theorem Serves.extendRecovery (h : f.Serves requester requester') {tipHeight : UInt32}
    (hextend : HnsWallet.extendRecovery requester tipHeight p = .ok progress) :
    ∃ progress', HnsWallet.extendRecovery requester' tipHeight (f.pass p) = .ok progress' ∧
      f.Progress progress progress' := by
  simp only [HnsWallet.extendRecovery] at hextend
  cases hlimit : p.subscriber.recoveryGapLimit with
  | none =>
    have hlimit' : (f.pass p).subscriber.recoveryGapLimit = none := hlimit
    rw [hlimit] at hextend
    cases hextend
    simp only [HnsWallet.extendRecovery, hlimit']
    exact ⟨_, rfl, finishUpdate p⟩
  | some gapLimit =>
    have hlimit' : (f.pass p).subscriber.recoveryGapLimit = some gapLimit := hlimit
    rw [hlimit] at hextend
    simp only [HnsWallet.extendRecovery, hlimit']
    obtain ⟨required, hrequired, hextend⟩ := ok_bind_iff.1 hextend
    split at hextend
    next hless =>
      obtain ⟨_, hrescan, hret⟩ := ok_bind_iff.1 hextend
      cases hret
      exact ⟨_, ok_bind_iff.2 ⟨required, hrequired, (if_pos hless).trans
        (ok_bind_iff.2 ⟨(), by rw [h.rescan]; exact hrescan, rfl⟩)⟩, .more _⟩
    next hless =>
      cases hextend
      exact ⟨_, ok_bind_iff.2 ⟨required, hrequired, if_neg hless⟩, finishUpdate p⟩

omit [Descriptors] in
theorem queueBlock_map {queue queue' : List (H × QueuedBitcoinBlock)} {hash : H}
    {height : UInt32} {swapMatch : Bool}
    (h : queueBlock queue hash height swapMatch = .ok queue') :
    queueBlock (queue.map (Prod.map f.hash id)) (f.hash hash) height swapMatch =
      .ok (queue'.map (Prod.map f.hash id)) := by
  have hlookup : (queue.map (Prod.map f.hash id)).lookup (f.hash hash) = queue.lookup hash := by
    clear h
    induction queue with
    | nil => rfl
    | cons head queue ih =>
      have hsame : (f.hash hash == f.hash head.1) = (hash == head.1) := by
        rw [Bool.eq_iff_iff]
        simp [f.injective.eq_iff]
      rw [List.map_cons, Prod.map_apply', List.lookup_cons, List.lookup_cons, ih, hsame]
      rfl
  unfold queueBlock at h ⊢
  rw [hlookup]
  split at h
  next queued _ =>
    simp only [ok_iff] at h
    obtain ⟨_, hheight, hret⟩ := h
    cases hret
    simp only [ok_iff]
    refine ⟨(), hheight, ?_⟩
    simp only [List.map_map]
    congr 1
    refine List.map_congr_left fun entry _ => ?_
    by_cases hsame : entry.1 = hash <;> simp [hsame, f.injective.eq_iff]
  next =>
    cases h
    rfl

theorem Serves.onEvent (h : f.Serves requester requester') (horder : f.KeepsOrder p e)
    (hevent : HnsWallet.onEvent requester p e = .ok progress) :
    ∃ progress', HnsWallet.onEvent requester' (f.pass p) (f.event e) = .ok progress' ∧
      f.Progress progress progress' := by
  cases e with
  | indexedFilter filter =>
    obtain ⟨s, hs, hret⟩ := ok_bind_iff.1 hevent
    cases hret
    refine ⟨_, ok_bind_iff.2 ⟨f.subscriber s, ?_, rfl⟩, .more _⟩
    simp only [onFilter] at hs ⊢
    split at hs
    next hmatch =>
      obtain ⟨queue, hqueue, hret⟩ := ok_bind_iff.1 hs
      cases hret
      exact (if_pos hmatch).trans (ok_bind_iff.2 ⟨_, queueBlock_map hqueue, rfl⟩)
    next hmatch =>
      cases hs
      exact if_neg hmatch
  | chainUpdate changes =>
    cases hevent
    have hchain : ∀ (accepted : List (UInt32 × H)) (chain : C),
        f.chain (accepted.foldl (fun c header => CheckPoints.insert c header.1 header.2) chain) =
          (accepted.map (Prod.map id f.hash)).foldl
            (fun c header => CheckPoints.insert c header.1 header.2) (f.chain chain) := by
      intro accepted
      induction accepted with
      | nil => exact fun _ => rfl
      | cons header accepted ih =>
        intro chain
        rw [List.foldl_cons, ih, f.chain_insert]
        rfl
    refine ⟨.more (f.pass { p with subscriber := applyChainEvent p.subscriber changes }), ?_,
      .more _⟩
    cases changes <;>
      simp [HnsWallet.onEvent, event, pass, subscriber, applyChainEvent, hchain, f.chain_insert,
        IncrementalRecoveryScan.observeChainEvent]
  | filtersSynced tipHeight unobserved =>
    simp only [HnsWallet.onEvent, event, onSynced, ok_iff] at hevent ⊢
    obtain ⟨unobserved, rfl, F, hF, hevent⟩ := hevent
    have hqueue : byHash (f.pass p).subscriber.queuedBlocks =
        (byHash p.subscriber.queuedBlocks).map (Prod.map f.hash id) :=
      byHash_map (horder _ _ rfl)
    have hfetch := h.fetch hF
    rw [← hqueue] at hfetch
    have hfold := f.foldl_applyFetched F
      ({ p with subscriber := { p.subscriber with queuedBlocks := [] } }, unobserved)
    generalize hscanned : F.foldl HnsWallet.applyFetched
      ({ p with subscriber := { p.subscriber with queuedBlocks := [] } }, unobserved) = scanned
      at hevent hfold
    obtain ⟨p₁, left⟩ := scanned
    suffices hend : ∃ progress', (if left.any fun txid => !p₁.recoveryRescannedTxids.contains txid
        then (do
          (requester'.rescanFrom (approvedBroadcastRecoveryRescanHeight tipHeight)).mapError .kyoto
          return .more { f.pass p₁ with
            recoveryRescannedTxids := p₁.recoveryRescannedTxids ++ left
            subscriber := { (f.pass p₁).subscriber with incrementalRecoveryScan := none } })
        else HnsWallet.extendRecovery requester' tipHeight (f.pass p₁)) = .ok progress' ∧
          f.Progress progress progress' by
      obtain ⟨progress', hend, hprogress⟩ := hend
      refine ⟨progress', ⟨unobserved, rfl, _, hfetch, ?_⟩, hprogress⟩
      have hstart : ({ f.pass p with
          subscriber := { (f.pass p).subscriber with queuedBlocks := [] } } : ScanPass H' C') =
          f.pass { p with subscriber := { p.subscriber with queuedBlocks := [] } } := rfl
      rw [hstart, hfold]
      exact hend
    simp only at hevent
    split at hevent
    next hmissing =>
      obtain ⟨_, hrescan, hret⟩ := ok_bind_iff.1 hevent
      cases hret
      rw [if_pos hmissing]
      exact ⟨_, ok_bind_iff.2 ⟨(), by rw [h.rescanFrom]; exact hrescan, rfl⟩, .more _⟩
    next hmissing =>
      rw [if_neg hmissing]
      exact h.extendRecovery hevent

theorem Serves.runUpdate (h : f.Serves requester requester') {events : List (ScanEvent H)}
    {update : KyotoWalletSwapUpdate H C} {s : KyotoWalletSwapSubscriber H C}
    (horder : f.KeepsOrders requester events p)
    (hrun : HnsWallet.runUpdate requester events p = .ok (update, s)) :
    ∃ update', HnsWallet.runUpdate requester' (events.map f.event) (f.pass p) =
      .ok (update', f.subscriber s) ∧ f.Agrees update update' := by
  induction events generalizing p with
  | nil => cases hrun
  | cons event events ih =>
    obtain ⟨progress, hevent, hrest⟩ := ok_bind_iff.1 hrun
    obtain ⟨hfirst, horder⟩ := horder
    rw [hevent] at horder
    obtain ⟨progress', hevent', hprogress⟩ := h.onEvent hfirst hevent
    cases hprogress with
    | more pass =>
      obtain ⟨update', hrun', hagrees⟩ := ih horder hrest
      exact ⟨update', ok_bind_iff.2 ⟨_, hevent', hrun'⟩, hagrees⟩
    | done s hagrees =>
      cases hrest
      exact ⟨_, ok_bind_iff.2 ⟨_, hevent', rfl⟩, hagrees⟩

end

end HashRenaming

/-- The outputs of the wallet that no transaction of the update spends. -/
def KyotoWalletSwapUpdate.unspent (update : KyotoWalletSwapUpdate H C)
    (index : KeychainTxOutIndex) : List (OutputPlace × KeychainKind × Nat) :=
  index.txouts.filter fun entry => !update.txs.any (·.inputs.contains entry.1)

end Scan

namespace Sample

@[reducible] def descriptors : Descriptors where
  script
    | .external, i => [0, .ofNat i]
    | .internal, i => [1, .ofNat i]

@[reducible] def checkPoints : CheckPoints Nat (List (UInt32 × Nat)) where
  insert chain height hash := (height, hash) :: chain

attribute [local instance] descriptors checkPoints

def payment : BlockTransaction := ⟨.replicate 32 1, [], [[0, 0]]⟩

def spend : BlockTransaction := ⟨.replicate 32 2, [⟨.replicate 32 1, 0⟩], [[9]]⟩

def paymentBlock (hash : Nat) : IndexedBlock Nat := ⟨hash, 101, 1700000000, [payment]⟩

def spendBlock (hash : Nat) : IndexedBlock Nat := ⟨hash, 102, 1700000600, [spend]⟩

def node (a b : Nat) : Requester Nat where
  requestBlock hash :=
    if hash = a then some (paymentBlock a) else if hash = b then some (spendBlock b) else none
  rescan := true
  rescanFrom _ := .ok ()

def scanEvents (a b : Nat) : List (ScanEvent Nat) :=
  [.indexedFilter ⟨a, 101, (· == [0, 0])⟩, .indexedFilter ⟨b, 102, (· == [0, 0])⟩,
    .filtersSynced 102 (.ok [])]

def freshWallet : KyotoWalletSwapSubscriber Nat (List (UInt32 × Nat)) where
  queuedBlocks := []
  walletScripts := [[0, 0], [1, 0]]
  swapScripts := []
  chain := [(100, 0)]
  graph := ⟨⟨1, fun _ => none, []⟩, [], []⟩
  recoveryGapLimit := none
  recoveryScriptCount := 0
  incrementalRecoveryScan := none

theorem node_parentsFirst (a b : Nat) (hash : Nat) (block : IndexedBlock Nat)
    (h : (node a b).requestBlock hash = some block) : block.ParentsFirst := by
  have htxs : block.txdata = [payment] ∨ block.txdata = [spend] := by
    simp only [node] at h
    split at h
    · cases h
      exact .inl rfl
    · split at h
      · cases h
        exact .inr rfl
      · cases h
  intro before tx after hsplit o ho parent hparent hid
  rcases htxs with hpayment | hspend
  · rw [hpayment, List.singleton_eq_append_iff] at hsplit
    simp at hsplit
    obtain ⟨-, rfl, -⟩ := hsplit
    cases ho
  · rw [hspend] at hsplit hparent
    rw [List.singleton_eq_append_iff] at hsplit
    simp at hsplit
    obtain ⟨-, rfl, -⟩ := hsplit
    rw [List.mem_singleton.1 ho, List.mem_singleton.1 hparent] at hid
    exact absurd hid (by decide)

theorem spend_concerns (a b : Nat) :
    Concerns freshWallet.graph.index [paymentBlock a, spendBlock b] spend :=
  Or.inr (.inr ⟨paymentBlock a, List.mem_cons_self, payment, List.mem_cons_self, 0, [0, 0], rfl,
    rfl, List.mem_cons_self⟩)

def shifted : HashRenaming Nat (List (UInt32 × Nat)) Nat (List (UInt32 × Nat)) where
  hash := (· + 5)
  chain := List.map (Prod.map id (· + 5))
  injective _ _ := Nat.add_right_cancel
  chain_insert _ _ _ := rfl

end Sample

end HnsWallet
