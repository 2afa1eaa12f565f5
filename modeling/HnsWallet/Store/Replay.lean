import Mathlib.Data.List.Dedup
import Mathlib.Data.List.Induction
import HnsWallet.Store.AssociatedData

/-! # Replay protection -/

namespace HnsWallet

open Lib

def maxReplayRowsPerOrigin : Nat := 4096
def maxReplayOrigins : Nat := 4096
def maxReplayRows : Nat := 65536
def maxReplayLifetimeSeconds : UInt64 := 86400

inductive ReplayError where
  | invalidReplayWindow
  | replay
  | replayCapacity
  | replayGlobalCapacity
  | replayOriginCapacity
  | store (error : StoreError)
deriving DecidableEq, Repr

/-- A row of the table.  The origin is kept encrypted. -/
structure ReplayRow (Token : Type) where
  originToken : Token
  nonce : UInt64
  origin : String
  expiresAtUnix : UInt64
deriving DecidableEq

/-- A call of a connection, which may be locked. -/
structure ReplayCall where
  unlocked : Bool
  origin : String
  nonce : UInt64
  nowUnix : UInt64
  expiresAtUnix : UInt64

/-- The keyed hash of an origin under the key of the database. -/
class OriginLookup (Token : Type) where
  token : String → Token

open OriginLookup

variable {Token : Type} [DecidableEq Token] [OriginLookup Token]

def pruneExpiredReplay (rows : List (ReplayRow Token)) (nowUnix : UInt64) :
    Except ReplayError (List (ReplayRow Token)) := do
  refuseIf (maxReplayRows < rows.length) .replayGlobalCapacity
  refuseIf (∃ row ∈ rows, (validateOrigin row.origin).toOption = none ∨
    token row.origin ≠ row.originToken) (.store .encryption)
  return rows.filter (nowUnix < ·.expiresAtUnix)

def ReplayCall.row (call : ReplayCall) : ReplayRow Token :=
  ⟨token call.origin, call.nonce, call.origin, call.expiresAtUnix⟩

def consumeReplayNonce (rows : List (ReplayRow Token)) (call : ReplayCall) :
    Except ReplayError (List (ReplayRow Token)) := do
  (validateOrigin call.origin).mapError .store
  refuseIf (call.nonce = 0 ∨ call.expiresAtUnix ≤ call.nowUnix ∨
    maxReplayLifetimeSeconds < call.expiresAtUnix - call.nowUnix) .invalidReplayWindow
  refuseIf (call.unlocked = false) (.store .locked)
  let originToken : Token := token call.origin
  let rows ← pruneExpiredReplay rows call.nowUnix
  let count := rows.countP (·.originToken = originToken)
  refuseIf (maxReplayRowsPerOrigin ≤ count) .replayCapacity
  refuseIf (maxReplayRows ≤ rows.length) .replayGlobalCapacity
  refuseIf (count = 0 ∧ maxReplayOrigins ≤ (rows.map (·.originToken)).dedup.length)
    .replayOriginCapacity
  -- the columns are signed words of 64 bits
  refuseIf (2 ^ 63 ≤ call.nonce.toNat ∨ 2 ^ 63 ≤ call.expiresAtUnix.toNat) (.store .sqlite)
  refuseIf (∃ row ∈ rows, row.originToken = originToken ∧ row.nonce = call.nonce) .replay
  return call.row :: rows

def ReplayCall.accepted (call : ReplayCall) (rows : List (ReplayRow Token)) : Prop :=
  ∃ rows', consumeReplayNonce rows call = .ok rows'

/-- A call that fails rolls its transaction back. -/
def commitReplay (rows : List (ReplayRow Token)) (call : ReplayCall) : List (ReplayRow Token) :=
  (consumeReplayNonce rows call).toOption.getD rows

/-- The table after the calls of any connections, in the order of their transactions. -/
def replayRows (Token : Type) [DecidableEq Token] [OriginLookup Token]
    (calls : List ReplayCall) : List (ReplayRow Token) :=
  calls.foldl commitReplay []

variable {rows rows' : List (ReplayRow Token)} {row : ReplayRow Token} {call : ReplayCall}

theorem consumeReplayNonce_eq_ok (h : consumeReplayNonce rows call = .ok rows') :
    ∃ kept, kept = rows.filter (call.nowUnix < ·.expiresAtUnix) ∧ rows' = call.row :: kept ∧
      kept.countP (·.originToken = token call.origin) < maxReplayRowsPerOrigin ∧
      kept.length < maxReplayRows ∧
      (kept.countP (·.originToken = token call.origin) = 0 →
        (kept.map (·.originToken)).dedup.length < maxReplayOrigins) ∧
      ∀ row ∈ kept, row.originToken = token call.origin → row.nonce ≠ call.nonce := by
  simp only [consumeReplayNonce, pruneExpiredReplay, ok_iff] at h
  obtain ⟨_, -, _, -, _, -, kept, ⟨_, -, _, -, hkept⟩, _, hcount, _, htotal, _, horigins, _, -, _,
    hnew, hret⟩ := h
  cases hkept
  cases hret
  refine ⟨_, rfl, rfl, by omega, by omega, fun hzero => ?_, fun row hrow htoken hnonce => ?_⟩
  · exact Nat.lt_of_not_le fun hle => horigins ⟨hzero, hle⟩
  · exact hnew ⟨row, hrow, htoken, hnonce⟩

theorem row_mem_commitReplay (h : call.accepted rows) : call.row ∈ commitReplay rows call := by
  obtain ⟨_, hok⟩ := h
  obtain ⟨_, -, rfl, -⟩ := consumeReplayNonce_eq_ok hok
  rw [commitReplay, hok]
  exact List.mem_cons_self

/-- A row goes only with a call that is accepted at or after its expiry. -/
theorem mem_commitReplay (call : ReplayCall) (hrow : row ∈ rows) :
    row ∈ commitReplay rows call ∨ call.accepted rows ∧ row.expiresAtUnix ≤ call.nowUnix := by
  rw [commitReplay]
  cases h : consumeReplayNonce rows call with
  | error e => exact .inl hrow
  | ok rows' =>
    obtain ⟨_, rfl, rfl, -⟩ := consumeReplayNonce_eq_ok h
    by_cases hlive : call.nowUnix < row.expiresAtUnix
    · exact .inl (List.mem_cons_of_mem _ (List.mem_filter.2 ⟨hrow, by simpa using hlive⟩))
    · exact .inr ⟨⟨_, h⟩, by simpa using hlive⟩

theorem mem_foldl_commitReplay (calls : List ReplayCall) (hrow : row ∈ rows) :
    row ∈ calls.foldl commitReplay rows ∨
      ∃ before call after, calls = before ++ call :: after ∧
        call.accepted (before.foldl commitReplay rows) ∧ row.expiresAtUnix ≤ call.nowUnix := by
  induction calls generalizing rows with
  | nil => exact .inl hrow
  | cons call calls ih =>
    rcases mem_commitReplay call hrow with hkept | hgone
    · rcases ih hkept with hmem | ⟨before, later, after, rfl, haccepted, hlate⟩
      · exact .inl hmem
      · exact .inr ⟨call :: before, later, after, rfl, haccepted, hlate⟩
    · exact .inr ⟨[], call, calls, rfl, hgone⟩

theorem accepted_again {between : List ReplayCall} (hrow : row ∈ rows)
    (haccepted : call.accepted (between.foldl commitReplay rows))
    (htoken : row.originToken = token call.origin) (hnonce : row.nonce = call.nonce) :
    ∃ before later after, between ++ [call] = before ++ later :: after ∧
      later.accepted (before.foldl commitReplay rows) ∧ row.expiresAtUnix ≤ later.nowUnix := by
  rcases mem_foldl_commitReplay between hrow with hmem | ⟨before, later, after, rfl, hgone⟩
  · refine ⟨between, call, [], rfl, haccepted, UInt64.not_lt.1 fun hlive => ?_⟩
    obtain ⟨_, hok⟩ := haccepted
    obtain ⟨_, rfl, -, -, -, -, hnew⟩ := consumeReplayNonce_eq_ok hok
    exact hnew row (List.mem_filter.2 ⟨hmem, by simpa using hlive⟩) htoken hnonce
  · exact ⟨before, later, after ++ [call], by simp, hgone⟩

structure WithinReplayLimits (rows : List (ReplayRow Token)) : Prop where
  token : ∀ row ∈ rows, row.originToken = token row.origin
  perOrigin : ∀ token, rows.countP (·.originToken = token) ≤ maxReplayRowsPerOrigin
  origins : (rows.map (·.originToken)).dedup.length ≤ maxReplayOrigins
  total : rows.length ≤ maxReplayRows

namespace WithinReplayLimits

theorem filter (h : WithinReplayLimits rows) (p : ReplayRow Token → Bool) :
    WithinReplayLimits (rows.filter p) where
  token row hrow := h.token row (List.mem_of_mem_filter hrow)
  perOrigin token := le_trans List.filter_sublist.countP_le (h.perOrigin token)
  origins := by
    refine le_trans (List.subperm_of_subset (List.nodup_dedup _) fun token htoken => ?_).length_le
      h.origins
    rw [List.mem_dedup] at htoken ⊢
    exact (List.filter_sublist.map _).subset htoken
  total := le_trans (List.length_filter_le _ _) h.total

theorem commit (h : WithinReplayLimits rows) : WithinReplayLimits (commitReplay rows call) := by
  rw [commitReplay]
  cases hcall : consumeReplayNonce rows call with
  | error e => exact h
  | ok rows' =>
    obtain ⟨kept, hkept, rfl, hcount, htotal, horigins, -⟩ := consumeReplayNonce_eq_ok hcall
    have hlimits := h.filter (call.nowUnix < ·.expiresAtUnix)
    rw [← hkept] at hlimits
    rw [Except.toOption, Option.getD_some]
    refine ⟨List.forall_mem_cons.2 ⟨rfl, hlimits.token⟩, fun token => ?_, ?_, htotal⟩
    · rw [List.countP_cons]
      split
      next heq =>
        obtain rfl := of_decide_eq_true heq
        exact hcount
      next => exact hlimits.perOrigin token
    · rw [List.map_cons]
      by_cases hmem : call.row.originToken ∈ kept.map (·.originToken)
      · rw [List.dedup_cons_of_mem hmem]
        exact hlimits.origins
      · rw [List.dedup_cons_of_notMem hmem]
        refine horigins (List.countP_eq_zero.2 fun row hrow heq => hmem ?_)
        exact List.mem_map.2 ⟨row, hrow, of_decide_eq_true heq⟩

theorem run (calls : List ReplayCall) : WithinReplayLimits (replayRows Token calls) := by
  induction calls using List.reverseRecOn with
  | nil => exact ⟨by simp [replayRows], fun _ => Nat.zero_le _, Nat.zero_le _, Nat.zero_le _⟩
  | append_singleton calls call ih =>
    rw [replayRows, List.foldl_append]
    exact ih.commit

theorem ofOrigin (h : WithinReplayLimits rows) (origin : String) :
    rows.countP (·.origin = origin) ≤ maxReplayRowsPerOrigin := by
  refine le_trans (List.countP_mono_left fun row hrow heq => ?_)
    (h.perOrigin (OriginLookup.token origin))
  rw [decide_eq_true_eq] at heq ⊢
  rw [h.token row hrow, heq]

theorem distinctOrigins (h : WithinReplayLimits rows)
    (hinjective : Function.Injective (OriginLookup.token : String → Token)) :
    (rows.map (·.origin)).dedup.length ≤ maxReplayOrigins := by
  have htokens : rows.map (·.originToken) = (rows.map (·.origin)).map OriginLookup.token := by
    rw [List.map_map]
    exact List.map_congr_left h.token
  have := h.origins
  rwa [htokens, List.dedup_map_of_injective hinjective, List.length_map] at this

end WithinReplayLimits

/-- Between two acceptances of one nonce of an origin a call was accepted at or after the first
expiry; the limits hold, a row that has not expired stays, and an error changes nothing. -/
theorem replay_nonces_are_accepted_once (Token : Type) [DecidableEq Token] [OriginLookup Token] :
    (∀ before between (first second : ReplayCall), first.accepted (replayRows Token before) →
      second.accepted (replayRows Token (before ++ first :: between)) →
      first.origin = second.origin → first.nonce = second.nonce →
      ∃ earlier call later, between ++ [second] = earlier ++ call :: later ∧
        call.accepted (replayRows Token (before ++ first :: earlier)) ∧
        first.expiresAtUnix ≤ call.nowUnix) ∧
    (∀ calls, let rows := replayRows Token calls
      (∀ origin, rows.countP (·.origin = origin) ≤ maxReplayRowsPerOrigin) ∧
      (Function.Injective (token : String → Token) →
        (rows.map (·.origin)).dedup.length ≤ maxReplayOrigins) ∧
      rows.length ≤ maxReplayRows) ∧
    (∀ calls call, ∀ row ∈ replayRows Token calls, call.nowUnix < row.expiresAtUnix →
      row ∈ replayRows Token (calls ++ [call])) ∧
    ∀ calls call error, consumeReplayNonce (replayRows Token calls) call = .error error →
      replayRows Token (calls ++ [call]) = replayRows Token calls := by
  have happend : ∀ calls calls', replayRows Token (calls ++ calls') =
      calls'.foldl commitReplay (replayRows Token calls) := fun _ _ => List.foldl_append
  refine ⟨?_, fun calls => ?_, fun calls call row hrow hlive => ?_, fun calls call error h => ?_⟩
  · intro before between first second hfirst hsecond horigin hnonce
    simp only [happend, List.foldl_cons] at hsecond ⊢
    exact accepted_again (row_mem_commitReplay hfirst) hsecond (congrArg token horigin) hnonce
  · have h : WithinReplayLimits (replayRows Token calls) := .run calls
    exact ⟨h.ofOrigin, h.distinctOrigins, h.total⟩
  · rw [happend]
    exact (mem_commitReplay call hrow).resolve_right fun h => UInt64.not_lt.2 h.2 hlive
  · rw [happend, List.foldl_cons, List.foldl_nil, commitReplay, h]
    rfl

end HnsWallet
