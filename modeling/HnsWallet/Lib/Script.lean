import Mathlib.Data.Nat.Digits.Lemmas

/-! # Stack scripts -/

namespace Lib.Script

inductive Op where
  | push (bytes : List UInt8)
  | opIf
  | opElse
  | opEndIf
  | sha256
  | equalVerify
  | checkSig
  | checkLockTimeVerify
  | drop
deriving DecidableEq

/-- What a script sees of the transaction and of the hash function. -/
structure Env where
  sha256 : List UInt8 → List UInt8
  /-- Signature and key; an encoding that is refused ends the script. -/
  checkSig : List UInt8 → List UInt8 → Option Bool
  lockTime : UInt32
  sequence : UInt32
  /-- Which lock times are times and not heights; chains differ in this. -/
  isTime : UInt32 → Bool

/-- The stack, its top first, and the conditionals around the current place. -/
structure State where
  stack : List (List UInt8)
  conditions : List Bool
deriving DecidableEq

/-! ## Numbers and truth -/

/-- Zero and negative zero are false. -/
def castToBool (item : List UInt8) : Bool :=
  match item.getLast? with
  | none => false
  | some last => item.dropLast.any (· ≠ 0) || (last ≠ 0 && last ≠ 0x80)

def digitsValue (bytes : List UInt8) : Nat := Nat.ofDigits 256 (bytes.map UInt8.toNat)

/-- A signed number of any length, least significant byte first. -/
def signedValue (item : List UInt8) : Int :=
  match item.getLast? with
  | none => 0
  | some last =>
    if last < 0x80 then digitsValue item
    else -(digitsValue (item.dropLast ++ [last - 0x80]) : Int)

/-- A number in a script has at most five bytes. -/
def scriptNum (item : List UInt8) : Option Int :=
  if 5 < item.length then none else some (signedValue item)

/-- The shortest encoding of a number that is not negative. -/
def numBytes (value : Nat) : List UInt8 :=
  let digits := (Nat.digits 256 value).map UInt8.ofNat
  if (digits.getLast?.getD 0) < 0x80 then digits else digits ++ [0]

theorem digitsValue_digits (value : Nat) :
    digitsValue ((Nat.digits 256 value).map UInt8.ofNat) = value := by
  have hbytes : ((Nat.digits 256 value).map UInt8.ofNat).map UInt8.toNat =
    Nat.digits 256 value := by
    rw [List.map_map]
    refine (List.map_congr_left fun digit hdigit => ?_).trans (List.map_id _)
    have hlt : digit < 256 := Nat.digits_lt_base (by omega) hdigit
    exact UInt8.toNat_ofNat_of_lt' hlt
  rw [digitsValue, hbytes, Nat.ofDigits_digits]

theorem digitsValue_append_zero (bytes : List UInt8) :
    digitsValue (bytes ++ [0]) = digitsValue bytes := by
  simp [digitsValue, Nat.ofDigits_append]

theorem digitsValue_append (bytes : List UInt8) (last : UInt8) :
    digitsValue (bytes ++ [last]) = digitsValue bytes + 256 ^ bytes.length * last.toNat := by
  simp [digitsValue, Nat.ofDigits_append]

theorem digitsValue_lt (bytes : List UInt8) : digitsValue bytes < 256 ^ bytes.length := by
  rw [digitsValue, ← List.length_map (f := UInt8.toNat)]
  refine Nat.ofDigits_lt_base_pow_length (by decide) ?_
  simp only [List.mem_map]
  rintro _ ⟨byte, -, rfl⟩
  exact byte.toNat_lt

theorem signedValue_eq_natCast {item : List UInt8} {value : Nat} (hvalue : 0 < value)
    (h : signedValue item = value) : 2 * value < 256 ^ item.length := by
  rcases List.eq_nil_or_concat item with rfl | ⟨init, last, rfl⟩
  · simp [signedValue] at h
    omega
  · have hlt := digitsValue_lt init
    simp only [List.concat_eq_append, signedValue, List.getLast?_append, List.getLast?_singleton,
      Option.some_or] at h ⊢
    split at h
    next hlast =>
      have hdigits := digitsValue_append init last
      rw [UInt8.lt_iff_toNat_lt] at hlast
      have h128 : (0x80 : UInt8).toNat = 128 := rfl
      have htop : 256 ^ init.length * last.toNat ≤ 256 ^ init.length * 127 :=
        Nat.mul_le_mul_left _ (by omega)
      rw [List.length_append, List.length_singleton, Nat.pow_succ]
      omega
    next => omega

theorem signedValue_numBytes (value : Nat) : signedValue (numBytes value) = value := by
  have hvalue := digitsValue_digits value
  unfold numBytes
  generalize (Nat.digits 256 value).map UInt8.ofNat = digits at hvalue
  simp only
  split
  next hpositive =>
    unfold signedValue
    cases hlast : digits.getLast? with
    | none =>
      rw [List.getLast?_eq_none_iff.1 hlast] at hvalue
      simp [← hvalue, digitsValue]
    | some last =>
      rw [hlast, Option.getD_some] at hpositive
      simp only
      rw [if_pos hpositive, hvalue]
  next =>
    simp [signedValue, digitsValue_append_zero, hvalue]

theorem length_numBytes_le_succ (value : Nat) :
    (numBytes value).length ≤ (Nat.digits 256 value).length + 1 := by
  unfold numBytes
  simp only
  split <;> simp

theorem length_numBytes_le {item : List UInt8} {value : Nat} (h : signedValue item = value) :
    (numBytes value).length ≤ item.length := by
  rcases Nat.eq_zero_or_pos value with rfl | hpos
  · simp [numBytes]
  have hlt := signedValue_eq_natCast hpos h
  have hlength : (Nat.digits 256 value).length ≤ item.length :=
    (Nat.digits_length_le_iff (by decide) _).2 (by omega)
  have hvalue := digitsValue_digits value
  unfold numBytes
  rw [← List.length_map (f := UInt8.ofNat)] at hlength
  generalize (Nat.digits 256 value).map UInt8.ofNat = digits at hvalue hlength
  simp only
  split
  next => exact hlength
  next hlast =>
    -- a set top bit needs one byte more, and the number has it
    rcases List.eq_nil_or_concat digits with rfl | ⟨init, last, rfl⟩
    · exact absurd (by decide) hlast
    · rw [List.concat_eq_append] at hlast hvalue ⊢
      rw [List.getLast?_append, List.getLast?_singleton, Option.some_or, Option.getD_some,
        UInt8.lt_iff_toNat_lt] at hlast
      have htop : 256 ^ init.length * 128 ≤ 256 ^ init.length * last.toNat :=
        Nat.mul_le_mul_left _ (Nat.le_of_not_lt hlast)
      have hpow : 256 ^ (init ++ [last]).length < 256 ^ item.length := by
        rw [digitsValue_append] at hvalue
        rw [List.length_append, List.length_singleton, Nat.pow_succ]
        omega
      rw [List.length_append]
      exact (Nat.pow_lt_pow_iff_right (by decide)).1 hpow

theorem scriptNum_numBytes {value : Nat} (h : value < 4294967296) :
    scriptNum (numBytes value) = some (value : Int) := by
  have hlength : (Nat.digits 256 value).length ≤ 4 :=
    (Nat.digits_length_le_iff (by omega) _).2 (by simpa using h)
  have hsucc := length_numBytes_le_succ value
  rw [scriptNum, if_neg (by omega), signedValue_numBytes]

/-- A lock time of the same kind, reached, in an input that is not final. -/
def lockTimeReached (env : Env) (item : List UInt8) : Bool :=
  match scriptNum item with
  | none => false
  | some operand =>
    0 ≤ operand ∧ operand ≤ env.lockTime.toNat ∧
      env.isTime (.ofNat operand.toNat) = env.isTime env.lockTime ∧ env.sequence ≠ 0xffffffff

theorem lockTimeReached_numBytes {env : Env} {word : UInt32} :
    lockTimeReached env (numBytes word.toNat) ↔ word ≤ env.lockTime ∧
      env.isTime word = env.isTime env.lockTime ∧ env.sequence ≠ 0xffffffff := by
  rw [lockTimeReached, scriptNum_numBytes word.toNat_lt]
  simp [UInt32.le_iff_toNat_le]

def apply (env : Env) : Op → List (List UInt8) → Option (List (List UInt8))
  | .push bytes, stack => some (bytes :: stack)
  | .sha256, item :: rest => some (env.sha256 item :: rest)
  | .equalVerify, item :: item' :: rest => if item = item' then some rest else none
  | .checkSig, key :: signature :: rest =>
    (env.checkSig signature key).map fun valid => (if valid then [1] else []) :: rest
  | .checkLockTimeVerify, item :: rest =>
    if lockTimeReached env item then some (item :: rest) else none
  | .drop, _ :: rest => some rest
  | _, _ => none

def State.executing (s : State) : Bool := s.conditions.all id

def step (env : Env) (s : State) : Op → Option State
  | .opIf =>
    if s.executing then
      match s.stack with
      | item :: rest => some ⟨rest, castToBool item :: s.conditions⟩
      | [] => none
    else some ⟨s.stack, false :: s.conditions⟩
  | .opElse =>
    match s.conditions with
    | taken :: around => some ⟨s.stack, (!taken) :: around⟩
    | [] => none
  | .opEndIf =>
    match s.conditions with
    | _ :: around => some ⟨s.stack, around⟩
    | [] => none
  | op =>
    if s.executing then (apply env op s.stack).map fun stack => ⟨stack, s.conditions⟩
    else some s

def run (env : Env) (ops : List Op) (s : State) : Option State := ops.foldlM (step env) s

/-- The items satisfy the script: it ends with one true item and nothing else. -/
def accepts (env : Env) (ops : List Op) (items : List (List UInt8)) : Bool :=
  match run env ops ⟨items.reverse, []⟩ with
  | some ⟨[item], []⟩ => castToBool item
  | _ => false

theorem accepts_iff {env : Env} {ops : List Op} {items : List (List UInt8)} :
    accepts env ops items ↔
      ∃ item, run env ops ⟨items.reverse, []⟩ = some ⟨[item], []⟩ ∧ castToBool item := by
  unfold accepts
  split
  next item heq =>
    rw [heq]
    constructor
    · exact fun h => ⟨item, rfl, h⟩
    · rintro ⟨_, hsame, h⟩
      cases hsame
      exact h
  next hne =>
    constructor
    · exact fun h => by cases h
    · rintro ⟨item, hsome, -⟩
      exact absurd hsome (hne item)

theorem of_checkSig {env : Env} {key item : List UInt8} {stack : List (List UInt8)}
    (h : apply env .checkSig (key :: stack) = some [item]) (hitem : castToBool item) :
    ∃ signature, stack = [signature] ∧ env.checkSig signature key = some true := by
  rcases stack with _ | ⟨signature, rest⟩
  · cases h
  · simp only [apply, Option.map_eq_some_iff, List.cons.injEq] at h
    obtain ⟨valid, hvalid, rfl, rfl⟩ := h
    cases valid with
    | false => cases hitem
    | true => exact ⟨signature, rfl, hvalid⟩

/-- An operation that is not part of a conditional. -/
def Op.plain : Op → Bool
  | .opIf => false
  | .opElse => false
  | .opEndIf => false
  | _ => true

def applyAll (env : Env) (ops : List Op) (stack : List (List UInt8)) :
    Option (List (List UInt8)) :=
  ops.foldlM (fun stack op => apply env op stack) stack

variable {env : Env} {ops : List Op} {s : State}

theorem run_append (env : Env) (ops ops' : List Op) (s : State) :
    run env (ops ++ ops') s = (run env ops s).bind (run env ops') := by
  rw [run, List.foldlM_append]
  rfl

theorem step_plain {op : Op} (hop : op.plain) : step env s op =
    if s.executing then (apply env op s.stack).map fun stack => ⟨stack, s.conditions⟩
    else some s := by
  cases op <;> first | rfl | cases hop

theorem run_skipped (hops : ∀ op ∈ ops, op.plain) (hs : s.executing = false) :
    run env ops s = some s := by
  induction ops with
  | nil => rfl
  | cons op rest ih =>
    obtain ⟨hop, hrest⟩ := List.forall_mem_cons.1 hops
    rw [run, List.foldlM_cons, step_plain hop, hs]
    exact ih hrest

theorem run_taken (hops : ∀ op ∈ ops, op.plain) (hs : s.executing) :
    run env ops s = (applyAll env ops s.stack).map fun stack => ⟨stack, s.conditions⟩ := by
  induction ops generalizing s with
  | nil => rfl
  | cons op rest ih =>
    obtain ⟨hop, hrest⟩ := List.forall_mem_cons.1 hops
    rw [run, List.foldlM_cons, step_plain hop, if_pos hs, applyAll, List.foldlM_cons]
    cases happly : apply env op s.stack with
    | none => rfl
    | some stack => exact ih hrest hs

theorem run_ifElse {taken other : List Op} {selector : List UInt8} {stack : List (List UInt8)}
    (htaken : ∀ op ∈ taken, op.plain) (hother : ∀ op ∈ other, op.plain) :
    run env ([.opIf] ++ taken ++ [.opElse] ++ other ++ [.opEndIf]) ⟨selector :: stack, []⟩ =
      (applyAll env (if castToBool selector then taken else other) stack).map
        fun stack => ⟨stack, []⟩ := by
  rw [run_append, run_append, run_append, run_append]
  have hif : run env [.opIf] ⟨selector :: stack, []⟩ = some ⟨stack, [castToBool selector]⟩ := rfl
  rw [hif, Option.bind_some]
  cases hselector : castToBool selector with
  | true =>
    rw [run_taken htaken rfl, if_pos rfl]
    cases happly : applyAll env taken stack with
    | none => rfl
    | some after =>
      simp only [Option.map_some, Option.bind_some]
      have helse : run env [.opElse] ⟨after, [true]⟩ = some ⟨after, [false]⟩ := rfl
      rw [helse, Option.bind_some, run_skipped hother rfl]
      rfl
  | false =>
    rw [run_skipped htaken rfl, Option.bind_some]
    have helse : run env [.opElse] ⟨stack, [false]⟩ = some ⟨stack, [true]⟩ := rfl
    rw [helse, Option.bind_some, run_taken hother rfl]
    cases happly : applyAll env other stack with
    | none => simp [happly]
    | some after =>
      simp [happly]
      rfl

def Op.bytes : Op → List UInt8
  | .push data => .ofNat data.length :: data
  | .opIf => [0x63]
  | .opElse => [0x67]
  | .opEndIf => [0x68]
  | .sha256 => [0xa8]
  | .equalVerify => [0x88]
  | .checkSig => [0xac]
  | .checkLockTimeVerify => [0xb1]
  | .drop => [0x75]

/-- A number from 1 to 16 has an operation of its own that pushes it. -/
def opcode (byte : UInt8) : Option Op :=
  if 0x51 ≤ byte ∧ byte ≤ 0x60 then some (.push [byte - 0x50])
  else [Op.opIf, .opElse, .opEndIf, .sha256, .equalVerify, .checkSig, .checkLockTimeVerify,
    .drop].find? (·.bytes = [byte])

/-- The operations of a script.  A byte up to 75 pushes as many bytes as it says. -/
def parse : List UInt8 → Option (List Op)
  | [] => some []
  | byte :: rest =>
    if byte.toNat ≤ 75 then
      if rest.length < byte.toNat then none
      else (parse (rest.drop byte.toNat)).map (.push (rest.take byte.toNat) :: ·)
    else (opcode byte).bind fun op => (parse rest).map (op :: ·)
termination_by script => script.length

theorem parse_append {ops : List Op} (h : ∀ data, .push data ∈ ops → data.length ≤ 75)
    (rest : List UInt8) :
    parse (ops.flatMap Op.bytes ++ rest) = (parse rest).map (ops ++ ·) := by
  induction ops with
  | nil => simp
  | cons op ops ih =>
    have ih := ih fun data hdata => h data (List.mem_cons_of_mem _ hdata)
    rw [List.flatMap_cons, List.append_assoc]
    cases op with
    | push data =>
      have hshort := h data List.mem_cons_self
      have hlength : (UInt8.ofNat data.length).toNat = data.length :=
        Nat.mod_eq_of_lt (by omega)
      rw [Op.bytes, List.cons_append, parse, hlength, if_pos hshort, if_neg (by simp),
        List.drop_left, List.take_left, ih, Option.map_map]
      rfl
    | _ =>
      rw [Op.bytes, List.singleton_append, parse, if_neg (by decide), ih]
      cases parse rest <;> rfl

theorem parse_bytes {ops : List Op} (h : ∀ data, .push data ∈ ops → data.length ≤ 75) :
    parse (ops.flatMap Op.bytes) = some ops := by
  rw [← List.append_nil (ops.flatMap _), parse_append h, parse, Option.map_some, List.append_nil]

end Lib.Script
