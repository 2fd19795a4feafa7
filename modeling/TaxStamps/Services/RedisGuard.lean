import TaxStamps.Domain.Merkle
import TaxStamps.Library.Expiring

/-!
# The Redis guard

`redis_guard.py` and `nonce_key`. Redis is any store with its commands. A command is
executed at Redis's own clock, in milliseconds. Redis may not get it, or its answer may
be lost; both are an outage to the service, as is a service without Redis. Counters and
nonces are keys of one store.
-/

namespace TaxStamps.Guard

open Expiring Commands

/-- `RedisUnavailable`, a `ValueError` with its text, or an `UnicodeEncodeError`,
which is a `ValueError` too. -/
inductive Raised
  | redisUnavailable
  | valueError (text : PyStr)
  | unicodeEncodeError
deriving DecidableEq

/-- What becomes of a command: it is answered, never reaches Redis, or is executed without an
answer. -/
inductive Fate
  | answered | unsent | unanswered
deriving DecidableEq

/-- The time at which Redis meets a command, and what becomes of it. -/
structure Command where
  time : Nat
  fate : Fate

/-- Redis executes the command. -/
def Command.arrives (command : Command) : Bool := decide (command.fate ≠ .unsent)

/-- Sends a command to Redis. -/
def send {Redis α : Type} (command : Command) (effect : Redis → Redis × α) (redis : Redis) :
    Redis × Except Raised α :=
  match command.fate with
  | .answered => ((effect redis).1, .ok (effect redis).2)
  | .unsent => (redis, .error .redisUnavailable)
  | .unanswered => ((effect redis).1, .error .redisUnavailable)

variable {Redis : Type} [Commands PyStr Redis]

/-- The time to live of a nonce. -/
def nonceTtl : Nat := 300000

/-- What is raised for a nonce that was claimed before. -/
def replay : Raised := .valueError (py "nonce replay")

/-- `claim_nonce` with its default time to live. -/
def claimNonce (set : Command) (key : PyStr) (redis : Redis) : Redis × Except Raised Unit :=
  match send set (fun redis => claim redis set.time key nonceTtl) redis with
  | (redis, .error problem) => (redis, .error problem)
  | (redis, .ok claimed) => (redis, if claimed then .ok () else .error replay)

/-- What is raised for a count above the limit. -/
def rateExceeded : Raised := .valueError (py "rate limit exceeded")

/-- The key of a bucket's window. -/
def rateKey (bucket : PyStr) (clock : Nat) : PyStr :=
  py "taxstamps:rl:" ++ bucket ++ py ":" ++ PyStr.decimal (clock / 60)

/-- A count within the limit lets the call through. -/
def withinLimit (limit : Int) (count : Nat) : Except Raised Unit :=
  if limit < count then .error rateExceeded else .ok ()

/-- `rate_limit`, at the second `clock` of the service. -/
def rateLimit (bucket : PyStr) (limit : Int) (clock : Nat) (incr expire : Command) (redis : Redis) :
    Redis × Except Raised Unit :=
  match send incr (fun redis => increase redis incr.time (rateKey bucket clock)) redis with
  | (redis, .error problem) => (redis, .error problem)
  | (redis, .ok count) =>
    if count = 1 then
      match send expire (fun redis => Commands.expire redis expire.time (rateKey bucket clock) 90000) redis with
      | (redis, .error problem) => (redis, .error problem)
      | (redis, .ok _) => (redis, withinLimit limit count)
    else (redis, withinLimit limit count)

/-- `nonce_key`. -/
def nonceKey (env : Env) (verifierId nonce : PyStr) : Result PyStr := do
  let text ← Jcs.utf8 (verifierId ++ py ":" ++ nonce)
  .ok (py "taxstamps:nonce:" ++ Merkle.hex (env.sha256 text))

/-- A command to Redis changes only what its effect changes. -/
theorem send_other {α : Type} {command : Command} {effect : Redis → Redis × α} {redis : Redis}
    {key : PyStr} (untouched : kept (effect redis).1 key = kept redis key) :
    kept (send command effect redis).1 key = kept redis key := by
  unfold send
  split
  · exact untouched
  · rfl
  · exact untouched

/-- The rate limit writes the key of its window only. -/
theorem rateLimit_other {bucket : PyStr} {limit : Int} {clock : Nat} {incr expire : Command}
    {redis : Redis} {key : PyStr} (apart : key ≠ rateKey bucket clock) :
    kept (rateLimit bucket limit clock incr expire redis).1 key = kept redis key := by
  have counted : ∀ redis : Redis, kept (send incr
      (fun redis => increase redis incr.time (rateKey bucket clock)) redis).1 key = kept redis key :=
    fun redis => send_other (increase_other apart)
  have dated : ∀ redis : Redis, kept (send expire
      (fun redis => Commands.expire redis expire.time (rateKey bucket clock) 90000) redis).1 key = kept redis key :=
    fun redis => send_other (expire_other apart)
  have first := counted redis
  unfold rateLimit
  split
  · next _ _ sent => rwa [sent] at first
  · next between count sent =>
    rw [sent] at first
    split
    · have second := dated between
      split
      · next _ _ set =>
        rw [set] at second
        exact second.trans first
      · next _ _ set =>
        rw [set] at second
        exact second.trans first
    · exact first

/-- The rate limit never answers that a nonce is replayed. -/
theorem rateLimit_answer {bucket : PyStr} {limit : Int} {clock : Nat} {incr expire : Command}
    {redis : Redis} : (rateLimit bucket limit clock incr expire redis).2 ≠ .error replay := by
  have limited : ∀ count, withinLimit limit count ≠ .error replay := by
    intro count
    unfold withinLimit
    split
    · decide
    · rintro ⟨⟩
  have lost : ∀ {α : Type} {command : Command} {effect : Redis → Redis × α} {redis after : Redis}
      {problem : Raised}, send command effect redis = (after, .error problem) → problem ≠ replay := by
    intro α command effect redis after problem sent
    unfold send at sent
    split at sent <;> cases sent
    · decide
    · decide
  unfold rateLimit
  split
  · next sent => exact fun same => lost sent (Except.error.inj same)
  · split
    · split
      · next sent => exact fun same => lost sent (Except.error.inj same)
      · exact limited _
    · exact limited _

/-- No nonce is kept under the key of a counter. -/
theorem nonceKey_rateKey {env : Env} {verifierId nonce key bucket : PyStr} {clock : Nat}
    (named : nonceKey env verifierId nonce = .ok key) : key ≠ rateKey bucket clock := by
  rw [nonceKey, Result.bind_ok] at named
  obtain ⟨text, _, named⟩ := named
  rw [← Except.ok.inj named]
  intro same
  have heads := congrArg (List.take 11) same
  rw [rateKey, List.append_assoc, List.append_assoc, List.take_append_of_le_length (by decide),
    List.take_append_of_le_length (by decide)] at heads
  exact absurd heads (by decide)

/-- The effect of a claim on a key, whatever Redis answers. -/
theorem claimNonce_live {set : Command} {key other : PyStr} {redis : Redis} {time : Nat}
    (within : time ≤ set.time + nonceTtl) :
    (live (claimNonce set key redis).1 time other).isSome = true ↔
      (live redis time other).isSome = true ∨
        (set.arrives = true ∧ live redis set.time key = none) ∧ key = other := by
  have claimed : (live (claim redis set.time key nonceTtl).1 time other).isSome = true ↔
      (live redis time other).isSome = true ∨ live redis set.time key = none ∧ key = other :=
    live_claim within
  unfold claimNonce send Command.arrives
  cases set.fate with
  | answered => simpa using claimed
  | unsent => simp
  | unanswered => simpa using claimed

/-- A claim is refused as a replay exactly when Redis answers that the key is held. -/
theorem claimNonce_replay {set : Command} {key : PyStr} {redis : Redis} :
    (claimNonce set key redis).2 = .error replay ↔
      set.fate = .answered ∧ (live redis set.time key).isSome = true := by
  unfold claimNonce send
  cases set.fate with
  | answered =>
    cases found : live redis set.time key with
    | none => simp [(claim_free found).2]
    | some entry => simp [(claim_held found).2]
  | unsent => simp [replay]
  | unanswered => simp [replay]

end TaxStamps.Guard
