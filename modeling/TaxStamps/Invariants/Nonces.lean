import TaxStamps.Api.FieldVerify
import TaxStamps.Crypto.VcProofs

/-!
# Nonces of verifiers

A nonce is claimed under the hash of the verifier's identifier and the nonce with
a colon between them, and both may hold colons. Within the lifetime of a claim
this is decided: a request is refused as a replay exactly when its joined text
was claimed before. That is its own verifier's nonce unless another verifier's
pair joins to the same text.
-/

namespace TaxStamps.Guard

open Expiring.Commands

variable {Redis : Type} [Expiring.Commands PyStr Redis] {env : Env} {limit : Int}
  {verifiers : List VerifierCredential} {start redis : Redis} {request other : Request} {requests : List Request}
  {key : PyStr}

/-- A request with the state of Redis that it comes to. -/
abbrev Turn (Redis : Type) := Expiring.Turn Redis Request

/-- A run of `POST /v1/verify`. -/
def turns (env : Env) (limit : Int) (verifiers : List VerifierCredential) (start : Redis)
    (requests : List Request) : List (Turn Redis) :=
  Expiring.turns (fun redis request => (verify env limit verifiers redis request).1) start requests

/-- The request presents a verifier's registered credential. -/
def Authenticated (env : Env) (verifiers : List VerifierCredential) (request : Request) : Prop :=
  ∃ row, authenticateVerifier env verifiers request.verifierId request.credential = .ok row

/-- The text that is hashed for the nonce of a request. -/
def joined (request : Request) : PyStr := request.verifierId ++ py ":" ++ request.nonce

/-- The limit lets a request through. -/
def Passes (limit : Int) (redis : Redis) (request : Request) : Prop :=
  (countRequest limit request.verifierId request redis).2 = .ok ()

/-- A request gets an answer about its nonce. -/
def Looked (limit : Int) (turn : Turn Redis) : Prop :=
  Passes limit turn.before turn.input ∧ turn.input.set.fate = .answered

/-- Redis executes the command of a request on a nonce that it does not hold. -/
def Claims (env : Env) (limit : Int) (turn : Turn Redis) : Prop :=
  Passes limit turn.before turn.input ∧ turn.input.set.arrives = true ∧
    ∃ key, nonceKey env turn.input.verifierId turn.input.nonce = .ok key ∧
      live turn.before turn.input.set.time key = none

/-- The answer is the refusal of a replayed nonce. -/
def Replayed (env : Env) (limit : Int) (verifiers : List VerifierCredential) (turn : Turn Redis) : Prop :=
  (verify env limit verifiers turn.before turn.input).2 = .error (refusalOf replay)

/-- Two requests of one verifier with one nonce. -/
def SamePair (first second : Request) : Prop :=
  first.verifierId = second.verifierId ∧ first.nonce = second.nonce

/-- Authenticated requests within the lifetime of a nonce, none of whose nonces is
held when they begin, and of whose hashed texts no two have one hash. -/
structure Period (env : Env) (verifiers : List VerifierCredential) (start : Redis)
    (requests : List Request) : Prop where
  authenticated : ∀ request ∈ requests, Authenticated env verifiers request
  lifetime : ∀ request ∈ requests, ∀ other ∈ requests, other.set.time ≤ request.set.time + nonceTtl
  fresh : ∀ request ∈ requests, ∀ other ∈ requests, ∀ key,
    nonceKey env request.verifierId request.nonce = .ok key → live start other.set.time key = none
  uncollided : ∀ request ∈ requests, ∀ other ∈ requests, ∀ left right,
    Jcs.utf8 (joined request) = .ok left → Jcs.utf8 (joined other) = .ok right →
      Vc.NoCollision env left right

section Steps

/-- An authenticated request has a nonce key. -/
theorem nonceKey_named (authenticated : Authenticated env verifiers request) :
    ∃ text, Jcs.utf8 (joined request) = .ok text ∧
      nonceKey env request.verifierId request.nonce =
        .ok (py "taxstamps:nonce:" ++ Merkle.hex (env.sha256 text)) := by
  obtain ⟨row, authenticated⟩ := authenticated
  obtain ⟨_, named, _⟩ := authenticateVerifier_ok authenticated
  have fits := row.verifierId_fits
  have sized := request.nonce_length
  rw [PyStr.fits, Bool.and_eq_true, named] at fits
  rw [PyStr.sized, Bool.and_eq_true] at sized
  have carried : (joined request).all Jcs.encodable = true := by
    rw [joined, List.all_append, List.all_append, Value.storable_text fits.2, Jcs.scalar_encodable sized.2]
    rfl
  obtain ⟨chars, mapped⟩ := Jcs.mapM_encodable carried
  have encoded : Jcs.utf8 (joined request) = .ok (chars.flatMap String.utf8EncodeChar) := by
    rw [Jcs.utf8, mapped]
  refine ⟨_, encoded, ?_⟩
  rw [joined] at encoded
  rw [nonceKey, encoded, Result.ok_bind]

/-- Only a replay is refused as a replay. -/
theorem refusalOf_replay {problem : Raised} : refusalOf problem = refusalOf replay ↔ problem = replay := by
  cases problem with
  | redisUnavailable => exact iff_of_false (by decide) (by decide)
  | valueError text => simp [refusalOf, replay]
  | unicodeEncodeError => exact iff_of_false (by decide) (by decide)

/-- A request that the limit lets through is answered as its claim is. -/
theorem verify_passed (authenticated : Authenticated env verifiers request)
    (named : nonceKey env request.verifierId request.nonce = .ok key)
    (passes : Passes limit redis request) :
    (verify env limit verifiers redis request).1 =
        (claimNonce request.set key (countRequest limit request.verifierId request redis).1).1 ∧
      (Replayed env limit verifiers ⟨redis, request⟩ ↔
        (claimNonce request.set key (countRequest limit request.verifierId request redis).1).2 =
          .error replay) := by
  obtain ⟨row, authenticated⟩ := authenticated
  obtain ⟨_, same, _⟩ := authenticateVerifier_ok authenticated
  unfold Replayed verify guards
  rw [Passes] at passes
  dsimp only
  rw [authenticated]
  dsimp only
  rw [same]
  generalize countRequest limit request.verifierId request redis = counted at passes ⊢
  rcases counted with ⟨after, outcome⟩
  subst passes
  dsimp only
  rw [named]
  dsimp only
  rcases claimNonce request.set key after with ⟨claimed, problem | done⟩
  · exact ⟨rfl, by simpa using refusalOf_replay⟩
  · simp

/-- A request that is stopped before claims nothing, and is not told that its nonce
is replayed. -/
theorem verify_stopped (authenticated : Authenticated env verifiers request)
    (stopped : ¬ Passes limit redis request) :
    (verify env limit verifiers redis request).1 =
        (countRequest limit request.verifierId request redis).1 ∧
      ¬ Replayed env limit verifiers ⟨redis, request⟩ := by
  obtain ⟨row, authenticated⟩ := authenticated
  obtain ⟨_, same, _⟩ := authenticateVerifier_ok authenticated
  have answer : (countRequest limit request.verifierId request redis).2 ≠ .error replay :=
    rateLimit_answer
  unfold Replayed verify guards
  rw [Passes] at stopped
  dsimp only
  rw [authenticated]
  dsimp only
  rw [same]
  generalize countRequest limit request.verifierId request redis = counted at stopped answer ⊢
  rcases counted with ⟨after, problem | done⟩
  · refine ⟨rfl, fun refused => answer ?_⟩
    exact congrArg Except.error (refusalOf_replay.mp (Except.error.inj refused))
  · exact absurd rfl stopped

/-- Counting a request leaves the nonces alone. -/
theorem countRequest_live {verifierId nonce : PyStr} (named : nonceKey env verifierId nonce = .ok key)
    (time : Nat) :
    live (countRequest limit request.verifierId request redis).1 time key = live redis time key :=
  live_congr (rateLimit_other (nonceKey_rateKey named)) time

/-- What one request does to a nonce key. -/
theorem verify_live {verifierId nonce : PyStr} (authenticated : Authenticated env verifiers request)
    (named : nonceKey env verifierId nonce = .ok key) {time : Nat}
    (within : time ≤ request.set.time + nonceTtl) :
    (live (verify env limit verifiers redis request).1 time key).isSome = true ↔
      (live redis time key).isSome = true ∨ Claims env limit ⟨redis, request⟩ ∧
        nonceKey env request.verifierId request.nonce = .ok key := by
  by_cases passes : Passes limit redis request
  · obtain ⟨text, _, own⟩ := nonceKey_named authenticated
    rw [(verify_passed authenticated own passes).1, claimNonce_live within,
      countRequest_live named, countRequest_live own]
    simp only [Claims, passes, own, true_and, Except.ok.injEq, exists_eq_left']
  · have nothing : ¬ Claims env limit ⟨redis, request⟩ := fun claims => passes claims.1
    rw [(verify_stopped authenticated passes).1, countRequest_live named]
    simp only [nothing, false_and, or_false]

/-- A request is told that its nonce is replayed exactly when it gets an answer about
it and the nonce is held. -/
theorem verify_replay (authenticated : Authenticated env verifiers request)
    (named : nonceKey env request.verifierId request.nonce = .ok key) :
    Replayed env limit verifiers ⟨redis, request⟩ ↔
      Looked limit ⟨redis, request⟩ ∧ (live redis request.set.time key).isSome = true := by
  by_cases passes : Passes limit redis request
  · rw [(verify_passed authenticated named passes).2, claimNonce_replay, countRequest_live named]
    simp only [Looked, passes, true_and]
  · have unlooked : ¬ Looked limit ⟨redis, request⟩ := fun looked => passes looked.1
    simp only [(verify_stopped authenticated passes).2, unlooked, false_and]

end Steps

section Runs

variable {earlier later : List (Turn Redis)} {turn claim : Turn Redis}

/-- The earlier turn of a run is a run before it. -/
theorem listed (split : turns env limit verifiers start requests = earlier ++ turn :: later) :
    turn.input ∈ requests ∧ ∀ claim ∈ earlier, claim.input ∈ requests := by
  have inputs : ∀ taken ∈ turns env limit verifiers start requests, taken.input ∈ requests :=
    fun taken => Expiring.input_listed
  rw [split] at inputs
  exact ⟨inputs turn (by simp), fun claim before => inputs claim (by simp [before])⟩

/-- Two requests have one nonce key exactly when their joined texts are one. -/
theorem nonceKey_same (period : Period env verifiers start requests) (listed : request ∈ requests)
    (otherListed : other ∈ requests) :
    nonceKey env request.verifierId request.nonce = nonceKey env other.verifierId other.nonce ↔
      joined request = joined other := by
  obtain ⟨left, leftText, leftKey⟩ := nonceKey_named (period.authenticated request listed)
  obtain ⟨right, rightText, rightKey⟩ := nonceKey_named (period.authenticated other otherListed)
  constructor
  · intro same
    rw [leftKey, rightKey] at same
    have hashes := Merkle.hex_injective (List.append_cancel_left (Except.ok.inj same))
    have texts := period.uncollided request listed other otherListed left right leftText rightText hashes
    exact Jcs.utf8_injective leftText (texts ▸ rightText)
  · intro same
    rw [joined, joined] at same
    rw [nonceKey, nonceKey, same]

/-- The nonces that are held when a request comes are those that an earlier request
of the run claimed. -/
theorem held_iff (period : Period env verifiers start requests)
    (split : turns env limit verifiers start requests = earlier ++ turn :: later)
    (named : nonceKey env turn.input.verifierId turn.input.nonce = .ok key) :
    (live turn.before turn.input.set.time key).isSome = true ↔
      ∃ claim ∈ earlier, Claims env limit claim ∧ joined claim.input = joined turn.input := by
  obtain ⟨present, before⟩ := listed split
  have latched : ∀ redis : Redis, ∀ request ∈ requests,
      ((live (verify env limit verifiers redis request).1 turn.input.set.time key).isSome = true ↔
        (live redis turn.input.set.time key).isSome = true ∨ Claims env limit ⟨redis, request⟩ ∧
          nonceKey env request.verifierId request.nonce = .ok key) :=
    fun redis request member => verify_live (period.authenticated request member) named
      (period.lifetime request member turn.input present)
  have before_iff := @Expiring.before_iff _ _ _ _ _ _ _ _
    (fun redis => (live redis turn.input.set.time key).isSome = true)
    (fun claim => Claims env limit claim ∧
      nonceKey env claim.input.verifierId claim.input.nonce = .ok key) latched split
  rw [before_iff, period.fresh turn.input present turn.input present key named]
  constructor
  · rintro (held | ⟨claim, taken, claims, same⟩)
    · cases held
    · exact ⟨claim, taken, claims,
        (nonceKey_same period (before claim taken) present).mp (same.trans named.symm)⟩
  · rintro ⟨claim, taken, claims, same⟩
    exact .inr ⟨claim, taken, claims,
      ((nonceKey_same period (before claim taken) present).mpr same).trans named⟩

/-- A request is refused as a replay exactly when it gets an answer about its nonce
and its joined text was claimed. -/
theorem replayed_iff (period : Period env verifiers start requests)
    (split : turns env limit verifiers start requests = earlier ++ turn :: later) :
    Replayed env limit verifiers turn ↔ Looked limit turn ∧
      ∃ claim ∈ earlier, Claims env limit claim ∧ joined claim.input = joined turn.input := by
  have authenticated := period.authenticated turn.input (listed split).1
  obtain ⟨text, _, named⟩ := nonceKey_named authenticated
  rw [← held_iff period split named]
  exact verify_replay authenticated named

/-- No joined text is claimed twice. -/
theorem claimed_once (period : Period env verifiers start requests)
    (split : turns env limit verifiers start requests = earlier ++ turn :: later)
    (taken : claim ∈ earlier) (claims : Claims env limit claim) (again : Claims env limit turn) :
    joined claim.input ≠ joined turn.input := by
  intro same
  obtain ⟨_, _, key, named, free⟩ := again
  have held := (held_iff period split named).mpr ⟨claim, taken, claims, same⟩
  rw [free] at held
  cases held

/-- The claims before a turn have different joined texts. -/
theorem claim_unique {first second : Turn Redis} (period : Period env verifiers start requests)
    (split : turns env limit verifiers start requests = earlier ++ turn :: later)
    (firstTaken : first ∈ earlier) (secondTaken : second ∈ earlier) (firstClaims : Claims env limit first)
    (secondClaims : Claims env limit second) (same : joined first.input = joined second.input) :
    first = second := by
  obtain ⟨before, after, rfl⟩ := List.append_of_mem firstTaken
  rw [List.append_assoc, List.cons_append] at split
  rcases List.mem_append.mp secondTaken with sooner | secondTaken
  · exact absurd same.symm (claimed_once period split sooner secondClaims firstClaims)
  · rcases List.mem_cons.mp secondTaken with here | later
    · exact here.symm
    · obtain ⟨between, rest, rfl⟩ := List.append_of_mem later
      rw [List.append_assoc, List.cons_append, ← List.cons_append, ← List.append_assoc] at split
      exact absurd same (claimed_once period split (by simp) firstClaims secondClaims)

end Runs

section Law

/-- A law of the earlier turns and the turn they come before, at every turn. -/
def AtEveryTurn (env : Env) (limit : Int) (verifiers : List VerifierCredential) (start : Redis)
    (requests : List Request) (law : List (Turn Redis) → Turn Redis → Prop) : Prop :=
  ∀ earlier turn later, turns env limit verifiers start requests = earlier ++ turn :: later →
    law earlier turn

/-- A request is refused as a replay exactly when an earlier request of its verifier
claimed its nonce. -/
def PerVerifier (env : Env) (limit : Int) (verifiers : List VerifierCredential) (start : Redis)
    (requests : List Request) : Prop :=
  AtEveryTurn env limit verifiers start requests (fun earlier turn =>
    Replayed env limit verifiers turn ↔
      ∃ claim ∈ earlier, Claims env limit claim ∧ SamePair claim.input turn.input)

/-- The same of the requests that get an answer about their nonce; the others are
stopped by the limit or an outage and are not told of a replay. -/
def AnsweredPerVerifier (env : Env) (limit : Int) (verifiers : List VerifierCredential)
    (start : Redis) (requests : List Request) : Prop :=
  AtEveryTurn env limit verifiers start requests (fun earlier turn =>
    Replayed env limit verifiers turn ↔ Looked limit turn ∧
      ∃ claim ∈ earlier, Claims env limit claim ∧ SamePair claim.input turn.input)

/-- A request whose nonce is looked at has the joined text of an earlier claim only
with its verifier and its nonce. -/
def Unmixed (env : Env) (limit : Int) (verifiers : List VerifierCredential) (start : Redis)
    (requests : List Request) : Prop :=
  AtEveryTurn env limit verifiers start requests (fun earlier turn => Looked limit turn →
    ∀ claim ∈ earlier, Claims env limit claim → joined claim.input = joined turn.input →
      SamePair claim.input turn.input)

/-- No repeated claim is stopped before its nonce is looked at. -/
def Unstopped (env : Env) (limit : Int) (verifiers : List VerifierCredential) (start : Redis)
    (requests : List Request) : Prop :=
  AtEveryTurn env limit verifiers start requests (fun earlier turn => ¬ Looked limit turn →
    ∀ claim ∈ earlier, Claims env limit claim → ¬ SamePair claim.input turn.input)

/-- One verifier's same nonce has one joined text. -/
theorem samePair_joined (same : SamePair request other) : joined request = joined other := by
  rw [joined, joined, same.1, same.2]

/-- The requests that get an answer about their nonce are answered per verifier
exactly when no two pairs mix. -/
theorem answeredPerVerifier_iff (period : Period env verifiers start requests) :
    AnsweredPerVerifier env limit verifiers start requests ↔
      Unmixed env limit verifiers start requests := by
  constructor
  · intro perVerifier earlier turn later split looked claim taken claims same
    have replayed := (replayed_iff period split).mpr ⟨looked, claim, taken, claims, same⟩
    obtain ⟨_, own, ownTaken, ownClaims, pair⟩ := (perVerifier earlier turn later split).mp replayed
    have once := claim_unique period split taken ownTaken claims ownClaims
      (same.trans (samePair_joined pair).symm)
    exact once ▸ pair
  · intro unmixed earlier turn later split
    rw [replayed_iff period split]
    constructor
    · rintro ⟨looked, claim, taken, claims, same⟩
      exact ⟨looked, claim, taken, claims,
        unmixed earlier turn later split looked claim taken claims same⟩
    · rintro ⟨looked, claim, taken, claims, pair⟩
      exact ⟨looked, claim, taken, claims, samePair_joined pair⟩

/-- No request is told of a replay without an answer about its nonce, so the law for
all requests is the law for the answered ones and no stopped repeats. -/
theorem perVerifier_answered (period : Period env verifiers start requests) :
    PerVerifier env limit verifiers start requests ↔
      AnsweredPerVerifier env limit verifiers start requests ∧
        Unstopped env limit verifiers start requests := by
  constructor
  · intro perVerifier
    have looked : ∀ earlier turn later,
        turns env limit verifiers start requests = earlier ++ turn :: later →
          ∀ claim ∈ earlier, Claims env limit claim → SamePair claim.input turn.input →
            Looked limit turn := by
      intro earlier turn later split claim taken claims pair
      have replayed := (perVerifier earlier turn later split).mpr ⟨claim, taken, claims, pair⟩
      exact ((replayed_iff period split).mp replayed).1
    constructor
    · intro earlier turn later split
      apply (perVerifier earlier turn later split).trans
      constructor
      · rintro ⟨claim, taken, claims, pair⟩
        exact ⟨looked earlier turn later split claim taken claims pair, claim, taken, claims, pair⟩
      · exact And.right
    · intro earlier turn later split unlooked claim taken claims pair
      exact unlooked (looked earlier turn later split claim taken claims pair)
  · rintro ⟨answered, unstopped⟩ earlier turn later split
    apply (answered earlier turn later split).trans
    constructor
    · exact And.right
    · rintro ⟨claim, taken, claims, pair⟩
      have looked : Looked limit turn := by
        by_contra unlooked
        exact unstopped earlier turn later split unlooked claim taken claims pair
      exact ⟨looked, claim, taken, claims, pair⟩

/-- Identifiers without a colon never mix. -/
theorem unmixed_of_plain (plain : ∀ request ∈ requests, Code.scalar ':' ∉ request.verifierId) :
    Unmixed env limit verifiers start requests := by
  intro earlier turn later split _ claim taken _ same
  obtain ⟨present, before⟩ := listed split
  have cut : ∀ request ∈ requests,
      (joined request).takeWhile (fun code => decide (code ≠ .scalar ':')) = request.verifierId := by
    intro request member
    have kept : ∀ code ∈ request.verifierId, decide (code ≠ Code.scalar ':') = true :=
      fun code inside => decide_eq_true (fun colon => plain request member (colon ▸ inside))
    rw [joined, List.append_assoc, List.takeWhile_append_of_pos kept]
    exact List.append_nil _
  have verifier : claim.input.verifierId = turn.input.verifierId := by
    rw [← cut claim.input (before claim taken), ← cut turn.input present, same]
  rw [joined, joined, verifier] at same
  exact ⟨verifier, List.append_cancel_left same⟩

/-- Nonces are per verifier exactly when no two pairs mix and no repeat is stopped;
where only the requests count that get an answer about their nonce, exactly when no
two pairs mix. -/
theorem perVerifier_iff (period : Period env verifiers start requests) :
    (PerVerifier env limit verifiers start requests ↔
      Unmixed env limit verifiers start requests ∧ Unstopped env limit verifiers start requests) ∧
    (AnsweredPerVerifier env limit verifiers start requests ↔
      Unmixed env limit verifiers start requests) := by
  have answered : AnsweredPerVerifier env limit verifiers start requests ↔ _ := answeredPerVerifier_iff period
  constructor
  · rw [perVerifier_answered period, answered]
  · exact answered

end Law

section Sample

/-- A verifier whose credential is the word "key". -/
def enrolled (verifierId : PyStr) (fits : PyStr.fits 128 verifierId = true) : VerifierCredential where
  verifierId := verifierId
  credentialHash := (hashVerifierCredential .sample verifierId (py "key")).toOption.getD []
  active := true
  verifierId_fits := fits

/-- A request at the beginning of the epoch, to a Redis that answers. -/
def presented (verifierId nonce : PyStr) (sized : PyStr.sized 8 128 nonce = true) : Request where
  verifierId := verifierId
  credential := py "key"
  nonce := nonce
  clock := 0
  incr := ⟨0, .answered⟩
  expire := ⟨0, .answered⟩
  set := ⟨0, .answered⟩
  nonce_length := sized

/-- Two verifiers, the name of one continuing that of the other. -/
def sampleVerifiers : List VerifierCredential :=
  [enrolled (py "a") (by decide), enrolled (py "a:b") (by decide +kernel)]

/-- Two verifiers whose pairs join to one text. -/
def mixedRequests : List Request :=
  [presented (py "a") (py "b:cccccccc") (by decide),
    presented (py "a:b") (py "cccccccc") (by decide)]

/-- One verifier that repeats its nonce after another verifier used it. -/
def plainRequests : List Request :=
  [presented (py "a") (py "cccccccc") (by decide),
    presented (py "a:b") (py "cccccccc") (by decide),
    presented (py "a") (py "cccccccc") (by decide)]

/-- A map without keys. -/
def noKeys : Expiring.Store PyStr := fun _ => none

/-- The bytes that are hashed for a request. -/
def textOf (request : Request) : Bytes := (Jcs.utf8 (joined request)).toOption.getD []

/-- Requests of one moment to an empty Redis are a period when no two of their texts
have one sample hash. -/
theorem sample_period (authenticated : ∀ request ∈ requests, Authenticated .sample sampleVerifiers request)
    (moment : ∀ request ∈ requests, request.set.time = 0)
    (apart : ∀ left ∈ requests.map textOf, ∀ right ∈ requests.map textOf,
      Env.sample.sha256 left = Env.sample.sha256 right → left = right) :
    Period .sample sampleVerifiers noKeys requests where
  authenticated := authenticated
  lifetime request listed other otherListed := by
    rw [moment request listed, moment other otherListed]
    decide
  fresh _ _ _ _ _ _ := rfl
  uncollided request listed other otherListed left right leftText rightText := by
    have leftIs : textOf request = left := by rw [textOf, leftText]; rfl
    have rightIs : textOf other = right := by rw [textOf, rightText]; rfl
    exact apart left (List.mem_map.mpr ⟨request, listed, leftIs⟩) right
      (List.mem_map.mpr ⟨other, otherListed, rightIs⟩)

/-- The two mixed requests are a period. -/
theorem mixed_period : Period .sample sampleVerifiers noKeys mixedRequests := by
  apply sample_period
  · intro request listed
    simp only [mixedRequests, List.mem_cons, List.not_mem_nil, or_false] at listed
    rcases listed with rfl | rfl
    · exact ⟨_, rfl⟩
    · exact ⟨_, rfl⟩
  · decide
  · decide

/-- The three plain requests are a period. -/
theorem plain_period : Period .sample sampleVerifiers noKeys plainRequests := by
  apply sample_period
  · intro request listed
    simp only [plainRequests, List.mem_cons, List.not_mem_nil, or_false] at listed
    rcases listed with rfl | rfl | rfl
    · exact ⟨_, rfl⟩
    · exact ⟨_, rfl⟩
    · exact ⟨_, rfl⟩
  · decide
  · decide

/-- The law and its condition for the plain requests. -/
theorem perVerifier_sample :
    (PerVerifier .sample 60 sampleVerifiers noKeys plainRequests ↔
      Unmixed .sample 60 sampleVerifiers noKeys plainRequests ∧
        Unstopped .sample 60 sampleVerifiers noKeys plainRequests) ∧
    (AnsweredPerVerifier .sample 60 sampleVerifiers noKeys plainRequests ↔
      Unmixed .sample 60 sampleVerifiers noKeys plainRequests) :=
  perVerifier_iff plain_period

/-- The second verifier's fresh nonce is refused as a replay. -/
theorem colon_mixes : Period .sample sampleVerifiers noKeys mixedRequests ∧
    ¬ PerVerifier .sample 60 sampleVerifiers noKeys mixedRequests ∧
    ¬ AnsweredPerVerifier .sample 60 sampleVerifiers noKeys mixedRequests := by
  obtain ⟨first, second, split, refused, apart⟩ : ∃ first second,
      turns .sample 60 sampleVerifiers noKeys mixedRequests = [first] ++ second :: [] ∧
        Replayed .sample 60 sampleVerifiers second ∧ ¬ SamePair first.input second.input :=
    ⟨_, _, rfl, by rfl, by
      rintro ⟨named, _⟩
      exact absurd named (by decide)⟩
  have unclaimed : ¬ ∃ claim ∈ [first], Claims .sample 60 claim ∧ SamePair claim.input second.input := by
    rintro ⟨claim, taken, _, pair⟩
    rw [List.mem_singleton.mp taken] at pair
    exact apart pair
  refine ⟨mixed_period, fun perVerifier => ?_, fun answered => ?_⟩
  · exact unclaimed ((perVerifier [first] second [] split).mp refused)
  · exact unclaimed ((answered [first] second [] split).mp refused).2

end Sample

end TaxStamps.Guard
