import TaxStamps.Effects.Tables
import TaxStamps.Jsonb
import TaxStamps.Library.Chain
import TaxStamps.Library.Sessions
import TaxStamps.Services.Audit

/-!
# The audit chain under concurrency

Any number of transactions record any number of events each. A transaction takes
the advisory lock with its first event and keeps it until it ends; its rows are
visible to itself and, once it commits, to all. Identifiers are drawn from a
sequence that no rollback turns back, so they may have gaps.

The chain never forks. Whether its verification says so depends on the JSONB
column: an event was hashed before it was stored, and an integral float beyond
the safe range may come back as an integer, which the canonicalizer refuses.
-/

namespace TaxStamps.Audit

variable {env : Env}

/-- The committed events, and the next identifier of the sequence. -/
structure Log where
  events : List AuditEvent
  sequence : Nat

/-- A call of `record`. -/
structure Call where
  now : Datetime
  eventType : PyStr
  payload : Value

/-- Where a transaction is: it has recorded nothing, it is between two calls, it
has the lock in a call, or it has read the link. -/
inductive Session
  | fresh
  | between (written : List AuditEvent)
  | locked (call : Call) (written : List AuditEvent)
  | linked (call : Call) (written : List AuditEvent) (prevHash : PyStr)

/-- The canonicalizer accepts the payload of the call. -/
def Call.Representable (call : Call) : Prop :=
  call.payload.distinct = true ∧ ∃ bytes, Jcs.canonicalizeBytes call.payload = .ok bytes

/-- The statements of a transaction whose payloads are admitted. -/
inductive Acts (env : Env) (admitted : Value → Prop) (log : Log) : Session → Log → Option Session → Prop
  | lock {call : Call} (representable : call.Representable) (admits : admitted call.payload) :
      Acts env admitted log .fresh log (some (.locked call []))
  | again {call : Call} {written : List AuditEvent} (representable : call.Representable)
      (admits : admitted call.payload) :
      Acts env admitted log (.between written) log (some (.locked call written))
  | read {call : Call} {written : List AuditEvent} :
      Acts env admitted log (.locked call written) log
        (some (.linked call written (latestHash (log.events ++ written))))
  | insert {call : Call} {written : List AuditEvent} {prevHash : PyStr} {id : Nat} {row : AuditEvent}
      (drawn : log.sequence ≤ id)
      (appended : append env call.now call.eventType call.payload prevHash id
        (log.events ++ written) = .ok row) :
      Acts env admitted log (.linked call written prevHash) { log with sequence := id + 1 }
        (some (.between (written ++ [row])))
  | commit {written : List AuditEvent} :
      Acts env admitted log (.between written) { log with events := log.events ++ written } none

/-- The advisory lock. -/
def holdsLock : Session → Unit → Prop
  | .fresh, _ => False
  | _, _ => True

/-- Any number of transactions that record events. -/
def protocol (env : Env) (admitted : Value → Prop) : Sessions.Protocol Log Session Unit where
  begins session := session = .fresh
  acts := Acts env admitted
  holds := holdsLock

/-- No event was ever recorded. -/
def Log.empty : Log := ⟨[], 0⟩

/-- The payload comes back from its column without an integer beyond the safe
range. -/
def Returns (env : Env) (payload : Value) : Prop :=
  ∀ clean stored, payload.reparse = .ok clean → env.jsonb clean = some stored → stored.safe = true

/-- The row names the hash before it and carries the hash of its content. -/
def Follows (env : Env) (prevHash : PyStr) (row : AuditEvent) : Prop :=
  row.prevHash = prevHash ∧
    chainHash env prevHash row.eventType row.payload (Datetime.isoMicros row.createdAt) = .ok row.hash

/-- Rows in the order of their identifiers, all of them drawn, and linked. -/
structure Sound (env : Env) (sequence : Nat) (rows : List AuditEvent) : Prop where
  ascending : rows.Pairwise (fun earlier later => earlier.id < later.id)
  drawn : ∀ row ∈ rows, row.id < sequence
  linked : Chain.Linked (Follows env) (·.hash) genesisHash rows

variable {sequence : Nat} {rows : List AuditEvent}

/-- Rows with ascending identifiers are in the order of their identifiers. -/
theorem byId_ascending (ascending : rows.Pairwise (fun earlier later => earlier.id < later.id)) :
    byId rows = rows :=
  (ascending.imp (fun less => Nat.le_of_lt less)).insertionSort_eq

/-- The latest hash is the tip of the chain. -/
theorem Sound.latest (sound : Sound env sequence rows) :
    latestHash rows = Chain.tip (·.hash) genesisHash rows := by
  rw [latestHash, byId_ascending sound.ascending, Chain.tip]
  cases rows.getLast? <;> rfl

/-- The rows without their last ones are still sound. -/
theorem Sound.earlier {more : List AuditEvent} (sound : Sound env sequence (rows ++ more)) :
    Sound env sequence rows := by
  constructor
  · exact (List.pairwise_append.mp sound.ascending).1
  · exact fun row member => sound.drawn row (List.mem_append_left _ member)
  · exact (Chain.linked_append.mp sound.linked).1

/-- Identifiers that were not drawn yet are not drawn later. -/
theorem Sound.later (sound : Sound env sequence rows) {next : Nat} (after : sequence ≤ next) :
    Sound env next rows :=
  ⟨sound.ascending, fun row member => Nat.lt_of_lt_of_le (sound.drawn row member) after, sound.linked⟩

/-- A row under a new identifier that follows the latest one. -/
theorem Sound.append (sound : Sound env sequence rows) {row : AuditEvent} (drawn : sequence ≤ row.id)
    (follows : Follows env (latestHash rows) row) : Sound env (row.id + 1) (rows ++ [row]) := by
  constructor
  case ascending =>
    rw [List.pairwise_append]
    refine ⟨sound.ascending, List.pairwise_singleton _ _, ?_⟩
    intro earlier member last single
    rw [List.mem_singleton.mp single]
    exact Nat.lt_of_lt_of_le (sound.drawn earlier member) drawn
  case drawn =>
    intro other member
    rcases List.mem_append.mp member with old | new
    · have bound := sound.drawn other old
      omega
    · rw [List.mem_singleton.mp new]
      omega
  case linked =>
    rw [Chain.linked_append, Chain.linked_single, ← sound.latest]
    exact ⟨sound.linked, follows⟩

/-- A linked chain verifies. -/
theorem verifyRows_linked {total : Nat} {prevHash : PyStr}
    (linked : Chain.Linked (Follows env) (·.hash) prevHash rows) :
    verifyRows env total prevHash rows = .ok ⟨true, total, none, []⟩ := by
  induction rows generalizing prevHash with
  | nil => rfl
  | cons row rest inductionHypothesis =>
    obtain ⟨⟨named, hashed⟩, others⟩ := linked
    simp only [verifyRows, hashed, named, ne_eq, not_true_eq_false, if_false]
    exact inductionHypothesis others

/-- The rows of a sound log pass `verify_chain`. -/
theorem Sound.verified (sound : Sound env sequence rows) :
    verifyChain env rows = .ok ⟨true, rows.length, none, []⟩ := by
  rw [verifyChain, byId_ascending sound.ascending, verifyRows_linked sound.linked]

/-- An event is hashed as it comes back from its column. -/
theorem append_follows {call : Call} (representable : call.Representable)
    (returns : Returns env call.payload) {prevHash : PyStr} {id : Nat} {row : AuditEvent}
    (appended : append env call.now call.eventType call.payload prevHash id rows = .ok row) :
    row.id = id ∧ Follows env prevHash row := by
  obtain ⟨distinct, canonical⟩ := representable
  obtain ⟨clean, parsed, stated, text⟩ :=
    Jcs.canonical_reparse (Jcs.canonical_iff.mpr canonical) distinct
  rw [append, parsed, Result.ok_bind, Result.bind_ok] at appended
  obtain ⟨hash, hashed, inserted⟩ := appended
  rw [insertAuditEvent, Result.bind_ok] at inserted
  obtain ⟨_, _, inserted⟩ := inserted
  rw [Result.bind_ok] at inserted
  obtain ⟨stored, column, written⟩ := inserted
  obtain rfl := Except.ok.inj written
  have kept := Db.jsonbColumn_ok column
  obtain ⟨meaning, storedStated⟩ := env.jsonb_restores clean stored stated kept
  have cleanCanonical : Jcs.Canonical clean := by
    obtain ⟨bytes, encoded, carried⟩ := Jcs.canonical_iff.mpr canonical
    exact ⟨bytes, text.trans encoded, carried⟩
  have same : Jcs.encode stored = Jcs.encode clean :=
    Jcs.canonical_text cleanCanonical stated storedStated (returns clean stored parsed kept) meaning
  refine ⟨rfl, rfl, ?_⟩
  have bodies : Jcs.encode (body call.eventType stored (Datetime.isoMicros call.now)) =
      Jcs.encode (body call.eventType clean (Datetime.isoMicros call.now)) := by
    apply Jcs.encode_members
    simp only [List.map_cons, List.map_nil, same]
  rw [chainHash, Jcs.canonicalizeBytes, Jcs.canonicalize] at hashed ⊢
  rw [bodies]
  exact hashed

/-- What a transaction sees is sound, and the link it read is the latest. -/
def Current (env : Env) (log : Log) : Session → Prop
  | .fresh => True
  | .between written => Sound env log.sequence (log.events ++ written)
  | .locked call written => call.Representable ∧ Returns env call.payload ∧
      Sound env log.sequence (log.events ++ written)
  | .linked call written prevHash => call.Representable ∧ Returns env call.payload ∧
      Sound env log.sequence (log.events ++ written) ∧ prevHash = latestHash (log.events ++ written)

/-- Only a transaction with the lock changes anything. -/
theorem acts_log {admitted : Value → Prop} {log later : Log} {session : Session} {next : Option Session}
    (acts : Acts env admitted log session later next) : later = log ∨ holdsLock session () := by
  cases acts with
  | insert => exact Or.inr trivial
  | commit => exact Or.inr trivial
  | _ => exact Or.inl rfl

/-- Every statement keeps the log sound, and the hash that the lock holder has read is the latest
one. -/
theorem rule (env : Env) : Sessions.Rule (protocol env (Returns env))
    (fun log => Sound env log.sequence log.events) (Current env) := by
  constructor
  case begins =>
    rintro log session _ rfl
    trivial
  case acts =>
    intro log session later next good current acts
    cases acts with
    | lock representable admits =>
      refine ⟨good, ?_⟩
      rintro following ⟨⟩
      exact ⟨representable, admits, by simpa using good⟩
    | again representable admits =>
      refine ⟨good, ?_⟩
      rintro following ⟨⟩
      exact ⟨representable, admits, current⟩
    | read =>
      refine ⟨good, ?_⟩
      rintro following ⟨⟩
      exact ⟨current.1, current.2.1, current.2.2, rfl⟩
    | insert drawn appended =>
      obtain ⟨representable, returns, sound, rfl⟩ := current
      obtain ⟨rfl, follows⟩ := append_follows representable returns appended
      refine ⟨good.later (by simp only; omega), ?_⟩
      rintro following ⟨⟩
      simpa [Current] using sound.append drawn follows
    | commit => exact ⟨current, fun _ absurdity => by cases absurdity⟩
  case stable =>
    intro log session later next other _ _ acts otherCurrent apart
    rcases acts_log acts with rfl | held
    · exact otherCurrent
    · cases other with
      | fresh => trivial
      | _ => exact absurd trivial (apart () held)

/-- In every interleaving in which the payloads come back without an integer
beyond the safe range, the committed chain verifies, row for row. -/
theorem chain_never_forks {world : Sessions.World Log Session}
    (run : Sessions.Reachable (protocol env (Returns env)) Log.empty world) :
    verifyChain env world.shared.events = .ok ⟨true, world.shared.events.length, none, []⟩ := by
  have initially : Sound env Log.empty.sequence Log.empty.events := by
    constructor
    · exact List.Pairwise.nil
    · exact fun _ absurdity => by cases absurdity
    · trivial
  exact ((rule env).reachable initially run).1.verified

section Sample

/-- An event on the first day of August 2026 about one number. -/
def Call.numbered (number : Value) : Call where
  now := 739828 * Datetime.microsPerDay
  eventType := py "test.one"
  payload := .object [("n", number)]

/-- One transaction that records one event, by itself. -/
theorem records {admitted : Value → Prop} {log : Log} {call : Call} (representable : call.Representable)
    (admits : admitted call.payload) {row : AuditEvent}
    (appended : append env call.now call.eventType call.payload (latestHash log.events) log.sequence
      log.events = .ok row) :
    Sessions.Alone (protocol env admitted) log .fresh ⟨log.events ++ [row], log.sequence + 1⟩ := by
  have unwritten := List.append_nil log.events
  refine .next (Acts.lock representable admits) (.next Acts.read ?_)
  rw [unwritten]
  exact .next (Acts.insert (Nat.le_refl _) (unwritten.symm ▸ appended)) (.last Acts.commit)

/-- One transaction that records one event, and nobody else. -/
theorem alone {admitted : Value → Prop} {call : Call} (representable : call.Representable)
    (admits : admitted call.payload) {row : AuditEvent}
    (appended : append env call.now call.eventType call.payload genesisHash 0 [] = .ok row) :
    Sessions.Reachable (protocol env admitted) Log.empty (Sessions.World.start ⟨[row], 1⟩) :=
  (@records env admitted Log.empty call representable admits row appended).reachable rfl

/-- A payload that passes the check can be recorded. -/
theorem representable_of_check {call : Call} (checked : (call.payload.distinct &&
    (Jcs.canonicalizeBytes call.payload).isOk) = true) : call.Representable := by
  rw [Bool.and_eq_true] at checked
  refine ⟨checked.1, ?_⟩
  cases bytes : Jcs.canonicalizeBytes call.payload with
  | ok written => exact ⟨written, rfl⟩
  | error => rw [bytes] at checked; cases checked.2

/-- Two events about the number `0.5`. -/
def half : Call := .numbered (.float .half)

/-- The second of the events. -/
def halfAgain : Call := { half with eventType := py "test.two" }

/-- A half comes back from its column as the decimal that it was. -/
theorem half_returns : Returns .decimal half.payload := by
  intro clean stored parsed kept
  obtain rfl : half.payload = clean := Except.ok.inj parsed
  obtain rfl : half.payload.decimals = stored := Option.some.inj kept
  decide

/-- Both events are appended, one behind the other. -/
theorem both_appended : ∃ first second,
    append .decimal half.now half.eventType half.payload genesisHash 0 [] = .ok first ∧
    append .decimal halfAgain.now halfAgain.eventType halfAgain.payload (latestHash [first]) 1 [first] = .ok second := by
  have checked : (append .decimal half.now half.eventType half.payload genesisHash 0 []).toOption.any
      (fun first => (append .decimal halfAgain.now halfAgain.eventType halfAgain.payload (latestHash [first]) 1
        [first]).toOption.isSome) = true := by decide +kernel
  simp only [Option.any_eq_true, Option.isSome_iff_exists, Result.toOption_some] at checked
  obtain ⟨first, recorded, second, follows⟩ := checked
  exact ⟨first, second, recorded, follows⟩

/-- A transaction has begun when another one records an event, and then records its own. -/
theorem chain_never_forks_sample : ∃ first second,
    Sessions.Reachable (protocol .decimal (Returns .decimal)) Log.empty
        (Sessions.World.start ⟨[first, second], 2⟩) ∧
      verifyChain .decimal [first, second] = .ok ⟨true, 2, none, []⟩ := by
  obtain ⟨first, second, recorded, follows⟩ := both_appended
  have overtakes := @records .decimal (Returns .decimal) Log.empty half
    (representable_of_check (by decide +kernel)) half_returns first recorded
  have resumes := @records .decimal (Returns .decimal) ⟨[first], 1⟩ halfAgain
    (representable_of_check (by decide +kernel)) half_returns second follows
  have run : Sessions.Reachable (protocol .decimal (Returns .decimal)) Log.empty
      (Sessions.World.start ⟨[first, second], 2⟩) :=
    Sessions.interleaved rfl .here (fun _ => not_false) rfl overtakes resumes
  exact ⟨first, second, run, chain_never_forks run⟩

/-- The event about `1e16` is recorded, and the verification of the chain does
not answer. -/
theorem float_recorded : ∃ row, append .decimal (Call.numbered (.float .tenQuadrillion)).now
    (Call.numbered (.float .tenQuadrillion)).eventType (Call.numbered (.float .tenQuadrillion)).payload
    genesisHash 0 [] = .ok row ∧ verifyChain .decimal [row] ≠ .ok ⟨true, 1, none, []⟩ := by
  have checked : ((append .decimal (Call.numbered (.float .tenQuadrillion)).now
      (Call.numbered (.float .tenQuadrillion)).eventType
      (Call.numbered (.float .tenQuadrillion)).payload genesisHash 0 []).toOption.any
        (fun row => !(verifyChain .decimal [row]).isOk)) = true := by decide +kernel
  rw [Option.any_eq_true] at checked
  obtain ⟨row, recorded, refused⟩ := checked
  refine ⟨row, ?_, ?_⟩
  · cases result : append .decimal (Call.numbered (.float .tenQuadrillion)).now
        (Call.numbered (.float .tenQuadrillion)).eventType
        (Call.numbered (.float .tenQuadrillion)).payload genesisHash 0 [] with
    | ok held => rw [result] at recorded; cases recorded; rfl
    | error => rw [result] at recorded; cases recorded
  · intro verified
    rw [verified] at refused
    cases refused

/-- Not every chain of events with representable payloads verifies. -/
theorem float_breaks_chain : ¬ ∀ (env : Env) (world : Sessions.World Log Session),
    Sessions.Reachable (protocol env (fun _ => True)) Log.empty world →
    verifyChain env world.shared.events = .ok ⟨true, world.shared.events.length, none, []⟩ := by
  intro claimed
  obtain ⟨row, recorded, refused⟩ := float_recorded
  have run : Sessions.Reachable (protocol .decimal (fun _ => True)) Log.empty
      (Sessions.World.start ⟨[row], 1⟩) :=
    alone (representable_of_check (by decide +kernel)) trivial recorded
  exact refused (claimed .decimal _ run)

end Sample

end TaxStamps.Audit
