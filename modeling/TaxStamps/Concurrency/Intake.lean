import TaxStamps.Api.IntakeText
import TaxStamps.Api.Sample
import TaxStamps.Effects.Flow
import TaxStamps.Library.Idempotency

/-!
# Concurrent intake

Any number of requests to the two intake routes, each a transaction that looks
for a record of its key and principal, reads what its route reads, and writes,
inserts its record and commits under the lock of the audit chain, which both
routes take before their first write is final.

A request that runs by itself is the route. Requests without a key, and requests
whose key is empty, leave no record.
-/

namespace TaxStamps.Intake

open Api Idempotency

variable {env : Env}

/-- What a request has read when it goes on to write. -/
inductive Plan
  | declaration (body : DeclarationIn)
  | existing (declaration : Declaration) (assessmentId : Nat)
  | assessment (declarationId : Nat) (declaration : Declaration) (lines : List DeclarationLine)

/-- The reads of the two routes. -/
def plan (env : Env) (request : IntakeRequest) (db : Db) : Result Plan :=
  match request.body with
  | .declaration body => do
    requireUndeclared body db
    .ok (.declaration body)
  | .assessment body => do
    let (declarationId, declaration) ← declarationNamed body.declarationRef db
    match Assessments.heldUnder (assessmentKey env request.subject request.idemKey declarationId) db with
    | some existing => .ok (.existing declaration existing.1)
    | none => do
      translated ofAssessment (Assessments.requireLines declarationId db)
      .ok (.assessment declarationId declaration
        (Assessments.linesOf declarationId db.declarationLines))

/-- The event of an assessment, and the response. -/
def announce (env : Env) (request : IntakeRequest) (declaration : Declaration) (assessmentId : Nat)
    (db : Db) : Result (Value × Db) := do
  let (assessmentId, db) ← announceAssessment env request.occasion request.subject declaration
    assessmentId db
  let assessment ← Result.one db.assessments[assessmentId]?
  .ok (assessmentView env assessmentId assessment, db)

/-- The writes of the two routes. -/
def write (env : Env) (request : IntakeRequest) (plan : Plan) (db : Db) : Result (Value × Db) :=
  match plan with
  | .declaration body => do
    let db ← declare request.occasion request.subject body db
    .ok (declarationView body, db)
  | .existing declaration assessmentId => announce env request declaration assessmentId db
  | .assessment declarationId declaration lines => do
    let (assessmentId, db) ← translated ofAssessment (Assessments.addAssessment env request.occasion
      declarationId request.subject (assessmentKey env request.subject request.idemKey declarationId)
      lines db)
    announce env request declaration assessmentId db

/-- What the routes do with a request, for any number of concurrent ones. -/
def service (env : Env) : Service Db IntakeRequest (PyStr × PyStr) PyStr Value Plan where
  key request := (presented request.idemKey).map (fun key => (key, request.subject))
  digest request := bodyHash env request.body
  plan request db := (plan env request db).toOption
  write request plan db := (write env request plan db).toOption
  keep request response := match presented request.idemKey with
    | none => none
    | some key =>
      (storedResponse env key request.subject (bodyHash env request.body) 201 response).toOption

section Alone

variable {request : IntakeRequest} {db after : Db} {response : Value}

/-- A record as its table holds it. -/
def row (record : Record (PyStr × PyStr) PyStr Value) : IdempotencyRecord where
  key := record.key.1
  principalSub := record.key.2
  requestHash := record.digest
  responseStatus := 201
  responseBody := record.response

/-- The reads and the writes of a declaration are its route. -/
theorem declaration_split {body : DeclarationIn} (stated : request.body = .declaration body)
    (handled : handleIntake env request db = .ok (response, after)) :
    ∃ planned, plan env request db = .ok planned ∧ write env request planned db = .ok (response, after) := by
  rw [handleIntake, stated] at handled
  obtain ⟨middle, created, handled⟩ := Result.bind_ok.mp handled
  obtain ⟨_, fresh, created⟩ := Result.bind_ok.mp created
  refine ⟨.declaration body, ?_, ?_⟩
  · rw [plan, stated]
    exact Result.bind_ok.mpr ⟨(), fresh, rfl⟩
  · exact Result.bind_ok.mpr ⟨middle, created, handled⟩

/-- The reads and the writes of an assessment are its route. -/
theorem assessment_split {body : AssessmentCreateIn} (stated : request.body = .assessment body)
    (handled : handleIntake env request db = .ok (response, after)) :
    ∃ planned, plan env request db = .ok planned ∧ write env request planned db = .ok (response, after) := by
  rw [handleIntake, stated] at handled
  obtain ⟨⟨id, last⟩, created, handled⟩ := Result.bind_ok.mp handled
  obtain ⟨⟨declarationId, declaration⟩, named, created⟩ := Result.bind_ok.mp created
  obtain ⟨⟨assessmentId, middle⟩, assessed, announced⟩ := Result.bind_ok.mp created
  have answered : announce env request declaration assessmentId middle = .ok (response, after) :=
    Result.bind_ok.mpr ⟨(id, last), announced, handled⟩
  rw [translated_ok] at assessed
  unfold Assessments.createAssessment at assessed
  split at assessed
  case _ existing held =>
    cases assessed
    refine ⟨.existing declaration existing.1, ?_, answered⟩
    rw [plan, stated]
    refine Result.bind_ok.mpr ⟨_, named, ?_⟩
    dsimp only
    rw [held]
  case _ unheld =>
    obtain ⟨_, present, assessed⟩ := Result.bind_ok.mp assessed
    refine ⟨.assessment declarationId declaration
      (Assessments.linesOf declarationId db.declarationLines), ?_, ?_⟩
    · rw [plan, stated]
      refine Result.bind_ok.mpr ⟨_, named, ?_⟩
      dsimp only
      rw [unheld]
      exact Result.bind_ok.mpr ⟨(), translated_ok.mpr present, rfl⟩
    · exact Result.bind_ok.mpr ⟨(assessmentId, middle), translated_ok.mpr assessed, answered⟩

/-- The reads and the writes of a request are its route. -/
theorem split (handled : handleIntake env request db = .ok (response, after)) :
    ∃ planned, plan env request db = .ok planned ∧ write env request planned db = .ok (response, after) := by
  cases stated : request.body with
  | declaration body => exact declaration_split stated handled
  | assessment body => exact assessment_split stated handled

variable {records : List (Record (PyStr × PyStr) PyStr Value)}

/-- A record is for a key and a principal exactly when these are its key. -/
theorem isFor_row {key principalSub : PyStr} {record : Record (PyStr × PyStr) PyStr Value} :
    (row record).isFor key principalSub = true ↔ record.key = (key, principalSub) := by
  rw [IdempotencyRecord.isFor, Bool.and_eq_true, decide_eq_true_eq, decide_eq_true_eq, Prod.ext_iff]
  rfl

/-- The key of a request that presents one. -/
theorem service_key {key : PyStr} (stated : presented request.idemKey = some key) :
    (service env).key request = some (key, request.subject) := by
  change (presented request.idemKey).map (fun key => (key, request.subject)) = _
  rw [stated]
  rfl

/-- A request with an empty key has no key. -/
theorem service_keyless (stated : presented request.idemKey = none) :
    (service env).key request = none := by
  change (presented request.idemKey).map (fun key => (key, request.subject)) = _
  rw [stated]
  rfl

/-- A replay is that of a record of the request's key and digest. -/
theorem replay_some {found : IdempotencyRecord}
    (replayed : idempotentReplay env request.idemKey request.subject request.body.modelDump
      (records.map row) = .ok (some found)) :
    ∃ record ∈ records, (service env).key request = some record.key ∧
      record.digest = (service env).digest request ∧ row record = found := by
  obtain ⟨key, stated, listed, named, same⟩ := replay_found replayed
  obtain ⟨kept, member, rfl⟩ := List.mem_map.mp listed
  exact ⟨kept, member, by rw [service_key stated, isFor_row.mp named], same, rfl⟩

/-- No replay means no record of the request's key. -/
theorem replay_none
    (replayed : idempotentReplay env request.idemKey request.subject request.body.modelDump
      (records.map row) = .ok none) :
    ∀ record ∈ records, (service env).key request ≠ some record.key := by
  intro record member same
  cases stated : presented request.idemKey with
  | none =>
    rw [service_keyless stated] at same
    cases same
  | some key =>
    rw [service_key stated] at same
    have other := replay_none_iff.mp replayed key stated (row record) (List.mem_map_of_mem member)
    rw [isFor_row.mpr (Option.some.inj same).symm] at other
    cases other

/-- The record that is stored with a response is the one of the service. -/
theorem stored_ok {rows : List IdempotencyRecord}
    (stored : storeIdempotency env request.idemKey request.subject request.body.modelDump 201 response
      (records.map row) = .ok rows) :
    ∃ record, (service env).recordOf request response = some record ∧
      (∀ new, record = some new → ∀ other ∈ records, other.key ≠ new.key) ∧
      rows = (records ++ record.toList).map row := by
  rcases store_ok stored with ⟨keyless, rfl⟩ | ⟨key, kept, stated, column, primary, rfl⟩
  · refine ⟨none, ?_, (fun _ absurdity => by cases absurdity), by rw [Option.toList_none, List.append_nil]⟩
    rw [Service.recordOf, service_keyless keyless]
  · have keeps : (service env).keep request response = some kept := by
      change (match presented request.idemKey with
        | none => none
        | some key =>
          (storedResponse env key request.subject (bodyHash env request.body) 201 response).toOption) = _
      rw [stated]
      exact Result.toOption_some.mpr column
    refine ⟨some ⟨(key, request.subject), bodyHash env request.body, kept⟩, ?_, ?_, ?_⟩
    · rw [Service.recordOf, service_key stated, keeps]
      rfl
    · rintro _ ⟨⟩ other member same
      rw [List.any_eq_false] at primary
      exact primary (row other) (List.mem_map_of_mem member) (isFor_row.mpr same)
    · rw [Option.toList_some, List.map_append]
      rfl

variable {shared : Shared Db IntakeRequest (PyStr × PyStr) PyStr Value}

/-- A request that is answered from a record, by itself. -/
theorem alone_replayed {found : IdempotencyRecord}
    (replayed : idempotentReplay env request.idemKey request.subject request.body.modelDump
      (shared.records.map row) = .ok (some found)) :
    Sessions.Alone (protocol (service env)) shared (.incoming request)
      (shared.answer ⟨request, shared.finished.length, .replayed found.responseBody⟩) := by
  obtain ⟨record, stored, presented, same, rfl⟩ := replay_some replayed
  exact .next Acts.start (.last (Acts.replay presented stored same))

/-- A request that takes effect, by itself. -/
theorem alone_committed {rows : List IdempotencyRecord}
    (replayed : idempotentReplay env request.idemKey request.subject request.body.modelDump
      (shared.records.map row) = .ok none)
    (handled : handleIntake env request shared.data = .ok (response, after))
    (stored : storeIdempotency env request.idemKey request.subject request.body.modelDump 201 response
      (shared.records.map row) = .ok rows) :
    ∃ record later, Sessions.Alone (protocol (service env)) shared (.incoming request) later ∧
      later.data = after ∧ later.records.map row = rows ∧
      later.finished = shared.finished ++ [⟨request, shared.finished.length, .committed response record⟩] := by
  obtain ⟨planned, read, written⟩ := split handled
  obtain ⟨record, recorded, primary, rfl⟩ := stored_ok stored
  refine ⟨record, _, .next Acts.start (.next (Acts.pass (replay_none replayed)) (.next
    (Acts.plan (Result.toOption_some.mpr read)) (.next (Acts.write (Result.toOption_some.mpr written))
    (.next (Acts.insert recorded primary) (.last Acts.commit))))), rfl, rfl, rfl⟩

/-- A request that runs by itself is its route. -/
theorem alone {rows : List IdempotencyRecord}
    (answered : intake env request (shared.records.map row) shared.data = .ok (response, rows, after)) :
    ∃ later, Sessions.Alone (protocol (service env)) shared (.incoming request) later ∧
      later.data = after ∧ later.records.map row = rows := by
  obtain ⟨replay, replayed, answered⟩ := Result.bind_ok.mp answered
  cases replay with
  | some found =>
    cases answered
    exact ⟨_, alone_replayed replayed, rfl, rfl⟩
  | none =>
    obtain ⟨⟨first, middle⟩, handled, answered⟩ := Result.bind_ok.mp answered
    obtain ⟨stored, kept, answered⟩ := Result.bind_ok.mp answered
    cases answered
    obtain ⟨_, later, alone, data, records, _⟩ := alone_committed replayed handled kept
    exact ⟨later, alone, data, records⟩

end Alone

section Idempotent

open Sessions

/-- The records, the history and the transactions of the two routes. -/
abbrev IntakeWorld := World (Shared Db IntakeRequest (PyStr × PyStr) PyStr Value)
  (Session Db IntakeRequest (PyStr × PyStr) PyStr Value Plan)

/-- The interleavings of requests to the two routes. -/
abbrev Interleaved (env : Env) (db : Db) : IntakeWorld → Prop :=
  Reachable (protocol (service env)) (Shared.start db)

/-- The non-empty key of a request, with its principal. -/
def pair (request : IntakeRequest) : Option (PyStr × PyStr) :=
  (presented request.idemKey).map (fun key => (key, request.subject))

/-- The request took effect. -/
def tookEffect (finished : Finished IntakeRequest (PyStr × PyStr) PyStr Value) : Bool :=
  finished.outcome.isCommitted

/-- A request took effect, and its record keeps its response as the column stores it. -/
def Recorded (env : Env) (first : Finished IntakeRequest (PyStr × PyStr) PyStr Value)
    (response stored : Value) : Prop :=
  ∃ record, first.outcome = .committed response (some record) ∧ record.response = stored ∧
    env.jsonb response = some stored

/-- What a request is told that begins after another one of its key committed:
the stored response for the same body, and a conflict for a body with another
text, unless SHA-256 collides on the two texts. -/
def Told (env : Env) (first request : IntakeRequest) (stored : Value)
    (outcome : Idempotency.Outcome (PyStr × PyStr) PyStr Value) : Prop :=
  (request.body = first.body → outcome = .replayed stored) ∧
    (¬ Alike first.body request.body → NoCollision env first.body request.body → outcome = .conflict)

variable {first request : IntakeRequest} {record : Record (PyStr × PyStr) PyStr Value}
  {outcome : Idempotency.Outcome (PyStr × PyStr) PyStr Value}

/-- What a request keeps of its response is the column's text of it. -/
theorem kept_stored {response stored : Value} (kept : (service env).keep request response = some stored) :
    env.jsonb response = some stored := by
  change (match presented request.idemKey with
    | none => none
    | some key =>
      (storedResponse env key request.subject (bodyHash env request.body) 201 response).toOption) = _ at kept
  split at kept
  case _ => cases kept
  case _ key _ =>
    obtain ⟨_, _, column⟩ := Result.bind_ok.mp (Result.toOption_some.mp kept)
    exact Db.jsonbColumn_ok column

/-- The library's answer to a recorded key, in terms of the request bodies. -/
theorem told (digest : record.digest = (service env).digest first)
    (answers : (service env).Answers record request outcome) :
    Told env first request record.response outcome := by
  have hash : record.digest = bodyHash env first.body := digest
  constructor
  · intro same
    apply answers.1
    rw [hash, ← same]
    rfl
  · intro differs apart
    apply answers.2
    rw [hash]
    exact fun same => differs ((bodyHash_alike apart).mp same)

/-- At most one request commits under a key and principal; one that begins after
it is told the response that the first one recorded, or a conflict, and only commits
write. -/
theorem intake_idempotent {db : Db} {world : IntakeWorld} (run : Interleaved env db world) :
    (∀ key : PyStr × PyStr, world.shared.finished.countP
      (fun finished => tookEffect finished && decide (pair finished.request = some key)) ≤ 1) ∧
    (∀ (position : Nat) first, world.shared.finished[position]? = some first → tookEffect first = true →
      (pair first.request).isSome = true → ∃ response stored, Recorded env first response stored ∧
        (∀ later ∈ world.shared.finished, position < later.started →
          pair later.request = pair first.request →
            Told env first.request later.request stored later.outcome) ∧
        ∀ (id : Nat) session since, world.sessions id = some session → session.since = some since →
          position < since → pair session.request = pair first.request →
            ∃ outcome, Told env first.request session.request stored outcome ∧
              (protocol (service env)).acts world.shared session
                (world.shared.answer ⟨session.request, since, outcome⟩) none) ∧
    ∀ after, Step (protocol (service env)) world after →
      (after.shared.data = world.shared.data ∧ after.shared.records = world.shared.records) ∨
        ∃ finished, after.shared.finished = world.shared.finished ++ [finished] ∧
          tookEffect finished = true := by
  obtain ⟨good, sound⟩ := kept run
  refine ⟨good.once, ?_, fun after step => step_writes step⟩
  intro position first stored committed keyed
  obtain ⟨key, presents⟩ := Option.isSome_iff_exists.mp keyed
  have leaves : ∀ since, position < since → ∃ record response,
      Left world.shared.finished since record ∧ record.key = key ∧
        record.digest = (service env).digest first.request ∧
        first.outcome = .committed response (some record) ∧
        (service env).keep first.request response = some record.response :=
    fun since before => good.left stored before committed presents
  obtain ⟨record, response, _, sameKey, digest, outcome, stores⟩ :=
    leaves (position + 1) (Nat.lt_succ_self _)
  have only : ∀ since, position < since → Left world.shared.finished since record := by
    intro since before
    refine ⟨position, first, before, stored, ?_⟩
    rw [Finished.record?, outcome]
    rfl
  refine ⟨response, record.response, ⟨record, outcome, rfl, kept_stored stores⟩, ?_, ?_⟩
  · intro later member after same
    have presented : (service env).key later.request = some record.key := by
      rw [sameKey]
      exact same.trans presents
    exact told digest (good.answered later member record (only _ after) presented)
  · intro id session since runs began after same
    have presented : (service env).key session.request = some record.key := by
      rw [sameKey]
      exact same.trans presents
    obtain ⟨_, outcome, answers, acts⟩ :=
      (sound id session runs).answerable good (only since after) presented rfl began
    exact ⟨outcome, told digest answers, acts⟩

end Idempotent

section Sample

open Sessions

/-- The numbers of the sample declaration can be written. -/
theorem sample_legible : Sample.declaration.lines.all legibleLine = true := by decide +kernel

/-- The sample declaration for a consignee, under a key. -/
def sampleRequest (idemKey name : PyStr) : IntakeRequest where
  occasion := Sample.occasion
  subject := py "maker"
  idemKey := idemKey
  body := .declaration { Sample.declaration with consigneeName := name }
  body_legible := by
    rw [IntakeBody.legible]
    exact sample_legible

/-- The assessment of the sample declaration, under a key. -/
def sampleAssessment (idemKey : PyStr) : IntakeRequest where
  occasion := Sample.occasion
  subject := py "maker"
  idemKey := idemKey
  body := .assessment Sample.assessing
  body_legible := rfl

/-- What the lookup of a second request finds, and whether the route answers it. -/
def second (first later : IntakeRequest) : Option (Option IdempotencyRecord × Bool) := do
  let answered ← (intake .sample first [] .empty).toOption
  let replay ← (idempotentReplay .sample later.idemKey later.subject later.body.modelDump
    answered.2.1).toOption
  some (replay, (intake .sample later answered.2.1 answered.2.2).toOption.isSome)

/-- The first of all requests, by itself. -/
theorem first_commits {first : IntakeRequest} {response : Value} {rows : List IdempotencyRecord} {db : Db}
    (answered : intake .sample first [] .empty = .ok (response, rows, db)) :
    ∃ record later, Sessions.Alone (protocol (service .sample)) (Shared.start .empty) (.incoming first) later ∧
      later.data = db ∧ later.records.map row = rows ∧
        later.finished = [⟨first, 0, .committed response record⟩] := by
  have nothing : idempotentReplay .sample first.idemKey first.subject first.body.modelDump [] = .ok none := by
    rw [idempotentReplay]
    split <;> rfl
  rw [intake, nothing, Result.ok_bind] at answered
  obtain ⟨⟨handledResponse, middle⟩, handled, answered⟩ := Result.bind_ok.mp answered
  obtain ⟨stored, kept, answered⟩ := Result.bind_ok.mp answered
  cases answered
  exact alone_committed nothing handled kept

/-- An incoming request begins a session. -/
theorem begins (request : IntakeRequest) : (protocol (service env)).begins (.incoming request) :=
  ⟨request, rfl⟩

/-- Two requests, one after the other. -/
theorem followed {first later : IntakeRequest} {replay : Option IdempotencyRecord}
    (ran : (second first later) = some (replay, true)) :
    ∃ (world : IntakeWorld) (response : Value) (record : Option (Record (PyStr × PyStr) PyStr Value))
      (outcome : Idempotency.Outcome (PyStr × PyStr) PyStr Value),
      Interleaved .sample .empty world ∧
      world.shared.finished = [⟨first, 0, .committed response record⟩, ⟨later, 1, outcome⟩] ∧
      (replay = none → outcome.isCommitted = true) ∧
        ∀ found, replay = some found → outcome = .replayed found.responseBody := by
  obtain ⟨⟨response, rows, db⟩, answered, ran⟩ := Option.bind_eq_some_iff.mp ran
  obtain ⟨looked, replayed, ran⟩ := Option.bind_eq_some_iff.mp ran
  obtain ⟨rfl, answers⟩ := Prod.mk.inj (Option.some.inj ran)
  rw [Result.toOption_some] at answered replayed
  obtain ⟨record, middle, firstAlone, rfl, rfl, history⟩ := first_commits answered
  have begun := firstAlone.reachable (begins first)
  cases looked with
  | some found =>
    have answer := (alone_replayed replayed).reachable (begins later)
    refine ⟨_, response, record, .replayed found.responseBody, begun.trans answer, ?_, ?_, ?_⟩
    · change middle.finished ++ [_] = _
      rw [history]
      rfl
    · intro absurdity
      cases absurdity
    · rintro _ ⟨⟩
      rfl
  | none =>
    obtain ⟨⟨secondResponse, last⟩, succeeded⟩ := Option.isSome_iff_exists.mp answers
    rw [Result.toOption_some, intake, replayed, Result.ok_bind] at succeeded
    obtain ⟨⟨handledResponse, after⟩, handled, succeeded⟩ := Result.bind_ok.mp succeeded
    obtain ⟨stored, kept, succeeded⟩ := Result.bind_ok.mp succeeded
    obtain ⟨left, final, secondAlone, _, _, finished⟩ := alone_committed replayed handled kept
    have answer := secondAlone.reachable (begins later)
    have both : final.finished = [⟨first, 0, .committed response record⟩,
        ⟨later, 1, .committed handledResponse left⟩] := by
      rw [finished, history]
      rfl
    exact ⟨_, response, record, _, begun.trans answer, both, fun _ => rfl,
      fun _ absurdity => by cases absurdity⟩

/-- A consignee named by one character outside the basic plane. -/
def smiling : IntakeRequest := sampleRequest (py "K") [.scalar (Char.ofNat 0x1F600)]

/-- A consignee named by the two surrogates that stand for the character. -/
def surrogates : IntakeRequest := sampleRequest (py "K") [.lone ⟨0x3D, by decide +kernel⟩, .lone ⟨0x600, by decide⟩]

/-- The request has a key. -/
theorem keyed : (pair smiling).isSome = true := by decide

/-- The two consignees are different texts. -/
theorem bodies_differ : surrogates.body ≠ smiling.body := by
  intro same
  have names := congrArg (fun body => match body with
    | IntakeBody.declaration body => body.consigneeName
    | .assessment _ => []) same
  exact absurd names (by decide)

/-- The answers to two requests in turn, with what was checked of the second. -/
theorem answered {first later : IntakeRequest} {check : Option IdempotencyRecord → Bool}
    (found : (second first later).any (fun answer => check answer.1 && answer.2) = true) :
    ∃ replay, second first later = some (replay, true) ∧ check replay = true := by
  rw [Option.any_eq_true] at found
  obtain ⟨⟨replay, answers⟩, ran, checks⟩ := found
  rw [Bool.and_eq_true] at checks
  obtain ⟨checks, rfl⟩ := checks
  exact ⟨replay, ran, checks⟩

/-- Two requests with an empty key both take effect, and a body that differs in
its code points, not in its code units, is answered with the stored response. -/
theorem empty_key_and_surrogates :
    (∃ (world : IntakeWorld) (left right : Finished IntakeRequest (PyStr × PyStr) PyStr Value),
      Interleaved .sample .empty world ∧ world.shared.finished = [left, right] ∧
        left.request.idemKey = [] ∧ right.request.idemKey = left.request.idemKey ∧
        right.request.subject = left.request.subject ∧ tookEffect left = true ∧ tookEffect right = true) ∧
    ∃ (world : IntakeWorld) (left right : Finished IntakeRequest (PyStr × PyStr) PyStr Value) (stored : Value),
      Interleaved .sample .empty world ∧ world.shared.finished = [left, right] ∧ tookEffect left = true ∧
        right.started = 1 ∧ (pair left.request).isSome = true ∧ pair right.request = pair left.request ∧
        right.request.body ≠ left.request.body ∧ right.outcome = .replayed stored := by
  constructor
  · have found : (second (sampleRequest [] (py "Importer")) (sampleAssessment [])).any
        (fun answer => answer.1.isNone && answer.2) = true := by decide +kernel
    obtain ⟨replay, ran, unseen⟩ := answered found
    obtain ⟨world, response, record, outcome, run, history, committed, _⟩ := followed ran
    exact ⟨world, _, _, run, history, rfl, rfl, rfl, rfl, committed (Option.isNone_iff_eq_none.mp unseen)⟩
  · have found : (second smiling surrogates).any (fun answer => answer.1.isSome && answer.2) = true := by
      decide +kernel
    obtain ⟨replay, ran, seen⟩ := answered found
    obtain ⟨record, rfl⟩ := Option.isSome_iff_exists.mp seen
    obtain ⟨world, response, left, outcome, run, history, _, replayed⟩ := followed ran
    exact ⟨world, _, _, record.responseBody, run, history, rfl, rfl, keyed, rfl, bodies_differ,
      replayed record rfl⟩

/-- One request sent twice: the second time it is told what the first one recorded. -/
theorem intake_idempotent_sample :
    ∃ (world : IntakeWorld) (left right : Finished IntakeRequest (PyStr × PyStr) PyStr Value)
      (response stored : Value), Interleaved .sample .empty world ∧ world.shared.finished = [left, right] ∧
        right.request.body = left.request.body ∧ Recorded .sample left response stored ∧
        right.outcome = .replayed stored := by
  have found : (second smiling smiling).any (fun answer => answer.1.isSome && answer.2) = true := by
    decide +kernel
  obtain ⟨replay, ran, _⟩ := answered found
  obtain ⟨world, response, record, outcome, run, history, _⟩ := followed ran
  have first : world.shared.finished[0]? = some ⟨smiling, 0, .committed response record⟩ := by
    rw [history]
    rfl
  obtain ⟨response, stored, recorded, told, _⟩ := (intake_idempotent run).2.1 0 _ first rfl keyed
  have later : (⟨smiling, 1, outcome⟩ : Finished IntakeRequest (PyStr × PyStr) PyStr Value) ∈
      world.shared.finished := by
    rw [history]
    exact List.mem_cons_of_mem _ List.mem_cons_self
  exact ⟨world, _, _, response, stored, run, history, rfl, recorded, (told _ later Nat.zero_lt_one rfl).1 rfl⟩

end Sample

end TaxStamps.Intake
