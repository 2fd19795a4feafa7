import TaxStamps.Api.Sample
import TaxStamps.Effects.Scans
import TaxStamps.Library.Unwinding

/-!
# Public pre-checks do not interfere

Two runs of scans, voids and activations from one database, the second with
requests to `POST /v1/verify/public` inserted anywhere. The databases stay equal
up to attempts without a verifier, which no operation counts.
-/

namespace TaxStamps.PublicScans

open Unwinding

/-- The attempts that a public pre-check records. -/
def Anonymous (row : Verification) : Prop := row.publicScan = true ∧ row.verifierId = []

/-- The second database has the first one's rows and further anonymous attempts. -/
def Alike (left right : Db) : Prop :=
  ∃ rows, right = { left with verifications := rows } ∧ Padded Anonymous left.verifications rows

/-- Tables are like themselves. -/
theorem Alike.refl (db : Db) : Alike db db := ⟨db.verifications, rfl, .refl _⟩

/-- Equal values and databases that are alike. -/
def AlikeResult {α : Type} (left right : α × Db) : Prop := left.1 = right.1 ∧ Alike left.2 right.2

variable {env : Env} {occasion : Occasion} {left right : Db}

section Tables

/-- A constraint on the inserted row treats both alike. -/
theorem constrain_alike {table : String} {accepted : Bool} {leftAfter rightAfter : Db}
    (alike : Alike leftAfter rightAfter) :
    Coupled Alike (Db.constrain table accepted >>= fun _ => .ok leftAfter)
      (Db.constrain table accepted >>= fun _ => .ok rightAfter) :=
  Coupled.bind_same _ (fun _ => .ok alike)

/-- Inserting an attempt treats both alike. -/
theorem insertVerification_alike (row : Verification) (alike : Alike left right) :
    Coupled Alike (left.insertVerification row) (right.insertVerification row) := by
  obtain ⟨rows, rfl, padded⟩ := alike
  exact constrain_alike ⟨rows ++ [row], rfl, padded.append [row]⟩

/-- Inserting a message treats both alike. -/
theorem insertOutboxMessage_alike (row : OutboxMessage) (alike : Alike left right) :
    Coupled Alike (left.insertOutboxMessage env row) (right.insertOutboxMessage env row) := by
  obtain ⟨rows, rfl, padded⟩ := alike
  exact Coupled.bind_same _ (fun _ => constrain_alike ⟨rows, rfl, padded⟩)

/-- Inserting a snapshot treats both alike. -/
theorem insertStatusListSnapshot_alike (row : StatusListSnapshot) (alike : Alike left right) :
    Coupled Alike (left.insertStatusListSnapshot env row) (right.insertStatusListSnapshot env row) := by
  obtain ⟨rows, rfl, padded⟩ := alike
  exact Coupled.bind_same _ (fun _ => constrain_alike ⟨rows, rfl, padded⟩)

/-- Writing a batch treats both alike. -/
theorem updateStampBatch_alike (id : Nat) (change : StampBatch → StampBatch)
    (alike : Alike left right) :
    Coupled Alike (left.updateStampBatch id change) (right.updateStampBatch id change) := by
  obtain ⟨rows, rfl, padded⟩ := alike
  exact constrain_alike ⟨rows, rfl, padded⟩

/-- Writing a stamp treats both alike. -/
theorem updateStamp_alike (id : Nat) (change : Stamp → Stamp) (alike : Alike left right) :
    Alike (left.updateStamp id change) (right.updateStamp id change) := by
  obtain ⟨rows, rfl, padded⟩ := alike
  exact ⟨rows, rfl, padded⟩

end Tables

section Services

/-- Announcing an event treats both alike. -/
theorem enqueue_alike (event : Outbox.EventType) (resource : List (Key × Value))
    (principalId principalRole correlationId : PyStr) (alike : Alike left right) :
    Coupled Alike
      (Outbox.enqueue env occasion event resource principalId principalRole correlationId left)
      (Outbox.enqueue env occasion event resource principalId principalRole correlationId right) := by
  have numbered : right.outboxMessages.length = left.outboxMessages.length := by
    obtain ⟨rows, rfl, _⟩ := alike
    rfl
  unfold Outbox.enqueue
  rw [numbered]
  exact Coupled.bind_same _ (fun _ => insertOutboxMessage_alike _ alike)

/-- Setting a flag treats both alike. -/
theorem setFlag_alike (purpose : PyStr) (index : Nat) (alike : Alike left right) :
    Coupled Alike (StatusLists.setFlag env occasion purpose index left)
      (StatusLists.setFlag env occasion purpose index right) := by
  have shared : StatusLists.latest purpose right = StatusLists.latest purpose left := by
    obtain ⟨rows, rfl, _⟩ := alike
    rfl
  unfold StatusLists.setFlag StatusLists.publish StatusLists.currentList StatusLists.nextVersion
  rw [shared]
  apply Coupled.bind_same
  intro _
  apply Coupled.bind_same
  intro _
  apply Coupled.bind_same
  intro _
  apply Coupled.bind_same
  intro _
  exact insertStatusListSnapshot_alike _ alike

/-- The statement that writes a batch treats both alike. -/
theorem writeBatch_alike (batchId : Nat) (copy changed : StampBatch) (alike : Alike left right) :
    Coupled Alike (Issuance.writeBatch batchId copy changed left)
      (Issuance.writeBatch batchId copy changed right) :=
  updateStampBatch_alike _ _ alike

end Services

section Scans

open Verify

variable {scan : Scan} {serial : PyStr} {stampId : Nat} {stamp : Stamp}

/-- Recording an attempt treats both alike. -/
theorem recordAttempt_alike (presented : PyStr) (stampId : Option Nat) (outcome : Outcome)
    (detail : PyStr) (alike : Alike left right) :
    Coupled Alike (recordAttempt occasion scan presented stampId outcome detail left)
      (recordAttempt occasion scan presented stampId outcome detail right) :=
  insertVerification_alike _ alike

/-- The velocity of a stamp counts named verifiers only. -/
theorem velocitySuspect_alike (stampId : Nat) (alike : Alike left right) :
    velocitySuspect env occasion stampId right = velocitySuspect env occasion stampId left := by
  obtain ⟨rows, rfl, padded⟩ := alike
  have counted : ∀ start, rows.filter (inWindow stampId start) =
      left.verifications.filter (inWindow stampId start) := by
    intro start
    apply padded.filter_eq
    rintro row ⟨_, unnamed⟩
    simp [inWindow, unnamed]
  unfold velocitySuspect
  simp only [counted]

/-- An answer treats both alike. -/
theorem answer_alike (outcome : Outcome) (detail : PyStr) (alike : Alike left right) :
    Coupled AlikeResult (answer occasion scan serial stampId stamp outcome detail left)
      (answer occasion scan serial stampId stamp outcome detail right) :=
  (recordAttempt_alike _ _ _ _ alike).bind (fun _ _ recorded => .ok ⟨rfl, recorded⟩)

/-- A repeated scan treats both alike. -/
theorem repeatScan_alike (alike : Alike left right) :
    Coupled AlikeResult (repeatScan env occasion scan serial stampId stamp left)
      (repeatScan env occasion scan serial stampId stamp right) := by
  unfold repeatScan
  apply (recordAttempt_alike _ _ _ _ alike).bind
  intro first second recorded
  split
  · apply (setFlag_alike _ _ (updateStamp_alike _ _ recorded)).bind
    intro _ _ flagged
    exact .ok ⟨rfl, flagged⟩
  · exact .ok ⟨rfl, recorded⟩

/-- Consuming a stamp treats both alike. -/
theorem consumeStamp_alike (alike : Alike left right) :
    Coupled AlikeResult (consumeStamp env occasion scan serial stampId stamp left)
      (consumeStamp env occasion scan serial stampId stamp right) := by
  unfold consumeStamp
  apply (recordAttempt_alike _ _ _ _ (updateStamp_alike _ _ alike)).bind
  intro first second recorded
  rw [velocitySuspect_alike stampId recorded]
  apply Coupled.bind_same
  intro velocity
  apply (enqueue_alike _ _ _ _ _ recorded).bind
  intro _ _ queued
  exact .ok ⟨rfl, queued⟩

/-- A scan under the stamp's lock treats both alike. -/
theorem verifyLocked_alike (alike : Alike left right) :
    Coupled AlikeResult (verifyLocked env occasion scan serial stampId stamp left)
      (verifyLocked env occasion scan serial stampId stamp right) := by
  unfold verifyLocked
  split
  · exact answer_alike _ _ alike
  split
  · exact answer_alike _ _ alike
  split
  · exact repeatScan_alike alike
  split
  · exact answer_alike _ _ alike
  split
  · exact answer_alike _ _ alike
  apply Coupled.bind_same
  intro failures
  split
  · exact consumeStamp_alike alike
  · exact answer_alike _ _ alike

/-- Both find the same stamp under a serial. -/
theorem stampBySerial_alike (serial : PyStr) (alike : Alike left right) :
    stampBySerial serial right = stampBySerial serial left := by
  obtain ⟨rows, rfl, _⟩ := alike
  rfl

/-- A scan treats both alike. -/
theorem verifyStamp_alike (alike : Alike left right) :
    Coupled AlikeResult (verifyStamp env occasion scan serial left)
      (verifyStamp env occasion scan serial right) := by
  unfold verifyStamp
  dsimp only
  split
  · apply (recordAttempt_alike _ _ _ _ alike).bind
    intro _ _ recorded
    exact .ok ⟨rfl, recorded⟩
  · exact .error _
  · rw [stampBySerial_alike _ alike]
    split
    · apply (recordAttempt_alike _ _ _ _ alike).bind
      intro _ _ recorded
      exact .ok ⟨rfl, recorded⟩
    · exact verifyLocked_alike alike

/-- A void treats both alike. -/
theorem voidStamp_alike {reason principalSub : PyStr} (alike : Alike left right) :
    Coupled Alike (voidStamp env occasion serial reason principalSub left)
      (voidStamp env occasion serial reason principalSub right) := by
  unfold voidStamp
  rw [stampBySerial_alike _ alike]
  split
  · exact .error _
  split
  · exact .error _
  unfold voidLocked
  split
  · exact .ok alike
  · apply (setFlag_alike _ _ (updateStamp_alike _ _ alike)).bind
    intro _ _ flagged
    exact enqueue_alike _ _ _ _ _ flagged

end Scans

/-- An activation treats both alike. -/
theorem activateBatch_alike {subject : PyStr} {batchId : Nat} {locked : StampBatch}
    (alike : Alike left right) :
    Coupled AlikeResult (Issuance.activateBatch env occasion subject batchId locked left)
      (Issuance.activateBatch env occasion subject batchId locked right) := by
  obtain ⟨rows, rfl, padded⟩ := alike
  unfold Issuance.activateBatch
  apply Coupled.bind_same
  intro _
  apply Coupled.bind_same
  intro _
  have activated : Alike (Issuance.activateStamps batchId occasion.time left)
      (Issuance.activateStamps batchId occasion.time { left with verifications := rows }) :=
    ⟨rows, rfl, padded⟩
  apply (writeBatch_alike batchId _ _ activated).bind
  intro _ _ written
  apply (enqueue_alike _ _ _ _ _ written).bind
  intro _ _ queued
  exact .ok ⟨rfl, queued⟩

section Operations

/-- The requests of a run: three authenticated operations and the public check. -/
inductive Operation
  | verify (verifier : Verifier) (body : VerifyIn)
  | void (subject serial : PyStr) (body : VoidIn)
  | activate (subject : PyStr) (batchId : Nat)
  | verifyPublic (body : PublicVerifyIn)

/-- The request of an operation. -/
def Operation.request : Operation → Api.Request
  | .verify verifier body => .verify verifier body
  | .void subject serial body => .void subject serial body
  | .activate subject batchId => .activate subject batchId
  | .verifyPublic body => .verifyPublic body

/-- The public check is the one operation without authentication. -/
def Operation.public : Operation → Bool
  | .verifyPublic _ => true
  | _ => false

/-- The body of a response. -/
inductive Answer
  | scanned (result : Verify.ScanResult)
  | voided (stamp : Option (PyStr × StampStatus))
  | activated (count : Nat)
  | checked (answer : Api.PublicAnswer)

/-- The serial and the status that `void_stamp_route` answers with. -/
def voidAnswer (env : Env) (serial : PyStr) (db : Db) : Answer :=
  .voided ((Verify.stampBySerial (Serials.normalize env.unicode serial) db).map
    (fun found => (found.2.serial, found.2.status)))

/-- The response to an operation and the database it commits. -/
def execute (env : Env) (occasion : Occasion) (operation : Operation) (db : Db) :
    Result (Answer × Db) :=
  match operation with
  | .verify verifier body => do
    let (result, db) ← Api.verify env occasion verifier body db
    .ok (.scanned result, db)
  | .void subject serial body => do
    let db ← Api.voidStamp env occasion subject serial body db
    .ok (voidAnswer env serial db, db)
  | .activate subject batchId => do
    let (count, db) ← Api.activateBatch env occasion subject batchId db
    .ok (.activated count, db)
  | .verifyPublic body => do
    let (answer, db) ← Api.verifyPublic env occasion body db
    .ok (.checked answer, db)

/-- One operation: the response or the error, and the database afterwards. -/
def perform (env : Env) (step : Occasion × Operation) (db : Db) : Result Answer × Db :=
  match execute env step.1 step.2 db with
  | .ok (answer, committed) => (.ok answer, committed)
  | .error problem => (.error problem, db)

/-- An operation leaves the database that its request leaves. -/
theorem perform_submit (step : Occasion × Operation) (db : Db) :
    (perform env step db).2 = Api.submit env step.1 step.2.request db := by
  obtain ⟨occasion, operation⟩ := step
  have committed : (execute env occasion operation db).map Prod.snd =
      Api.handle env occasion operation.request db := by
    cases operation with
    | verify verifier body =>
      rw [execute, Operation.request, Api.handle]
      cases Api.verify env occasion verifier body db <;> rfl
    | void subject serial body =>
      rw [execute, Operation.request, Api.handle]
      cases Api.voidStamp env occasion subject serial body db <;> rfl
    | activate subject batchId =>
      rw [execute, Operation.request, Api.handle]
      cases Api.activateBatch env occasion subject batchId db <;> rfl
    | verifyPublic body =>
      rw [execute, Operation.request, Api.handle]
      cases Api.verifyPublic env occasion body db <;> rfl
  rw [perform, Api.submit, ← committed]
  cases execute env occasion operation db <;> rfl

/-- Translating exceptions treats both alike. -/
theorem translated_alike {α : Type} {rel : α → α → Prop} {translate : PyError → PyError}
    {first second : Result α} (coupled : Coupled rel first second) :
    Coupled rel (Api.translated translate first) (Api.translated translate second) := by
  cases coupled with
  | ok related => exact .ok related
  | error problem => exact .error _

/-- Both publish the same lists. -/
theorem loadStatusLists_alike (alike : Alike left right) :
    Api.loadStatusLists env right = Api.loadStatusLists env left := by
  obtain ⟨rows, rfl, _⟩ := alike
  unfold Api.loadStatusLists
  induction purposes with
  | nil => rfl
  | cons purpose rest inductionHypothesis =>
    rw [Api.loadLists, Api.loadLists, inductionHypothesis]
    rfl

/-- The public check of a serial treats both alike. -/
theorem publicCheck_alike {body : PublicVerifyIn} {serial : Value} (alike : Alike left right) :
    Coupled AlikeResult (Api.publicCheck env occasion body serial left)
      (Api.publicCheck env occasion body serial right) := by
  unfold Api.publicCheck
  split
  · split
    · apply (verifyStamp_alike alike).bind
      rintro ⟨result, _⟩ ⟨_, _⟩ ⟨rfl, verified⟩
      exact .ok ⟨rfl, verified⟩
    · exact .error _
  · exact .ok ⟨rfl, alike⟩

/-- Every operation treats both alike. -/
theorem execute_alike (operation : Operation) (alike : Alike left right) :
    Coupled AlikeResult (execute env occasion operation left) (execute env occasion operation right) := by
  cases operation with
  | verify verifier body =>
    have verified : Coupled AlikeResult (Api.verify env occasion verifier body left)
        (Api.verify env occasion verifier body right) := by
      unfold Api.verify
      rw [loadStatusLists_alike alike]
      exact Coupled.bind_same _ (fun _ => verifyStamp_alike alike)
    apply verified.bind
    rintro ⟨result, _⟩ ⟨_, _⟩ ⟨rfl, after⟩
    exact .ok ⟨rfl, after⟩
  | void subject serial body =>
    apply (translated_alike (voidStamp_alike alike)).bind
    intro first second after
    refine .ok ⟨?_, after⟩
    simp only [voidAnswer, stampBySerial_alike _ after]
  | activate subject batchId =>
    have batches : right.stampBatches[batchId]? = left.stampBatches[batchId]? := by
      obtain ⟨rows, rfl, _⟩ := alike
      rfl
    have activated : Coupled AlikeResult (Api.activateBatch env occasion subject batchId left)
        (Api.activateBatch env occasion subject batchId right) := by
      unfold Api.activateBatch
      rw [batches]
      exact Coupled.bind_same _ (fun _ => translated_alike (activateBatch_alike alike))
    apply activated.bind
    rintro ⟨count, _⟩ ⟨_, _⟩ ⟨rfl, after⟩
    exact .ok ⟨rfl, after⟩
  | verifyPublic body =>
    have checked : Coupled AlikeResult (Api.verifyPublic env occasion body left)
        (Api.verifyPublic env occasion body right) := by
      unfold Api.verifyPublic
      rw [loadStatusLists_alike alike]
      split
      · apply (publicCheck_alike alike).bind
        rintro ⟨scan, _⟩ ⟨_, _⟩ ⟨rfl, after⟩
        exact .ok ⟨rfl, after⟩
      · apply Coupled.bind_same
        intro serial
        apply Coupled.bind_same
        intro lists
        apply Coupled.bind_same
        intro failures
        apply (publicCheck_alike alike).bind
        rintro ⟨scan, _⟩ ⟨_, _⟩ ⟨rfl, after⟩
        exact .ok ⟨rfl, after⟩
    apply checked.bind
    rintro ⟨answer, _⟩ ⟨_, _⟩ ⟨rfl, after⟩
    exact .ok ⟨rfl, after⟩

end Operations

section Prechecks

variable {db after : Db} {body : PublicVerifyIn}

/-- The scan of a public check records an anonymous attempt and nothing else. -/
theorem verifyStamp_public {serial : PyStr} {result : Verify.ScanResult}
    (verified : Verify.verifyStamp env occasion (Api.publicScan body) serial db = .ok (result, after)) :
    ∃ row, Anonymous row ∧ after = { db with verifications := db.verifications ++ [row] } := by
  have presented := Verify.verifyStamp_ok verified
  generalize result.outcome = outcome at presented
  cases presented with
  | unmatched presented detail refused => exact ⟨_, ⟨rfl, rfl⟩, rfl⟩
  | matched parsed found scanned =>
    cases scanned with
    | answered detail plain => exact ⟨_, ⟨rfl, rfl⟩, rfl⟩
    | suspected _ _ _ named => exact absurd rfl named
    | consumes _ _ _ consume => exact absurd consume Bool.false_ne_true

/-- A public scan records an anonymous attempt at most. -/
theorem verifyPublic_ok {answer : Api.PublicAnswer}
    (checked : Api.verifyPublic env occasion body db = .ok (answer, after)) :
    after = db ∨ ∃ row, Anonymous row ∧
      after = { db with verifications := db.verifications ++ [row] } := by
  rcases Api.verifyPublic_scanned checked with rfl | ⟨serial, result, scanned⟩
  · exact Or.inl rfl
  · exact Or.inr (verifyStamp_public scanned)

/-- A public check keeps the databases alike, whether it commits or not. -/
theorem perform_public {step : Occasion × Operation} (isPublic : step.2.public = true)
    (alike : Alike left right) : Alike left (perform env step right).2 := by
  obtain ⟨occasion, operation⟩ := step
  cases operation with
  | verify | void | activate => cases isPublic
  | verifyPublic body =>
    rw [perform_submit]
    unfold Api.submit
    split
    case _ committed handled =>
      obtain ⟨rows, rfl, padded⟩ := alike
      simp only [Operation.request, Api.handle] at handled
      cases checked : Api.verifyPublic env occasion body { left with verifications := rows } with
      | error problem =>
        rw [checked] at handled
        cases handled
      | ok answered =>
        obtain ⟨answer, after⟩ := answered
        rw [checked] at handled
        obtain rfl : after = committed := Except.ok.inj handled
        rcases verifyPublic_ok checked with rfl | ⟨row, anonymous, rfl⟩
        · exact ⟨rows, rfl, padded⟩
        · exact ⟨rows ++ [row], rfl, padded.append_extra anonymous⟩
    case _ => exact alike

end Prechecks

/-- A public check keeps the relation from the second side, and every operation
keeps it and answers alike on both sides. -/
theorem unwinds : Unwinds (perform env) (fun step => step.2.public = true) Alike where
  consistent := by
    rintro ⟨occasion, operation⟩ left right alike
    have coupled := @execute_alike env occasion left right operation alike
    unfold perform
    dsimp only
    generalize execute env occasion operation left = first at coupled ⊢
    generalize execute env occasion operation right = second at coupled ⊢
    cases coupled with
    | ok related => exact ⟨congrArg Except.ok related.1, related.2⟩
    | error problem => exact ⟨rfl, alike⟩
  respects := by
    intro step left right isPublic alike
    exact perform_public isPublic alike

/-- With public checks inserted anywhere in a run, every operation of the run
answers as without them, and the final databases differ in anonymous attempts
only. -/
theorem public_checks_do_not_interfere (start : Db) {operations padded : List (Occasion × Operation)}
    (inserted : Padded (fun step => step.2.public = true) operations padded) :
    Padded (fun entry => entry.1.2.public = true) (trace (perform env) operations start)
      (trace (perform env) padded start) ∧
    ∃ attempts,
      finish (perform env) padded start =
        { finish (perform env) operations start with verifications := attempts } ∧
      Padded Anonymous (finish (perform env) operations start).verifications attempts :=
  unwinds.run inserted (Alike.refl start)

/-- A public check before the activation of the sample lot. -/
theorem public_checks_do_not_interfere_sample :
    let activation : Occasion × Operation := (Api.Sample.occasion, .activate (py "maker") 0)
    let precheck : Occasion × Operation := (Api.Sample.occasion, .verifyPublic
      ⟨some Api.Sample.serial, none, none, none, by decide, by simp, by decide, by decide, by decide⟩)
    let start := Api.Sample.state (Api.Sample.issuing ++
      [.inspection (py "inspector") 0 ⟨0, by decide⟩])
    ∃ attempts,
      finish (perform .sample) [precheck, activation] start =
        { finish (perform .sample) [activation] start with verifications := attempts } ∧
      Padded Anonymous (finish (perform .sample) [activation] start).verifications attempts :=
  (public_checks_do_not_interfere _ (.insert _ rfl (.keep _ .nil))).2

end TaxStamps.PublicScans
