import TaxStamps.Effects.Stamps

/-!
# Scans, voids and publications

What a scan, a void and the publication of a list do to the tables when they
succeed.
-/

namespace TaxStamps

variable {env : Env} {occasion : Occasion} {db after : Db}

namespace StatusLists

/-- A snapshot under a version that its purpose did not have. -/
structure Published (env : Env) (db : Db) (purpose : PyStr) (version : Int) (list : StatusList)
    (row : StatusListSnapshot) : Prop where
  ofPurpose : row.purpose = purpose
  numbered : row.version = version
  unique : ∀ other ∈ db.statusListSnapshots, other.purpose = purpose → other.version ≠ version
  credential : ∃ now signed, StatusList.build env now (listCredentialId env.settings purpose) purpose list
      (verificationMethod env.settings) = .ok signed ∧ env.jsonb (.dict signed) = some row.credential

/-- A published list is a new snapshot that holds its credential. -/
theorem publish_ok {purpose : PyStr} {version : Int} {list : StatusList}
    (published : publish env occasion purpose version list db = .ok after) :
    ∃ row, Published env db purpose version list row ∧
      after = { db with statusListSnapshots := db.statusListSnapshots ++ [row] } := by
  obtain ⟨signed, built, inserted⟩ := Result.bind_ok.mp published
  obtain ⟨stored, kept, unique, rfl⟩ := Db.insertStatusListSnapshot_ok inserted
  refine ⟨_, ?_, rfl⟩
  exact ⟨rfl, rfl, unique, occasion.time, signed, built, kept⟩

/-- A flag is set in a copy of the current list, which becomes the next version. -/
theorem setFlag_ok {purpose : PyStr} {index : Nat} (set : setFlag env occasion purpose index db = .ok after) :
    purpose ∈ purposes ∧ ∃ list row, currentList env purpose db = .ok list ∧ index < list.sizeBits ∧
      Published env db purpose (nextVersion purpose db) (list.write index true) row ∧
      after = { db with statusListSnapshots := db.statusListSnapshots ++ [row] } := by
  obtain ⟨_, known, set⟩ := Result.bind_ok.mp set
  rw [Result.require_ok, decide_eq_true_eq] at known
  obtain ⟨list, current, set⟩ := Result.bind_ok.mp set
  obtain ⟨flagged, marked, published⟩ := Result.bind_ok.mp set
  obtain ⟨bounded, rfl⟩ := StatusList.set_ok marked
  obtain ⟨row, shown, rfl⟩ := publish_ok published
  exact ⟨known, list, row, current, bounded, shown, rfl⟩

end StatusLists

namespace Verify

/-- The answers that leave a stamp as it is. -/
def Plain (stamp : Stamp) (time : Datetime) : Outcome → Prop
  | .void => stamp.status = .void
  | .expired => stamp.status = .expired ∨ stamp.validUntil ≤ time
  | .alreadyVerified => stamp.status = .consumed ∨ stamp.firstScanAt.isSome = true
  | .notActive => stamp.status ≠ .active
  | .active => stamp.status = .active
  | .invalidCredential => stamp.status = .active
  | _ => False

/-- A scan that was not answered by one of the terminal states. -/
structure Live (stamp : Stamp) (time : Datetime) : Prop where
  notVoid : stamp.status ≠ .void
  current : stamp.status ≠ .expired ∧ time < stamp.validUntil

/-- What a scan of a stamp does: it records an attempt, and the repeat by
another verifier makes the stamp suspect, the first valid scan consumes it. -/
inductive Scanned (env : Env) (occasion : Occasion) (scan : Scan) (serial : PyStr) (stampId : Nat)
    (stamp : Stamp) (db : Db) : Outcome → Db → Prop
  | answered {outcome : Outcome} (detail : PyStr) (plain : Plain stamp occasion.time outcome) :
      Scanned env occasion scan serial stampId stamp db outcome
        { db with verifications := db.verifications ++
            [attempt occasion scan serial (some stampId) outcome detail] }
  | suspected {list : StatusList} {row : StatusListSnapshot} (live : Live stamp occasion.time)
      (scanned : stamp.status = .consumed ∨ stamp.firstScanAt.isSome = true)
      (other : stamp.firstScanVerifier ≠ scan.verifierId) (named : scan.verifierId ≠ [])
      (current : StatusLists.currentList env (py "suspect") db = .ok list)
      (bounded : stamp.statusListIndex < list.sizeBits)
      (published : StatusLists.Published env db (py "suspect")
        (StatusLists.nextVersion (py "suspect") db) (list.write stamp.statusListIndex true) row) :
      Scanned env occasion scan serial stampId stamp db .cloneSuspect
        { db with
          verifications := db.verifications ++
            [attempt occasion scan serial (some stampId) .cloneSuspect (py "repeat scan")]
          stamps := db.stamps.modify stampId (fun row => { row with status := .suspect })
          statusListSnapshots := db.statusListSnapshots ++ [row] }
  | consumes {message : OutboxMessage} (live : Live stamp occasion.time)
      (active : stamp.status = .active) (unscanned : stamp.firstScanAt = none)
      (consume : scan.consume = true)
      (credible : credentialFailures env scan.credential serial scan.statusLists = .ok []) :
      Scanned env occasion scan serial stampId stamp db .valid
        { db with
          stamps := db.stamps.modify stampId (consumed occasion.time scan)
          verifications := db.verifications ++
            [attempt occasion scan serial (some stampId) .valid (py "first scan")]
          outboxMessages := db.outboxMessages ++ [message] }

/-- A recorded attempt is one row of what the scan presented. -/
theorem recordAttempt_ok {scan : Scan} {serial : PyStr} {stampId : Option Nat} {outcome : Outcome}
    {detail : PyStr} (recorded : recordAttempt occasion scan serial stampId outcome detail db = .ok after) :
    after = { db with verifications := db.verifications ++
      [attempt occasion scan serial stampId outcome detail] } :=
  Db.insertVerification_ok recorded

/-- An answer without consequences is a case of a scanned stamp. -/
theorem answer_ok {scan : Scan} {serial : PyStr} {stampId : Nat} {stamp : Stamp} {outcome : Outcome}
    {detail : PyStr} {result : ScanResult} (plain : Plain stamp occasion.time outcome)
    (answered : answer occasion scan serial stampId stamp outcome detail db = .ok (result, after)) :
    Scanned env occasion scan serial stampId stamp db result.outcome after := by
  obtain ⟨middle, recorded, answered⟩ := Result.bind_ok.mp answered
  obtain ⟨rfl, rfl⟩ := Prod.mk.inj (Except.ok.inj answered)
  obtain rfl := recordAttempt_ok recorded
  exact .answered detail plain

/-- A repeated scan either is answered or accuses the stamp, as a case of a scanned stamp. -/
theorem repeatScan_ok {scan : Scan} {serial : PyStr} {stampId : Nat} {stamp : Stamp}
    {result : ScanResult} (live : Live stamp occasion.time)
    (scanned : stamp.status = .consumed ∨ stamp.firstScanAt.isSome = true)
    (repeated : repeatScan env occasion scan serial stampId stamp db = .ok (result, after)) :
    Scanned env occasion scan serial stampId stamp db result.outcome after := by
  unfold repeatScan at repeated
  dsimp only at repeated
  cases suspected : decide (stamp.firstScanVerifier ≠ scan.verifierId) && !scan.verifierId.isEmpty with
  | true =>
    rw [suspected] at repeated
    simp only [if_true] at repeated
    obtain ⟨middle, recorded, repeated⟩ := Result.bind_ok.mp repeated
    obtain ⟨last, flagged, repeated⟩ := Result.bind_ok.mp repeated
    obtain ⟨rfl, rfl⟩ := Prod.mk.inj (Except.ok.inj repeated)
    obtain rfl := recordAttempt_ok recorded
    obtain ⟨_, list, row, current, bounded, published, rfl⟩ := StatusLists.setFlag_ok flagged
    simp only [Bool.and_eq_true, decide_eq_true_eq, Bool.not_eq_true', List.isEmpty_eq_false_iff]
      at suspected
    exact .suspected live scanned suspected.1 suspected.2 current bounded
      ⟨published.ofPurpose, published.numbered, published.unique, published.credential⟩
  | false =>
    rw [suspected] at repeated
    simp only [Bool.false_eq_true, if_false, Result.ok_bind] at repeated
    obtain ⟨middle, recorded, repeated⟩ := Result.bind_ok.mp repeated
    obtain ⟨rfl, rfl⟩ := Prod.mk.inj (Except.ok.inj repeated)
    obtain rfl := recordAttempt_ok recorded
    exact .answered _ scanned

/-- A consuming scan of a credible credential is a case of a scanned stamp. -/
theorem consumeStamp_ok {scan : Scan} {serial : PyStr} {stampId : Nat} {stamp : Stamp}
    {result : ScanResult} (live : Live stamp occasion.time) (active : stamp.status = .active)
    (unscanned : stamp.firstScanAt = none) (consume : scan.consume = true)
    (credible : credentialFailures env scan.credential serial scan.statusLists = .ok [])
    (consuming : consumeStamp env occasion scan serial stampId stamp db = .ok (result, after)) :
    Scanned env occasion scan serial stampId stamp db result.outcome after := by
  obtain ⟨middle, recorded, consuming⟩ := Result.bind_ok.mp consuming
  obtain ⟨velocity, _, consuming⟩ := Result.bind_ok.mp consuming
  obtain ⟨last, queued, consuming⟩ := Result.bind_ok.mp consuming
  obtain ⟨rfl, rfl⟩ := Prod.mk.inj (Except.ok.inj consuming)
  obtain rfl := recordAttempt_ok recorded
  obtain ⟨message, rfl⟩ := Outbox.enqueue_ok queued
  exact .consumes live active unscanned consume credible

/-- Every answer under the stamp's lock is a case of a scanned stamp. -/
theorem verifyLocked_ok {scan : Scan} {serial : PyStr} {stampId : Nat} {stamp : Stamp}
    {result : ScanResult}
    (verified : verifyLocked env occasion scan serial stampId stamp db = .ok (result, after)) :
    Scanned env occasion scan serial stampId stamp db result.outcome after := by
  unfold verifyLocked at verified
  split at verified
  case isTrue void => exact answer_ok (by exact void) verified
  case isFalse notVoid =>
    split at verified
    case isTrue expired => exact answer_ok (by exact expired) verified
    case isFalse current =>
      have live : Live stamp occasion.time :=
        ⟨notVoid, fun expired => current (Or.inl expired),
          not_le.mp (fun late => current (Or.inr late))⟩
      split at verified
      case isTrue scanned => exact repeatScan_ok live scanned verified
      case isFalse unscanned =>
        split at verified
        case isTrue inactive => exact answer_ok (by exact inactive) verified
        case isFalse active =>
          have active : stamp.status = .active := not_not.mp active
          split at verified
          case isTrue => exact answer_ok (by exact active) verified
          case isFalse consume =>
            obtain ⟨failures, checked, verified⟩ := Result.bind_ok.mp verified
            split at verified
            case isTrue none =>
              have unscanned : stamp.firstScanAt = Option.none := by
                rw [← Option.not_isSome_iff_eq_none]
                exact fun scanned => unscanned (Or.inr scanned)
              rw [List.isEmpty_iff.mp none] at checked
              exact consumeStamp_ok live active unscanned (by simpa using consume) checked verified
            case isFalse => exact answer_ok (by exact active) verified

/-- What a presented serial does: an attempt without a stamp, or a scan of the
stamp with the serial. -/
inductive Presented (env : Env) (occasion : Occasion) (scan : Scan) (serial : PyStr) (db : Db) :
    Outcome → Db → Prop
  | unmatched {outcome : Outcome} (presented detail : PyStr)
      (refused : outcome = .malformedSerial ∨ outcome = .unknownSerial) :
      Presented env occasion scan serial db outcome { db with
        verifications := db.verifications ++ [attempt occasion scan presented none outcome detail] }
  | matched {parts : Serials.SerialParts} {stampId : Nat} {stamp : Stamp} {outcome : Outcome} {after : Db}
      (parsed : Serials.parseSerial env.unicode (Serials.normalize env.unicode serial) = .ok parts)
      (found : stampBySerial parts.serial db = some (stampId, stamp))
      (scanned : Scanned env occasion scan parts.serial stampId stamp db outcome after) :
      Presented env occasion scan serial db outcome after

/-- A scan that answers presented a serial that is unmatched or a stored stamp's. -/
theorem verifyStamp_ok {scan : Scan} {serial : PyStr} {result : ScanResult}
    (verified : verifyStamp env occasion scan serial db = .ok (result, after)) :
    Presented env occasion scan serial db result.outcome after := by
  unfold verifyStamp at verified
  dsimp only at verified
  split at verified
  case _ text _ =>
    obtain ⟨middle, recorded, verified⟩ := Result.bind_ok.mp verified
    obtain ⟨rfl, rfl⟩ := Prod.mk.inj (Except.ok.inj verified)
    obtain rfl := recordAttempt_ok recorded
    exact .unmatched _ _ (Or.inl rfl)
  case _ => cases verified
  case _ parts parsed =>
    split at verified
    case _ =>
      obtain ⟨middle, recorded, verified⟩ := Result.bind_ok.mp verified
      obtain ⟨rfl, rfl⟩ := Prod.mk.inj (Except.ok.inj verified)
      obtain rfl := recordAttempt_ok recorded
      exact .unmatched _ _ (Or.inr rfl)
    case _ stampId stamp found => exact .matched parsed found (verifyLocked_ok verified)

/-- What a void does: nothing to a stamp that is void already; otherwise the
status, the flag and the event. -/
inductive Voided (env : Env) (stampId : Nat) (stamp : Stamp) (db : Db) : Db → Prop
  | already (void : stamp.status = .void) : Voided env stampId stamp db db
  | voids {list : StatusList} {row : StatusListSnapshot} {message : OutboxMessage}
      (open_ : stamp.status ≠ .void)
      (current : StatusLists.currentList env (py "void") db = .ok list)
      (bounded : stamp.statusListIndex < list.sizeBits)
      (published : StatusLists.Published env db (py "void")
        (StatusLists.nextVersion (py "void") db) (list.write stamp.statusListIndex true) row) :
      Voided env stampId stamp db { db with
        stamps := db.stamps.modify stampId (fun row => { row with status := .void })
        statusListSnapshots := db.statusListSnapshots ++ [row]
        outboxMessages := db.outboxMessages ++ [message] }

/-- A void under the stamp's lock sets its status and its flag in the void list. -/
theorem voidLocked_ok {reason principalSub : PyStr} {stampId : Nat} {stamp : Stamp}
    (voided : voidLocked env occasion reason principalSub stampId stamp db = .ok after) :
    Voided env stampId stamp db after := by
  unfold voidLocked at voided
  split at voided
  case isTrue void =>
    cases voided
    exact .already void
  case isFalse open_ =>
    obtain ⟨middle, flagged, queued⟩ := Result.bind_ok.mp voided
    obtain ⟨_, list, row, current, bounded, published, rfl⟩ := StatusLists.setFlag_ok flagged
    obtain ⟨message, rfl⟩ := Outbox.enqueue_ok queued
    exact .voids open_ current bounded
      ⟨published.ofPurpose, published.numbered, published.unique, published.credential⟩

/-- A void is of a stored stamp. -/
theorem voidStamp_ok {serial reason principalSub : PyStr}
    (voided : voidStamp env occasion serial reason principalSub db = .ok after) :
    ∃ stampId stamp, db.stamps[stampId]? = some stamp ∧ Voided env stampId stamp db after := by
  unfold voidStamp at voided
  split at voided
  case isTrue => cases voided
  case isFalse =>
    split at voided
    case _ => cases voided
    case _ stampId stamp found =>
      exact ⟨stampId, stamp, (Rows.select_some found).1, voidLocked_ok voided⟩

end Verify

namespace Api

variable {body : PublicVerifyIn}

/-- The public check of a serial writes what the scan of it writes, if it scans one. -/
theorem publicCheck_scanned {serial : Value} {scan : Option Verify.ScanResult}
    (checked : publicCheck env occasion body serial db = .ok (scan, after)) :
    after = db ∨ ∃ text result,
      Verify.verifyStamp env occasion (publicScan body) text db = .ok (result, after) := by
  unfold publicCheck at checked
  split at checked
  case isTrue =>
    split at checked
    case _ =>
      obtain ⟨⟨result, middle⟩, verified, checked⟩ := Result.bind_ok.mp checked
      obtain ⟨_, rfl⟩ := Prod.mk.inj (Except.ok.inj checked)
      exact Or.inr ⟨_, result, verified⟩
    case _ => cases checked
  case isFalse =>
    obtain ⟨_, rfl⟩ := Prod.mk.inj (Except.ok.inj checked)
    exact Or.inl rfl

/-- A public scan writes what the scan of a serial writes, if it scans one. -/
theorem verifyPublic_scanned {answer : PublicAnswer}
    (verified : verifyPublic env occasion body db = .ok (answer, after)) :
    after = db ∨ ∃ text result,
      Verify.verifyStamp env occasion (publicScan body) text db = .ok (result, after) := by
  unfold verifyPublic at verified
  split at verified
  case _ =>
    obtain ⟨⟨scan, middle⟩, checked, verified⟩ := Result.bind_ok.mp verified
    obtain ⟨_, rfl⟩ := Prod.mk.inj (Except.ok.inj verified)
    exact publicCheck_scanned checked
  case _ =>
    obtain ⟨serial, _, verified⟩ := Result.bind_ok.mp verified
    obtain ⟨lists, _, verified⟩ := Result.bind_ok.mp verified
    obtain ⟨failures, _, verified⟩ := Result.bind_ok.mp verified
    obtain ⟨⟨scan, middle⟩, checked, verified⟩ := Result.bind_ok.mp verified
    obtain ⟨_, rfl⟩ := Prod.mk.inj (Except.ok.inj verified)
    exact publicCheck_scanned checked

end Api

end TaxStamps
