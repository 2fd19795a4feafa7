import TaxStamps.Invariants.Walk

/-!
# Which attempts are recorded

A scan that answers has recorded one attempt with its outcome, so an attempt
leaves no trace exactly when an exception rolls it back. The exceptions are: a
credential that cannot be walked where it is walked, a malformed serial that the
column refuses, and a list whose version column is exhausted.
-/

namespace TaxStamps.Attempts

open Api Verify

variable {env : Env} {occasion : Occasion} {db : Db} {scan : Scan}

/-- The scan answered, and one attempt was recorded with its outcome. -/
def Recorded (db : Db) (computed : Result (ScanResult × Db)) : Prop :=
  ∃ result row after, computed = .ok (result, after) ∧
    after.verifications = db.verifications ++ [row] ∧ row.outcome = result.outcome

/-- A scan that answers has recorded its attempt. -/
theorem recorded_iff {serial : PyStr} : Recorded db (verifyStamp env occasion scan serial db) ↔
    ∃ answered, verifyStamp env occasion scan serial db = .ok answered := by
  constructor
  · rintro ⟨result, row, after, verified, _⟩
    exact ⟨_, verified⟩
  · rintro ⟨⟨result, after⟩, verified⟩
    have presented := verifyStamp_ok verified
    have row : ∃ row, after.verifications = db.verifications ++ [row] ∧ row.outcome = result.outcome := by
      generalize result.outcome = outcome at presented
      cases presented with
      | unmatched => exact ⟨_, rfl, rfl⟩
      | matched _ _ scanned => cases scanned <;> exact ⟨_, rfl, rfl⟩
    obtain ⟨row, appended, same⟩ := row
    exact ⟨result, row, after, verified, appended, same⟩

section Columns

/-- The scan's own values fit the columns of an attempt. -/
structure Columns (scan : Scan) : Prop where
  verifier : PyStr.fits 128 scan.verifierId = true
  lat : Db.microsColumn scan.latMicros = true
  long : Db.microsColumn scan.longMicros = true

/-- An attempt is recorded when its texts fit. -/
theorem recordAttempt_eq (columns : Columns scan) (presented : PyStr) (stampId : Option Nat)
    (outcome : Outcome) (detail : PyStr) :
    recordAttempt occasion scan presented stampId outcome detail db =
      if PyStr.fits 64 presented && textColumn detail then
        .ok { db with verifications := db.verifications ++
          [attempt occasion scan presented stampId outcome detail] }
      else .error (.dbApiError (py "verifications")) := by
  simp only [recordAttempt, Db.insertVerification, attempt, columns.verifier, columns.lat, columns.long,
    Bool.and_true, Db.constrain, Result.require]
  split <;> rfl

/-- A coordinate within its bounds fits its column. -/
theorem microsWithin_column {bound : Int} {value : Option Int} (small : bound ≤ 180000000)
    (within : microsWithin bound value = true) : Db.microsColumn value = true := by
  cases value with
  | none => rfl
  | some value =>
    simp only [microsWithin, Option.all_some, decide_eq_true_eq] at within
    simp only [Db.microsColumn, Option.all_some, bigIntegerColumn, decide_eq_true_eq]
    omega

/-- A coordinate within its bounds is a plain value. -/
theorem micros_plain {bound : Int} {value : Option Int} (small : bound ≤ 180000000)
    (within : microsWithin bound value = true) : (micros value).plain = true := by
  cases value with
  | none => rfl
  | some value =>
    simp only [microsWithin, Option.all_some, decide_eq_true_eq] at within
    have limit : Jcs.maxSafeInteger.natAbs = 9007199254740991 := rfl
    simp only [micros, Value.plain, decide_eq_true_eq, limit]
    omega

/-- What a stored stamp brings along. -/
structure StampFits (stamp : Stamp) : Prop where
  serial : PyStr.fits 64 stamp.serial = true
  reference : stamp.declarationRef.all Code.storable = true
  bounded : stamp.statusListIndex < defaultListSizeBits

/-- A stored stamp has texts that fit, and an index within the lists. -/
theorem stampFits (reached : Reachable env db) {stampId : Nat} {stamp : Stamp}
    (stored : db.stamps[stampId]? = some stamp) : StampFits stamp := by
  obtain ⟨time, chunk, earlier, fresh⟩ :=
    (Stamps.valid reached).documented stamp (List.mem_of_getElem? stored)
  obtain ⟨sequence, built⟩ := fresh.numbered
  obtain ⟨codes, length⟩ := Serials.buildSerial_codes built
  constructor
  · have written : stamp.serial.length = 24 := length
    rw [PyStr.fits, Bool.and_eq_true, decide_eq_true_eq, List.all_eq_true]
    exact ⟨by omega, fun code member => serialCode_storable (codes code member)⟩
  · exact Credential.fits_storable fresh.accepted.reference_fits
  · exact fresh.index_bounded

end Columns

section Locked

variable {serial : PyStr} {stampId : Nat} {stamp : Stamp}

/-- The scan of a stamp walks its credential. -/
structure Reads (stamp : Stamp) (time : Datetime) : Prop where
  active : stamp.status = .active
  current : time < stamp.validUntil
  unscanned : stamp.firstScanAt = none

/-- The scan repeats the first one under another verifier. -/
structure Repeats (stamp : Stamp) (verifierId : PyStr) : Prop where
  scanned : stamp.status = .consumed ∨ stamp.firstScanAt.isSome = true
  other : stamp.firstScanVerifier ≠ verifierId

/-- The scan of a stamp accuses it: it is the repeat by another, named verifier. -/
structure Accuses (verifierId : PyStr) (stamp : Stamp) (time : Datetime) : Prop extends
    Repeats stamp verifierId where
  live : Live stamp time
  named : verifierId ≠ []

/-- A stamp that a scan with this verifier and this credential can answer for. -/
structure Answerable (env : Env) (db : Db) (verifierId : PyStr) (presented : Option (List (Key × Value)))
    (stamp : Stamp) (time : Datetime) : Prop where
  walkable : Reads stamp time → ∀ credential, presented = some credential →
    Readable env db credential ∧ ReadableSubject credential
  room : Accuses verifierId stamp time → StatusLists.nextVersion (py "suspect") db ≤ 2147483647

/-- The lists that a scan checks against; a pre-check presents no credential. -/
structure Equipped (db : Db) (scan : Scan) : Prop where
  loaded : scan.consume = true → Loaded db purposes scan.statusLists
  bare : scan.consume = false → scan.credential = none

/-- An answer that leaves the stamp as it is can be recorded. -/
theorem answer_accepts (columns : Columns scan) (fits : PyStr.fits 64 serial = true) (outcome : Outcome)
    {detail : PyStr} (storable : textColumn detail = true) :
    ∃ answered, answer occasion scan serial stampId stamp outcome detail db = .ok answered := by
  rw [answer, recordAttempt_eq columns, fits, storable]
  exact ⟨_, rfl⟩

/-- A repeated scan is answered exactly when an accusation finds room for its list. -/
theorem repeatScan_iff (columns : Columns scan) (fits : StampFits stamp)
    (serialFits : PyStr.fits 64 serial = true) {marked : Nat → Prop}
    (tracks : StatusLists.Tracks env (py "suspect") db.statusListSnapshots marked) :
    (∃ answered, repeatScan env occasion scan serial stampId stamp db = .ok answered) ↔
      (stamp.firstScanVerifier ≠ scan.verifierId → scan.verifierId ≠ [] →
        StatusLists.nextVersion (py "suspect") db ≤ 2147483647) := by
  have repeated : textColumn (py "repeat scan") = true := by decide
  unfold repeatScan
  simp only [recordAttempt_eq columns, serialFits, repeated, Bool.and_self, if_true, Result.ok_bind]
  cases suspect : decide (stamp.firstScanVerifier ≠ scan.verifierId) && !scan.verifierId.isEmpty with
  | false =>
    simp only [Bool.false_eq_true, if_false]
    simp only [Bool.and_eq_false_iff, decide_eq_false_iff_not, Bool.not_eq_false',
      List.isEmpty_iff] at suspect
    constructor
    · intro _ other named
      rcases suspect with same | unnamed
      · exact absurd other same
      · exact absurd unnamed named
    · exact fun _ => ⟨_, rfl⟩
  | true =>
    simp only [if_true]
    simp only [Bool.and_eq_true, decide_eq_true_eq, Bool.not_eq_true', List.isEmpty_eq_false_iff]
      at suspect
    let recorded := { db with verifications := db.verifications ++
      [attempt occasion scan serial (some stampId) .cloneSuspect (py "repeat scan")] }
    have flags := @StatusLists.setFlag_iff env occasion
      (recorded.updateStamp stampId (fun row => { row with status := .suspect })) _ marked tracks
      (by decide) _ fits.bounded
    constructor
    · rintro ⟨answered, settled⟩ _ _
      obtain ⟨flagged, set, _⟩ := Result.bind_ok.mp settled
      exact flags.mp ⟨flagged, set⟩
    · intro room
      obtain ⟨flagged, set⟩ := flags.mpr (room suspect.1 suspect.2)
      exact ⟨_, by rw [set]; rfl⟩

/-- The clock can be moved back by the velocity window. -/
theorem velocitySuspect_accepts (env : Env) (occasion : Occasion) (stampId : Nat) (db : Db) :
    ∃ velocity, velocitySuspect env occasion stampId db = .ok velocity := by
  have inside : ∀ time hours : Int, 719162 * Datetime.microsPerDay ≤ time → time < Datetime.limit →
      0 ≤ hours ∧ hours ≤ 8760000 →
      0 ≤ time - hours * 3600000000 ∧ time - hours * 3600000000 < Datetime.limit := by
    intro time hours
    rw [Datetime.limit, Datetime.microsPerDay]
    omega
  have bounds := inside occasion.now.time env.settings.velocityWindowHours occasion.now.sinceEpoch
    occasion.now.representable env.settings.window_bounded
  have moved : ∃ start, Datetime.subHours occasion.time env.settings.velocityWindowHours = .ok start := by
    refine ⟨occasion.now.time - env.settings.velocityWindowHours * 3600000000, ?_⟩
    rw [Datetime.subHours]
    apply if_pos
    rw [Bool.and_eq_true, decide_eq_true_eq, decide_eq_true_eq]
    exact bounds
  obtain ⟨start, moved⟩ := moved
  exact ⟨_, by rw [velocitySuspect, moved]; rfl⟩

/-- The values that the event of a first scan carries. -/
structure Carried (scan : Scan) : Prop where
  lat : (micros scan.latMicros).plain = true
  long : (micros scan.longMicros).plain = true

/-- The resource of the event of a first scan. -/
def verifiedEvent (env : Env) (scan : Scan) (stamp : Stamp) (velocity : Bool) : List (Key × Value) :=
  [(key "serial", .str stamp.serial),
    (key "batchId", .str (env.uuid (py "stamp_batches") stamp.batchId)),
    (key "verifierId", .str scan.verifierId),
    (key "publicScan", .bool scan.publicScan),
    (key "latMicros", micros scan.latMicros),
    (key "longMicros", micros scan.longMicros),
    (key "velocitySuspect", .bool velocity)]

/-- The event of a consumed stamp is a plain document. -/
theorem verifiedEvent_plain (columns : Columns scan) (carried : Carried scan) (fits : StampFits stamp)
    (velocity : Bool) : (Value.dict (verifiedEvent env scan stamp velocity)).plain = true := by
  simp only [verifiedEvent, Value.plain, Value.plainMembers, List.map_cons, List.map_nil,
    Credential.fits_storable fits.serial, Credential.fits_storable columns.verifier, env.uuid_storable,
    carried.lat, carried.long, Bool.and_true]
  decide

/-- An event about a stamp is published under the identifier of the batch. -/
theorem eventKey_fits (env : Env) (stamp : Stamp) : PyStr.fits 128 (Outbox.orElse []
    (Outbox.orElse (env.uuid (py "stamp_batches") stamp.batchId) stamp.serial)) = true := by
  have length := env.uuid_length (py "stamp_batches") stamp.batchId
  have present : (env.uuid (py "stamp_batches") stamp.batchId).isEmpty = false := by
    rw [List.isEmpty_eq_false_iff, ← List.length_pos_iff]
    omega
  rw [Outbox.orElse, Outbox.orElse, present]
  simp only [List.isEmpty_nil, if_true, Bool.false_eq_true, if_false, PyStr.fits, Bool.and_eq_true,
    decide_eq_true_eq, env.uuid_storable, and_true]
  omega

/-- The event of a consumed stamp has a key that fits. -/
theorem verifiedEvent_keyed (velocity : Bool) :
    PyStr.fits 128 (Outbox.messageKey (verifiedEvent env scan stamp velocity)) = true := by
  have keyed : Outbox.messageKey (verifiedEvent env scan stamp velocity) =
      Outbox.orElse [] (Outbox.orElse (env.uuid (py "stamp_batches") stamp.batchId) stamp.serial) := rfl
  rw [keyed]
  exact eventKey_fits env stamp

/-- Consuming a stamp is answered. -/
theorem consumeStamp_accepts (columns : Columns scan) (carried : Carried scan) (fits : StampFits stamp)
    (serialFits : PyStr.fits 64 serial = true) :
    ∃ answered, consumeStamp env occasion scan serial stampId stamp db = .ok answered := by
  have first : textColumn (py "first scan") = true := by decide
  have principal : (Outbox.orElse scan.verifierId (py "public")).all Code.storable = true := by
    unfold Outbox.orElse
    split
    · decide
    · exact Credential.fits_storable columns.verifier
  have role : (py "verifier").all Code.storable = true := by decide
  unfold consumeStamp
  simp only [recordAttempt_eq columns, serialFits, first, Bool.and_self, if_true, Result.ok_bind]
  generalize { db.updateStamp stampId (consumed occasion.time scan) with
    verifications := (db.updateStamp stampId (consumed occasion.time scan)).verifications ++
      [attempt occasion scan serial (some stampId) .valid (py "first scan")] } = recorded
  obtain ⟨velocity, counted⟩ := velocitySuspect_accepts env occasion stampId recorded
  obtain ⟨queued, event⟩ := @Outbox.enqueue_accepts env occasion recorded .verified _ _ _ _
    (@verifiedEvent_plain env scan stamp columns carried fits velocity) principal role fits.reference
    (verifiedEvent_keyed velocity)
  rw [verifiedEvent] at event
  exact ⟨_, by rw [counted, Result.ok_bind, event]; rfl⟩

/-- A stamp can be voided while the next version of the list fits its column. -/
theorem voidLocked_accepts {reason principalSub : PyStr} (fits : StampFits stamp) {marked : Nat → Prop}
    (tracks : StatusLists.Tracks env (py "void") db.statusListSnapshots marked)
    (room : StatusLists.nextVersion (py "void") db ≤ 2147483647)
    (stated : reason.all Code.storable = true) (principal : principalSub.all Code.storable = true) :
    ∃ after, voidLocked env occasion reason principalSub stampId stamp db = .ok after := by
  have role : (py "excise-approver").all Code.storable = true := by decide
  have plain : (Value.dict [(key "serial", .str stamp.serial), (key "reason", .str reason),
      (key "batchId", .str (env.uuid (py "stamp_batches") stamp.batchId))]).plain = true := by
    simp only [Value.plain, Value.plainMembers, List.map_cons, List.map_nil,
      Credential.fits_storable fits.serial, stated, env.uuid_storable, Bool.and_true]
    decide
  have set := (@StatusLists.setFlag_iff env occasion
    (db.updateStamp stampId (fun row => { row with status := .void })) _ marked tracks (by decide) _
    fits.bounded).mpr room
  obtain ⟨flagged, set⟩ := set
  obtain ⟨queued, event⟩ := @Outbox.enqueue_accepts env occasion flagged .voided _ _ _ _ plain principal
    role fits.reference (eventKey_fits env stamp)
  rw [voidLocked, set, Result.ok_bind, event]
  split
  · exact ⟨_, rfl⟩
  · exact ⟨_, rfl⟩

/-- The scan of a stamp answers exactly when the stamp is answerable. -/
theorem verifyLocked_iff (columns : Columns scan) (carried : Carried scan) (fits : StampFits stamp)
    (serialFits : PyStr.fits 64 serial = true) {marked : Nat → Prop}
    (tracks : StatusLists.Tracks env (py "suspect") db.statusListSnapshots marked)
    (known : ∀ purpose, Listed db purpose → purpose ∈ purposes)
    (equipped : Equipped db scan) :
    (∃ answered, verifyLocked env occasion scan serial stampId stamp db = .ok answered) ↔
      Answerable env db scan.verifierId scan.credential stamp occasion.time := by
  have answers : ∀ outcome detail, textColumn detail = true →
      (Reads stamp occasion.time → scan.credential = none) →
      ¬ Accuses scan.verifierId stamp occasion.time →
      ((∃ answered, answer occasion scan serial stampId stamp outcome detail db = .ok answered) ↔
        Answerable env db scan.verifierId scan.credential stamp occasion.time) := by
    intro outcome detail storable unread unaccused
    constructor
    · intro _
      refine ⟨?_, fun accuses => absurd accuses unaccused⟩
      intro reads credential presented
      cases (unread reads).symm.trans presented
    · exact fun _ => answer_accepts columns serialFits outcome storable
  unfold verifyLocked
  split
  case isTrue void =>
    apply answers .void [] rfl
    · intro reads
      cases void.symm.trans reads.active
    · exact fun accuses => accuses.live.notVoid void
  case isFalse notVoid =>
    split
    case isTrue expired =>
      apply answers .expired [] rfl
      · intro reads
        rcases expired with expired | late
        · cases expired.symm.trans reads.active
        · exact absurd reads.current (not_lt.mpr late)
      · intro accuses
        rcases expired with expired | late
        · exact accuses.live.current.1 expired
        · exact absurd accuses.live.current.2 (not_lt.mpr late)
    case isFalse current =>
      have live : Live stamp occasion.time :=
        ⟨notVoid, fun expired => current (Or.inl expired), not_le.mp (fun late => current (Or.inr late))⟩
      split
      case isTrue scanned =>
        have unread : ¬ Reads stamp occasion.time := by
          intro reads
          rcases scanned with consumed | present
          · cases consumed.symm.trans reads.active
          · rw [reads.unscanned] at present
            cases present
        rw [repeatScan_iff columns fits serialFits tracks]
        constructor
        · intro room
          exact ⟨fun reads => absurd reads unread, fun accuses => room accuses.other accuses.named⟩
        · intro answerable other named
          exact answerable.room ⟨⟨scanned, other⟩, live, named⟩
      case isFalse unscanned =>
        have unaccused : ¬ Accuses scan.verifierId stamp occasion.time :=
          fun accuses => unscanned accuses.scanned
        split
        case isTrue inactive =>
          have detail : textColumn (py "stamp is " ++ stamp.status.name) = true := by
            cases stamp.status <;> decide
          exact answers .notActive _ detail (fun reads => absurd reads.active inactive) unaccused
        case isFalse active =>
          split
          case isTrue precheck =>
            have inert : scan.consume = false := by simpa using precheck
            exact answers .active _ (by decide) (fun _ => equipped.bare inert) unaccused
          case isFalse consume =>
            have consume : scan.consume = true := by simpa using consume
            have reads : Reads stamp occasion.time := by
              refine ⟨not_not.mp active, live.current.2, ?_⟩
              rw [← Option.not_isSome_iff_eq_none]
              exact fun present => unscanned (Or.inr present)
            have walked : Answerable env db scan.verifierId scan.credential stamp occasion.time ↔
                ∃ failures, credentialFailures env scan.credential serial scan.statusLists = .ok failures := by
              rw [credentialFailures_iff (equipped.loaded consume) known]
              constructor
              · exact fun answerable => answerable.walkable reads
              · exact fun walkable => ⟨fun _ => walkable, fun accuses => absurd accuses unaccused⟩
            rw [walked]
            constructor
            · rintro ⟨answered, checked⟩
              obtain ⟨failures, found, _⟩ := Result.bind_ok.mp checked
              exact ⟨failures, found⟩
            · rintro ⟨failures, found⟩
              rw [found, Result.ok_bind]
              have storable := join_storable (by decide : (py "; ").all Code.storable = true)
                (credentialFailures_storable (equipped.loaded consume) found)
              split
              · exact consumeStamp_accepts columns carried fits serialFits
              · exact answer_accepts columns serialFits .invalidCredential storable

/-- A presented serial that can be recorded: it is well formed, or the column
accepts what is stored of it. -/
def Presentable (env : Env) (serial : PyStr) : Prop :=
  (∃ parts, Serials.parseSerial env.unicode (Serials.normalize env.unicode serial) = .ok parts) ∨
    ((Serials.normalize env.unicode serial).take 64).all Code.storable = true

/-- A presented serial whose stamp, when there is one, is answerable. -/
def StampAnswers (env : Env) (occasion : Occasion) (db : Db) (verifierId : PyStr)
    (presented : Option (List (Key × Value))) (serial : PyStr) : Prop :=
  ∀ parts stampId stamp,
    Serials.parseSerial env.unicode (Serials.normalize env.unicode serial) = .ok parts →
    stampBySerial parts.serial db = some (stampId, stamp) →
    Answerable env db verifierId presented stamp occasion.time

/-- A serial is refused with a text that every column accepts. -/
theorem parseSerial_refuses {text : PyStr} {problem : PyError}
    (refused : Serials.parseSerial env.unicode text = .error problem) :
    ∃ detail, problem = .serialError detail ∧ textColumn detail = true := by
  unfold Serials.parseSerial Serials.parseNormalized at refused
  split at refused
  case _ => exact ⟨_, (Except.error.inj refused).symm, by decide⟩
  case _ =>
    split at refused
    · cases refused
    · exact ⟨_, (Except.error.inj refused).symm, by decide⟩

/-- A published list has one of the known purposes. -/
theorem listed_known (reached : Reachable env db) {purpose : PyStr} (listed : Listed db purpose) :
    purpose ∈ purposes := by
  obtain ⟨row, member, rfl⟩ := listed
  have each : py "void" ∈ purposes ∧ py "suspect" ∈ purposes := by decide
  rcases (Mirror.valid reached).known row member with same | same
  · exact same ▸ each.1
  · exact same ▸ each.2

/-- A scan is recorded exactly when its serial can be and its stamp is answerable. -/
theorem verifyStamp_iff (reached : Reachable env db) (columns : Columns scan) (carried : Carried scan)
    (equipped : Equipped db scan) {serial : PyStr} :
    Recorded db (verifyStamp env occasion scan serial db) ↔
      Presentable env serial ∧
        StampAnswers env occasion db scan.verifierId scan.credential serial := by
  have mirrored := Mirror.valid reached
  rw [recorded_iff]
  unfold verifyStamp Presentable StampAnswers
  dsimp only
  cases parsed : Serials.parseSerial env.unicode (Serials.normalize env.unicode serial) with
  | error problem =>
    obtain ⟨detail, rfl, storable⟩ := parseSerial_refuses parsed
    have short : ((Serials.normalize env.unicode serial).take 64).length ≤ 64 := List.length_take_le _ _
    simp only [recordAttempt_eq columns, storable, PyStr.fits, short, decide_true, Bool.true_and,
      Bool.and_true]
    cases ((Serials.normalize env.unicode serial).take 64).all Code.storable <;> simp
  | ok parts =>
    have serialFits := Serials.parseSerial_fits parsed
    dsimp only
    cases found : stampBySerial parts.serial db with
    | none =>
      constructor
      · intro _
        refine ⟨Or.inl ⟨parts, rfl⟩, ?_⟩
        rintro _ _ _ ⟨⟩ same
        cases found.symm.trans same
      · intro _
        exact ⟨_, by rw [recordAttempt_eq columns, serialFits]; rfl⟩
    | some row =>
      obtain ⟨stampId, stamp⟩ := row
      have fits := stampFits reached (Rows.select_some found).1
      have locked := @verifyLocked_iff env occasion db scan parts.serial stampId stamp columns carried fits
        serialFits _ mirrored.suspect (fun _ listed => listed_known reached listed) equipped
      constructor
      · intro answered
        refine ⟨Or.inl ⟨parts, rfl⟩, ?_⟩
        rintro _ _ _ ⟨⟩ same
        obtain ⟨rfl, rfl⟩ := Prod.mk.inj (Option.some.inj (found.symm.trans same))
        exact locked.mp answered
      · rintro ⟨_, answerable⟩
        exact locked.mpr (answerable parts stampId stamp rfl found)

end Locked

section Field

variable {verifier : Verifier} {body : VerifyIn}

/-- The values of an authenticated scan fit the columns of its attempt. -/
theorem fieldScan_columns (lists : Lists) : Columns (fieldScan verifier body lists) :=
  ⟨verifier.stored, microsWithin_column (by decide) body.lat_bounded, microsWithin_column (by decide) body.long_bounded⟩

/-- The event of an authenticated scan carries its position. -/
theorem fieldScan_carried (lists : Lists) : Carried (fieldScan verifier body lists) :=
  ⟨micros_plain (by decide) body.lat_bounded, micros_plain (by decide) body.long_bounded⟩

/-- `POST /v1/verify` records its attempt exactly under these conditions. -/
theorem verify_iff (reached : Reachable env db) :
    Recorded db (verify env occasion verifier body db) ↔ Presentable env body.serial ∧
      StampAnswers env occasion db verifier.verifierId body.credential body.serial := by
  obtain ⟨lists, found, loaded⟩ := loadLists_ok (Mirror.valid reached) purposes
  rw [verify, loadStatusLists, found]
  exact verifyStamp_iff reached (fieldScan_columns lists) (fieldScan_carried lists) ⟨fun _ => loaded, fun impossible => (nomatch impossible)⟩

end Field

section Public

variable {body : PublicVerifyIn}

/-- The serial that a public check is given: its own, or that of the subject. -/
def givenSerial (body : PublicVerifyIn) : Value :=
  if (body.serial.getD []).isEmpty then
    match body.credential with
    | none => .none
    | some credential => match Value.lookup (key "credentialSubject") credential with
      | some (.dict subject) => (Value.lookup (key "serial") subject).getD .none
      | _ => .none
  else .str (body.serial.getD [])

/-- The check answered, and where a serial was given it recorded one attempt
with the outcome. -/
def PublicRecorded (db : Db) (body : PublicVerifyIn) (computed : Result (PublicAnswer × Db)) : Prop :=
  ∃ answer after, computed = .ok (answer, after) ∧ ((givenSerial body).truthy = true →
    ∃ result row, answer.scan = some result ∧ after.verifications = db.verifications ++ [row] ∧
      row.outcome = result.outcome)

/-- A public check that answers: its credential can be walked, and the serial it
is given is a text that can be recorded. -/
structure PublicAnswers (env : Env) (db : Db) (body : PublicVerifyIn) : Prop where
  walkable : ∀ credential, body.credential = some credential →
    Readable env db credential ∧ (body.serial.getD [] = [] → ReadableSubject credential)
  presentable : (givenSerial body).truthy = true →
    ∃ text, givenSerial body = .str text ∧ Presentable env text

/-- The check of a given serial answers exactly when it is a text that can be
recorded. -/
theorem publicCheck_iff (reached : Reachable env db) {serial : Value} :
    (∃ scan after, publicCheck env occasion body serial db = .ok (scan, after) ∧
      (serial.truthy = true → ∃ result row, scan = some result ∧
        after.verifications = db.verifications ++ [row] ∧ row.outcome = result.outcome)) ↔
      (serial.truthy = true → ∃ text, serial = .str text ∧ Presentable env text) := by
  have columns : Columns (publicScan body) :=
    ⟨rfl, microsWithin_column (by decide) body.lat_bounded,
      microsWithin_column (by decide) body.long_bounded⟩
  have carried : Carried (publicScan body) :=
    ⟨micros_plain (by decide) body.lat_bounded, micros_plain (by decide) body.long_bounded⟩
  have equipped : Equipped db (publicScan body) :=
    ⟨fun impossible => (nomatch impossible), fun _ => rfl⟩
  have recorded : ∀ text, Recorded db (verifyStamp env occasion (publicScan body) text db) ↔
      Presentable env text := by
    intro text
    rw [verifyStamp_iff reached columns carried equipped, and_iff_left_iff_imp]
    intro _ parts stampId stamp _ _
    exact ⟨fun _ _ impossible => (nomatch impossible), fun accuses => absurd rfl accuses.named⟩
  unfold publicCheck
  cases given : serial.truthy with
  | false => exact ⟨fun _ impossible => (nomatch impossible), fun _ => ⟨_, _, rfl, fun impossible => (nomatch impossible)⟩⟩
  | true =>
    simp only [if_true, forall_true_left]
    cases serial with
    | str text =>
      simp only [Value.str.injEq, exists_eq_left']
      rw [← recorded]
      constructor
      · rintro ⟨scan, after, checked, result, row, rfl, appended, same⟩
        obtain ⟨⟨stated, final⟩, verified, answered⟩ := Result.bind_ok.mp checked
        cases answered
        exact ⟨stated, row, final, verified, appended, same⟩
      · rintro ⟨result, row, after, verified, appended, same⟩
        exact ⟨some result, after, by rw [verified]; rfl, result, row, rfl, appended, same⟩
    | _ => simp

/-- The serial of a check with a credential is found when the subject can be
read or is not asked. -/
theorem publicSerial_iff {credential : List (Key × Value)} (presented : body.credential = some credential)
    {serial : Value} : publicSerial (body.serial.getD []) credential = .ok serial ↔
      (body.serial.getD [] = [] → ReadableSubject credential) ∧ givenSerial body = serial := by
  unfold publicSerial givenSerial
  rw [presented]
  cases given : (body.serial.getD []).isEmpty with
  | false =>
    have stated : body.serial.getD [] ≠ [] := List.isEmpty_eq_false_iff.mp given
    simp [stated]
  | true =>
    have absent : body.serial.getD [] = [] := List.isEmpty_iff.mp given
    simp only [if_true, absent, forall_true_left, Verify.subjectSerial, ReadableSubject]
    cases Value.lookup (key "credentialSubject") credential with
    | none => simp [Value.get?, Value.lookup]
    | some subject => cases subject <;> simp [Value.get?, key]

/-- `POST /v1/verify/public` records its attempt exactly under these conditions. -/
theorem verifyPublic_iff (reached : Reachable env db) :
    PublicRecorded db body (verifyPublic env occasion body db) ↔ PublicAnswers env db body := by
  have checks := @publicCheck_iff env occasion db body reached (givenSerial body)
  cases presented : body.credential with
  | none =>
    have stated : (body.serial.getD []).isEmpty = false := by
      have something := body.something
      rw [presented, Option.any_none, Bool.or_false, Bool.not_eq_true'] at something
      exact something
    have given : givenSerial body = .str (body.serial.getD []) := by
      rw [givenSerial, stated]
      rfl
    have conditions : PublicAnswers env db body ↔ ((givenSerial body).truthy = true →
        ∃ text, givenSerial body = .str text ∧ Presentable env text) := by
      refine ⟨PublicAnswers.presentable, fun presentable => ⟨?_, presentable⟩⟩
      intro credential impossible
      cases presented.symm.trans impossible
    rw [conditions, ← checks, verifyPublic, presented, ← given]
    constructor
    · rintro ⟨answer, after, answered, recorded⟩
      obtain ⟨⟨scan, final⟩, checked, same⟩ := Result.bind_ok.mp answered
      cases same
      exact ⟨scan, _, checked, recorded⟩
    · rintro ⟨scan, after, checked, recorded⟩
      exact ⟨⟨none, scan⟩, after, by rw [checked]; rfl, recorded⟩
  | some credential =>
    obtain ⟨lists, loadedLists, loaded⟩ := loadLists_ok (Mirror.valid reached) purposes
    have offline := @verifyCredentialOffline_iff env db lists credential loaded
      (fun _ listed => listed_known reached listed)
    rw [verifyPublic, presented]
    simp only [loadStatusLists, loadedLists, Result.ok_bind]
    constructor
    · rintro ⟨answer, after, answered, recorded⟩
      obtain ⟨serial, subject, answered⟩ := Result.bind_ok.mp answered
      obtain ⟨failures, walked, answered⟩ := Result.bind_ok.mp answered
      obtain ⟨⟨scan, final⟩, checked, same⟩ := Result.bind_ok.mp answered
      cases same
      obtain ⟨readable, rfl⟩ := (publicSerial_iff presented).mp subject
      refine ⟨?_, checks.mp ⟨scan, _, checked, recorded⟩⟩
      intro other same
      obtain rfl := Option.some.inj (presented.symm.trans same)
      exact ⟨offline.mp ⟨failures, walked⟩, readable⟩
    · intro answers
      obtain ⟨readable, subject⟩ := answers.walkable credential presented
      obtain ⟨failures, walked⟩ := offline.mpr readable
      obtain ⟨scan, after, checked, recorded⟩ := checks.mpr answers.presentable
      refine ⟨⟨some failures, scan⟩, after, ?_, recorded⟩
      rw [(publicSerial_iff presented).mpr ⟨subject, rfl⟩, Result.ok_bind, walked, Result.ok_bind, checked]
      rfl

end Public

/-- An attempt is answered and recorded exactly when its serial can be recorded,
the credential can be walked where it is walked, and the list of suspects has
room where the scan accuses. -/
theorem every_attempt_recorded_iff (reached : Reachable env db) (occasion : Occasion)
    (verifier : Verifier) (field : VerifyIn) (precheck : PublicVerifyIn) :
    (Recorded db (verify env occasion verifier field db) ↔ Presentable env field.serial ∧
      StampAnswers env occasion db verifier.verifierId field.credential field.serial) ∧
    (PublicRecorded db precheck (verifyPublic env occasion precheck db) ↔ PublicAnswers env db precheck) :=
  ⟨verify_iff reached, verifyPublic_iff reached⟩

section Sample

/-- A registered verifier. -/
def inspector : Verifier := ⟨py "device-1", by decide, by decide +kernel⟩

/-- A scan of the sample stamp whose credential has a null among its status entries. -/
def nullStatus : VerifyIn :=
  { Sample.scan with
    credential := some [(key "credentialStatus", .list [.none])]
    credential_json := by
      rintro _ ⟨⟩
      exact ⟨by simp, ⟨_, rfl⟩, ⟨trivial, trivial⟩, trivial⟩ }

/-- A public check with a serial only. -/
def serialOnly : PublicVerifyIn where
  serial := some Sample.serial
  credential := none
  latMicros := none
  longMicros := none
  serial_length := by decide
  credential_json := Sample.scan.credential_json
  lat_bounded := Sample.scan.lat_bounded
  long_bounded := Sample.scan.long_bounded
  something := by decide

/-- The condition for the entry `null` under the status of a credential, and for a serial
alone. -/
theorem every_attempt_recorded_iff_sample :
    let db := Sample.state Sample.activating
    (Recorded db (verify .sample Sample.occasion inspector nullStatus db) ↔
      Presentable .sample Sample.serial ∧
        StampAnswers .sample Sample.occasion db (py "device-1") nullStatus.credential Sample.serial) ∧
    (PublicRecorded db serialOnly (verifyPublic .sample Sample.occasion serialOnly db) ↔
      PublicAnswers .sample db serialOnly) :=
  every_attempt_recorded_iff (Sample.state_reachable _) Sample.occasion inspector nullStatus serialOnly

/-- The exception that such an entry raises rolls the attempt back. -/
theorem null_status_unrecorded :
    Reachable .sample (Sample.state Sample.activating) ∧
      ¬ Recorded (Sample.state Sample.activating)
        (verify .sample Sample.occasion inspector nullStatus (Sample.state Sample.activating)) := by
  refine ⟨Sample.state_reachable _, ?_⟩
  have escapes : (verify .sample Sample.occasion inspector nullStatus
      (Sample.state Sample.activating)).toOption.isNone = true := by decide +kernel
  rintro ⟨result, row, after, answered, _⟩
  rw [answered] at escapes
  cases escapes

end Sample

end TaxStamps.Attempts
