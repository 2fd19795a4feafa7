import TaxStamps.Invariants.Verdicts

/-!
# The velocity of a stamp

The count of different verifiers in the trailing window goes into the event of a
first scan and nowhere else. The suspect bit follows the accusations, and a scan
accuses when it repeats the first one under another verifier, however many
verifiers the window holds.
-/

namespace TaxStamps.Velocity

open Api Attempts Verify Verdicts

variable {env : Env} {db after : Db} {occasion : Occasion} {scan : Scan} {serial : PyStr}
  {stampId : Nat} {stamp : Stamp} {outcome : Outcome}

/-- The verifiers of the attempts on a stamp that fall into the trailing window. -/
def windowVerifiers (env : Env) (time : Datetime) (stampId : Nat) (rows : List Verification) : List PyStr :=
  (rows.filter (inWindow stampId (time - env.settings.velocityWindowHours * 3600000000))).map
    Verification.verifierId

/-- The window holds as many different verifiers as the threshold asks for. -/
def Crowded (env : Env) (verifiers : List PyStr) : Prop :=
  env.settings.velocityDistinctDevices ≤ verifiers.dedup.length

/-- A crowded window comes with the stamp's bit in the latest `suspect` list. -/
def CloneFlagged (env : Env) (time : Datetime) (stampId : Nat) (stamp : Stamp) (after : Db) : Prop :=
  Crowded env (windowVerifiers env time stampId after.verifications) →
    Mirror.PublishedBit env after (py "suspect") stamp.statusListIndex

section Scans

/-- A scan records one attempt on its stamp. -/
theorem scanned_attempt (scanned : Scanned env occasion scan serial stampId stamp db outcome after) :
    ∃ detail, after.verifications =
      db.verifications ++ [attempt occasion scan serial (some stampId) outcome detail] := by
  cases scanned with
  | answered detail => exact ⟨detail, rfl⟩
  | suspected => exact ⟨_, rfl⟩
  | consumes => exact ⟨_, rfl⟩

/-- The scan's own verifier joins the window. -/
theorem window_scanned (named : scan.verifierId ≠ [])
    (scanned : Scanned env occasion scan serial stampId stamp db outcome after) :
    windowVerifiers env occasion.time stampId after.verifications =
      windowVerifiers env occasion.time stampId db.verifications ++ [scan.verifierId] := by
  obtain ⟨detail, recorded⟩ := scanned_attempt scanned
  have hours := env.settings.window_bounded.1
  have inside : inWindow stampId (occasion.time - env.settings.velocityWindowHours * 3600000000)
      (attempt occasion scan serial (some stampId) outcome detail) = true := by
    have begun : occasion.time - env.settings.velocityWindowHours * 3600000000 ≤ occasion.time :=
      Int.sub_le_self _ (Int.mul_nonneg hours (by decide))
    simp [inWindow, attempt, begun, named]
  rw [windowVerifiers, recorded, List.filter_append, List.filter_singleton, inside, List.map_append]
  rfl

/-- A scan leaves the index of its stamp. -/
theorem index_scanned (stored : db.stamps[stampId]? = some stamp)
    (scanned : Scanned env occasion scan serial stampId stamp db outcome after) :
    ∃ row, after.stamps[stampId]? = some row ∧ row.statusListIndex = stamp.statusListIndex := by
  cases scanned with
  | answered => exact ⟨stamp, stored, rfl⟩
  | suspected => exact ⟨_, Rows.stored_modify_self stored, rfl⟩
  | consumes => exact ⟨_, Rows.stored_modify_self stored, rfl⟩

/-- An accusation of the stamp is old or the scan's own verdict. -/
theorem accused_scanned (scanned : Scanned env occasion scan serial stampId stamp db outcome after) :
    Mirror.Accused after.verifications stampId ↔
      Mirror.Accused db.verifications stampId ∨ outcome = .cloneSuspect := by
  obtain ⟨detail, recorded⟩ := scanned_attempt scanned
  rw [recorded, Mirror.accused_append]
  simp [attempt]

/-- The verdict that accuses is given on a repeat under another verifier. -/
theorem repeats_of_suspected
    (scanned : Scanned env occasion scan serial stampId stamp db .cloneSuspect after) :
    Repeats stamp scan.verifierId := by
  cases scanned with
  | answered detail plain => exact plain.elim
  | suspected _ repeated other _ _ _ _ => exact ⟨repeated, other⟩

/-- A repeat under another verifier on a stamp in circulation is given it. -/
theorem suspected_of_repeats (open_ : stamp.status ≠ .void) (valid : stamp.status ≠ .expired)
    (current : occasion.time < stamp.validUntil) (named : scan.verifierId ≠ [])
    (repeats : Repeats stamp scan.verifierId) {result : ScanResult}
    (verified : verifyLocked env occasion scan serial stampId stamp db = .ok (result, after)) :
    result.outcome = .cloneSuspect := by
  have unexpired : ¬ (stamp.status = .expired ∨ stamp.validUntil ≤ occasion.time) :=
    not_or.mpr ⟨valid, not_le.mpr current⟩
  have suspect : (decide (stamp.firstScanVerifier ≠ scan.verifierId) && !scan.verifierId.isEmpty) = true := by
    simp [repeats.other, named]
  rw [verifyLocked, if_neg open_, if_neg unexpired, if_pos repeats.scanned, repeatScan, suspect] at verified
  obtain ⟨middle, _, verified⟩ := Result.bind_ok.mp verified
  obtain ⟨last, _, verified⟩ := Result.bind_ok.mp verified
  cases verified
  rfl

/-- A scan that answers commits what its route does. -/
theorem handled_of_verify {verifier : Verifier} {body : VerifyIn} {result : ScanResult}
    (verified : verify env occasion verifier body db = .ok (result, after)) :
    handle env occasion (.verify verifier body) db = .ok after := by
  simp only [handle, verified, Except.map]

/-- An authenticated scan that presents a stamp decides under its lock. -/
theorem locked_of_verify (reached : Reachable env db) {verifier : Verifier} {body : VerifyIn}
    (presents : Presents env db body.serial stampId stamp) {result : ScanResult}
    (verified : verify env occasion verifier body db = .ok (result, after)) :
    ∃ lists, verifyLocked env occasion (fieldScan verifier body lists) stamp.serial stampId stamp db =
      .ok (result, after) := by
  obtain ⟨lists, _, verified⟩ := Result.bind_ok.mp verified
  exact ⟨lists, (verifyStamp_locked reached presents).symm.trans verified⟩

/-- After a scan, the stamp's suspect bit says whether the stamp was accused. -/
theorem published_scanned (later : Reachable env after) (stored : db.stamps[stampId]? = some stamp)
    (scanned : Scanned env occasion scan serial stampId stamp db outcome after) :
    Mirror.PublishedBit env after (py "suspect") stamp.statusListIndex ↔
      Mirror.Accused after.verifications stampId := by
  obtain ⟨row, kept, index⟩ := index_scanned stored scanned
  rw [← index]
  exact Mirror.suspect_published (Mirror.valid later) (Stamps.valid later) kept

/-- A stamp in circulation: activated, and neither void nor expired. -/
def Circulating (stamp : Stamp) : Prop :=
  stamp.status = .active ∨ stamp.status = .consumed ∨ stamp.status = .suspect

/-- A stamp in circulation is neither void nor expired. -/
theorem Circulating.live (circulating : Circulating stamp) :
    stamp.status ≠ .void ∧ stamp.status ≠ .expired := by
  rcases circulating with status | status | status <;> simp [status]

/-- After an authenticated scan of a stamp in circulation, a crowded window comes
with the suspect bit exactly when the window was not crowded, the stamp had been
accused before, or the scan is itself a repeat under another verifier. -/
theorem velocity_flags_iff (reached : Reachable env db) {verifier : Verifier} {body : VerifyIn}
    (presents : Presents env db body.serial stampId stamp) (circulating : Circulating stamp)
    (current : occasion.time < stamp.validUntil) {result : ScanResult}
    (verified : verify env occasion verifier body db = .ok (result, after)) :
    CloneFlagged env occasion.time stampId stamp after ↔
      ¬ Crowded env (windowVerifiers env occasion.time stampId db.verifications ++
          [verifier.verifierId]) ∨
        Mirror.Accused db.verifications stampId ∨ Repeats stamp verifier.verifierId := by
  have later := reached.commit (handled_of_verify verified)
  obtain ⟨lists, locked⟩ := locked_of_verify reached presents verified
  have scanned := verifyLocked_ok locked
  rw [CloneFlagged, published_scanned later presents.stored scanned, accused_scanned scanned,
    window_scanned verifier.named scanned]
  rw [imp_iff_not_or]
  apply or_congr Iff.rfl
  apply or_congr Iff.rfl
  constructor
  · intro accused
    rw [accused] at scanned
    exact repeats_of_suspected scanned
  · intro repeats
    have named : (fieldScan verifier body lists).verifierId ≠ [] := verifier.named
    exact suspected_of_repeats circulating.live.1 circulating.live.2 current named repeats locked

end Scans

section Sample

/-- A device of the field force. -/
def device (name : PyStr) (named : name ≠ []) (stored : PyStr.fits 128 name = true) : Verifier :=
  ⟨name, named, stored⟩

/-- Two devices have scanned an active stamp of the sample. -/
def scannedTwice : List Request :=
  Sample.activating ++ [.verify (device (py "dev-a") (by decide) (by decide)) Sample.scan,
    .verify (device (py "dev-b") (by decide) (by decide)) Sample.scan]

/-- The third of the sample's devices. -/
def thirdDevice : Verifier := device (py "dev-c") (by decide) (by decide +kernel)

/-- What the sample shows when a third device scans the stamp. -/
def uncaught (db : Db) : Bool :=
  (verify .sample Sample.occasion thirdDevice Sample.scan db).toOption.any (fun answer =>
    decide (3 ≤ (windowVerifiers .sample Sample.occasion.time 0 answer.2.verifications).dedup.length) &&
    answer.2.verifications.all (fun row => decide (row.outcome ≠ .cloneSuspect))) &&
  db.stamps[0]?.any (fun stamp => decide (stamp.serial = Sample.serial) &&
    decide (stamp.status = .active) && decide (Sample.occasion.time < stamp.validUntil))

/-- The third scan succeeds, crowds the window and accuses nobody. -/
theorem sample_uncaught : ∃ (stamp : Stamp) (result : ScanResult) (after : Db),
    Presents .sample (Sample.state scannedTwice) Sample.scan.serial 0 stamp ∧ stamp.status = .active ∧
    Sample.occasion.time < stamp.validUntil ∧
    verify .sample Sample.occasion thirdDevice Sample.scan (Sample.state scannedTwice) =
      .ok (result, after) ∧
    Crowded .sample (windowVerifiers .sample Sample.occasion.time 0 after.verifications) ∧
    ¬ Mirror.Accused after.verifications 0 := by
  have shown : uncaught (Sample.state scannedTwice) = true := by decide +kernel
  rw [uncaught, Bool.and_eq_true, Option.any_eq_true, Option.any_eq_true] at shown
  obtain ⟨⟨⟨result, after⟩, verified, counts⟩, stamp, stored, facts⟩ := shown
  rw [Bool.and_eq_true, decide_eq_true_eq, List.all_eq_true] at counts
  simp only [Bool.and_eq_true, decide_eq_true_eq] at facts
  obtain ⟨⟨named, active⟩, current⟩ := facts
  refine ⟨stamp, result, after, sample_presents stored named, active, current,
    Result.toOption_some.mp verified, Int.ofNat_le.mpr counts.1, ?_⟩
  rintro ⟨row, member, _, accuses⟩
  exact of_decide_eq_true (counts.2 row member) accuses

/-- What decides on the flag after the third device's scan. -/
theorem velocity_flags_iff_sample : ∃ (stamp : Stamp) (after : Db), stamp.status = .active ∧
    (CloneFlagged .sample Sample.occasion.time 0 stamp after ↔
      ¬ Crowded .sample (windowVerifiers .sample Sample.occasion.time 0
          (Sample.state scannedTwice).verifications ++ [thirdDevice.verifierId]) ∨
        Mirror.Accused (Sample.state scannedTwice).verifications 0 ∨
        Repeats stamp thirdDevice.verifierId) := by
  obtain ⟨stamp, result, after, presents, active, current, verified, _, _⟩ := sample_uncaught
  exact ⟨stamp, after, active,
    velocity_flags_iff (Sample.state_reachable scannedTwice) presents (Or.inl active) current verified⟩

/-- Three devices scan an active stamp within the window and it is not flagged. -/
theorem crowded_unflagged : ∃ (db after : Db) (stamp : Stamp) (result : ScanResult),
    Reachable .sample db ∧ Presents .sample db Sample.scan.serial 0 stamp ∧ stamp.status = .active ∧
    Sample.occasion.time < stamp.validUntil ∧
    verify .sample Sample.occasion thirdDevice Sample.scan db = .ok (result, after) ∧
    ¬ CloneFlagged .sample Sample.occasion.time 0 stamp after := by
  obtain ⟨stamp, result, after, presents, active, current, verified, crowded, unaccused⟩ := sample_uncaught
  have reached := Sample.state_reachable scannedTwice
  refine ⟨_, after, stamp, result, reached, presents, active, current, verified, fun flagged => ?_⟩
  obtain ⟨lists, locked⟩ := locked_of_verify reached presents verified
  have published := published_scanned (reached.commit (handled_of_verify verified)) presents.stored
    (verifyLocked_ok locked)
  exact unaccused (published.mp (flagged crowded))

end Sample

end TaxStamps.Velocity
