import TaxStamps.Api.Sample
import TaxStamps.Invariants.Attempts

/-!
# What the offline check says of a stored credential

The lists that are loaded show what the latest snapshots show, and the status
entries of a stored credential point to the stamp's own bits. So the offline
check of it fails exactly for a void stamp and for an accused one. A scan that
answers `void` or `clone_suspect` leaves such a stamp; one that answers
`expired` does not, because nothing is ever published as expired.
-/

namespace TaxStamps.Verdicts

open Api Verify Attempts StatusLists

variable {env : Env} {db after : Db} {lists : Lists}

section Lists

/-- The bit that the loaded lists show. -/
def Flag (lists : Lists) (index : Nat) (purpose : PyStr) : Prop :=
  ∃ list, lists.lookup purpose = some list ∧ list.bit index = true

/-- A loaded list is the latest one. -/
theorem loadLists_latest {requested : List PyStr} {purpose : PyStr} {list : StatusList}
    (loaded : loadLists env db requested = .ok lists) (found : lists.lookup purpose = some list) :
    ∃ row stated, latest purpose db = some row ∧ StatusList.parse env row.credential = .ok (stated, list) := by
  induction requested generalizing lists with
  | nil =>
    cases loaded
    cases found
  | cons first rest inductionHypothesis =>
    rw [loadLists, currentCredential] at loaded
    cases newest : latest first db with
    | none =>
      rw [newest] at loaded
      exact inductionHypothesis loaded found
    | some row =>
      rw [newest] at loaded
      obtain ⟨⟨stated, parsed⟩, read, loaded⟩ := Result.bind_ok.mp loaded
      obtain ⟨others, remaining, loaded⟩ := Result.bind_ok.mp loaded
      cases loaded
      rw [List.lookup_cons] at found
      split at found
      case _ same =>
        obtain rfl : purpose = first := eq_of_beq same
        cases found
        exact ⟨row, stated, newest, read⟩
      case _ => exact inductionHypothesis remaining found

/-- The loaded lists show the marks. -/
theorem flag_iff {requested : List PyStr} {purpose : PyStr} {marked : Nat → Prop}
    (tracks : Tracks env purpose db.statusListSnapshots marked)
    (loaded : loadLists env db requested = .ok lists) (spec : Loaded db requested lists)
    (asked : purpose ∈ requested) {index : Nat} (bounded : index < defaultListSizeBits) :
    Flag lists index purpose ↔ marked index := by
  constructor
  · rintro ⟨list, found, set⟩
    obtain ⟨row, stated, newest, read⟩ := loadLists_latest loaded found
    rw [tracks.numbered.latest] at newest
    obtain ⟨shown, parsed, _, bits⟩ := tracks.shown.published row newest
    rw [parsed] at read
    cases read
    exact (bits index bounded).mp set
  · intro marks
    cases found : lists.lookup purpose with
    | none =>
      have unlisted := spec.missing purpose asked found
      have empty : rowsOf purpose db.statusListSnapshots = [] := by
        rw [rowsOf, List.filter_eq_nil_iff]
        intro row member same
        exact unlisted ⟨row, member, of_decide_eq_true same⟩
      exact absurd marks (tracks.shown.unpublished empty index bounded)
    | some list =>
      obtain ⟨row, stated, newest, read⟩ := loadLists_latest loaded found
      rw [tracks.numbered.latest] at newest
      obtain ⟨shown, parsed, _, bits⟩ := tracks.shown.published row newest
      rw [parsed] at read
      cases read
      exact ⟨list, found, (bits index bounded).mpr marks⟩

end Lists

section Entries

variable {index : Nat}

/-- A stored status entry reads its stamp's own bit. -/
theorem entryFlags_stored {requested : List PyStr} (spec : Loaded db requested lists) {entry : Value}
    {listId purpose : PyStr} (bounded : index < defaultListSizeBits)
    (same : entry.denote = (Value.dict (StatusList.statusEntry listId index purpose)).denote) :
    ∃ flags, entryFlags env lists entry = .ok flags ∧ (flags ≠ [] ↔ Flag lists index purpose) := by
  obtain ⟨members, rfl, _⟩ := Value.denote_obj same
  have named : Value.lookup (key "statusPurpose") members = some (.str purpose) :=
    Value.lookup_stored_text same rfl
  have indexed : Value.lookup (key "statusListIndex") members = some (.str (PyStr.decimal index)) :=
    Value.lookup_stored_text same rfl
  have parsed : intOf env.unicode
      ((Value.lookup (key "statusListIndex") members).getD (Value.literal "0")) = .ok (index : Int) := by
    rw [indexed]
    exact intOf_decimal bounded
  have searched : listFor lists (Value.lookup (key "statusPurpose") members) = .ok (lists.lookup purpose) := by
    rw [named]
    rfl
  cases found : lists.lookup purpose with
  | none =>
    rw [found] at searched
    refine ⟨[], entryFlags_dict.mpr ⟨index, none, parsed, searched, rfl⟩, ?_⟩
    simp [Flag, found]
  | some list =>
    rw [found] at searched
    have standard := (spec.found purpose list found).2.2
    have inside : list.get (index : Int) = .ok (list.bit index) := StatusList.get_natural (by omega)
    refine ⟨if list.bit index then
      [py "status-flagged:" ++ purposeText (Value.lookup (key "statusPurpose") members)] else [],
      entryFlags_dict.mpr ⟨index, some list, parsed, searched, ?_⟩, ?_⟩
    · simp only [inside, Result.ok_bind]
    · simp [Flag, found]

/-- The stored status entries flag exactly the published purposes. -/
theorem flagged_stored {requested : List PyStr} (spec : Loaded db requested lists)
    (bounded : index < defaultListSizeBits) {stated : List PyStr} {items : List Value}
    (same : items.map Value.denote = (stated.map (fun purpose => Value.dict
      (StatusList.statusEntry (listCredentialId env.settings purpose) index purpose))).map Value.denote) :
    ∃ flags, flagged env lists items = .ok flags ∧
      (flags ≠ [] ↔ ∃ purpose ∈ stated, Flag lists index purpose) := by
  induction stated generalizing items with
  | nil =>
    obtain rfl := List.map_eq_nil_iff.mp same
    exact ⟨[], rfl, by simp⟩
  | cons purpose rest inductionHypothesis =>
    cases items with
    | nil => cases same
    | cons entry remaining =>
      obtain ⟨first, others⟩ := List.cons.inj same
      obtain ⟨here, read, flags⟩ := @entryFlags_stored env _ _ _ _ spec _ _ _ bounded first
      obtain ⟨later, walked, more⟩ := inductionHypothesis others
      refine ⟨here ++ later, by rw [flagged_cons, read, walked]; rfl, ?_⟩
      rw [ne_eq, List.append_eq_nil_iff, not_and_or, List.exists_mem_cons_iff, ← more, ← flags]

end Entries

section Offline

/-- The offline check of a stamp's stored credential, with the published lists,
returns failures. -/
def Refuted (env : Env) (db : Db) (stampId : Nat) : Prop :=
  ∃ (stamp : Stamp) (members : List (Key × Value)) (lists : Lists) (failures : List PyStr),
    db.stamps[stampId]? = some stamp ∧ stamp.credential = .dict members ∧
    loadStatusLists env db = .ok lists ∧ verifyCredentialOffline env members lists = .ok failures ∧
    failures ≠ []

/-- What the offline check of a stored credential comes to. -/
theorem offline_stored {stamp : Stamp} (credential : Credential env stamp)
    (spec : Loaded db purposes lists) (bounded : stamp.statusListIndex < defaultListSizeBits) :
    ∃ failures, verifyCredentialOffline env credential.members lists = .ok failures ∧
      (failures ≠ [] ↔ ∃ purpose ∈ purposes, Flag lists stamp.statusListIndex purpose) := by
  obtain ⟨items, present, same⟩ := credential.entries
  obtain ⟨flags, walked, flagged⟩ := flagged_stored spec bounded same
  refine ⟨flags, ?_, flagged⟩
  rw [verifyCredentialOffline, credential.verifies, present]
  simp only [Option.getD_some, entriesOf, Result.ok_bind, walked, List.nil_append]

/-- The own bit of a stamp in each list. -/
theorem flag_purposes (valid : Mirror.Valid env db.stamps db.verifications db.statusListSnapshots)
    (loaded : loadStatusLists env db = .ok lists) (spec : Loaded db purposes lists) {index : Nat}
    (bounded : index < defaultListSizeBits) :
    (∃ purpose ∈ purposes, Flag lists index purpose) ↔ Mirror.Marks Mirror.Void db.stamps index ∨
      Mirror.Marks (fun stampId _ => Mirror.Accused db.verifications stampId) db.stamps index := by
  have void : Flag lists index (py "void") ↔ Mirror.Marks Mirror.Void db.stamps index :=
    flag_iff valid.void loaded spec (by decide) bounded
  have suspect : Flag lists index (py "suspect") ↔
      Mirror.Marks (fun stampId _ => Mirror.Accused db.verifications stampId) db.stamps index :=
    flag_iff valid.suspect loaded spec (by decide) bounded
  rw [← void, ← suspect]
  constructor
  · rintro ⟨purpose, _, flag⟩
    have listed : Listed db purpose := by
      obtain ⟨list, found, _⟩ := flag
      exact (spec.found purpose list found).2.1
    obtain ⟨row, member, same⟩ := listed
    rcases valid.known row member with known | known
    · exact Or.inl (same.symm.trans known ▸ flag)
    · exact Or.inr (same.symm.trans known ▸ flag)
  · rintro (flag | flag)
    · exact ⟨_, by decide, flag⟩
    · exact ⟨_, by decide, flag⟩

/-- The offline check fails exactly for a void stamp and for an accused one. -/
theorem refuted_iff (valid : Mirror.Valid env db.stamps db.verifications db.statusListSnapshots)
    (stamps : Stamps.Valid env db.stamps) {stampId : Nat} {stamp : Stamp}
    (stored : db.stamps[stampId]? = some stamp) :
    Refuted env db stampId ↔ stamp.status = .void ∨ Mirror.Accused db.verifications stampId := by
  obtain ⟨credential⟩ := Credential.of_documented (stamps.documented stamp (List.mem_of_getElem? stored))
  obtain ⟨lists, loaded, spec⟩ := loadLists_ok valid purposes
  have bounded := stamps.bounded stored
  obtain ⟨failures, checked, flagged⟩ := offline_stored credential spec bounded
  rw [flag_purposes valid loaded spec bounded, Mirror.marks_own stamps stored,
    Mirror.marks_own stamps stored, Mirror.Void] at flagged
  rw [← flagged]
  constructor
  · rintro ⟨row, members, current, others, present, held, reloaded, rechecked, failed⟩
    obtain rfl := Option.some.inj (present.symm.trans stored)
    obtain rfl : credential.members = members := Value.dict.inj (credential.held.symm.trans held)
    obtain rfl := Except.ok.inj (loaded.symm.trans reloaded)
    rw [checked] at rechecked
    cases rechecked
    exact failed
  · exact fun failed => ⟨stamp, credential.members, lists, failures, stored, credential.held, loaded,
      checked, failed⟩

end Offline

section Scans

/-- The verdicts after which a stamp is not to be relied on. -/
def Terminal (outcome : Outcome) : Prop :=
  outcome = .void ∨ outcome = .expired ∨ outcome = .cloneSuspect

/-- No request sets the status EXPIRED. -/
theorem never_expired (reached : Reachable env db) : ∀ stamp ∈ db.stamps, stamp.status ≠ .expired := by
  refine reached.invariant (fun state => ∀ stamp ∈ state.stamps, stamp.status ≠ .expired) ?_ ?_
  · intro stamp absent
    cases absent
  · intro before after known effect
    have modified : ∀ {stampId : Nat} {change : Stamp → Stamp}, (∀ stamp, (change stamp).status ≠ .expired) →
        ∀ stamp ∈ before.stamps.modify stampId change, stamp.status ≠ .expired := by
      intro stampId change other stamp member
      obtain ⟨id, stored⟩ := List.mem_iff_getElem?.mp member
      rcases Rows.stored_modify_cases stored with ⟨_, kept⟩ | ⟨_, old, _, rfl⟩
      · exact known stamp (List.mem_of_getElem? kept)
      · exact other old
    cases effect with
    | issued stored chunked =>
      cases chunked with
      | past => exact known
      | exhausted => exact known
      | issues _ _ _ _ issued _ =>
        intro stamp member
        rcases List.mem_append.mp member with old | new
        · exact known stamp old
        · obtain ⟨_, fresh⟩ := issued.each new
          rw [fresh.issued]
          decide
    | activated =>
      intro stamp member
      obtain ⟨old, present, rfl⟩ := List.mem_map.mp member
      split
      · simp
      · exact known old present
    | scanned stored scanned =>
      cases scanned with
      | answered => exact known
      | suspected => exact modified (by simp)
      | consumes => exact modified (by simp [consumed])
    | voided stored voided =>
      cases voided with
      | already => exact known
      | voids => exact modified (by simp)
    | _ => exact known

variable {occasion : Occasion} {scan : Scan} {serial : PyStr} {stampId : Nat} {stamp : Stamp}
  {outcome : Outcome}

/-- An attempt that accuses nobody leaves the stamp as refuted as it was. -/
theorem refuted_answered (reached : Reachable env db) (stored : db.stamps[stampId]? = some stamp)
    {detail : PyStr} (plain : Plain stamp occasion.time outcome)
    (answered : after = { db with verifications := db.verifications ++
      [attempt occasion scan serial (some stampId) outcome detail] }) :
    Refuted env after stampId ↔ stamp.status = .void ∨ Mirror.Accused db.verifications stampId := by
  subst answered
  have effect : Effect env db { db with verifications := db.verifications ++
      [attempt occasion scan serial (some stampId) outcome detail] } :=
    .scanned stored (.answered detail plain)
  have unaccusing : (attempt occasion scan serial (some stampId) outcome detail).outcome ≠
      .cloneSuspect := by
    intro accuses
    have same : outcome = .cloneSuspect := accuses
    rw [same] at plain
    exact plain
  rw [refuted_iff ((Mirror.valid reached).step effect) ((Stamps.valid reached).step effect) stored]
  exact or_congr Iff.rfl (Mirror.accused_other unaccusing stampId)

/-- A scan after the validity of a stamp that is not void. -/
theorem verifyLocked_late (open_ : stamp.status ≠ .void) (late : stamp.validUntil ≤ occasion.time) :
    verifyLocked env occasion scan serial stampId stamp db =
      answer occasion scan serial stampId stamp .expired [] db := by
  rw [verifyLocked, if_neg open_, if_pos (Or.inr late)]

/-- A terminal verdict on a stamp comes with a refuted credential exactly when
the verdict is not merely that the validity is over. -/
theorem locked_agrees_iff (reached : Reachable env db) (stored : db.stamps[stampId]? = some stamp)
    {result : ScanResult}
    (verified : verifyLocked env occasion scan serial stampId stamp db = .ok (result, after)) :
    (Terminal result.outcome → Refuted env after stampId) ↔ stamp.status = .void ∨
      occasion.time < stamp.validUntil ∨ Mirror.Accused db.verifications stampId := by
  constructor
  · intro agrees
    by_cases void : stamp.status = .void
    · exact Or.inl void
    rcases lt_or_ge occasion.time stamp.validUntil with current | late
    · exact Or.inr (Or.inl current)
    rw [verifyLocked_late void late] at verified
    obtain ⟨middle, recorded, verified⟩ := Result.bind_ok.mp verified
    cases verified
    have refuted := agrees (Or.inr (Or.inl rfl))
    rw [refuted_answered reached stored (by exact Or.inr late) (recordAttempt_ok recorded)] at refuted
    exact Or.inr (Or.inr (refuted.resolve_left void))
  · intro condition terminal
    have scanned := verifyLocked_ok verified
    have effect : Effect env db after := .scanned stored scanned
    have live := never_expired reached stamp (List.mem_of_getElem? stored)
    generalize result.outcome = outcome at terminal scanned
    cases scanned with
    | answered detail plain =>
      rw [refuted_answered reached stored plain rfl]
      rcases condition with void | current | accused
      · exact Or.inl void
      · rcases terminal with rfl | rfl | rfl
        · exact Or.inl plain
        · rcases plain with expired | late
          · exact absurd expired live
          · exact absurd current (not_lt.mpr late)
        · exact plain.elim
      · exact Or.inr accused
    | suspected =>
      rw [refuted_iff ((Mirror.valid reached).step effect) ((Stamps.valid reached).step effect)
        (Rows.stored_modify_self stored)]
      exact Or.inr (Mirror.accused_append.mpr (Or.inr ⟨rfl, rfl⟩))
    | consumes => simp [Terminal] at terminal

/-- A scan presents the serial of a stamp. -/
structure Presents (env : Env) (db : Db) (serial : PyStr) (stampId : Nat) (stamp : Stamp) : Prop where
  stored : db.stamps[stampId]? = some stamp
  named : ∃ parts, Serials.parseSerial env.unicode (Serials.normalize env.unicode serial) = .ok parts ∧
    parts.serial = stamp.serial

/-- A stamp is found by its serial. -/
theorem stampBySerial_own (reached : Reachable env db) (stored : db.stamps[stampId]? = some stamp) :
    stampBySerial stamp.serial db = some (stampId, stamp) := by
  apply Rows.select_unique stored
  · exact decide_eq_true rfl
  · intro id row present matching
    exact (Stamps.valid reached).serial_unique present stored (of_decide_eq_true matching)

/-- A scan of a stamp decides under its lock. -/
theorem verifyStamp_locked (reached : Reachable env db) (presents : Presents env db serial stampId stamp) :
    verifyStamp env occasion scan serial db =
      verifyLocked env occasion scan stamp.serial stampId stamp db := by
  obtain ⟨parts, parsed, named⟩ := presents.named
  have found := stampBySerial_own reached presents.stored
  unfold verifyStamp
  simp only [parsed, named, found]

/-- After a scan that calls a stamp void, expired or a suspected clone, the
offline check refutes its credential exactly when the stamp was void, still
valid or accused: the end of a validity is not published. -/
theorem verdicts_agree_iff (reached : Reachable env db) (presents : Presents env db serial stampId stamp)
    {result : ScanResult} (verified : verifyStamp env occasion scan serial db = .ok (result, after)) :
    (Terminal result.outcome → Refuted env after stampId) ↔ stamp.status = .void ∨
      occasion.time < stamp.validUntil ∨ Mirror.Accused db.verifications stampId := by
  rw [verifyStamp_locked reached presents] at verified
  exact locked_agrees_iff reached presents.stored verified

end Scans

section Sample

/-- Three years after the sample stamps were issued. -/
def late : Occasion := ⟨⟨740923 * Datetime.microsPerDay, by decide, by decide +kernel⟩, 0⟩

/-- The sample with both stamps issued. -/
def issued : List Request := Sample.paying ++ [.issue 0 none]

/-- The pre-check has no texts or coordinates that do not fit. -/
theorem precheck_columns : Columns Sample.precheck := ⟨by decide, rfl, rfl⟩

/-- The check of a stamp that is void, or whose validity is over, is answered. -/
theorem precheck_answers (reached : Reachable env db) {serial : PyStr} {stampId : Nat} {stamp : Stamp}
    (presents : Presents env db serial stampId stamp) {occasion : Occasion} {outcome : Outcome}
    (decides : (stamp.status = .void ∧ outcome = .void) ∨
      (stamp.status ≠ .void ∧ stamp.validUntil ≤ occasion.time ∧ outcome = .expired)) :
    ∃ result after, verifyStamp env occasion Sample.precheck serial db = .ok (result, after) ∧
      result.outcome = outcome := by
  have fits := (stampFits reached presents.stored).serial
  have answered : ∀ outcome, ∃ result after,
      answer occasion Sample.precheck stamp.serial stampId stamp outcome [] db = .ok (result, after) ∧
        result.outcome = outcome := by
    intro outcome
    rw [answer, recordAttempt_eq precheck_columns, fits]
    exact ⟨_, _, rfl, rfl⟩
  rw [verifyStamp_locked reached presents, verifyLocked]
  rcases decides with ⟨void, rfl⟩ | ⟨open_, gone, rfl⟩
  · rw [if_pos void]
    exact answered .void
  · rw [if_neg open_, if_pos (Or.inr gone)]
    exact answered .expired

/-- The first sample stamp once it is issued: no longer valid three years later, and
nothing was published. -/
theorem issued_stamp : ∃ stamp, (Sample.state issued).stamps[0]? = some stamp ∧
    stamp.serial = Sample.serial ∧ stamp.status = .issued ∧ stamp.validUntil ≤ late.time ∧
    nextVersion (py "void") (Sample.state issued) ≤ 2147483647 := by
  have checked : ((Sample.state issued).stamps[0]?.any (fun stamp =>
      decide (stamp.serial = Sample.serial) && decide (stamp.status = .issued) &&
        decide (stamp.validUntil ≤ late.time)) &&
      decide (nextVersion (py "void") (Sample.state issued) ≤ 2147483647)) = true := by decide +kernel
  simp only [Bool.and_eq_true, Option.any_eq_true, decide_eq_true_eq] at checked
  obtain ⟨⟨stamp, stored, ⟨named, status⟩, gone⟩, room⟩ := checked
  exact ⟨stamp, stored, named, status, gone, room⟩

/-- The serial of the sample is parsed as itself. -/
theorem serial_parsed : ∃ parts, Serials.parseSerial .ascii (Serials.normalize .ascii Sample.serial) =
    .ok parts ∧ parts.serial = Sample.serial := by
  have parsed : (Serials.parseSerial .ascii (Serials.normalize .ascii Sample.serial)).toOption.any
      (fun parts => decide (parts.serial = Sample.serial)) = true := by decide +kernel
  rw [Option.any_eq_true] at parsed
  obtain ⟨parts, parsed, written⟩ := parsed
  exact ⟨parts, Result.toOption_some.mp parsed, of_decide_eq_true written⟩

/-- The sample serial presents the stamp that has it. -/
theorem sample_presents {db : Db} {stamp : Stamp} (stored : db.stamps[0]? = some stamp)
    (named : stamp.serial = Sample.serial) : Presents .sample db Sample.serial 0 stamp := by
  obtain ⟨parts, parsed, written⟩ := serial_parsed
  exact ⟨stored, parts, parsed, written.trans named.symm⟩

/-- The request that voids the first sample stamp. -/
def voiding : Request := .void (py "officer") Sample.serial ⟨py "damaged", by decide⟩

/-- The sample stamp after it is voided. -/
theorem voided_stamp : ∃ stamp, Presents .sample (Sample.state (issued ++ [voiding])) Sample.serial 0 stamp ∧
    stamp.status = .void := by
  obtain ⟨stamp, stored, named, status, _, room⟩ := issued_stamp
  have reached := Sample.state_reachable issued
  rw [Sample.state_append]
  generalize Sample.state issued = db at stored room reached
  have normal : Serials.normalize .ascii Sample.serial = Sample.serial := by decide +kernel
  have found : stampBySerial (Serials.normalize .ascii Sample.serial) db = some (0, stamp) := by
    rw [normal, ← named]
    exact stampBySerial_own reached stored
  obtain ⟨after, voided⟩ := @voidLocked_accepts .sample Sample.occasion db 0 stamp (py "damaged")
    (py "officer") (stampFits reached stored) _ (Mirror.valid reached).void room (by decide) (by decide)
  have stated : (PyStr.strip .ascii (py "damaged")).isEmpty = false := by decide
  have request : Verify.voidStamp .sample Sample.occasion Sample.serial (py "damaged") (py "officer") db =
      .ok after := by
    have tables : Env.sample.unicode = .ascii := rfl
    simp only [Verify.voidStamp, tables, stated, Bool.false_eq_true, if_false, found, voided]
  have handled : handle .sample Sample.occasion voiding db = .ok after := translated_ok.mpr request
  have committed : submit .sample Sample.occasion voiding db = after := by rw [submit, handled]
  rw [committed]
  cases voidLocked_ok voided with
  | already void => cases void.symm.trans status
  | voids => exact ⟨_, sample_presents (Rows.stored_modify_self stored) named, rfl⟩

/-- A void stamp of the sample is refuted offline as well. -/
theorem verdicts_agree_iff_sample : ∃ (stamp : Stamp) (result : ScanResult) (after : Db),
    verifyStamp .sample Sample.occasion Sample.precheck Sample.serial (Sample.state (issued ++
      [.void (py "officer") Sample.serial ⟨py "damaged", by decide⟩])) = .ok (result, after) ∧
    stamp.status = .void ∧ Refuted .sample after 0 := by
  obtain ⟨stamp, presents, void⟩ := voided_stamp
  obtain ⟨result, after, verified, terminal⟩ := @precheck_answers _ _ (Sample.state_reachable _) _ _ _
    presents Sample.occasion _ (Or.inl ⟨void, rfl⟩)
  have agrees := (verdicts_agree_iff (Sample.state_reachable _) presents verified).mpr (Or.inl void)
  exact ⟨stamp, result, after, verified, void, agrees (Or.inl terminal)⟩

/-- A stamp whose validity is over: the scan answers `expired`, and the offline
check of its credential finds nothing. -/
theorem expired_verifies_offline : ∃ (db after : Db) (stamp : Stamp) (result : ScanResult),
    Reachable .sample db ∧ Presents .sample db Sample.serial 0 stamp ∧
    verifyStamp .sample late Sample.precheck Sample.serial db = .ok (result, after) ∧
    result.outcome = .expired ∧ ¬ Refuted .sample after 0 := by
  obtain ⟨stamp, stored, named, status, gone, _⟩ := issued_stamp
  have reached := Sample.state_reachable issued
  have presents := sample_presents stored named
  obtain ⟨result, after, verified, expired⟩ := @precheck_answers _ _ reached _ _ _ presents late _
    (Or.inr ⟨by rw [status]; decide, gone, rfl⟩)
  refine ⟨_, after, stamp, result, reached, presents, verified, expired, ?_⟩
  intro refuted
  rw [verifyStamp_locked reached presents] at verified
  rcases (locked_agrees_iff reached presents.stored verified).mp (fun _ => refuted) with
    void | current | accused
  · exact absurd (void.symm.trans status) (by decide)
  · have scanned := verifyLocked_ok verified
    rw [expired] at scanned
    cases scanned with
    | answered detail plain =>
      rcases plain with never | gone
      · exact absurd (never.symm.trans status) (by decide)
      · exact absurd gone (not_le.mpr current)
  · rcases (Mirror.valid reached).accused 0 stamp presents.stored accused with suspect | void
    · exact absurd (suspect.symm.trans status) (by decide)
    · exact absurd (void.symm.trans status) (by decide)

end Sample

end TaxStamps.Verdicts
