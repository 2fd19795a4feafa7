import TaxStamps.Api.Sample
import TaxStamps.Invariants.Published

/-!
# The published lists mirror the stamps

In every reachable state the `void` list shows exactly the stamps whose status
is VOID, and the `suspect` list exactly the stamps for which a clone-suspect
attempt was recorded. Each request that changes either side publishes the change
in the same transaction.
-/

namespace TaxStamps.Mirror

open Api StatusLists

variable {env : Env} {db after : Db}

/-- The indexes of the stamps with a property. -/
def Marks (holds : Nat → Stamp → Prop) (stamps : List Stamp) (index : Nat) : Prop :=
  ∃ stampId stamp, stamps[stampId]? = some stamp ∧ stamp.statusListIndex = index ∧ holds stampId stamp

section Marks

variable {before later : List Stamp} {change : Nat → Stamp → Stamp} {held holds : Nat → Stamp → Prop}

/-- A change that keeps each index and the property keeps the marks. -/
theorem marks_same (pointwise : Rows.Pointwise change before later)
    (indexes : ∀ id stamp, (change id stamp).statusListIndex = stamp.statusListIndex)
    (same : ∀ id stamp, before[id]? = some stamp → (holds id (change id stamp) ↔ held id stamp))
    (index : Nat) : Marks holds later index ↔ Marks held before index := by
  constructor
  · rintro ⟨id, stamp, stored, rfl, present⟩
    obtain ⟨old, origin, rfl⟩ := pointwise.origin stored
    exact ⟨id, old, origin, (indexes id old).symm, (same id old origin).mp present⟩
  · rintro ⟨id, stamp, stored, rfl, present⟩
    exact ⟨id, change id stamp, pointwise.stored stored, indexes id stamp,
      (same id stamp stored).mpr present⟩

/-- A change that gives one stamp the property marks its index. -/
theorem marks_more (pointwise : Rows.Pointwise change before later)
    (indexes : ∀ id stamp, (change id stamp).statusListIndex = stamp.statusListIndex)
    {marked : Nat} {row : Stamp} (stored : before[marked]? = some row)
    (marks : holds marked (change marked row))
    (same : ∀ id stamp, id ≠ marked → before[id]? = some stamp →
      (holds id (change id stamp) ↔ held id stamp))
    (index : Nat) : Marks holds later index ↔ index = row.statusListIndex ∨ Marks held before index := by
  constructor
  · rintro ⟨id, stamp, present, rfl, property⟩
    obtain ⟨old, origin, rfl⟩ := pointwise.origin present
    by_cases here : id = marked
    · subst here
      rw [Option.some.inj (origin.symm.trans stored)]
      exact Or.inl (indexes id row)
    · exact Or.inr ⟨id, old, origin, (indexes id old).symm, (same id old here origin).mp property⟩
  · rintro (rfl | ⟨id, stamp, origin, rfl, property⟩)
    · exact ⟨marked, _, pointwise.stored stored, indexes marked row, marks⟩
    · refine ⟨id, _, pointwise.stored origin, indexes id stamp, ?_⟩
      by_cases here : id = marked
      · subst here
        rw [Option.some.inj (origin.symm.trans stored)]
        exact marks
      · exact (same id stamp here origin).mpr property

/-- New stamps without the property mark nothing. -/
theorem marks_append {new : List Stamp}
    (fresh : ∀ id stamp, before.length ≤ id → (before ++ new)[id]? = some stamp → ¬ holds id stamp)
    (index : Nat) : Marks holds (before ++ new) index ↔ Marks holds before index := by
  constructor
  · rintro ⟨id, stamp, stored, rfl, property⟩
    rcases Rows.stored_append_cases stored with old | ⟨beyond, _⟩
    · exact ⟨id, stamp, old, rfl, property⟩
    · exact absurd property (fresh id stamp beyond stored)
  · rintro ⟨id, stamp, stored, rfl, property⟩
    exact ⟨id, stamp, Rows.stored_append new stored, rfl, property⟩

end Marks

/-- A clone-suspect attempt was recorded for the stamp. -/
def Accused (verifications : List Verification) (stampId : Nat) : Prop :=
  ∃ row ∈ verifications, row.stampId = some stampId ∧ row.outcome = .cloneSuspect

/-- A further attempt accuses its stamp, if it suspects a clone. -/
theorem accused_append {verifications : List Verification} {row : Verification} {stampId : Nat} :
    Accused (verifications ++ [row]) stampId ↔
      Accused verifications stampId ∨ (row.stampId = some stampId ∧ row.outcome = .cloneSuspect) := by
  simp only [Accused, List.mem_append, List.mem_singleton, or_and_right, exists_or, exists_eq_left]

/-- An attempt with another outcome accuses nobody. -/
theorem accused_other {verifications : List Verification} {row : Verification}
    (other : row.outcome ≠ .cloneSuspect) (stampId : Nat) :
    Accused (verifications ++ [row]) stampId ↔ Accused verifications stampId := by
  rw [accused_append]
  simp [other]

/-- The stamp is void. -/
def Void (_ : Nat) (stamp : Stamp) : Prop := stamp.status = .void

/-- Both lists mirror the working state. -/
structure Valid (env : Env) (stamps : List Stamp) (verifications : List Verification)
    (snapshots : List StatusListSnapshot) : Prop where
  void : Tracks env (py "void") snapshots (Marks Void stamps)
  suspect : Tracks env (py "suspect") snapshots
    (Marks (fun stampId _ => Accused verifications stampId) stamps)
  known : ∀ row ∈ snapshots, row.purpose = py "void" ∨ row.purpose = py "suspect"
  attempts : ∀ row ∈ verifications, ∀ stampId, row.stampId = some stampId → stampId < stamps.length
  accused : ∀ stampId stamp, stamps[stampId]? = some stamp → Accused verifications stampId →
    stamp.status = .suspect ∨ stamp.status = .void

variable {stamps : List Stamp} {verifications : List Verification} {snapshots : List StatusListSnapshot}

/-- An accused stamp exists. -/
theorem Valid.accused_bounded (valid : Valid env stamps verifications snapshots) {stampId : Nat}
    (accused : Accused verifications stampId) : stampId < stamps.length := by
  obtain ⟨row, member, named, _⟩ := accused
  exact valid.attempts row member stampId named

/-- Issued stamps are neither void nor accused, so the lists stay. -/
theorem Valid.issue (valid : Valid env stamps verifications snapshots) {new : List Stamp}
    (fresh : ∀ stamp ∈ new, stamp.status = .issued) :
    Valid env (stamps ++ new) verifications snapshots := by
  have added : ∀ id stamp, stamps.length ≤ id → (stamps ++ new)[id]? = some stamp → stamp ∈ new := by
    intro id stamp beyond stored
    rw [List.getElem?_append_right beyond] at stored
    exact List.mem_of_getElem? stored
  have unaccused : ∀ id, stamps.length ≤ id → ¬ Accused verifications id := by
    intro id beyond accused
    have bounded := valid.accused_bounded accused
    omega
  constructor
  · apply valid.void.congr
    apply marks_append
    intro id stamp beyond stored void
    have issued := fresh stamp (added id stamp beyond stored)
    rw [Void, issued] at void
    cases void
  · apply valid.suspect.congr
    apply marks_append
    intro id stamp beyond _ accused
    exact unaccused id beyond accused
  · exact valid.known
  · intro row member stampId named
    have bounded := valid.attempts row member stampId named
    rw [List.length_append]
    omega
  · intro stampId stamp stored accused
    rcases Rows.stored_append_cases stored with old | ⟨beyond, _⟩
    · exact valid.accused stampId stamp old accused
    · exact absurd accused (unaccused stampId beyond)

/-- A change of statuses that makes no stamp void and touches no accused stamp. -/
theorem Valid.progress (valid : Valid env stamps verifications snapshots) {later : List Stamp}
    {change : Nat → Stamp → Stamp} (pointwise : Rows.Pointwise change stamps later)
    (indexes : ∀ id stamp, (change id stamp).statusListIndex = stamp.statusListIndex)
    (moved : ∀ id stamp, stamps[id]? = some stamp → change id stamp = stamp ∨
      ((change id stamp).status ≠ .void ∧ stamp.status ≠ .void ∧ stamp.status ≠ .suspect)) :
    Valid env later verifications snapshots := by
  constructor
  · apply valid.void.congr
    apply marks_same pointwise indexes
    intro id stamp stored
    rcases moved id stamp stored with same | ⟨open_, was, _⟩
    · rw [same]
    · exact ⟨fun void => absurd void open_, fun void => absurd void was⟩
  · apply valid.suspect.congr
    apply marks_same pointwise indexes
    intro id stamp _
    exact Iff.rfl
  · exact valid.known
  · intro row member stampId named
    rw [pointwise.length]
    exact valid.attempts row member stampId named
  · intro stampId stamp stored accused
    obtain ⟨old, origin, rfl⟩ := pointwise.origin stored
    have status := valid.accused stampId old origin accused
    rcases moved stampId old origin with same | ⟨_, notVoid, notSuspect⟩
    · rw [same]
      exact status
    · exact (status.elim notSuspect notVoid).elim

/-- An attempt that accuses nobody leaves the lists. -/
theorem Valid.attempt (valid : Valid env stamps verifications snapshots) {row : Verification}
    (other : row.outcome ≠ .cloneSuspect)
    (named : ∀ stampId, row.stampId = some stampId → stampId < stamps.length) :
    Valid env stamps (verifications ++ [row]) snapshots := by
  constructor
  · exact valid.void
  · apply valid.suspect.congr
    apply marks_same (Rows.pointwise_map id stamps |> fun same => by rwa [List.map_id] at same)
    · intro _ _
      rfl
    · intro id _ _
      exact accused_other other id
  · exact valid.known
  · intro attempt member stampId stated
    rcases List.mem_append.mp member with old | new
    · exact valid.attempts attempt old stampId stated
    · rw [List.mem_singleton.mp new] at stated
      exact named stampId stated
  · intro stampId stamp stored accused
    exact valid.accused stampId stamp stored ((accused_other other stampId).mp accused)

/-- A void stamp is published as void. -/
theorem Valid.voids (valid : Valid env stamps verifications snapshots) {stampId : Nat} {stamp : Stamp}
    {later : List StatusListSnapshot} (stored : stamps[stampId]? = some stamp)
    (shown : Tracks env (py "void") later
      (fun index => index = stamp.statusListIndex ∨ Marks Void stamps index))
    (suspects : Tracks env (py "suspect") later
      (Marks (fun stampId _ => Accused verifications stampId) stamps))
    (known : ∀ row ∈ later, row.purpose = py "void" ∨ row.purpose = py "suspect") :
    Valid env (stamps.modify stampId (fun row => { row with status := .void })) verifications later := by
  have pointwise := Rows.pointwise_modify stampId (fun row : Stamp => { row with status := .void }) stamps
  have indexes : ∀ (id : Nat) (row : Stamp),
      (if id = stampId then { row with status := StampStatus.void } else row).statusListIndex =
        row.statusListIndex := by
    intro id row
    split
    · rfl
    · rfl
  constructor
  · apply shown.congr
    apply marks_more pointwise indexes stored
    · simp [Void]
    · intro id row other _
      simp [other]
  · apply suspects.congr
    apply marks_same pointwise indexes
    intro id row _
    exact Iff.rfl
  · exact known
  · intro row member id named
    rw [pointwise.length]
    exact valid.attempts row member id named
  · intro id row present accused
    obtain ⟨old, origin, rfl⟩ := pointwise.origin present
    split
    · exact Or.inr rfl
    · exact valid.accused id old origin accused

/-- A suspect stamp is published as suspect, with the attempt that accuses it. -/
theorem Valid.suspects (valid : Valid env stamps verifications snapshots) {stampId : Nat} {stamp : Stamp}
    {attempt : Verification} {later : List StatusListSnapshot} (stored : stamps[stampId]? = some stamp)
    (open_ : stamp.status ≠ .void) (named : attempt.stampId = some stampId)
    (accuses : attempt.outcome = .cloneSuspect)
    (shown : Tracks env (py "suspect") later (fun index => index = stamp.statusListIndex ∨
      Marks (fun stampId _ => Accused verifications stampId) stamps index))
    (voids : Tracks env (py "void") later (Marks Void stamps))
    (known : ∀ row ∈ later, row.purpose = py "void" ∨ row.purpose = py "suspect") :
    Valid env (stamps.modify stampId (fun row => { row with status := .suspect }))
      (verifications ++ [attempt]) later := by
  have pointwise :=
    Rows.pointwise_modify stampId (fun row : Stamp => { row with status := .suspect }) stamps
  have indexes : ∀ (id : Nat) (row : Stamp),
      (if id = stampId then { row with status := StampStatus.suspect } else row).statusListIndex =
        row.statusListIndex := by
    intro id row
    split
    · rfl
    · rfl
  have others : ∀ id, id ≠ stampId → (Accused (verifications ++ [attempt]) id ↔ Accused verifications id) := by
    intro id other
    rw [accused_append, named]
    simp [Ne.symm other]
  constructor
  · apply voids.congr
    apply marks_same pointwise indexes
    intro id row origin
    by_cases here : id = stampId
    · subst here
      rw [Option.some.inj (origin.symm.trans stored)]
      simp [Void, open_]
    · simp [here]
  · apply shown.congr
    apply marks_more pointwise indexes stored
    · exact accused_append.mpr (Or.inr ⟨named, accuses⟩)
    · intro id row other _
      exact others id other
  · exact known
  · intro row member id stated
    rw [pointwise.length]
    rcases List.mem_append.mp member with old | new
    · exact valid.attempts row old id stated
    · rw [List.mem_singleton.mp new, named] at stated
      rw [← Option.some.inj stated]
      exact (List.getElem?_eq_some_iff.mp stored).1
  · intro id row present accused
    obtain ⟨old, origin, rfl⟩ := pointwise.origin present
    by_cases here : id = stampId
    · simp [here]
    · simp only [here, if_false]
      exact valid.accused id old origin ((others id here).mp accused)

/-- Every effect keeps both lists a mirror. -/
theorem Valid.step (valid : Valid env db.stamps db.verifications db.statusListSnapshots)
    (effect : Effect env db after) :
    Valid env after.stamps after.verifications after.statusListSnapshots := by
  have otherPurpose : py "void" ≠ py "suspect" := by decide
  have knownAppend : ∀ {row : StatusListSnapshot}, row.purpose = py "void" ∨ row.purpose = py "suspect" →
      ∀ other ∈ db.statusListSnapshots ++ [row], other.purpose = py "void" ∨ other.purpose = py "suspect" := by
    intro row purpose other member
    rcases List.mem_append.mp member with old | new
    · exact valid.known other old
    · rw [List.mem_singleton.mp new]
      exact purpose
  cases effect with
  | issued stored chunked =>
    cases chunked with
    | past => exact valid
    | exhausted => exact valid
    | issues _ _ _ _ issued _ =>
      apply valid.issue
      intro stamp member
      obtain ⟨_, fresh⟩ := issued.each member
      exact fresh.issued
  | activated =>
    apply valid.progress (Rows.pointwise_map _ _)
    · intro id stamp
      split
      · rfl
      · rfl
    · intro id stamp _
      split
      case isTrue activates =>
        simp only [Issuance.activates, Bool.and_eq_true, decide_eq_true_eq] at activates
        right
        rw [activates.2]
        simp
      case isFalse => exact Or.inl rfl
  | attempted unmatched refused =>
    apply valid.attempt
    · rcases refused with same | same
      · simp [same]
      · simp [same]
    · intro stampId named
      rw [unmatched] at named
      cases named
  | @scanned occasion scan _ stampId stamp _ _ stored scanned =>
    have bounded := (List.getElem?_eq_some_iff.mp stored).1
    cases scanned with
    | answered detail plain =>
      apply valid.attempt
      · rintro same
        have accuses : _ = Outcome.cloneSuspect := same
        subst accuses
        exact plain
      · intro id named
        cases named
        exact bounded
    | suspected live scanned other named current inside published =>
      refine valid.suspects stored live.notVoid rfl rfl (valid.suspect.flag current inside published)
        (valid.void.frame ?_) (knownAppend (Or.inr published.ofPurpose))
      rw [published.ofPurpose]
      exact otherPurpose.symm
    | consumes live active unscanned consume credible =>
      have consumed := valid.progress
        (Rows.pointwise_modify stampId (Verify.consumed occasion.time scan) db.stamps)
        (fun id row => by split <;> rfl) (fun id row origin => by
          split
          case isTrue here =>
            subst here
            rw [Option.some.inj (origin.symm.trans stored), active]
            right
            simp [Verify.consumed]
          case isFalse => exact Or.inl rfl)
      apply consumed.attempt
      · simp [Verify.attempt]
      · intro id named
        cases named
        rw [List.length_modify]
        exact bounded
  | voided stored voided =>
    cases voided with
    | already => exact valid
    | voids open_ current inside published =>
      refine valid.voids stored (valid.void.flag current inside published) (valid.suspect.frame ?_)
        (knownAppend (Or.inl published.ofPurpose))
      rw [published.ofPurpose]
      exact otherPurpose
  | _ => exact valid

/-- Before any request nothing is marked and nothing is published. -/
theorem initial (env : Env) : Valid env [] [] [] := by
  have nothing : ∀ (purpose : PyStr) (holds : Nat → Stamp → Prop), Tracks env purpose [] (Marks holds []) := by
    intro purpose holds
    constructor
    · rfl
    · constructor
      · rintro _ index _ ⟨id, stamp, stored, _⟩
        simp at stored
      · intro row last
        cases last
  constructor
  · exact nothing _ _
  · exact nothing _ _
  · simp
  · simp
  · simp

/-- In every reachable state both lists mirror the stamps and the attempts. -/
theorem valid (reached : Reachable env db) :
    Valid env db.stamps db.verifications db.statusListSnapshots :=
  reached.invariant (fun state => Valid env state.stamps state.verifications state.statusListSnapshots)
    (initial env) (fun _ _ known effect => known.step effect)

/-- A purpose with snapshots is one of the two that are ever published. -/
theorem Valid.tracked (valid : Valid env db.stamps db.verifications db.statusListSnapshots)
    (purpose : PyStr) : ∃ marked, Tracks env purpose db.statusListSnapshots marked ∧
      ∀ index, marked index → ∃ (stampId : Nat) (stamp : Stamp), db.stamps[stampId]? = some stamp ∧
        stamp.statusListIndex = index := by
  have found : ∀ {holds : Nat → Stamp → Prop} (index : Nat), Marks holds db.stamps index →
      ∃ (stampId : Nat) (stamp : Stamp), db.stamps[stampId]? = some stamp ∧ stamp.statusListIndex = index := by
    rintro holds index ⟨stampId, stamp, stored, same, _⟩
    exact ⟨stampId, stamp, stored, same⟩
  by_cases void : purpose = py "void"
  · exact void ▸ ⟨_, valid.void, found⟩
  by_cases suspect : purpose = py "suspect"
  · exact suspect ▸ ⟨_, valid.suspect, found⟩
  have absent : rowsOf purpose db.statusListSnapshots = [] := by
    rw [rowsOf, List.filter_eq_nil_iff]
    intro row member same
    rw [decide_eq_true_eq] at same
    rcases valid.known row member with known | known
    · exact void (same.symm.trans known)
    · exact suspect (same.symm.trans known)
  refine ⟨fun _ => False, ⟨?_, ?_⟩, fun _ impossible => impossible.elim⟩
  · rw [absent]
    rfl
  · rw [absent]
    exact ⟨fun _ _ _ impossible => impossible, fun row last => absurd last (by simp)⟩

/-- The bit that the latest snapshot of a purpose shows at an index. -/
def PublishedBit (env : Env) (db : Db) (purpose : PyStr) (index : Nat) : Prop :=
  ∃ row list, latest purpose db = some row ∧
    StatusList.parse env row.credential = .ok (purpose, list) ∧ list.get index = .ok true

/-- Within the list a published bit is a mark. -/
theorem publishedBit_iff {purpose : PyStr} {marked : Nat → Prop}
    (tracks : Tracks env purpose db.statusListSnapshots marked) {index : Nat}
    (bounded : index < defaultListSizeBits) : PublishedBit env db purpose index ↔ marked index := by
  constructor
  · rintro ⟨row, list, last, parsed, set⟩
    rw [tracks.numbered.latest] at last
    obtain ⟨shown, shownParsed, standard, bits⟩ := tracks.shown.published row last
    rw [parsed] at shownParsed
    cases shownParsed
    rw [StatusList.get_natural (by omega)] at set
    exact (bits index bounded).mp (Except.ok.inj set)
  · intro marks
    cases last : (rowsOf purpose db.statusListSnapshots).getLast? with
    | none =>
      rw [List.getLast?_eq_none_iff] at last
      exact absurd marks (tracks.shown.unpublished last index bounded)
    | some row =>
      obtain ⟨list, parsed, standard, bits⟩ := tracks.shown.published row last
      refine ⟨row, list, tracks.numbered.latest.trans last, parsed, ?_⟩
      rw [StatusList.get_natural (by omega), (bits index bounded).mpr marks]

/-- A published bit is within the list. -/
theorem PublishedBit.bounded {purpose : PyStr} {marked : Nat → Prop} {index : Nat}
    (tracks : Tracks env purpose db.statusListSnapshots marked)
    (published : PublishedBit env db purpose index) : index < defaultListSizeBits := by
  obtain ⟨row, list, last, parsed, set⟩ := published
  rw [tracks.numbered.latest] at last
  obtain ⟨shown, shownParsed, standard, _⟩ := tracks.shown.published row last
  rw [parsed] at shownParsed
  cases shownParsed
  rw [← standard]
  by_contra beyond
  have refused : list.get index = .error (.statusListError (py "index-out-of-range")) := by
    rw [StatusList.get, StatusList.checkIndex, if_neg (by omega)]
    rfl
  rw [refused] at set
  cases set

/-- The mark at a stamp's own index is the stamp's mark. -/
theorem marks_own (stamps : Stamps.Valid env db.stamps) {stampId : Nat} {stamp : Stamp}
    (stored : db.stamps[stampId]? = some stamp) {holds : Nat → Stamp → Prop} :
    Marks holds db.stamps stamp.statusListIndex ↔ holds stampId stamp := by
  constructor
  · rintro ⟨other, row, present, same, property⟩
    obtain rfl := stamps.index_unique present stored same
    rwa [Option.some.inj (present.symm.trans stored)] at property
  · exact fun property => ⟨stampId, stamp, stored, rfl, property⟩

/-- A stamp's bit in the latest `suspect` list says whether it was accused. -/
theorem suspect_published (mirrored : Valid env db.stamps db.verifications db.statusListSnapshots)
    (stamps : Stamps.Valid env db.stamps) {stampId : Nat} {stamp : Stamp}
    (stored : db.stamps[stampId]? = some stamp) :
    PublishedBit env db (py "suspect") stamp.statusListIndex ↔ Accused db.verifications stampId := by
  rw [publishedBit_iff mirrored.suspect (stamps.bounded stored), marks_own stamps stored]

/-- The latest `void` and `suspect` lists mirror the working state: a stamp's
bits say whether it is VOID and whether it was accused of being a clone, each set
bit is the index of exactly one stamp, and versions count from one. -/
theorem published_lists_mirror (reached : Reachable env db) :
    (∀ (stampId : Nat) (stamp : Stamp), db.stamps[stampId]? = some stamp →
      (PublishedBit env db (py "void") stamp.statusListIndex ↔ stamp.status = .void) ∧
      (PublishedBit env db (py "suspect") stamp.statusListIndex ↔
        Accused db.verifications stampId)) ∧
    (∀ purpose index, PublishedBit env db purpose index → ∃! stampId : Nat, ∃ stamp : Stamp,
      db.stamps[stampId]? = some stamp ∧ stamp.statusListIndex = index) ∧
    (∀ purpose row, latest purpose db = some row → ∃ list,
      StatusList.parse env row.credential = .ok (purpose, list)) ∧
    ∀ purpose, (rowsOf purpose db.statusListSnapshots).map StatusListSnapshot.version =
      (List.range (rowsOf purpose db.statusListSnapshots).length).map
        (fun position : Nat => (position : Int) + 1) := by
  have mirrored := valid reached
  have stamps := Stamps.valid reached
  refine ⟨?_, ?_, ?_, ?_⟩
  · intro stampId stamp stored
    constructor
    · rw [publishedBit_iff mirrored.void (stamps.bounded stored), marks_own stamps stored]
      exact Iff.rfl
    · exact suspect_published mirrored stamps stored
  · intro purpose index published
    obtain ⟨marked, tracks, named⟩ := mirrored.tracked purpose
    have marks := (publishedBit_iff tracks (published.bounded tracks)).mp published
    obtain ⟨stampId, stamp, stored, same⟩ := named index marks
    refine ⟨stampId, ⟨stamp, stored, same⟩, ?_⟩
    rintro other ⟨row, present, equal⟩
    exact stamps.index_unique present stored (equal.trans same.symm)
  · intro purpose row last
    obtain ⟨marked, tracks, _⟩ := mirrored.tracked purpose
    rw [tracks.numbered.latest] at last
    obtain ⟨list, parsed, _⟩ := tracks.shown.published row last
    exact ⟨list, parsed⟩
  · intro purpose
    obtain ⟨marked, tracks, _⟩ := mirrored.tracked purpose
    exact tracks.numbered

/-- After a void the list shows it: the state of the sample deployment. -/
theorem published_lists_mirror_sample :
    let db := Sample.state (Sample.activating ++
      [.void (py "officer") (py "NG-TBC-2026-0000000000-3") ⟨py "damaged", by decide⟩])
    ∀ (stampId : Nat) (stamp : Stamp), db.stamps[stampId]? = some stamp →
      (PublishedBit .sample db (py "void") stamp.statusListIndex ↔ stamp.status = .void) :=
  fun stampId stamp stored =>
    ((published_lists_mirror (Sample.state_reachable _)).1 stampId stamp stored).1

end TaxStamps.Mirror
