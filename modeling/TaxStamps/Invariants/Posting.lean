import Mathlib.Algebra.Order.BigOperators.Group.List
import TaxStamps.Api.Sample
import TaxStamps.Invariants.Settlement
import TaxStamps.Services.Journal

/-!
# Posting a journal as a whole

A journal is posted with all of its legs, or the error leaves the session as it
was: this holds exactly when no illegal leg is met after the journal was added,
and when the sums fit the variables of the trigger. A session without open rows
posts what the settlement of a payment posts.
-/

namespace TaxStamps.Journals

open Payments (entriesOf)
open Settlement (legsOf_absent legsOf_same legsOf)

variable {occasion : Occasion} {reference narration : PyStr} {legs : List Leg} {session after : Session}
  {outcome : Result Unit} {journalId : Nat} {db changed : Db}

/-- The entries refer to journals of the session. -/
def Session.Known (session : Session) : Prop :=
  ∀ entry ∈ session.db.ledgerEntries ++ session.newEntries,
    entry.journalId < session.db.journals.length + session.newJournals.length

/-- The CHECK constraints of `ledger_entries`. -/
def EntryChecks (entry : LedgerEntry) : Prop :=
  (0 ≤ entry.debitKobo ∧ 0 ≤ entry.creditKobo) ∧ ¬ (0 < entry.debitKobo ∧ 0 < entry.creditKobo)

/-- The identifier of the next journal. -/
def Session.nextJournal (session : Session) : Nat :=
  session.db.journals.length + session.newJournals.length

/-- The session with a journal and all of its legs added. -/
def Session.prepared (session : Session) (occasion : Occasion) (reference narration : PyStr)
    (legs : List Leg) : Session :=
  { session with
    newJournals := session.newJournals ++ [⟨reference, narration, occasion.time⟩]
    newEntries := session.newEntries ++ entriesOf session.nextJournal legs }

/-- A journal that is posted comes as a whole and passes the checks of the tables
and of the trigger; a `JournalError` adds nothing, so a commit writes nothing of it. -/
structure Atomic (occasion : Occasion) (reference narration : PyStr) (legs : List Leg)
    (session after : Session) (outcome : Result Unit) : Prop where
  returned : outcome = .ok () →
    after.db = { session.db with
      journals := session.db.journals ++ session.newJournals ++ [⟨reference, narration, occasion.time⟩]
      ledgerEntries := session.db.ledgerEntries ++ session.newEntries ++
        entriesOf session.nextJournal legs } ∧
    after.newJournals = [] ∧ after.newEntries = [] ∧
    (∀ entry ∈ entriesOf session.nextJournal legs, EntryChecks entry) ∧
    checkJournalBalanced after.db.ledgerEntries session.nextJournal = .ok ()
  raised : ∀ text, outcome = .error (.journalError text) →
    after.newJournals = session.newJournals ∧ after.newEntries = session.newEntries ∧
      commit after = commit session

/-- Legs that pass the checks before the loop. -/
def Postable (legs : List Leg) : Prop := 2 ≤ legs.length ∧ debits legs = credits legs ∧ debits legs ≠ 0

/-- The message about a leg can be formatted. -/
def Printable (leg : Leg) : Prop := leg.2.1.natAbs < PyStr.digitLimit ∧ leg.2.2.natAbs < PyStr.digitLimit

/-- No illegal leg stands in a postable list, and the sums of the legs fit a
`bigint`, unless the database refuses the rows anyway. -/
structure Guarded (occasion : Occasion) (reference narration : PyStr) (legs : List Leg)
    (session : Session) : Prop where
  legal : Postable legs → ∀ leg, legs.find? illegal = some leg → ¬ Printable leg
  fits : Postable legs → legs.find? illegal = none → debits legs ≤ 9223372036854775807 ∨
    ∀ flushed, flush (session.prepared occasion reference narration legs) ≠ .ok flushed

section Flush

/-- Inserted journals stand behind those that are there. -/
theorem insertJournals_ok {rows : List Journal} (inserted : insertJournals rows db = .ok changed) :
    changed = { db with journals := db.journals ++ rows } := by
  induction rows generalizing db with
  | nil =>
    obtain rfl := Except.ok.inj inserted
    simp
  | cons row rest inductionHypothesis =>
    obtain ⟨middle, first, inserted⟩ := Result.bind_ok.mp inserted
    obtain rfl := inductionHypothesis inserted
    obtain rfl := Db.insertJournal_ok first
    simp

/-- An inserted entry satisfies the checks of its table. -/
theorem insertLedgerEntry_checks {row : LedgerEntry} (inserted : db.insertLedgerEntry row = .ok changed) :
    EntryChecks row := by
  have accepted := (Db.constrained.mp inserted).1
  simp only [Bool.and_eq_true, decide_eq_true_eq] at accepted
  exact ⟨accepted.1.2, accepted.2⟩

/-- Inserted entries stand behind those that are there, and satisfy the checks. -/
theorem insertEntries_ok {rows : List LedgerEntry} (inserted : insertEntries rows db = .ok changed) :
    changed = { db with ledgerEntries := db.ledgerEntries ++ rows } ∧ ∀ row ∈ rows, EntryChecks row := by
  induction rows generalizing db with
  | nil =>
    obtain rfl := Except.ok.inj inserted
    exact ⟨by simp, fun _ absurdity => by cases absurdity⟩
  | cons row rest inductionHypothesis =>
    obtain ⟨middle, first, inserted⟩ := Result.bind_ok.mp inserted
    obtain ⟨rfl, others⟩ := inductionHypothesis inserted
    have here := insertLedgerEntry_checks first
    obtain rfl := Db.insertLedgerEntry_ok first
    refine ⟨by simp, fun other listed => ?_⟩
    rcases List.mem_cons.mp listed with rfl | later
    · exact here
    · exact others other later

/-- A flush writes every open row, and the entries pass the checks of the table. -/
theorem flush_ok {flushed : Session} (done : flush session = .ok flushed) :
    flushed.db = { session.db with
      journals := session.db.journals ++ session.newJournals
      ledgerEntries := session.db.ledgerEntries ++ session.newEntries } ∧
    flushed.newJournals = [] ∧ flushed.newEntries = [] ∧ ∀ row ∈ session.newEntries, EntryChecks row := by
  obtain ⟨posted, journals, done⟩ := Result.bind_ok.mp done
  obtain ⟨written, entries, done⟩ := Result.bind_ok.mp done
  obtain rfl := Except.ok.inj done
  obtain rfl := insertJournals_ok journals
  obtain ⟨rfl, checked⟩ := insertEntries_ok entries
  exact ⟨rfl, rfl, rfl, checked⟩

end Flush

section Legs

/-- Legal legs are added one by one. -/
theorem addLegs_legal (absent : legs.find? illegal = none) :
    addLegs journalId legs session =
      ({ session with newEntries := session.newEntries ++ entriesOf journalId legs }, .ok ()) := by
  induction legs generalizing session with
  | nil => simp [addLegs, entriesOf]
  | cons leg rest inductionHypothesis =>
    rw [List.find?_eq_none] at absent
    have legal : ¬ illegal leg = true := absent leg List.mem_cons_self
    have others : rest.find? illegal = none :=
      List.find?_eq_none.mpr fun other later => absent other (List.mem_cons_of_mem _ later)
    rw [addLegs, if_neg legal, inductionHypothesis others]
    simp [entriesOf]

/-- The first illegal leg raises and leaves what was added before it. -/
theorem addLegs_illegal {leg : Leg} (found : legs.find? illegal = some leg) :
    ∃ entries, addLegs journalId legs session =
      ({ session with newEntries := session.newEntries ++ entries }, .error (illegalLeg leg)) := by
  induction legs generalizing session with
  | nil => cases found
  | cons head rest inductionHypothesis =>
    rw [addLegs]
    by_cases bad : illegal head = true
    · rw [List.find?_cons_of_pos bad] at found
      obtain rfl := Option.some.inj found
      exact ⟨[], by rw [if_pos bad, List.append_nil]⟩
    · rw [List.find?_cons_of_neg bad] at found
      rw [if_neg bad]
      obtain ⟨entries, added⟩ := @inductionHypothesis
        { session with newEntries := session.newEntries ++ [⟨journalId, head.1, head.2.1, head.2.2⟩] } found
      exact ⟨⟨journalId, head.1, head.2.1, head.2.2⟩ :: entries, by rw [added]; simp⟩

/-- A number that is not too long is quoted in decimals. -/
theorem quoteInt_short {value : Int} (short : value.natAbs < PyStr.digitLimit) :
    quoteInt value = .ok (PyStr.decimalInt value) := if_pos short

/-- A number that is too long cannot be quoted. -/
theorem quoteInt_long {value : Int} (long : ¬ value.natAbs < PyStr.digitLimit) :
    quoteInt value = .error .valueError := if_neg long

/-- An illegal leg is reported exactly when its amounts can be quoted. -/
theorem illegalLeg_error {leg : Leg} :
    (∃ text, illegalLeg leg = .journalError text) ↔ Printable leg := by
  constructor
  · rintro ⟨text, quoted⟩
    constructor
    · by_contra long
      rw [illegalLeg, amountsError, quoteInt_long long] at quoted
      cases quoted
    · by_contra long
      rw [illegalLeg, amountsError, quoteInt_long long] at quoted
      cases first : quoteInt leg.2.1 with
      | error problem =>
        rw [first] at quoted
        obtain rfl : problem = .journalError text := quoted
        rw [quoteInt] at first
        split at first <;> cases first
      | ok left =>
        rw [first] at quoted
        cases quoted
  · rintro ⟨short, shortRight⟩
    rw [illegalLeg, amountsError, quoteInt_short short, quoteInt_short shortRight]
    exact ⟨_, rfl⟩

/-- Legal legs debit a natural sum. -/
theorem debits_natural (absent : legs.find? illegal = none) : 0 ≤ debits legs := by
  rw [List.find?_eq_none] at absent
  apply List.sum_nonneg
  intro amount listed
  obtain ⟨leg, member, rfl⟩ := List.mem_map.mp listed
  have legal := absent leg member
  rw [illegal, decide_eq_true_eq] at legal
  omega

/-- The trigger accepts the entries of a new journal when their sums fit. -/
theorem checkJournalBalanced_iff {entries : List LedgerEntry}
    (earlier : ∀ entry ∈ entries, entry.journalId ≠ journalId) (balanced : debits legs = credits legs)
    (natural : 0 ≤ debits legs) :
    checkJournalBalanced (entries ++ entriesOf journalId legs) journalId = .ok () ↔
      debits legs ≤ 9223372036854775807 := by
  have only : (entries ++ entriesOf journalId legs).filter
      (fun entry => decide (entry.journalId = journalId)) = entriesOf journalId legs := by
    rw [List.filter_append]
    have before := legsOf_absent earlier
    have here := legsOf_same journalId legs
    rw [legsOf] at before here
    rw [before, here, List.nil_append]
  have debited : ((entriesOf journalId legs).map (·.debitKobo)).sum = debits legs := by
    rw [entriesOf, List.map_map]
    rfl
  have credited : ((entriesOf journalId legs).map (·.creditKobo)).sum = credits legs := by
    rw [entriesOf, List.map_map]
    rfl
  rw [checkJournalBalanced, only, debited, credited, ← balanced, Result.require_ok]
  simp only [bigIntegerColumn, Bool.and_self, decide_true, Bool.and_true, decide_eq_true_eq]
  omega

end Legs

section Posting

/-- The checks before the loop refuse a list that is not postable, and the
session stays as it is. -/
theorem post_refused (refused : ¬ Postable legs) :
    ∃ problem, post occasion reference narration legs session = (session, .error problem) := by
  rw [post]
  split
  case isTrue => exact ⟨_, rfl⟩
  case isFalse several =>
    split
    case isTrue => exact ⟨_, rfl⟩
    case isFalse balanced =>
      split
      case isTrue => exact ⟨_, rfl⟩
      case isFalse nonzero => exact absurd ⟨by omega, not_not.mp balanced, nonzero⟩ refused

/-- An illegal leg of a postable list leaves the journal in the session. -/
theorem post_illegal (postable : Postable legs) {leg : Leg} (found : legs.find? illegal = some leg) :
    ∃ entries, post occasion reference narration legs session =
      ({ session with
        newJournals := session.newJournals ++ [⟨reference, narration, occasion.time⟩]
        newEntries := session.newEntries ++ entries }, .error (illegalLeg leg)) := by
  obtain ⟨several, balanced, nonzero⟩ := postable
  obtain ⟨entries, added⟩ := @addLegs_illegal legs
    { session with newJournals := session.newJournals ++ [⟨reference, narration, occasion.time⟩] }
    session.nextJournal leg found
  rw [Session.nextJournal] at added
  refine ⟨entries, ?_⟩
  rw [post, if_neg (by omega), if_neg (not_not.mpr balanced), if_neg nonzero]
  dsimp only
  rw [added]

/-- A postable list of legal legs is added and flushed. -/
theorem post_legal (postable : Postable legs) (absent : legs.find? illegal = none) :
    post occasion reference narration legs session =
      match flush (session.prepared occasion reference narration legs) with
      | .error problem => (session.prepared occasion reference narration legs, .error problem)
      | .ok flushed => (flushed, .ok ()) := by
  obtain ⟨several, balanced, nonzero⟩ := postable
  rw [post, if_neg (by omega), if_neg (not_not.mpr balanced), if_neg nonzero]
  dsimp only
  rw [addLegs_legal absent]
  rfl

/-- A flush fails in the database. -/
theorem flush_error {problem : PyError} (failed : flush session = .error problem) (text : PyStr) :
    problem ≠ .journalError text := by
  have constrain_error : ∀ {table accepted} {next : Result Db}, (∀ other, next ≠ .error other) →
      (Db.constrain table accepted >>= fun _ => next) = .error problem → problem ≠ .journalError text := by
    intro table accepted next done raised same
    cases accepted with
    | true => exact done problem raised
    | false =>
      obtain rfl := Except.error.inj raised
      cases same
  have journals_error : ∀ {rows : List Journal} {db : Db}, insertJournals rows db = .error problem →
      problem ≠ .journalError text := by
    intro rows
    induction rows with
    | nil => exact fun absurdity => by cases absurdity
    | cons row rest inductionHypothesis =>
      intro db raised
      rw [insertJournals] at raised
      cases inserted : db.insertJournal row with
      | error other =>
        rw [inserted] at raised
        obtain rfl := Except.error.inj raised
        exact constrain_error (fun _ absurdity => by cases absurdity) inserted
      | ok middle =>
        rw [inserted] at raised
        exact inductionHypothesis raised
  have entries_error : ∀ {rows : List LedgerEntry} {db : Db}, insertEntries rows db = .error problem →
      problem ≠ .journalError text := by
    intro rows
    induction rows with
    | nil => exact fun absurdity => by cases absurdity
    | cons row rest inductionHypothesis =>
      intro db raised
      rw [insertEntries] at raised
      cases inserted : db.insertLedgerEntry row with
      | error other =>
        rw [inserted] at raised
        obtain rfl := Except.error.inj raised
        exact constrain_error (fun _ absurdity => by cases absurdity) inserted
      | ok middle =>
        rw [inserted] at raised
        exact inductionHypothesis raised
  rw [flush] at failed
  cases posted : insertJournals session.newJournals session.db with
  | error other =>
    rw [posted] at failed
    obtain rfl := Except.error.inj failed
    exact journals_error posted
  | ok middle =>
    rw [posted, Result.ok_bind] at failed
    cases written : insertEntries session.newEntries middle with
    | error other =>
      rw [written] at failed
      obtain rfl := Except.error.inj failed
      exact entries_error written
    | ok last =>
      rw [written] at failed
      cases failed

/-- A journal is posted as a whole or not at all exactly when the list is guarded. -/
theorem post_atomic_iff (known : session.Known) :
    Atomic occasion reference narration legs session
        (post occasion reference narration legs session).1
        (post occasion reference narration legs session).2 ↔
      Guarded occasion reference narration legs session := by
  by_cases postable : Postable legs
  case neg =>
    obtain ⟨problem, refused⟩ := @post_refused occasion reference narration legs session postable
    rw [refused]
    constructor
    · exact fun _ => ⟨fun absurdity => absurd absurdity postable, fun absurdity => absurd absurdity postable⟩
    · exact fun _ => ⟨(by rintro ⟨⟩), fun _ _ => ⟨rfl, rfl, rfl⟩⟩
  case pos =>
    cases found : legs.find? illegal with
    | some leg =>
      obtain ⟨entries, raised⟩ := @post_illegal occasion reference narration legs session postable leg found
      rw [raised]
      constructor
      · intro atomic
        refine ⟨fun _ other same printable => ?_, fun _ absurdity => ?_⟩
        · obtain rfl := Option.some.inj (found.symm.trans same)
          obtain ⟨text, quoted⟩ := illegalLeg_error.mpr printable
          have unchanged := (atomic.raised text (congrArg Except.error quoted)).1
          exact absurd unchanged (by simp)
        · rw [found] at absurdity
          cases absurdity
      · intro guarded
        refine ⟨(by rintro ⟨⟩), fun text quoted => ?_⟩
        exact absurd (illegalLeg_error.mp ⟨text, Except.error.inj quoted⟩)
          (guarded.legal postable leg found)
    | none =>
      rw [post_legal postable found]
      cases done : flush (session.prepared occasion reference narration legs) with
      | error problem =>
        constructor
        · intro _
          refine ⟨fun _ other same => ?_, fun _ _ => Or.inr fun flushed absurdity => ?_⟩
          · rw [found] at same
            cases same
          · rw [done] at absurdity
            cases absurdity
        · intro _
          exact ⟨(by rintro ⟨⟩), fun text same => absurd (Except.error.inj same) (flush_error done text)⟩
      | ok flushed =>
        obtain ⟨stored, noJournals, noEntries, checked⟩ := flush_ok done
        have earlier : ∀ entry ∈ session.db.ledgerEntries ++ session.newEntries,
            entry.journalId ≠ session.nextJournal := fun entry listed => Nat.ne_of_lt (known entry listed)
        have trigger := checkJournalBalanced_iff earlier postable.2.1 (debits_natural found)
        have ledger : flushed.db.ledgerEntries = session.db.ledgerEntries ++ session.newEntries ++
            entriesOf session.nextJournal legs := by
          rw [stored, List.append_assoc]
          rfl
        rw [← ledger] at trigger
        constructor
        · intro atomic
          refine ⟨fun _ other same => ?_, fun _ _ => Or.inl ?_⟩
          · rw [found] at same
            cases same
          · exact trigger.mp (atomic.returned rfl).2.2.2.2
        · intro guarded
          refine ⟨fun _ => ⟨?_, noJournals, noEntries, ?_, trigger.mpr ?_⟩, fun _ absurdity => (by cases absurdity)⟩
          · rw [stored, List.append_assoc, List.append_assoc]
            rfl
          · exact fun entry listed => checked entry (List.mem_append_right _ listed)
          · rcases guarded.fits postable found with fits | refused
            · exact fits
            · exact absurd done (refused flushed)

end Posting

section Settled

/-- Legs are inserted exactly when all are legal and the table takes their entries. -/
theorem insertLegs_entries {db : Db} : insertLegs journalId legs db = .ok changed ↔
    legs.find? illegal = none ∧ insertEntries (entriesOf journalId legs) db = .ok changed := by
  induction legs generalizing db with
  | nil => exact ⟨fun done => ⟨rfl, done⟩, fun both => both.2⟩
  | cons leg rest inductionHypothesis =>
    obtain ⟨account, debit, credit⟩ := leg
    rw [insertLegs, entriesOf, List.map_cons, insertEntries]
    by_cases bad : illegal (account, debit, credit) = true
    · rw [List.find?_cons_of_pos bad]
      rw [illegal, decide_eq_true_eq] at bad
      simp [Result.require, bad]
    · rw [List.find?_cons_of_neg bad]
      rw [illegal, decide_eq_true_eq] at bad
      simp only [Result.require, bad, not_false_eq_true, decide_true, if_true, Result.ok_bind]
      rw [Result.bind_ok, Result.bind_ok]
      constructor
      · rintro ⟨middle, first, others⟩
        obtain ⟨absent, written⟩ := inductionHypothesis.mp others
        exact ⟨absent, middle, first, written⟩
      · rintro ⟨absent, middle, first, written⟩
        exact ⟨middle, first, inductionHypothesis.mpr ⟨absent, written⟩⟩

/-- A session without open rows posts exactly what the settlement posts. -/
theorem post_postJournal {db : Db} : postJournal occasion reference narration legs db = .ok changed ↔
    ∃ deferred, post occasion reference narration legs ⟨db, [], [], []⟩ =
      (⟨changed, [], [], deferred⟩, .ok ()) := by
  have posts : postJournal occasion reference narration legs db = .ok changed ↔ Postable legs ∧
      ∃ middle, db.insertJournal ⟨reference, narration, occasion.time⟩ = .ok middle ∧
        insertLegs db.journals.length legs middle = .ok changed := by
    simp only [postJournal, Result.bind_ok, Result.require_ok, decide_eq_true_eq, Postable, debits, credits,
      exists_const, and_assoc]
  have journals : ∀ {middle : Db}, insertJournals ([] ++ [⟨reference, narration, occasion.time⟩]) db = .ok middle ↔
      db.insertJournal ⟨reference, narration, occasion.time⟩ = .ok middle := by
    intro middle
    rw [List.nil_append, insertJournals, Result.bind_ok]
    simp [insertJournals]
  have flushed : ∀ {after : Session},
      flush (Session.prepared ⟨db, [], [], []⟩ occasion reference narration legs) = .ok after ↔
      ∃ middle, db.insertJournal ⟨reference, narration, occasion.time⟩ = .ok middle ∧
        ∃ last, insertEntries (entriesOf db.journals.length legs) middle = .ok last ∧
          after = ⟨last, [], [], (entriesOf db.journals.length legs).map (·.journalId)⟩ := by
    intro after
    rw [flush, Result.bind_ok]
    constructor
    · rintro ⟨middle, inserted, done⟩
      obtain ⟨last, written, done⟩ := Result.bind_ok.mp done
      exact ⟨middle, journals.mp inserted, last, written, (Except.ok.inj done).symm⟩
    · rintro ⟨middle, inserted, last, written, rfl⟩
      exact ⟨middle, journals.mpr inserted, Result.bind_ok.mpr ⟨last, written, rfl⟩⟩
  rw [posts]
  constructor
  · rintro ⟨postable, middle, inserted, done⟩
    obtain ⟨absent, written⟩ := insertLegs_entries.mp done
    rw [post_legal postable absent, flushed.mpr ⟨middle, inserted, changed, written, rfl⟩]
    exact ⟨_, rfl⟩
  · rintro ⟨deferred, posted⟩
    by_cases postable : Postable legs
    case neg =>
      obtain ⟨problem, refused⟩ := @post_refused occasion reference narration legs ⟨db, [], [], []⟩ postable
      cases refused.symm.trans posted
    case pos =>
      cases found : legs.find? illegal with
      | some leg =>
        obtain ⟨entries, raised⟩ :=
          @post_illegal occasion reference narration legs ⟨db, [], [], []⟩ postable leg found
        cases raised.symm.trans posted
      | none =>
        rw [post_legal postable found] at posted
        split at posted
        case _ => cases posted
        case _ after done =>
          obtain ⟨middle, inserted, last, written, rfl⟩ := flushed.mp done
          obtain rfl : last = changed := congrArg (fun pair => pair.1.db) posted
          exact ⟨postable, middle, inserted, insertLegs_entries.mpr ⟨found, written⟩⟩

end Settled

section Sample

/-- An empty database. -/
def emptySession : Session := ⟨Db.empty, [], [], []⟩

/-- Two balanced legs and a third one on both sides. -/
def crossedLegs : List Leg := [(py "a", 10, 0), (py "b", 0, 10), (py "c", 5, 5)]

/-- The journal of two legs. -/
theorem post_atomic_sample : Atomic Api.Sample.occasion (py "j-1") (py "settlement")
    [(py "assets:clearing", 1000, 0), (py "revenue:excise", 0, 1000)] emptySession
    (post Api.Sample.occasion (py "j-1") (py "settlement")
      [(py "assets:clearing", 1000, 0), (py "revenue:excise", 0, 1000)] emptySession).1
    (post Api.Sample.occasion (py "j-1") (py "settlement")
      [(py "assets:clearing", 1000, 0), (py "revenue:excise", 0, 1000)] emptySession).2 := by
  refine (post_atomic_iff (fun entry absurdity => by cases absurdity)).mpr ⟨fun _ leg found => ?_, fun _ _ => ?_⟩
  · cases found
  · exact Or.inl (by decide)

/-- The third leg raises after the journal and the first two legs were added, and
a commit writes them. -/
theorem crossedLegs_persisted : ∃ problem after db,
    post Api.Sample.occasion (py "j-2") [] crossedLegs emptySession = (after, .error (.journalError problem)) ∧
      commit after = .ok db ∧ db.journals.length = 1 ∧ db.ledgerEntries.length = 2 ∧
      ¬ Atomic Api.Sample.occasion (py "j-2") [] crossedLegs emptySession
        (post Api.Sample.occasion (py "j-2") [] crossedLegs emptySession).1
        (post Api.Sample.occasion (py "j-2") [] crossedLegs emptySession).2 := by
  have quoted : illegalLeg (py "c", 5, 5) = .journalError (py "illegal leg for c: debit 5 credit 5") := by
    rw [illegalLeg, amountsError, quoteInt_short (@PyStr.lt_digitLimit _ 3 (by decide) (by decide))]
    rfl
  have posted : post Api.Sample.occasion (py "j-2") [] crossedLegs emptySession =
      (⟨Db.empty, [⟨py "j-2", [], Api.Sample.occasion.time⟩], [⟨0, py "a", 10, 0⟩, ⟨0, py "b", 0, 10⟩], []⟩,
        .error (illegalLeg (py "c", 5, 5))) := rfl
  rw [quoted] at posted
  refine ⟨_, _, _, posted, rfl, rfl, rfl, fun atomic => ?_⟩
  rw [posted] at atomic
  exact absurd (atomic.raised _ rfl).1 (List.cons_ne_nil _ _)

end Sample

end TaxStamps.Journals
