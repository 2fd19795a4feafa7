import TaxStamps.Services.Payments

/-!
# Journals in a session

`journal.py` on a session that keeps the rows it was given until they are
flushed. An exception leaves these rows in the session; what a caller commits
afterwards is checked by the tables and, at the commit, by the trigger on the
balance of a journal.
-/

namespace TaxStamps.Journals

/-- Account, debit and credit. -/
abbrev Leg := PyStr × Int × Int

/-- The sum of the debits. -/
def debits (legs : List Leg) : Int := (legs.map (fun leg => leg.2.1)).sum

/-- The sum of the credits. -/
def credits (legs : List Leg) : Int := (legs.map (fun leg => leg.2.2)).sum

/-- A session: the rows its transaction sees, the rows added and not yet flushed,
and the journals whose balance is checked at the commit. -/
structure Session where
  db : Db
  newJournals : List Journal
  newEntries : List LedgerEntry
  deferred : List Nat

/-- An integer in an f-string. -/
def quoteInt (value : Int) : Result PyStr :=
  if value.natAbs < PyStr.digitLimit then .ok (PyStr.decimalInt value) else .error .valueError

/-- A `JournalError` that quotes two amounts. -/
def amountsError (before between : PyStr) (first second : Int) : PyError :=
  match quoteInt first with
  | .error problem => problem
  | .ok left =>
    match quoteInt second with
    | .error problem => problem
    | .ok right => .journalError (before ++ left ++ between ++ right)

/-- A leg with a negative amount, or with a debit and a credit. -/
def illegal (leg : Leg) : Bool :=
  decide (leg.2.1 < 0 ∨ leg.2.2 < 0 ∨ (leg.2.1 ≠ 0 ∧ leg.2.2 ≠ 0))

/-- What is raised for an illegal leg. -/
def illegalLeg (leg : Leg) : PyError :=
  amountsError (py "illegal leg for " ++ leg.1 ++ py ": debit ") (py " credit ") leg.2.1 leg.2.2

/-- The loop of `post_journal`. -/
def addLegs (journalId : Nat) : List Leg → Session → Session × Result Unit
  | [], session => (session, .ok ())
  | leg :: rest, session =>
    if illegal leg then (session, .error (illegalLeg leg))
    else addLegs journalId rest
      { session with newEntries := session.newEntries ++ [⟨journalId, leg.1, leg.2.1, leg.2.2⟩] }

/-- Adds the journals in turn. -/
def insertJournals : List Journal → Db → Result Db
  | [], db => .ok db
  | row :: rest, db => do
    let db ← db.insertJournal row
    insertJournals rest db

/-- Adds the entries in turn. -/
def insertEntries : List LedgerEntry → Db → Result Db
  | [], db => .ok db
  | row :: rest, db => do
    let db ← db.insertLedgerEntry row
    insertEntries rest db

/-- `session.flush()`: journals before the entries that refer to them. -/
def flush (session : Session) : Result Session := do
  let db ← insertJournals session.newJournals session.db
  let db ← insertEntries session.newEntries db
  .ok { db := db
        newJournals := []
        newEntries := []
        deferred := session.deferred ++ session.newEntries.map (·.journalId) }

/-- `post_journal`. A session whose flush failed can only be rolled back. -/
def post (occasion : Occasion) (reference narration : PyStr) (legs : List Leg) (session : Session) :
    Session × Result Unit :=
  if legs.length < 2 then (session, .error (.journalError (py "a journal requires at least two legs")))
  else if debits legs ≠ credits legs then
    (session, .error (amountsError (py "unbalanced journal: debits ") (py " <> credits ") (debits legs)
      (credits legs)))
  else if debits legs = 0 then
    (session, .error (.journalError (py "zero-amount journals are not postable")))
  else
    let added := addLegs (session.db.journals.length + session.newJournals.length) legs
      { session with newJournals := session.newJournals ++ [⟨reference, narration, occasion.time⟩] }
    match added.2 with
    | .error problem => (added.1, .error problem)
    | .ok () =>
      match flush added.1 with
      | .error problem => (added.1, .error problem)
      | .ok flushed => (flushed, .ok ())

/-- `check_journal_balanced`: the sums are assigned to variables of type `bigint`. -/
def checkJournalBalanced (entries : List LedgerEntry) (journalId : Nat) : Result Unit :=
  let legs := entries.filter (fun entry => decide (entry.journalId = journalId))
  let d := (legs.map (·.debitKobo)).sum
  let c := (legs.map (·.creditKobo)).sum
  Result.require (bigIntegerColumn d && bigIntegerColumn c && decide (d = c))
    (.dbApiError (py "ledger_entries"))

/-- The deferred trigger for each of the journals. -/
def checkDeferred (entries : List LedgerEntry) : List Nat → Result Unit
  | [] => .ok ()
  | journalId :: rest => do
    checkJournalBalanced entries journalId
    checkDeferred entries rest

/-- `session.commit()`. -/
def commit (session : Session) : Result Db := do
  let flushed ← flush session
  checkDeferred flushed.db.ledgerEntries flushed.deferred
  .ok flushed.db

end TaxStamps.Journals
