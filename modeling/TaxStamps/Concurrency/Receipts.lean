import TaxStamps.Api.Sample
import TaxStamps.Invariants.Settlement
import TaxStamps.Library.Relocking

/-!
# Concurrent receipts for one intent

A request reads the intent without a lock, looks for a receipt under its
reference, and reads the intent again under its lock; the session keeps the copy
that it read first. A copy that is older than a settlement lets a second receipt be
applied.
-/

namespace TaxStamps.Receipts

open Payments Settlement

variable {env : Env} {intentId : Nat} {db after initial : Db}

/-- The body of `POST /v1/payments/receipts`, and when it is received. -/
structure Call where
  occasion : Occasion
  externalReference : PyStr
  amountKobo : Int
  currency : PyStr

/-- A request whose reference is known is answered with its receipt; the others
settle or quarantine by their copy of the intent. -/
def service (env : Env) (intentId : Nat) : Relocking.Service Db Call PaymentIntent where
  read db := db.paymentIntents[intentId]?
  answered db call := replayed call.externalReference db ≠ none
  commits db call copy later next := next = none ∧ ∃ receiptId,
    recordLocked env call.occasion intentId copy call.externalReference call.amountKobo call.currency db =
      .ok (receiptId, later)

/-- The journals posted for receipts that were applied to an intent. -/
def journalsOf (intentId : Nat) (db : Db) : List Journal :=
  db.journals.filter (fun journal => decide (journal.reference ∈
    (appliedTo intentId db.paymentReceipts).map (fun receipt =>
      settlementReference receipt.externalReference)))

/-- The copy is not older than the settlement of the intent, unless the amount is not
the expected one or the reference is taken. -/
def Timely (intentId : Nat) (db : Db) (call : Call) (copy : PaymentIntent) : Prop :=
  ∀ row : PaymentIntent, db.paymentIntents[intentId]? = some row →
    row.status = .settled → copy.status ≠ .settled → exact copy call.amountKobo call.currency = true →
      ∃ receipt ∈ db.paymentReceipts, receipt.externalReference = call.externalReference

/-- What a receipt asks of the intent never changes. -/
structure Alike (copy row : PaymentIntent) : Prop where
  amount : copy.expectedAmountKobo = row.expectedAmountKobo
  currency : copy.currency = row.currency

/-- Likeness of copies is transitive. -/
theorem Alike.trans {copy row later : PaymentIntent} (first : Alike copy row) (second : Alike row later) :
    Alike copy later :=
  ⟨first.amount.trans second.amount, first.currency.trans second.currency⟩

/-- The invariant of the payment tables. -/
def Good (db : Db) : Prop :=
  Valid db.paymentIntents db.paymentReceipts db.journals db.ledgerEntries

/-- Receipts that get the lock in time keep the ledger. -/
theorem law (env : Env) (intentId : Nat) :
    Relocking.Law (service env intentId) Good Alike (Timely intentId) := by
  constructor
  case refl => exact fun _ => ⟨rfl, rfl⟩
  case commits =>
    rintro db call copy row later next good stored alike timely ⟨rfl, receiptId, recorded⟩
    rcases recordLocked_ok recorded with ⟨receipt, kept, rfl⟩ | ⟨matching, receipt, journal, applied, rfl⟩
    · exact ⟨Valid.quarantine good kept.aside (kept.named ▸ kept.fresh), row, stored,
        fun _ same => same, fun _ _ absurdity => by cases absurdity⟩
    · have unsettled : row.status ≠ .settled := by
        intro settled
        obtain ⟨other, listed, same⟩ := timely row stored settled applied.open_ matching
        exact applied.fresh other listed same
      have written : Relock.column copy.status .settled row.status = .settled :=
        Relock.column_assigned (Ne.symm applied.open_) _
      refine ⟨?_, _, Rows.stored_modify_self stored, fun _ same => same.trans ⟨rfl, rfl⟩,
        fun _ _ absurdity => by cases absurdity⟩
      unfold Good
      rw [Payments.settled, settleIntent, Rows.modify_stored stored]
      exact Valid.settle good stored unsettled written rfl rfl applied.matched applied.applied
        (applied.amount.trans alike.amount) (applied.currency.trans alike.currency)
        (applied.named ▸ applied.fresh) (applied.named ▸ applied.settles)

/-- Journals with different references are no more than the references they have. -/
theorem journals_le {journals : List Journal} {references : List PyStr}
    (distinct : (journals.map (·.reference)).Nodup) :
    (journals.filter (fun journal => decide (journal.reference ∈ references))).length ≤
      references.length := by
  have kept : ((journals.filter (fun journal => decide (journal.reference ∈ references))).map
      (·.reference)).Nodup := distinct.sublist (List.Sublist.map _ List.filter_sublist)
  have within : (journals.filter (fun journal => decide (journal.reference ∈ references))).map
      (·.reference) ⊆ references := by
    intro reference listed
    obtain ⟨journal, member, rfl⟩ := List.mem_map.mp listed
    exact of_decide_eq_true (List.mem_filter.mp member).2
  have fewer := (List.subperm_of_subset kept within).length_le
  rwa [List.length_map] at fewer

/-- The ledger has one applied receipt and one journal for an intent at most. -/
theorem Good.once (good : Good db) :
    (appliedTo intentId db.paymentReceipts).length ≤ 1 ∧ (journalsOf intentId db).length ≤ 1 := by
  have receipts : (appliedTo intentId db.paymentReceipts).length ≤ 1 := by
    cases stored : db.paymentIntents[intentId]? with
    | some intent =>
      rw [Valid.count good intentId intent stored]
      split <;> omega
    | none =>
      have unreferred : appliedTo intentId db.paymentReceipts = [] := by
        rw [appliedTo, List.filter_eq_nil_iff]
        intro receipt member refers
        obtain ⟨other, intent, named, present, _⟩ := Valid.matched good receipt member
        rw [named, decide_eq_true_iff, Option.some.injEq] at refers
        rw [← refers, present] at stored
        cases stored
      rw [unreferred]
      exact Nat.zero_le 1
  have journals := @journals_le db.journals ((appliedTo intentId db.paymentReceipts).map
    (fun receipt => settlementReference receipt.externalReference)) (Valid.agrees good).distinct
  rw [List.length_map] at journals
  exact ⟨receipts, journals.trans receipts⟩

/-- Funds are not applied twice in any interleaving in which the lock is granted in
time. -/
theorem applied_once {world : Sessions.World Db (Relocking.Stage Call PaymentIntent)}
    (reached : Api.Reachable env initial)
    (run : Sessions.Reachable (Relocking.timed (service env intentId) (Timely intentId)) initial world) :
    (appliedTo intentId world.shared.paymentReceipts).length ≤ 1 ∧
      (journalsOf intentId world.shared).length ≤ 1 :=
  Good.once ((law env intentId).reachable (Settlement.valid reached) run)

/-- A receipt that is recorded by itself gets the lock in time. -/
theorem alone {call : Call} {row : PaymentIntent} {receiptId : Nat}
    (stored : db.paymentIntents[intentId]? = some row)
    (absent : replayed call.externalReference db = none)
    (recorded : recordLocked env call.occasion intentId row call.externalReference call.amountKobo
      call.currency db = .ok (receiptId, after)) :
    Sessions.Alone (Relocking.timed (service env intentId) (Timely intentId)) db (.called call) after := by
  have timely : Timely intentId db call row := by
    intro held present settled unsettled
    obtain rfl := Option.some.inj (stored.symm.trans present)
    exact absurd settled unsettled
  exact Relocking.alone stored (not_not.mpr absent) timely ⟨rfl, receiptId, recorded⟩

/-- A receipt that waits for the lock while another is recorded is decided by its older
copy. -/
theorem overtaken {first second : Call} {row later : PaymentIntent} {final : Db}
    {receiptId otherId : Nat} (stored : db.paymentIntents[intentId]? = some row)
    (firstAbsent : replayed first.externalReference db = none)
    (secondAbsent : replayed second.externalReference db = none)
    (recorded : recordLocked env second.occasion intentId row second.externalReference second.amountKobo
      second.currency db = .ok (otherId, after))
    (present : after.paymentIntents[intentId]? = some later)
    (again : recordLocked env first.occasion intentId row first.externalReference first.amountKobo
      first.currency after = .ok (receiptId, final)) :
    Sessions.Reachable (Relocking.protocol (service env intentId)) db (Sessions.World.start final) :=
  Relocking.overtaken stored (not_not.mpr firstAbsent) (alone stored secondAbsent recorded).forget present
    ⟨rfl, receiptId, again⟩

section Sample

/-- A remittance towards the sample's intent of 8000 kobo. -/
def remittance (externalReference : PyStr) (amountKobo : Int) : Call :=
  ⟨Api.Sample.occasion, externalReference, amountKobo, py "NGN"⟩

/-- The exact remittance is recorded by a copy of the intent, and another one after it by the
same copy. Then so many are applied. -/
def bothRecorded (amountKobo : Int) (applied : Nat) : Bool :=
  let db := Api.Sample.state Api.Sample.asking
  db.paymentIntents[0]?.any (fun row =>
    decide (exact row amountKobo (py "NGN") = decide (amountKobo = 8000)) &&
    (replayed (py "PAY-1") db).isNone && (replayed (py "PAY-2") db).isNone &&
    (recordLocked .sample Api.Sample.occasion 0 row (py "PAY-2") 8000 (py "NGN") db).toOption.any
      (fun first => first.2.paymentIntents[0]?.isSome &&
        (recordLocked .sample Api.Sample.occasion 0 row (py "PAY-1") amountKobo (py "NGN")
          first.2).toOption.any (fun second =>
            decide (second.2.paymentReceipts.length = 2 ∧
              (appliedTo 0 second.2.paymentReceipts).length = applied))))

/-- What the check computes on the sample: two receipts recorded by the same lock order, and how
many are applied. -/
theorem both_recorded {amountKobo : Int} {applied : Nat} (checked : bothRecorded amountKobo applied = true) :
    ∃ (initial : Db) (row later : PaymentIntent) (first second : Nat × Db), Api.Reachable .sample initial ∧
      initial.paymentIntents[0]? = some row ∧
      exact row amountKobo (py "NGN") = decide (amountKobo = 8000) ∧
      replayed (py "PAY-1") initial = none ∧ replayed (py "PAY-2") initial = none ∧
      recordLocked .sample Api.Sample.occasion 0 row (py "PAY-2") 8000 (py "NGN") initial = .ok first ∧
      first.2.paymentIntents[0]? = some later ∧
      recordLocked .sample Api.Sample.occasion 0 row (py "PAY-1") amountKobo (py "NGN") first.2 =
        .ok second ∧
      second.2.paymentReceipts.length = 2 ∧ (appliedTo 0 second.2.paymentReceipts).length = applied := by
  have reached := Api.Sample.state_reachable Api.Sample.asking
  unfold bothRecorded at checked
  generalize Api.Sample.state Api.Sample.asking = db at reached checked
  simp only [Option.any_eq_true, Bool.and_eq_true, decide_eq_true_eq, Option.isNone_iff_eq_none,
    Option.isSome_iff_exists, Result.toOption_some] at checked
  obtain ⟨row, stored, ⟨⟨matching, unseen⟩, fresh⟩, first, recorded, ⟨later, present⟩, second, again, both,
    applied⟩ := checked
  exact ⟨db, row, later, first, second, reached, stored, matching, unseen, fresh, recorded, present, again,
    both, applied⟩

/-- A remittance that waited for the lock is applied on top of another. -/
theorem applied_twice : ¬ ∀ (env : Env) (intentId : Nat) (initial : Db)
    (world : Sessions.World Db (Relocking.Stage Call PaymentIntent)), Api.Reachable env initial →
    Sessions.Reachable (Relocking.protocol (service env intentId)) initial world →
      (appliedTo intentId world.shared.paymentReceipts).length ≤ 1 := by
  intro claimed
  obtain ⟨initial, row, later, first, second, reached, stored, _, unseen, fresh, recorded, present, again, _,
    twice⟩ := @both_recorded 8000 2 (by decide +kernel)
  have run := @overtaken .sample 0 _ _ (remittance (py "PAY-1") 8000) (remittance (py "PAY-2") 8000) row later
    _ _ _ stored unseen fresh recorded present again
  have once := claimed .sample 0 _ _ reached run
  rw [Sessions.World.start, twice] at once
  omega

/-- A short remittance waits for the lock while the exact one is applied, and is then
quarantined by its older copy. -/
theorem applied_once_sample :
    ∃ (initial : Db) (world : Sessions.World Db (Relocking.Stage Call PaymentIntent)),
      Sessions.Reachable (Relocking.timed (service .sample 0) (Timely 0)) initial world ∧
        world.shared.paymentReceipts.length = 2 ∧
        (appliedTo 0 world.shared.paymentReceipts).length = 1 ∧
        (journalsOf 0 world.shared).length ≤ 1 := by
  obtain ⟨initial, row, later, first, second, reached, stored, short, unseen, fresh, recorded, present, again,
    both, once⟩ := @both_recorded 7000 1 (by decide +kernel)
  have applies := @alone .sample 0 _ _ (remittance (py "PAY-2") 8000) row _ stored fresh recorded
  have inTime : Timely 0 first.2 (remittance (py "PAY-1") 7000) row :=
    fun _ _ _ _ matching => by cases short.symm.trans matching
  have run : Sessions.Reachable (Relocking.timed (service .sample 0) (Timely 0)) initial
      (Sessions.World.start second.2) :=
    @Relocking.interleaved _ _ _ (service .sample 0) (Timely 0) _ _ second.2 (remittance (py "PAY-1") 7000) _
      row later stored (not_not.mpr unseen) applies present inTime ⟨rfl, second.1, again⟩
  have applied := applied_once reached run
  exact ⟨initial, _, run, both, once, applied.2⟩

end Sample

end TaxStamps.Receipts
