import TaxStamps.Api.Sample
import TaxStamps.Effects.Stamps
import TaxStamps.Library.Relocking

/-!
# Concurrent finalizing, inspecting and activating of one batch

A request reads the batch without a lock, and the status that it checks under the
lock is the one of the copy that it read first. A lot that an inspection failed in
between is finalized or activated all the same.
-/

namespace TaxStamps.Lots

open Issuance

variable {env : Env} {batchId : Nat}

/-- The three requests, and when they are received. -/
inductive Call
  | finalize (occasion : Occasion) (subject : PyStr)
  | inspection (occasion : Occasion) (subject : PyStr) (body : InspectionIn)
  | activate (occasion : Occasion) (subject : PyStr)

/-- The tables, and what was committed for the batch: whether it was activated, and
whether an inspection failed it before that. -/
structure Lot where
  db : Db
  activated : Bool
  failed : Bool

/-- The commit of a request, by its copy of the batch. -/
def Decides (env : Env) (batchId : Nat) (lot : Lot) (copy : StampBatch) : Call → Lot → Prop
  | .finalize occasion subject, later => ∃ db,
    finalizeBatch env occasion subject batchId copy lot.db = .ok db ∧ later = { lot with db := db }
  | .inspection occasion subject body, later => ∃ inspection db,
    recordInspection occasion body.defectives subject batchId copy lot.db = .ok (inspection, db) ∧
      later = { lot with
        db := db
        failed := lot.failed || (decide (inspection.result = .fail) && !lot.activated) }
  | .activate occasion subject, later => ∃ count db,
    activateBatch env occasion subject batchId copy lot.db = .ok (count, db) ∧
      later = { lot with db := db, activated := true }

/-- The transactions on one batch: they lock its row and decide on it. -/
def service (env : Env) (batchId : Nat) : Relocking.Service Lot Call StampBatch where
  read lot := lot.db.stampBatches[batchId]?
  answered _ _ := False
  commits lot call copy later next := next = none ∧ Decides env batchId lot copy call later

/-- Once the lot failed, no copy is older than that: none to be finalized is ISSUED,
and none to be activated is READY. -/
def Timely (lot : Lot) (call : Call) (copy : StampBatch) : Prop :=
  lot.failed = true → match call with
    | .finalize _ _ => copy.status ≠ .issued
    | .inspection _ _ _ => True
    | .activate _ _ => copy.status ≠ .ready

/-- A lot that failed is INSPECTION_FAILED. -/
def Good (batchId : Nat) (lot : Lot) : Prop :=
  lot.failed = true → ∃ row : StampBatch, lot.db.stampBatches[batchId]? = some row ∧
    row.status = .inspectionFailed

/-- What a commit in time keeps of a lot that failed. -/
structure Kept (batchId : Nat) (before after : Lot) : Prop where
  good : Good batchId after
  stored : ∃ row, after.db.stampBatches[batchId]? = some row
  failed : before.failed = true → after.failed = true
  stamps : before.failed = true → after.db.stamps = before.db.stamps

/-- What the lock holder decides keeps a failed lot from READY and ACTIVE, if its copy is
timely. -/
theorem decides_kept {lot later : Lot} {call : Call} {copy row : StampBatch} (good : Good batchId lot)
    (stored : lot.db.stampBatches[batchId]? = some row) (timely : Timely lot call copy)
    (decides : Decides env batchId lot copy call later) : Kept batchId lot later := by
  cases call with
  | finalize occasion subject =>
    obtain ⟨db, finalized, rfl⟩ := decides
    obtain ⟨issued, root, message, _, rfl⟩ := finalizeBatch_ok finalized
    have sound : lot.failed ≠ true := fun failed => timely failed issued
    exact ⟨fun failed => absurd failed sound, ⟨_, Rows.stored_modify_self stored⟩, id,
      fun failed => absurd failed sound⟩
  | inspection occasion subject body =>
    obtain ⟨inspection, db, recorded, rfl⟩ := decides
    obtain ⟨inspectable, _, ⟨pass, rfl⟩ | ⟨fail, rfl⟩⟩ := recordInspection_ok recorded
    · have unchanged : (lot.failed || (decide (inspection.result = .fail) && !lot.activated)) =
          lot.failed := by simp [pass]
      exact ⟨fun failed => good (unchanged.symm.trans failed), ⟨row, stored⟩,
        fun failed => unchanged.trans failed, fun _ => rfl⟩
    · have other : BatchStatus.inspectionFailed ≠ copy.status := by
        rcases inspectable with ready | active
        · simp [ready]
        · simp [active]
      exact ⟨fun _ => ⟨_, Rows.stored_modify_self stored, Relock.column_assigned other _⟩,
        ⟨_, Rows.stored_modify_self stored⟩, fun failed => by simp [failed], fun _ => rfl⟩
  | activate occasion subject =>
    obtain ⟨count, db, activated, rfl⟩ := decides
    obtain ⟨ready, _, message, rfl⟩ := activateBatch_ok activated
    have sound : lot.failed ≠ true := fun failed => timely failed ready
    exact ⟨fun failed => absurd failed sound, ⟨_, Rows.stored_modify_self stored⟩, id,
      fun failed => absurd failed sound⟩

/-- Requests that get the lock in time keep a failed lot failed. -/
theorem law (env : Env) (batchId : Nat) :
    Relocking.Law (service env batchId) (Good batchId) (fun _ _ => True) Timely := by
  constructor
  case refl => exact fun _ => trivial
  case commits =>
    rintro lot call copy row later next good stored _ timely ⟨rfl, decides⟩
    have kept := decides_kept good stored timely decides
    obtain ⟨held, present⟩ := kept.stored
    exact ⟨kept.good, held, present, fun _ _ => trivial, fun _ _ absurdity => by cases absurdity⟩

/-- A step neither readies nor activates a lot that failed, and activates none of its
stamps. -/
structure Barred (batchId : Nat) (before after : Lot) : Prop where
  batch : ∀ row : StampBatch, after.db.stampBatches[batchId]? = some row →
    row.status ≠ .ready ∧ row.status ≠ .active
  stamps : ∀ (stampId : Nat) (stamp moved : Stamp), before.db.stamps[stampId]? = some stamp →
    after.db.stamps[stampId]? = some moved → stamp.batchId = batchId → stamp.status = .issued →
      moved.status ≠ .active

/-- A failed lot is not activated by requests that get the lock in time. -/
theorem never_activates {lot : Lot} (sound : lot.failed = false)
    {world after : Sessions.World Lot (Relocking.Stage Call StampBatch)}
    (run : Sessions.Reachable (Relocking.timed (service env batchId) Timely) lot world)
    (step : Sessions.Step (Relocking.timed (service env batchId) Timely) world after)
    (failed : world.shared.failed = true) : Barred batchId world.shared after.shared := by
  have initially : Good batchId lot := fun absurdity => by cases sound.symm.trans absurdity
  have good := (law env batchId).reachable initially run
  have kept : Good batchId after.shared ∧ after.shared.failed = true ∧
      after.shared.db.stamps = world.shared.db.stamps := by
    rcases (law env batchId).step initially run step with same | ⟨call, copy, row, next, stored, _, timely, _,
      decides⟩
    · rw [same]
      exact ⟨good, failed, rfl⟩
    · have kept := decides_kept good stored timely decides
      exact ⟨kept.good, kept.failed failed, kept.stamps failed⟩
  obtain ⟨later, still, same⟩ := kept
  obtain ⟨row, stored, status⟩ := later still
  constructor
  · intro held present
    obtain rfl := Option.some.inj (stored.symm.trans present)
    exact ⟨by simp [status], by simp [status]⟩
  · intro stampId stamp moved before present _ issued
    rw [same, before] at present
    obtain rfl := Option.some.inj present
    simp [issued]

section Sample

/-- The sample batch after it passed its inspection. -/
def inspected : List Api.Request := Api.Sample.activating.dropLast

/-- An inspection that fails the lot. -/
def failing : Call := .inspection Api.Sample.occasion (py "inspector") Api.Sample.defectives

/-- An activation. -/
def activating : Call := .activate Api.Sample.occasion (py "maker")

/-- An inspection that finds nothing. -/
def passing : Call := .inspection Api.Sample.occasion (py "inspector") Api.Sample.flawless

/-- A second inspection fails the batch. By an older copy it is then activated, and
inspected once more. -/
theorem failed_between : ∃ (row held later : StampBatch) (failed passed : Inspection × Db) (final : Nat × Db),
    (Api.Sample.state inspected).stampBatches[0]? = some row ∧
    (Api.Sample.state inspected).stamps.all (fun stamp => stamp.activatedAt.isNone) = true ∧
    recordInspection Api.Sample.occasion 2 (py "inspector") 0 row (Api.Sample.state inspected) =
      .ok failed ∧
    failed.1.result = .fail ∧ failed.2.stampBatches[0]? = some held ∧
    recordInspection Api.Sample.occasion 0 (py "inspector") 0 row failed.2 = .ok passed ∧
    passed.2.inspections.length = 3 ∧
    activateBatch .sample Api.Sample.occasion (py "maker") 0 row failed.2 = .ok final ∧
    final.2.stampBatches[0]? = some later ∧ later.status = .active := by
  have checked : (Api.Sample.state inspected).stampBatches[0]?.any (fun row =>
      (Api.Sample.state inspected).stamps.all (fun stamp => stamp.activatedAt.isNone) &&
      (recordInspection Api.Sample.occasion 2 (py "inspector") 0 row
        (Api.Sample.state inspected)).toOption.any (fun failed =>
          decide (failed.1.result = .fail) && failed.2.stampBatches[0]?.isSome &&
          (recordInspection Api.Sample.occasion 0 (py "inspector") 0 row failed.2).toOption.any (fun passed =>
            decide (passed.2.inspections.length = 3)) &&
          (activateBatch .sample Api.Sample.occasion (py "maker") 0 row failed.2).toOption.any (fun final =>
            final.2.stampBatches[0]?.any (fun later => decide (later.status = .active))))) = true := by
    decide +kernel
  simp only [Option.any_eq_true, Bool.and_eq_true, decide_eq_true_eq, Option.isSome_iff_exists,
    Result.toOption_some] at checked
  obtain ⟨row, stored, fresh, failed, recorded, ⟨⟨fail, held, present⟩, passed, repeated, three⟩, final, activated,
    later, last, active⟩ := checked
  exact ⟨row, held, later, failed, passed, final, stored, fresh, recorded, fail, present, repeated, three, activated,
    last, active⟩

/-- A failing inspection by itself. -/
theorem fails_alone {db : Db} {row : StampBatch} {failed : Inspection × Db}
    (stored : db.stampBatches[0]? = some row)
    (recorded : recordInspection Api.Sample.occasion 2 (py "inspector") 0 row db = .ok failed)
    (fail : failed.1.result = .fail) :
    Sessions.Alone (Relocking.timed (service .sample 0) Timely) ⟨db, false, false⟩ (.called failing)
      ⟨failed.2, false, true⟩ := by
  refine Relocking.alone stored not_false (fun absurdity => by cases absurdity) ⟨rfl, failed.1, failed.2,
    recorded, ?_⟩
  simp [fail]

/-- A request to activate a batch that was inspected waits for the lock while a
failing inspection is committed, and activates the batch. -/
theorem failed_lot_activated : ¬ ∀ (env : Env) (batchId : Nat) (db : Db)
    (world after : Sessions.World Lot (Relocking.Stage Call StampBatch)), Api.Reachable env db →
    (∀ stamp ∈ db.stamps, stamp.batchId = batchId → stamp.activatedAt = none) →
    Sessions.Reachable (Relocking.protocol (service env batchId)) ⟨db, false, false⟩ world →
    Sessions.Step (Relocking.protocol (service env batchId)) world after →
      world.shared.failed = true → Barred batchId world.shared after.shared := by
  intro claimed
  obtain ⟨row, held, later, failed, _, final, stored, fresh, recorded, fail, present, _, _, activated, last,
    active⟩ := failed_between
  have untouched : ∀ stamp ∈ (Api.Sample.state inspected).stamps, stamp.batchId = 0 →
      stamp.activatedAt = none := by
    intro stamp member _
    exact Option.isNone_iff_eq_none.mp (List.all_eq_true.mp fresh stamp member)
  have reached := Api.Sample.state_reachable inspected
  generalize Api.Sample.state inspected = db at stored recorded untouched reached
  have run : Sessions.Reachable (Relocking.protocol (service .sample 0)) ⟨db, false, false⟩
      (Sessions.World.single ⟨failed.2, false, true⟩ (.locked activating row)) :=
    (Relocking.outdated stored not_false (Relocking.untimed (fails_alone stored recorded fail).forget) present
      trivial).forget
  have commits : (service .sample 0).commits ⟨failed.2, false, true⟩ activating row
      ⟨final.2, true, true⟩ none := ⟨rfl, final.1, final.2, activated, rfl⟩
  have barred := claimed .sample 0 db _ _ reached untouched run (Relocking.commitStep Timely commits).forget rfl
  exact (barred.batch later last).2 active

/-- An inspection waits for the lock while another one fails the batch, and then passes it
by its older copy. The batch stays failed. -/
theorem never_activates_sample : ∃ world after : Sessions.World Lot (Relocking.Stage Call StampBatch),
    Sessions.Reachable (Relocking.timed (service .sample 0) Timely) ⟨Api.Sample.state inspected, false, false⟩ world ∧
      Sessions.Step (Relocking.timed (service .sample 0) Timely) world after ∧ world.shared.failed = true ∧
      after.shared.db.inspections.length = 3 ∧ Barred 0 world.shared after.shared := by
  obtain ⟨row, held, _, failed, passed, _, stored, _, recorded, fail, present, again, three, _⟩ := failed_between
  generalize Api.Sample.state inspected = db at stored recorded ⊢
  have run : Sessions.Reachable (Relocking.timed (service .sample 0) Timely) ⟨db, false, false⟩
      (Sessions.World.single ⟨failed.2, false, true⟩ (.locked passing row)) :=
    Relocking.outdated stored not_false (fails_alone stored recorded fail) present (fun _ => trivial)
  have commits : (service .sample 0).commits ⟨failed.2, false, true⟩ passing row ⟨passed.2, false, true⟩ none :=
    ⟨rfl, passed.1, passed.2, again, rfl⟩
  have step := Relocking.commitStep Timely commits
  exact ⟨_, _, run, step, rfl, three, never_activates rfl run step rfl⟩

end Sample

end TaxStamps.Lots
