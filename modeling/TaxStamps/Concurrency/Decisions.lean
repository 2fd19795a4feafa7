import TaxStamps.Api.Sample
import TaxStamps.Invariants.Clearance
import TaxStamps.Library.Sessions

/-!
# Concurrent decisions on one assessment

A request locks the row of the assessment and reads it under the lock, counts
the decisions there are, inserts its own, counts again, and commits or is rolled
back. Every count sees what is committed when it runs; the lock is what keeps
the counts and the row true until the commit.
-/

namespace TaxStamps.Decisions

open Assessments Clearance

variable {env : Env} {assessmentId : Nat} {db : Db}

/-- The arguments of `record_decision`. -/
structure Call where
  occasion : Occasion
  principalSub : PyStr
  decision : Decision
  reason : PyStr

/-- The row that a request adds at its level. -/
def Call.approval (call : Call) (assessmentId : Nat) (level : Int) : Approval where
  assessmentId := assessmentId
  principalSub := call.principalSub
  decision := call.decision
  level := level
  reason := call.reason
  decidedAt := call.occasion.time

/-- Where a request is in `record_decision`. -/
inductive Session
  /-- It waits for the lock. -/
  | asked (call : Call)
  /-- It has the lock and the row. -/
  | locked (call : Call) (row : Assessment)
  /-- The guards have passed. -/
  | checked (call : Call) (row : Assessment)
  /-- The level of the decision is counted. -/
  | numbered (call : Call) (row : Assessment) (level : Int)
  /-- The decision is inserted, and visible to this request only. -/
  | inserted (row : Assessment) (approval : Approval) (time : Datetime)
  /-- The verdict is written as well. -/
  | written (approval : Approval) (verdict : Option AssessmentStatus) (time : Datetime)

/-- The tables after a decision. -/
def published (assessmentId : Nat) (approval : Approval) (verdict : Option AssessmentStatus)
    (time : Datetime) (db : Db) : Db :=
  { db with
    approvals := db.approvals ++ [approval]
    assessments := judged assessmentId time verdict db.assessments }

/-- What an approval leads to, by the count that includes it. -/
def tally (required : Int) (approvals : List Approval) : Option AssessmentStatus :=
  if required ≤ (approvals.countP approves : Int) then some .approved else none

/-- The statements of `record_decision`. -/
inductive Acts (assessmentId : Nat) (db : Db) : Session → Db → Option Session → Prop
  | lock {call : Call} {row : Assessment} (stored : db.assessments[assessmentId]? = some row) :
      Acts assessmentId db (.asked call) db (some (.locked call row))
  | check {call : Call} {row : Assessment} (checker : call.principalSub ≠ row.submittedBy)
      (first : ∀ other ∈ approvalsIn assessmentId db.approvals, other.principalSub ≠ call.principalSub)
      (pending : row.status = .pendingApproval) :
      Acts assessmentId db (.locked call row) db (some (.checked call row))
  | number {call : Call} {row : Assessment} :
      Acts assessmentId db (.checked call row) db
        (some (.numbered call row ((approvalsIn assessmentId db.approvals).length + 1)))
  | insert {call : Call} {row : Assessment} {level : Int} {pending : Db}
      (inserted : db.insertApproval (call.approval assessmentId level) = .ok pending) :
      Acts assessmentId db (.numbered call row level) db
        (some (.inserted row (call.approval assessmentId level) call.occasion.time))
  | reject {row : Assessment} {approval : Approval} {time : Datetime}
      (reject : approval.decision = .reject) :
      Acts assessmentId db (.inserted row approval time) db
        (some (.written approval (some .rejected) time))
  | approve {row : Assessment} {approval : Approval} {time : Datetime}
      (approve : approval.decision = .approve) :
      Acts assessmentId db (.inserted row approval time) db
        (some (.written approval (tally row.approvalsRequired
          (approvalsIn assessmentId (db.approvals ++ [approval]))) time))
  | commit {approval : Approval} {verdict : Option AssessmentStatus} {time : Datetime} :
      Acts assessmentId db (.written approval verdict time)
        (published assessmentId approval verdict time db) none

/-- The row lock of the assessment. -/
def holdsRow : Session → Unit → Prop
  | .asked _, _ => False
  | _, _ => True

/-- Any number of concurrent decisions on one assessment. -/
def protocol (assessmentId : Nat) : Sessions.Protocol Db Session Unit where
  begins session := ∃ call, session = .asked call
  acts := Acts assessmentId
  holds := holdsRow

/-- Nobody rejected, and fewer approved than required. -/
def Undecided (required : Int) (approvals : List Approval) : Prop :=
  (∀ approval ∈ approvals, approval.decision = .approve) ∧ (approvals.countP approves : Int) < required

/-- What the committed decisions on an assessment, in the order of their
commits, are and lead to. -/
structure Checked (assessment : Assessment) (approvals : List Approval) : Prop where
  distinct : (approvals.map (·.principalSub)).Nodup
  checkers : ∀ approval ∈ approvals, approval.principalSub ≠ assessment.submittedBy
  levels : ∀ (position : Nat) (approval : Approval), approvals[position]? = some approval →
    approval.level = position + 1
  /-- A decision commits only while the assessment is undecided. -/
  orderly : ∀ earlier approval later, approvals = earlier ++ approval :: later →
    Undecided assessment.approvalsRequired earlier
  pending : assessment.status = .pendingApproval ↔ Undecided assessment.approvalsRequired approvals
  rejected : assessment.status = .rejected ↔ ∃ approval ∈ approvals, approval.decision = .reject
  approved : assessment.status = .approved ↔ (∀ approval ∈ approvals, approval.decision = .approve) ∧
    (approvals.countP approves : Int) = assessment.approvalsRequired

/-- Nobody refused. -/
theorem all_approves {approvals : List Approval} :
    approvals.all approves = true ↔ ∀ approval ∈ approvals, approval.decision = .approve := by
  simp [approves]

/-- A quorum is open as long as the assessment is undecided. -/
theorem open_undecided {required : Int} {approvals : List Approval} :
    Quorum.outcome approves required approvals = .open_ ↔ Undecided required approvals := by
  rw [Quorum.open_iff, all_approves, Undecided]

/-- The status is one that decisions lead to. -/
def Judged (status : AssessmentStatus) : Prop :=
  status = .pendingApproval ∨ status = .rejected ∨ status = .approved

/-- An assessment that decisions lead to is pending while its quorum is open. -/
theorem Judged.pending_iff {status : AssessmentStatus} (judged : Judged status) :
    status = .pendingApproval ↔ standing status = .open_ := by
  rcases judged with rfl | rfl | rfl <;> decide

/-- An assessment that decisions lead to is rejected when its quorum is refused. -/
theorem Judged.rejected_iff {status : AssessmentStatus} (judged : Judged status) :
    status = .rejected ↔ standing status = .refused := by
  rcases judged with rfl | rfl | rfl <;> decide

/-- An assessment that decisions lead to is approved when its quorum has passed. -/
theorem Judged.approved_iff {status : AssessmentStatus} (judged : Judged status) :
    status = .approved ↔ standing status = .passed := by
  rcases judged with rfl | rfl | rfl <;> decide

/-- Sound decisions, read off the approvals. -/
theorem checked {assessment : Assessment} {approvals : List Approval} (sound : Sound assessment approvals)
    (judged : Judged assessment.status) (positive : 0 < assessment.approvalsRequired) :
    Checked assessment approvals := by
  constructor
  case distinct => exact sound.distinct
  case checkers => exact sound.checkers
  case levels => exact sound.levels
  case orderly =>
    intro earlier approval later split
    exact open_undecided.mp (sound.orderly earlier approval later split)
  case pending => rw [judged.pending_iff, ← sound.standing, open_undecided]
  case rejected =>
    rw [judged.rejected_iff, ← sound.standing, Quorum.refused_iff]
    refine exists_congr fun approval => and_congr_right fun _ => ?_
    cases decision : approval.decision <;> simp [approves, decision]
  case approved =>
    rw [judged.approved_iff, ← sound.standing]
    constructor
    · intro passed
      exact ⟨all_approves.mp (Quorum.passed_iff.mp passed).1, sound.orderly.passed_count positive passed⟩
    · rintro ⟨favour, count⟩
      exact Quorum.passed_iff.mpr ⟨all_approves.mpr favour, count.ge⟩

/-- What holds of the committed tables. -/
structure Good (assessmentId : Nat) (required : Int) (db : Db) : Prop where
  decisions : Clearance.Decisions db.assessments db.approvals
  judged : ∃ row : Assessment, db.assessments[assessmentId]? = some row ∧ Judged row.status ∧
    row.approvalsRequired = required

/-- What a request has read, under the lock, is still so. -/
def Current (assessmentId : Nat) (db : Db) : Session → Prop
  | .asked _ => True
  | .locked _ row => db.assessments[assessmentId]? = some row
  | .checked call row => ∀ level : Int, level = (approvalsIn assessmentId db.approvals).length + 1 →
      Decided db assessmentId row (call.approval assessmentId level)
  | .numbered call row level => Decided db assessmentId row (call.approval assessmentId level)
  | .inserted row approval _ => Decided db assessmentId row approval
  | .written approval verdict _ => ∃ row, Decided db assessmentId row approval ∧
      Verdict db assessmentId row approval verdict

/-- Enough approvals approve. -/
theorem tally_enough {required : Int} {approvals : List Approval}
    (enough : required ≤ (approvals.countP approves : Int)) : tally required approvals = some .approved :=
  if_pos enough

/-- Too few approvals decide nothing. -/
theorem tally_few {required : Int} {approvals : List Approval}
    (few : ¬ required ≤ (approvals.countP approves : Int)) : tally required approvals = none :=
  if_neg few

/-- An approval leaves the verdict to the tally of the committed decisions and itself. -/
theorem tally_verdict {row : Assessment} {approval : Approval} (approve : approval.decision = .approve) :
    Verdict db assessmentId row approval
      (tally row.approvalsRequired (approvalsIn assessmentId (db.approvals ++ [approval]))) := by
  by_cases enough : row.approvalsRequired ≤
      ((approvalsIn assessmentId (db.approvals ++ [approval])).countP approves : Int)
  · exact tally_enough enough ▸ .approves approve enough
  · exact tally_few enough ▸ .waits approve (not_le.mp enough)

/-- The row of the assessment after a verdict. -/
theorem judged_stored {row : Assessment} {verdict : Option AssessmentStatus} {time : Datetime}
    (stored : db.assessments[assessmentId]? = some row) :
    ∃ later : Assessment, (judged assessmentId time verdict db.assessments)[assessmentId]? = some later ∧
      later.status = verdict.getD row.status ∧ later.approvalsRequired = row.approvalsRequired := by
  cases verdict with
  | none => exact ⟨row, stored, rfl, rfl⟩
  | some status => exact ⟨_, Rows.stored_modify_self stored, rfl, rfl⟩

/-- A verdict on a pending assessment is one that decisions lead to. -/
theorem verdict_judged {row : Assessment} {approval : Approval} {verdict : Option AssessmentStatus}
    (judged : Verdict db assessmentId row approval verdict) (pending : row.status = .pendingApproval) :
    Judged (verdict.getD row.status) := by
  cases judged with
  | rejects => exact Or.inr (Or.inl rfl)
  | approves => exact Or.inr (Or.inr rfl)
  | waits => exact Or.inl pending

/-- The commit of a decision keeps the committed tables good. -/
theorem Good.publish {required : Int} (good : Good assessmentId required db) {row : Assessment}
    {approval : Approval} {verdict : Option AssessmentStatus} {time : Datetime}
    (decided : Decided db assessmentId row approval)
    (verdictOf : Verdict db assessmentId row approval verdict) :
    Good assessmentId required (published assessmentId approval verdict time db) := by
  constructor
  · exact good.decisions.decide decided verdictOf
  · obtain ⟨held, present, _, count⟩ := good.judged
    obtain rfl := Option.some.inj (present.symm.trans decided.stored)
    obtain ⟨later, stored, status, same⟩ := judged_stored present
    exact ⟨later, stored, status ▸ verdict_judged verdictOf decided.pending, same.trans count⟩

/-- Only a request with the lock changes the tables. -/
theorem acts_shared {later : Db} {session : Session} {next : Option Session}
    (acts : Acts assessmentId db session later next) : later = db ∨ holdsRow session () := by
  cases acts with
  | commit => exact Or.inr trivial
  | _ => exact Or.inl rfl

/-- The statements of a request keep the decisions sound. -/
theorem rule (assessmentId : Nat) (required : Int) :
    Sessions.Rule (protocol assessmentId) (Good assessmentId required) (Current assessmentId) := by
  constructor
  case begins =>
    rintro db session _ ⟨call, rfl⟩
    trivial
  case acts =>
    intro db session later next good current acts
    cases acts with
    | commit =>
      obtain ⟨row, decided, verdict⟩ := current
      exact ⟨good.publish decided verdict, fun _ absurdity => by cases absurdity⟩
    | lock stored =>
      refine ⟨good, ?_⟩
      rintro following ⟨⟩
      exact stored
    | check checker first pending =>
      refine ⟨good, ?_⟩
      rintro following ⟨⟩
      exact fun level counted => ⟨current, pending, rfl, checker, first, counted⟩
    | number =>
      refine ⟨good, ?_⟩
      rintro following ⟨⟩
      exact current _ rfl
    | insert =>
      refine ⟨good, ?_⟩
      rintro following ⟨⟩
      exact current
    | reject reject =>
      refine ⟨good, ?_⟩
      rintro following ⟨⟩
      exact ⟨_, current, .rejects reject⟩
    | approve approve =>
      refine ⟨good, ?_⟩
      rintro following ⟨⟩
      exact ⟨_, current, tally_verdict approve⟩
  case stable =>
    intro db session later next other _ _ acts otherCurrent apart
    rcases acts_shared acts with rfl | held
    · exact otherCurrent
    · cases other with
      | asked => trivial
      | _ => exact absurd trivial (apart () held)

/-- The commit of a decision whose verdict is known. -/
theorem Acts.committed {approval : Approval} {verdict settled : Option AssessmentStatus}
    {time : Datetime} (same : verdict = settled) :
    Acts assessmentId db (.written approval verdict time)
      (published assessmentId approval settled time db) none := same ▸ .commit

/-- A request that runs by itself is `record_decision`. -/
theorem alone {occasion : Occasion} {principalSub reason : PyStr} {decision : Decision} {after : Db}
    (recorded : recordDecision occasion assessmentId principalSub decision reason db = .ok after) :
    Sessions.Alone (protocol assessmentId) db (.asked ⟨occasion, principalSub, decision, reason⟩)
      after := by
  unfold recordDecision at recorded
  split at recorded
  case _ => cases recorded
  case _ row stored =>
    obtain ⟨_, checker, recorded⟩ := Result.bind_ok.mp recorded
    obtain ⟨_, first, recorded⟩ := Result.bind_ok.mp recorded
    obtain ⟨_, pending, recorded⟩ := Result.bind_ok.mp recorded
    obtain ⟨middle, inserted, recorded⟩ := Result.bind_ok.mp recorded
    rw [Result.require_ok, decide_eq_true_eq] at checker pending
    simp only [Result.require_ok, Bool.not_eq_true', List.any_eq_false, decide_eq_true_eq] at first
    refine .next (Acts.lock stored) (.next (Acts.check checker first pending) (.next Acts.number
      (.next (Acts.insert inserted) ?_)))
    obtain rfl := Db.insertApproval_ok inserted
    cases decision with
    | reject =>
      cases recorded
      exact .next (Acts.reject rfl) (.last Acts.commit)
    | approve =>
      refine .next (Acts.approve rfl) (.last ?_)
      dsimp only at recorded
      split at recorded
      case isTrue enough =>
        cases recorded
        exact Acts.committed (tally_enough enough)
      case isFalse few =>
        cases recorded
        exact Acts.committed (tally_few few)

/-- Maker and checker stay apart, and the decisions count as they commit, in
every interleaving of decisions on a pending assessment. -/
theorem maker_checker {initial : Db} {pending : Assessment} {world : Sessions.World Db Session}
    (reached : Api.Reachable env initial) (stored : initial.assessments[assessmentId]? = some pending)
    (undecided : pending.status = .pendingApproval)
    (run : Sessions.Reachable (protocol assessmentId) initial world) :
    ∃ row : Assessment, world.shared.assessments[assessmentId]? = some row ∧
      Checked row (approvalsIn assessmentId world.shared.approvals) := by
  have decisions := Clearance.decisions reached
  have open_ := (decisions.sound assessmentId pending stored).standing
  rw [undecided] at open_
  have positive : 0 < pending.approvalsRequired := by
    have few := (open_undecided.mp open_).2
    omega
  have good : Good assessmentId pending.approvalsRequired initial :=
    ⟨decisions, pending, stored, Or.inl undecided, rfl⟩
  obtain ⟨⟨decisions, row, present, judged, required⟩, _⟩ := (rule assessmentId _).reachable good run
  exact ⟨row, present, checked (decisions.sound assessmentId row present) judged (required ▸ positive)⟩

/-- A declaration whose duty asks for two approvals. -/
def large : DeclarationIn :=
  { Api.Sample.declaration with
    lines := [⟨py "2402", [], 200000, py "STICK", 1000, 2⟩]
    lines_accepted := by decide }

/-- The maker asks for the assessment of the large declaration. -/
def proposed : List Api.Request :=
  [.declaration (py "maker") large, .assessment (py "maker") [] Api.Sample.assessing]

/-- Two checkers approve, one after the other. -/
theorem approved_by_two : ∃ (initial middle final : Db) (pending : Assessment), Api.Reachable .sample initial ∧
    initial.assessments[0]? = some pending ∧ pending.status = .pendingApproval ∧
    recordDecision Api.Sample.occasion 0 (py "checker") .approve [] initial = .ok middle ∧
    recordDecision Api.Sample.occasion 0 (py "auditor") .approve [] middle = .ok final ∧
    final.assessments.map Assessment.status = [.approved] ∧ final.approvals.map Approval.level = [1, 2] := by
  have reached := Api.Sample.state_reachable proposed
  have checked : (let db := Api.Sample.state proposed
      db.assessments[0]?.any (fun row => decide (row.status = .pendingApproval)) &&
      (recordDecision Api.Sample.occasion 0 (py "checker") .approve [] db).toOption.any (fun middle =>
        (recordDecision Api.Sample.occasion 0 (py "auditor") .approve [] middle).toOption.any (fun final =>
          decide (final.assessments.map Assessment.status = [.approved] ∧
            final.approvals.map Approval.level = [1, 2])))) = true := by decide +kernel
  generalize Api.Sample.state proposed = db at reached checked
  simp only [Bool.and_eq_true, Option.any_eq_true, decide_eq_true_eq, Result.toOption_some] at checked
  obtain ⟨⟨pending, stored, undecided⟩, middle, first, final, second, approved, levels⟩ := checked
  exact ⟨db, middle, final, pending, reached, stored, undecided, first, second, approved, levels⟩

/-- The auditor waits for the lock while the checker decides, and then decides as well. -/
theorem maker_checker_sample : ∃ (initial final : Db) (row : Assessment),
    Sessions.Reachable (protocol 0) initial (Sessions.World.start final) ∧
      final.approvals.map Approval.level = [1, 2] ∧ final.assessments[0]? = some row ∧
      row.status = .approved ∧ Checked row (approvalsIn 0 final.approvals) := by
  obtain ⟨initial, middle, final, pending, reached, stored, undecided, first, second, approved, levels⟩ :=
    approved_by_two
  have run : Sessions.Reachable (protocol 0) initial (Sessions.World.start final) :=
    Sessions.interleaved ⟨_, rfl⟩ .here (fun _ => not_false) ⟨_, rfl⟩ (alone first) (alone second)
  obtain ⟨row, present, checked⟩ := maker_checker reached stored undecided run
  change final.assessments[0]? = some row at present
  have status := congrArg (fun column => column[0]?) approved
  rw [List.getElem?_map, present] at status
  exact ⟨initial, final, row, run, levels, present, Option.some.inj status, checked⟩

end TaxStamps.Decisions
