import TaxStamps.Effects.Requests
import TaxStamps.Library.Quorum

/-!
# From assessment to payment over whole runs

An assessment keeps what it was computed from; its status follows the decisions
on it, then the intent and the receipt. Each section is one invariant of all
runs.
-/

namespace TaxStamps

open Api

/-- The columns of an assessment that are never updated. -/
def Assessment.fixed (assessment : Assessment) : Assessment :=
  { assessment with status := .pendingApproval, decidedAt := none }

variable {env : Env} {db after : Db}

namespace Clearance

/-- A verdict keeps what is fixed of an assessment. -/
theorem judged_fixed (assessmentId : Nat) (time : Datetime) (verdict : Option AssessmentStatus)
    (assessments : List Assessment) :
    (Assessments.judged assessmentId time verdict assessments).map Assessment.fixed =
      assessments.map Assessment.fixed := by
  cases verdict with
  | none => rfl
  | some status => exact Rows.keys_modify _ _ _ _ (fun _ => rfl)

/-- A status keeps what is fixed of an assessment. -/
theorem status_fixed (assessmentId : Nat) (status : AssessmentStatus) (assessments : List Assessment) :
    (assessments.modify assessmentId (fun row => { row with status := status })).map Assessment.fixed =
      assessments.map Assessment.fixed := Rows.keys_modify _ _ _ _ (fun _ => rfl)

/-- The fixed columns that are read later. -/
structure Kept (old row : Assessment) : Prop where
  declarationId : row.declarationId = old.declarationId
  totalDutyKobo : row.totalDutyKobo = old.totalDutyKobo
  stampsRequired : row.stampsRequired = old.stampsRequired
  approvalsRequired : row.approvalsRequired = old.approvalsRequired
  submittedBy : row.submittedBy = old.submittedBy
  submittedAt : row.submittedAt = old.submittedAt

/-- The row whose fixed columns a row has kept. -/
theorem fixed_origin {before later : List Assessment}
    (same : later.map Assessment.fixed = before.map Assessment.fixed) {id : Nat} {row : Assessment}
    (stored : later[id]? = some row) : ∃ old, before[id]? = some old ∧ Kept old row := by
  have mapped : (before.map Assessment.fixed)[id]? = some row.fixed := by
    rw [← same, List.getElem?_map, stored]
    rfl
  rw [List.getElem?_map] at mapped
  obtain ⟨old, present, equal⟩ := Option.map_eq_some_iff.mp mapped
  simp only [Assessment.fixed, Assessment.mk.injEq] at equal
  obtain ⟨declaration, _, _, total, stamps, _, approvals, submitter, submitted, _, _⟩ := equal
  exact ⟨old, present, declaration.symm, total.symm, stamps.symm, approvals.symm, submitter.symm,
    submitted.symm⟩

section Lines

/-- A line bears a duty on the day. -/
def bears (env : Env) (on : Date) (line : DeclarationLine) : Bool :=
  match Tariff.computeLineDuty env.unicode line.hsCode line.quantity line.customsValueKobo on with
  | .ok (some _) => true
  | _ => false

/-- The stamps that the lines with a duty require. -/
def stampsOf (env : Env) (on : Date) (lines : List DeclarationLine) : Int :=
  ((lines.filter (bears env on)).map (·.stampsRequired)).sum

/-- The loop adds the stamps of the lines with a duty. -/
theorem assessLines_stamps {on : Date} {assessmentId : Nat} {lines : List DeclarationLine}
    {computed finished : Assessments.Computed}
    (assessed : Assessments.assessLines env on assessmentId lines computed = .ok finished) :
    finished.stamps = computed.stamps + stampsOf env on lines := by
  induction lines generalizing computed with
  | nil =>
    cases assessed
    simp [stampsOf]
  | cons line rest inductionHypothesis =>
    obtain ⟨middle, first, assessed⟩ := Result.bind_ok.mp assessed
    obtain ⟨duty, bearing, first⟩ := Result.bind_ok.mp first
    have computes : Tariff.computeLineDuty env.unicode line.hsCode line.quantity line.customsValueKobo on =
      .ok duty := bearing
    have later := inductionHypothesis assessed
    cases duty with
    | none =>
      cases first
      have skipped : bears env on line = false := by simp [bears, computes]
      simp [later, stampsOf, skipped]
    | some duty =>
      cases first
      have counted : bears env on line = true := by simp [bears, computes]
      simp [later, stampsOf, counted, add_assoc]

/-- Every assessment was computed from the lines of its declaration, and they
are still the same. -/
structure Computed (env : Env) (declarations : List Declaration) (lines : List DeclarationLine)
    (assessments : List Assessment) : Prop where
  owned : ∀ line ∈ lines, line.declarationId < declarations.length
  declared : ∀ (id : Nat) (assessment : Assessment), assessments[id]? = some assessment →
    assessment.declarationId < declarations.length
  stamps : ∀ (id : Nat) (assessment : Assessment), assessments[id]? = some assessment →
    assessment.stampsRequired = stampsOf env (Datetime.date assessment.submittedAt)
      (Assessments.linesOf assessment.declarationId lines)
  column : ∀ (id : Nat) (assessment : Assessment), assessments[id]? = some assessment →
    bigIntegerColumn assessment.totalDutyKobo = true

variable {declarations : List Declaration} {lines : List DeclarationLine} {assessments : List Assessment}

/-- Updates of the status leave what was computed. -/
theorem Computed.keep (computed : Computed env declarations lines assessments) {later : List Assessment}
    (same : later.map Assessment.fixed = assessments.map Assessment.fixed) :
    Computed env declarations lines later := by
  constructor
  case owned => exact computed.owned
  case declared =>
    intro id row stored
    obtain ⟨old, present, kept⟩ := fixed_origin same stored
    rw [kept.declarationId]
    exact computed.declared id old present
  case stamps =>
    intro id row stored
    obtain ⟨old, present, kept⟩ := fixed_origin same stored
    rw [kept.declarationId, kept.stampsRequired, kept.submittedAt, computed.stamps id old present]
  case column =>
    intro id row stored
    obtain ⟨old, present, kept⟩ := fixed_origin same stored
    rw [kept.totalDutyKobo]
    exact computed.column id old present

/-- A declaration brings lines of its own only. -/
theorem Computed.declare (computed : Computed env declarations lines assessments)
    {declaration : Declaration} {extra : List DeclarationLine}
    (own : ∀ line ∈ extra, line.declarationId = declarations.length) :
    Computed env (declarations ++ [declaration]) (lines ++ extra) assessments := by
  constructor
  case owned =>
    intro line member
    rw [List.length_append, List.length_singleton]
    rcases List.mem_append.mp member with old | new
    · have bound := computed.owned line old
      omega
    · have bound := own line new
      omega
  case declared =>
    intro id row stored
    have bound := computed.declared id row stored
    rw [List.length_append]
    omega
  case stamps =>
    intro id row stored
    have bound := computed.declared id row stored
    have foreign : Assessments.linesOf row.declarationId extra = [] := by
      rw [Assessments.linesOf, List.filter_eq_nil_iff]
      intro line member
      rw [own line member, decide_eq_true_iff]
      omega
    rw [Assessments.linesOf] at foreign
    rw [computed.stamps id row stored, Assessments.linesOf, Assessments.linesOf, List.filter_append,
      foreign, List.append_nil]
  case column => exact computed.column

/-- A new assessment is computed from its declaration. -/
theorem Computed.assess (computed : Computed env declarations lines assessments)
    {assessment : Assessment} (declared : assessment.declarationId < declarations.length)
    (stamps : assessment.stampsRequired = stampsOf env (Datetime.date assessment.submittedAt)
      (Assessments.linesOf assessment.declarationId lines))
    (fits : bigIntegerColumn assessment.totalDutyKobo = true) :
    Computed env declarations lines (assessments ++ [assessment]) := by
  constructor
  case owned => exact computed.owned
  case declared =>
    intro id row stored
    rcases Rows.stored_insert_cases stored with old | ⟨_, rfl⟩
    · exact computed.declared id row old
    · exact declared
  case stamps =>
    intro id row stored
    rcases Rows.stored_insert_cases stored with old | ⟨_, rfl⟩
    · exact computed.stamps id row old
    · exact stamps
  case column =>
    intro id row stored
    rcases Rows.stored_insert_cases stored with old | ⟨_, rfl⟩
    · exact computed.column id row old
    · exact fits

/-- Every run computes its assessments from the declared lines. -/
theorem computed (reached : Reachable env db) :
    Computed env db.declarations db.declarationLines db.assessments := by
  apply reached.invariant
    (fun state => Computed env state.declarations state.declarationLines state.assessments)
  · exact ⟨by simp [Db.empty], by simp [Db.empty], by simp [Db.empty], by simp [Db.empty]⟩
  · intro before after known effect
    cases effect with
    | declared declaration lines owned => exact known.declare owned
    | assessed declared assessed =>
      obtain ⟨computed, loop, _, stamps, _⟩ := assessed.computed
      have counted := assessLines_stamps loop
      rw [← stamps, Int.zero_add] at counted
      exact known.assess declared counted assessed.column
    | decided => exact known.keep (judged_fixed _ _ _ _)
    | asked => exact known.keep (status_fixed _ _ _)
    | settled => exact known.keep (status_fixed _ _ _)
    | opened => exact known.keep (status_fixed _ _ _)
    | issued _ chunked => cases chunked <;> exact known
    | scanned _ scanned => cases scanned <;> exact known
    | voided _ voided => cases voided <;> exact known
    | _ => exact known

end Lines

section Bills

/-- An intent may exist for an assessment in this status. -/
def billed : AssessmentStatus → Bool
  | .paymentPending => true
  | .paid => true
  | .issuing => true
  | .issued => true
  | _ => false

/-- The duty has been received. -/
def cleared : AssessmentStatus → Bool
  | .paid => true
  | .issuing => true
  | .issued => true
  | _ => false

/-- Every intent asks for the duty of an assessment past its approval, and every
cleared assessment has an applied receipt. -/
structure Bills (assessments : List Assessment) (intents : List PaymentIntent)
    (receipts : List PaymentReceipt) : Prop where
  asks : ∀ (intentId : Nat) (intent : PaymentIntent), intents[intentId]? = some intent →
    ∃ assessment : Assessment, assessments[intent.assessmentId]? = some assessment ∧
      billed assessment.status = true ∧ intent.expectedAmountKobo = assessment.totalDutyKobo ∧
      intent.currency = py "NGN" ∧ 0 < intent.expectedAmountKobo
  clears : ∀ (id : Nat) (assessment : Assessment), assessments[id]? = some assessment →
    cleared assessment.status = true → ∃ receipt ∈ receipts, receipt.status = .applied ∧
      ∃ (intentId : Nat) (intent : PaymentIntent), receipt.paymentIntentId = some intentId ∧
        intents[intentId]? = some intent ∧ intent.assessmentId = id

variable {assessments later : List Assessment} {intents : List PaymentIntent}
  {receipts : List PaymentReceipt}

/-- Assessments that keep their bills and clear none. -/
theorem Bills.move (bills : Bills assessments intents receipts)
    (keeps : ∀ (id : Nat) (row : Assessment), assessments[id]? = some row → billed row.status = true →
      ∃ new : Assessment, later[id]? = some new ∧ billed new.status = true ∧
        new.totalDutyKobo = row.totalDutyKobo)
    (origin : ∀ (id : Nat) (new : Assessment), later[id]? = some new → cleared new.status = true →
      ∃ row : Assessment, assessments[id]? = some row ∧ cleared row.status = true) :
    Bills later intents receipts := by
  constructor
  case asks =>
    intro intentId intent stored
    obtain ⟨row, present, status, amount, currency, positive⟩ := bills.asks intentId intent stored
    obtain ⟨new, current, remains, total⟩ := keeps _ row present status
    exact ⟨new, current, remains, amount.trans total.symm, currency, positive⟩
  case clears =>
    intro id new stored status
    obtain ⟨row, present, was⟩ := origin id new stored status
    exact bills.clears id row present was

/-- A new assessment is neither billed nor cleared. -/
theorem Bills.assess (bills : Bills assessments intents receipts) {assessment : Assessment}
    (pending : assessment.status = .pendingApproval) :
    Bills (assessments ++ [assessment]) intents receipts := by
  apply bills.move
  · intro id row stored status
    exact ⟨row, Rows.stored_append _ stored, status, rfl⟩
  · intro id new stored status
    rcases Rows.stored_insert_cases stored with old | ⟨_, rfl⟩
    · exact ⟨new, old, status⟩
    · rw [pending] at status
      cases status

/-- An assessment without a bill changes its status without being cleared. -/
theorem Bills.change (bills : Bills assessments intents receipts) {id : Nat} {row : Assessment}
    {change : Assessment → Assessment} (stored : assessments[id]? = some row)
    (unbilled : billed row.status = false) (uncleared : cleared (change row).status = false) :
    Bills (assessments.modify id change) intents receipts := by
  apply bills.move
  · intro other old present status
    have different : other ≠ id := by
      rintro rfl
      rw [Option.some.inj (present.symm.trans stored), unbilled] at status
      cases status
    exact ⟨old, (Rows.stored_modify_other different).trans present, status, rfl⟩
  · intro other new present status
    rcases Rows.stored_modify_cases present with ⟨_, kept⟩ | ⟨rfl, old, held, rfl⟩
    · exact ⟨new, kept, status⟩
    · rw [Option.some.inj (held.symm.trans stored), uncleared] at status
      cases status

/-- A new intent for an approved assessment. -/
theorem Bills.ask (bills : Bills assessments intents receipts) {assessmentId : Nat}
    {assessment : Assessment} {intent : PaymentIntent}
    (stored : assessments[assessmentId]? = some assessment) (approved : assessment.status = .approved)
    (asked : Payments.Asked assessmentId assessment intent) :
    Bills (assessments.modify assessmentId (fun row => { row with status := .paymentPending }))
      (intents ++ [intent]) receipts := by
  have changed : Bills (assessments.modify assessmentId (fun row => { row with status := .paymentPending }))
      intents receipts := bills.change stored (by simp [approved, billed]) rfl
  constructor
  case asks =>
    intro intentId row present
    rcases Rows.stored_insert_cases present with old | ⟨_, rfl⟩
    · exact changed.asks intentId row old
    · rw [asked.subject]
      exact ⟨_, Rows.stored_modify_self stored, rfl, asked.amount, asked.currency, asked.positive⟩
  case clears =>
    intro id row present status
    obtain ⟨receipt, member, applied, intentId, held, refers, known, subject⟩ :=
      changed.clears id row present status
    exact ⟨receipt, member, applied, intentId, held, refers, Rows.stored_append _ known, subject⟩

/-- A billed assessment moves on, and its receipt is there if it is cleared. -/
theorem Bills.advance (bills : Bills assessments intents receipts) {id : Nat} {status : AssessmentStatus}
    (remains : billed status = true)
    (receipt : cleared status = true → ∃ receipt ∈ receipts, receipt.status = .applied ∧
      ∃ (intentId : Nat) (intent : PaymentIntent), receipt.paymentIntentId = some intentId ∧
        intents[intentId]? = some intent ∧ intent.assessmentId = id) :
    Bills (assessments.modify id (fun row => { row with status := status })) intents receipts := by
  constructor
  case asks =>
    intro intentId intent stored
    obtain ⟨row, present, was, amount, currency, positive⟩ := bills.asks intentId intent stored
    by_cases same : intent.assessmentId = id
    · rw [same] at present ⊢
      exact ⟨_, Rows.stored_modify_self present, remains, amount, currency, positive⟩
    · exact ⟨row, (Rows.stored_modify_other same).trans present, was, amount, currency, positive⟩
  case clears =>
    intro other row present isCleared
    rcases Rows.stored_modify_cases present with ⟨_, kept⟩ | ⟨rfl, old, held, rfl⟩
    · exact bills.clears other row kept isCleared
    · exact receipt isCleared

/-- Intents keep what they ask for, and receipts only come. -/
theorem Bills.grow (bills : Bills assessments intents receipts) {paid : List PaymentIntent}
    {received : List PaymentReceipt}
    (kept : ∀ (intentId : Nat) (intent : PaymentIntent), paid[intentId]? = some intent →
      ∃ old : PaymentIntent, intents[intentId]? = some old ∧ intent.assessmentId = old.assessmentId ∧
        intent.expectedAmountKobo = old.expectedAmountKobo ∧ intent.currency = old.currency)
    (present : ∀ (intentId : Nat) (old : PaymentIntent), intents[intentId]? = some old →
      ∃ intent : PaymentIntent, paid[intentId]? = some intent ∧ intent.assessmentId = old.assessmentId)
    (more : ∀ receipt ∈ receipts, receipt ∈ received) : Bills assessments paid received := by
  constructor
  case asks =>
    intro intentId intent stored
    obtain ⟨old, was, subject, amount, currency⟩ := kept intentId intent stored
    rw [subject, amount, currency]
    exact bills.asks intentId old was
  case clears =>
    intro id row stored status
    obtain ⟨receipt, member, applied, intentId, held, refers, known, subject⟩ :=
      bills.clears id row stored status
    obtain ⟨intent, current, same⟩ := present intentId held known
    exact ⟨receipt, more receipt member, applied, intentId, intent, refers, current, same.trans subject⟩

/-- A further receipt takes nothing away. -/
theorem Bills.receive (bills : Bills assessments intents receipts) (receipt : PaymentReceipt) :
    Bills assessments intents (receipts ++ [receipt]) :=
  bills.grow (fun _ intent stored => ⟨intent, stored, rfl, rfl, rfl⟩)
    (fun _ intent stored => ⟨intent, stored, rfl⟩) (fun _ member => List.mem_append_left _ member)

/-- A settlement clears the assessment of its intent. -/
theorem Bills.settle (bills : Bills db.assessments db.paymentIntents db.paymentReceipts) {intentId : Nat}
    {intent : PaymentIntent} {externalReference : PyStr} {time : Datetime} {receipt : PaymentReceipt}
    {journal : Journal} (stored : db.paymentIntents[intentId]? = some intent)
    (applied : Payments.Applied db intentId intent externalReference receipt journal) :
    Bills (Payments.settled intentId intent time receipt journal db).assessments
      (Payments.settled intentId intent time receipt journal db).paymentIntents
      (Payments.settled intentId intent time receipt journal db).paymentReceipts := by
  have grown : Bills db.assessments (Payments.settleIntent intentId intent time db).paymentIntents
      (db.paymentReceipts ++ [receipt]) := by
    apply bills.grow
    · intro other row present
      rcases Rows.stored_modify_cases present with ⟨_, kept⟩ | ⟨rfl, old, held, rfl⟩
      · exact ⟨row, kept, rfl, rfl, rfl⟩
      · exact ⟨old, held, rfl, rfl, rfl⟩
    · intro other old present
      by_cases same : other = intentId
      · subst same
        exact ⟨_, Rows.stored_modify_self present, rfl⟩
      · exact ⟨old, (Rows.stored_modify_other same).trans present, rfl⟩
    · exact fun _ member => List.mem_append_left _ member
  refine grown.advance rfl (fun _ => ?_)
  exact ⟨receipt, List.mem_append_right _ List.mem_cons_self, applied.applied, intentId, _,
    applied.matched, Rows.stored_modify_self stored, rfl⟩

/-- Every run bills and clears its assessments. -/
theorem bills (reached : Reachable env db) :
    Bills db.assessments db.paymentIntents db.paymentReceipts := by
  apply reached.invariant
    (fun state => Bills state.assessments state.paymentIntents state.paymentReceipts)
  · exact ⟨by simp [Db.empty], by simp [Db.empty]⟩
  · intro before after known effect
    cases effect with
    | assessed _ assessed => exact known.assess assessed.pending
    | @decided assessmentId assessment _ verdict time _ decided judged =>
      have unbilled : billed assessment.status = false := by simp [decided.pending, billed]
      cases judged with
      | rejects => exact known.change decided.stored unbilled rfl
      | approves => exact known.change decided.stored unbilled rfl
      | waits => exact known
    | asked stored approved asked => exact known.ask stored approved asked
    | quarantined => exact known.receive _
    | settled stored applied => exact known.settle stored applied
    | opened stored paid => exact known.advance rfl (fun _ => known.clears _ _ stored (by simp [paid, cleared]))
    | issued _ chunked => cases chunked <;> exact known
    | scanned _ scanned => cases scanned <;> exact known
    | voided _ voided => cases voided <;> exact known
    | _ => exact known

end Bills

section Decisions

open Assessments

/-- What the decisions on an assessment must amount to. -/
def standing : AssessmentStatus → Quorum.Outcome
  | .pendingApproval => .open_
  | .rejected => .refused
  | _ => .passed

/-- A billed assessment was approved. -/
theorem standing_billed {status : AssessmentStatus} (past : billed status = true) :
    standing status = .passed := by
  cases status <;> first | rfl | cases past

/-- The decisions on an assessment: by different checkers, numbered from one,
each taken while the assessment was pending, and leading to its status. -/
structure Sound (assessment : Assessment) (approvals : List Approval) : Prop where
  distinct : (approvals.map (·.principalSub)).Nodup
  checkers : ∀ approval ∈ approvals, approval.principalSub ≠ assessment.submittedBy
  levels : ∀ (position : Nat) (approval : Approval), approvals[position]? = some approval →
    approval.level = position + 1
  orderly : Quorum.Orderly approves assessment.approvalsRequired approvals
  standing : Quorum.outcome approves assessment.approvalsRequired approvals =
    Clearance.standing assessment.status

/-- An assessment that keeps what the decisions depend on. -/
theorem Sound.keep {assessment later : Assessment} {approvals : List Approval}
    (sound : Sound assessment approvals) (submitted : later.submittedBy = assessment.submittedBy)
    (required : later.approvalsRequired = assessment.approvalsRequired)
    (stands : Clearance.standing later.status = Clearance.standing assessment.status) :
    Sound later approvals := by
  constructor
  case distinct => exact sound.distinct
  case checkers => exact submitted ▸ sound.checkers
  case levels => exact sound.levels
  case orderly => exact required ▸ sound.orderly
  case standing => rw [required, stands, sound.standing]

/-- One more decision on a pending assessment. -/
theorem Sound.decide {assessment later : Assessment} {approvals : List Approval} {approval : Approval}
    (sound : Sound assessment approvals) (pending : assessment.status = .pendingApproval)
    (checker : approval.principalSub ≠ assessment.submittedBy)
    (first : ∀ other ∈ approvals, other.principalSub ≠ approval.principalSub)
    (level : approval.level = approvals.length + 1)
    (submitted : later.submittedBy = assessment.submittedBy)
    (required : later.approvalsRequired = assessment.approvalsRequired)
    (stands : Quorum.outcome approves assessment.approvalsRequired (approvals ++ [approval]) =
      Clearance.standing later.status) : Sound later (approvals ++ [approval]) := by
  have undecided : Quorum.outcome approves assessment.approvalsRequired approvals = .open_ := by
    rw [sound.standing, pending]
    rfl
  constructor
  case distinct =>
    rw [List.map_append, List.nodup_append]
    refine ⟨sound.distinct, List.nodup_singleton _, ?_⟩
    rintro name listed other last rfl
    obtain ⟨held, member, named⟩ := List.mem_map.mp listed
    rw [List.map_cons, List.map_nil, List.mem_singleton] at last
    exact first held member (named.trans last)
  case checkers =>
    rw [submitted]
    intro other member
    rcases List.mem_append.mp member with old | new
    · exact sound.checkers other old
    · exact List.mem_singleton.mp new ▸ checker
  case levels =>
    intro position other stored
    rcases Rows.stored_insert_cases stored with old | ⟨rfl, rfl⟩
    · exact sound.levels position other old
    · exact level
  case orderly => exact required ▸ sound.orderly.append undecided approval
  case standing => rw [required, stands]

/-- All decisions belong to assessments and are sound. -/
structure Decisions (assessments : List Assessment) (approvals : List Approval) : Prop where
  owned : ∀ approval ∈ approvals, approval.assessmentId < assessments.length
  sound : ∀ (id : Nat) (assessment : Assessment), assessments[id]? = some assessment →
    Sound assessment (approvalsIn id approvals)

variable {assessments later : List Assessment} {approvals : List Approval}

/-- Assessments that change without a decision. -/
theorem Decisions.move (decisions : Decisions assessments approvals)
    (long : assessments.length ≤ later.length)
    (kept : ∀ (id : Nat) (row : Assessment), later[id]? = some row →
      ∃ old : Assessment, assessments[id]? = some old ∧ row.submittedBy = old.submittedBy ∧
        row.approvalsRequired = old.approvalsRequired ∧ standing row.status = standing old.status) :
    Decisions later approvals := by
  constructor
  · exact fun approval member => Nat.lt_of_lt_of_le (decisions.owned approval member) long
  · intro id row stored
    obtain ⟨old, present, submitted, required, stands⟩ := kept id row stored
    exact (decisions.sound id old present).keep submitted required stands

/-- The status of a row changes within its standing. -/
theorem Decisions.restate (decisions : Decisions assessments approvals) {id : Nat}
    {status : AssessmentStatus} (same : ∀ row : Assessment, assessments[id]? = some row →
      standing status = standing row.status) :
    Decisions (assessments.modify id (fun row => { row with status := status })) approvals := by
  apply decisions.move
  · rw [List.length_modify]
  · intro other row stored
    rcases Rows.stored_modify_cases stored with ⟨_, kept⟩ | ⟨rfl, old, held, rfl⟩
    · exact ⟨row, kept, rfl, rfl, rfl⟩
    · exact ⟨old, held, rfl, rfl, same old held⟩

/-- Nobody has decided on a new assessment. -/
theorem Decisions.assess (decisions : Decisions assessments approvals) {assessment : Assessment}
    (pending : assessment.status = .pendingApproval) (required : 0 < assessment.approvalsRequired) :
    Decisions (assessments ++ [assessment]) approvals := by
  constructor
  · intro approval member
    have bound := decisions.owned approval member
    rw [List.length_append]
    omega
  · intro id row stored
    rcases Rows.stored_insert_cases stored with old | ⟨rfl, rfl⟩
    · exact decisions.sound id row old
    · have unheard : approvalsIn assessments.length approvals = [] := by
        rw [approvalsIn, List.filter_eq_nil_iff]
        intro approval member
        have bound := decisions.owned approval member
        rw [decide_eq_true_iff]
        omega
      rw [unheard]
      constructor
      case distinct => exact List.nodup_nil
      case checkers => exact fun _ absurdity => by cases absurdity
      case levels => exact fun _ _ absurdity => by cases absurdity
      case orderly => exact Quorum.orderly_nil
      case standing => rw [Quorum.outcome_nil required, pending]; rfl

/-- A verdict is what the decisions amount to. -/
theorem verdict_outcome {assessmentId : Nat} {assessment : Assessment} {approval : Approval}
    {verdict : Option AssessmentStatus} (sound : Sound assessment (approvalsIn assessmentId db.approvals))
    (pending : assessment.status = .pendingApproval) (subject : approval.assessmentId = assessmentId)
    (judged : Verdict db assessmentId assessment approval verdict) :
    Quorum.outcome approves assessment.approvalsRequired
      (approvalsIn assessmentId db.approvals ++ [approval]) =
        standing (verdict.getD .pendingApproval) := by
  have joined : approvalsIn assessmentId (db.approvals ++ [approval]) =
      approvalsIn assessmentId db.approvals ++ [approval] := by
    simp [approvalsIn, subject]
  have undecided : Quorum.outcome approves assessment.approvalsRequired
      (approvalsIn assessmentId db.approvals) = .open_ := by
    rw [sound.standing, pending]
    rfl
  cases judged with
  | rejects reject => exact Quorum.outcome_against (by simp [approves, reject])
  | approves approve enough =>
    rw [joined] at enough
    rw [Quorum.outcome_favour undecided (by simp [approves, approve]), if_pos enough]
    rfl
  | waits approve few =>
    rw [joined] at few
    rw [Quorum.outcome_favour undecided (by simp [approves, approve]), if_neg (not_le.mpr few)]
    rfl

/-- A recorded decision keeps all decisions sound. -/
theorem Decisions.decide (decisions : Decisions db.assessments db.approvals) {assessmentId : Nat}
    {assessment : Assessment} {approval : Approval} {verdict : Option AssessmentStatus} {time : Datetime}
    (decided : Decided db assessmentId assessment approval)
    (verdictOf : Verdict db assessmentId assessment approval verdict) :
    Decisions (judged assessmentId time verdict db.assessments) (db.approvals ++ [approval]) := by
  have bound := (List.getElem?_eq_some_iff.mp decided.stored).1
  have length : (judged assessmentId time verdict db.assessments).length = db.assessments.length := by
    cases verdict <;> simp [judged]
  have sound := decisions.sound assessmentId assessment decided.stored
  have stands := verdict_outcome sound decided.pending decided.subject verdictOf
  constructor
  · intro other member
    rw [length]
    rcases List.mem_append.mp member with old | new
    · exact decisions.owned other old
    · rw [List.mem_singleton.mp new, decided.subject]
      exact bound
  · intro id row stored
    by_cases same : id = assessmentId
    · subst same
      have joined : approvalsIn id (db.approvals ++ [approval]) =
          approvalsIn id db.approvals ++ [approval] := by
        simp [approvalsIn, decided.subject]
      rw [joined]
      have columns : row.submittedBy = assessment.submittedBy ∧
          row.approvalsRequired = assessment.approvalsRequired ∧
          row.status = verdict.getD .pendingApproval := by
        cases verdict with
        | none =>
          rw [judged, decided.stored] at stored
          obtain rfl := Option.some.inj stored
          exact ⟨rfl, rfl, decided.pending⟩
        | some status =>
          rw [judged, Rows.stored_modify_self decided.stored] at stored
          obtain rfl := Option.some.inj stored
          exact ⟨rfl, rfl, rfl⟩
      exact sound.decide decided.pending decided.checker decided.first decided.level columns.1 columns.2.1
        (columns.2.2 ▸ stands)
    · have others : approvalsIn id (db.approvals ++ [approval]) = approvalsIn id db.approvals := by
        simp [approvalsIn, decided.subject, Ne.symm same]
      rw [others]
      have kept : db.assessments[id]? = some row := by
        cases verdict with
        | none => exact stored
        | some status => rwa [judged, Rows.stored_modify_other same] at stored
      exact decisions.sound id row kept

/-- Every run takes its decisions soundly. -/
theorem decisions (reached : Reachable env db) : Decisions db.assessments db.approvals := by
  apply reached.invariant_along (fun state => Decisions state.assessments state.approvals)
  · exact ⟨by simp [Db.empty], by simp [Db.empty]⟩
  · intro before after run known effect
    cases effect with
    | assessed _ assessed => exact known.assess assessed.pending assessed.required
    | decided decided judged => exact known.decide decided judged
    | asked stored approved =>
      apply known.restate
      intro row present
      rw [Option.some.inj (present.symm.trans stored), approved]
      rfl
    | settled stored =>
      apply known.restate
      intro row present
      obtain ⟨held, current, past, _⟩ := (bills run).asks _ _ stored
      rw [Option.some.inj (present.symm.trans current), standing_billed past]
      rfl
    | opened stored paid =>
      apply known.restate
      intro row present
      rw [Option.some.inj (present.symm.trans stored), paid]
      rfl
    | issued _ chunked => cases chunked <;> exact known
    | scanned _ scanned => cases scanned <;> exact known
    | voided _ voided => cases voided <;> exact known
    | _ => exact known

end Decisions

end Clearance

end TaxStamps
