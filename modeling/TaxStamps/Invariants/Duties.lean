import TaxStamps.Api.Guarded
import TaxStamps.Invariants.Bearer
import TaxStamps.Invariants.Entries
import TaxStamps.Invariants.Pipeline
import TaxStamps.Invariants.Policy

/-!
# Who answers for a stamp

Every entry of the tables goes back to a call of the run whose token was verified and
whose identity a rule of the policy grants the entry. Under the shipped policy the
stages behind an ACTIVE stamp are therefore in different hands: those who submit, those
who approve, the payment rail, those who issue and those who inspect.
-/

namespace TaxStamps.Duties

open Api Auth Entries Guarded Pbac

variable {deployment : Deployment} {engine : PolicyEngine} {service : Service} {call : Call}
  {calls : List Call} {entry : Entry} {rules : List Rule}

section Admission

/-- The request that a call is admitted as. -/
inductive Admitted (deployment : Deployment) (rules : List Rule) (call : Call) : Request → Prop
  | unguarded (free : needOf call.request = none) : Admitted deployment rules call call.request
  | granted {need : Need} {identity : Identity} (needs : needOf call.request = some need)
      (identified : identify deployment call = .ok identity)
      (grants : ∃ rule ∈ rules, Grants rule identity need) :
      Admitted deployment rules call (onBehalf identity.subject call.request)

/-- Who passes the policy is granted the need by a rule. -/
theorem requirePolicy_ok {identity : Identity} {need : Need} {done : Unit}
    (allowed : (requirePolicy engine identity need).1 = .ok done) :
    ∃ rule ∈ engine.rules, Grants rule identity need := by
  rw [requirePolicy] at allowed
  split at allowed
  case isTrue granted => exact allow_iff.mp granted
  case isFalse => cases allowed

/-- Asking the policy leaves its rules. -/
theorem requirePolicy_rules {identity : Identity} {need : Need} :
    (requirePolicy engine identity need).2.rules = engine.rules := by
  rw [requirePolicy]
  split
  case isTrue => exact allow_rules
  case isFalse => exact allow_rules

/-- What the guards answer. -/
theorem guarded_cases : (guarded deployment engine call).2.rules = engine.rules ∧
    ∀ request, (guarded deployment engine call).1 = .ok request →
      Admitted deployment engine.rules call request := by
  unfold guarded
  split
  case _ free =>
    refine ⟨rfl, ?_⟩
    rintro _ ⟨⟩
    exact .unguarded free
  case _ need needs =>
    split
    case _ => exact ⟨rfl, fun _ absurdity => by cases absurdity⟩
    case _ identity identified =>
      have rules := @requirePolicy_rules engine identity need
      split
      case _ done later answer =>
        rw [answer] at rules
        refine ⟨rules, ?_⟩
        rintro _ ⟨⟩
        exact .granted needs identified (requirePolicy_ok (congrArg Prod.fst answer))
      case _ later answer =>
        rw [answer] at rules
        exact ⟨rules, fun _ absurdity => by cases absurdity⟩

/-- A call is refused or served as the request that it is admitted as. -/
theorem serve_cases : (serve deployment service call).engine.rules = service.engine.rules ∧
    ((serve deployment service call).db = service.db ∨
      ∃ request, Admitted deployment service.engine.rules call request ∧
        (serve deployment service call).db = submit deployment.env call.occasion request service.db) := by
  obtain ⟨rules, admitted⟩ := @guarded_cases deployment service.engine call
  unfold serve
  split
  case _ request later answer =>
    rw [answer] at rules admitted
    exact ⟨rules, Or.inr ⟨request, admitted request rfl, rfl⟩⟩
  case _ problem later answer =>
    rw [answer] at rules
    exact ⟨rules, Or.inl rfl⟩

/-- A call enters what its request does. -/
def Makes (deployment : Deployment) (rules : List Rule) (call : Call) (entry : Entry) : Prop :=
  ∃ request, Admitted deployment rules call request ∧ Enters deployment.env.unicode request entry

/-- What is there after a call was there before, or the call makes it. -/
theorem serve_enters (held : service.engine.rules = rules) (has : Has (serve deployment service call).db entry) :
    Has service.db entry ∨ Makes deployment rules call entry := by
  obtain ⟨_, same | ⟨request, admitted, same⟩⟩ := @serve_cases deployment service call
  · rw [same] at has
    exact Or.inl has
  · rw [same, submit] at has
    split at has
    case _ committed handled =>
      rcases entered handled entry has with before | enters
      · exact Or.inl before
      · exact Or.inr ⟨request, held ▸ admitted, enters⟩
    case _ => exact Or.inl has

/-- Nothing is entered in the empty tables. -/
theorem blank (entry : Entry) : ¬ Has Db.empty entry := by
  cases entry <;> simp [Has, At, Db.empty]

/-- No call changes the rules of the service. -/
theorem rules_kept (calls : List Call) (service : Service) :
    (calls.foldl (serve deployment) service).engine.rules = service.engine.rules := by
  induction calls generalizing service with
  | nil => rfl
  | cons call rest inductionHypothesis =>
    calc (rest.foldl (serve deployment) (serve deployment service call)).engine.rules
        = (serve deployment service call).engine.rules := inductionHypothesis _
      _ = service.engine.rules := serve_cases.1

/-- The call entered the entry in the run: the entry was absent before the call, and it has
been present since. -/
def EnteredBy (deployment : Deployment) (engine : PolicyEngine) (calls : List Call) (entry : Entry)
    (call : Call) : Prop :=
  ∃ before later, calls = before ++ call :: later ∧
    ¬ Has (serveAll deployment engine before).db entry ∧
    ∀ middle, middle <+: later → Has (serveAll deployment engine (before ++ call :: middle)).db entry

/-- Every entry was entered by a call of the run, which makes it. -/
theorem made (has : Has (serveAll deployment engine calls).db entry) :
    ∃ call, EnteredBy deployment engine calls entry call ∧ Makes deployment engine.rules call entry := by
  obtain ⟨before, call, later, rfl, absent, present⟩ :=
    @Growth.entered Service Call Entry (serve deployment) (fun service => Has service.db) calls
      ⟨engine, Db.empty⟩ entry (blank entry) has
  refine ⟨call, ⟨before, later, rfl, absent, present⟩, ?_⟩
  have here := present [] (List.nil_prefix)
  rw [List.foldl_append] at here
  rcases serve_enters (rules_kept before ⟨engine, Db.empty⟩) here with early | makes
  · exact absurd early absent
  · exact makes

/-- The states of the service are states of its runs. -/
theorem serveAll_reachable : Reachable deployment.env (serveAll deployment engine calls).db := by
  have steps : ∀ service, Reachable deployment.env service.db →
      Reachable deployment.env (calls.foldl (serve deployment) service).db := by
    induction calls with
    | nil => exact fun _ reached => reached
    | cons call rest inductionHypothesis =>
      intro service reached
      refine inductionHypothesis _ ?_
      obtain ⟨_, same | ⟨request, _, same⟩⟩ := @serve_cases deployment service call
      · exact same ▸ reached
      · exact reached.tail ⟨call.occasion, request, same⟩
  exact steps _ .refl

end Admission

section Accounts

/-- The duties that the policy keeps apart. -/
inductive Duty
  | submit | approve | ask | settle | issue | inspect | activate | void

/-- What the routes of a duty ask the policy for. -/
def Duty.need : Duty → Need
  | .submit => ⟨py "assessment", py "create", py "CONFIDENTIAL"⟩
  | .approve => ⟨py "assessment", py "approve", py "CONFIDENTIAL"⟩
  | .ask => ⟨py "payment", py "create", py "FIDUCIARY_SEGREGATED"⟩
  | .settle => ⟨py "payment", py "settle", py "FIDUCIARY_SEGREGATED"⟩
  | .issue => ⟨py "batch", py "issue", py "CONFIDENTIAL"⟩
  | .inspect => ⟨py "batch", py "inspect", py "CONFIDENTIAL"⟩
  | .activate => ⟨py "batch", py "activate", py "CONFIDENTIAL"⟩
  | .void => ⟨py "stamp", py "void", py "CONFIDENTIAL"⟩

/-- The duty to which an entry belongs. -/
def dutyOf : Entry → Duty
  | .assessment .. => .submit
  | .approval .. => .approve
  | .intent .. => .ask
  | .receipt .. => .settle
  | .batch .. => .issue
  | .stamp .. => .issue
  | .anchor .. => .issue
  | .inspection .. => .inspect
  | .activation .. => .activate
  | .void .. => .void

/-- The principal that the entry names. -/
def principalOf : Entry → Option PyStr
  | .assessment _ submittedBy => some submittedBy
  | .approval _ row => some row.principalSub
  | .inspection _ row => some row.inspectorSub
  | _ => none

variable {tables : Unicode} {request : Request} {subject : PyStr}

/-- The need of a request does not depend on who makes it. -/
theorem needOf_behalf : needOf (onBehalf subject request) = needOf request := by
  cases request <;> rfl

/-- The need of an entry is that of every request that enters it. -/
theorem enters_needs (enters : Enters tables request entry) : needOf request = some (dutyOf entry).need := by
  cases request with
  | assessment => cases entry with
    | assessment => rfl
    | _ => exact enters.elim
  | decision => cases entry with
    | approval => rfl
    | _ => exact enters.elim
  | paymentIntent => cases entry with
    | intent => rfl
    | _ => exact enters.elim
  | receipt => cases entry with
    | receipt => rfl
    | _ => exact enters.elim
  | batch => cases entry with
    | batch => rfl
    | _ => exact enters.elim
  | issue => cases entry with
    | stamp => rfl
    | _ => exact enters.elim
  | finalize => cases entry with
    | anchor => rfl
    | _ => exact enters.elim
  | inspection => cases entry with
    | inspection => rfl
    | _ => exact enters.elim
  | activate => cases entry with
    | activation => rfl
    | _ => exact enters.elim
  | void => cases entry with
    | void => rfl
    | _ => exact enters.elim
  | _ => cases entry <;> exact enters.elim

/-- An entry names the subject of its request. -/
theorem enters_principal (enters : Enters tables (onBehalf subject request) entry) {principal : PyStr}
    (named : principalOf entry = some principal) : subject = principal := by
  cases entry with
  | assessment => cases request with
    | assessment => exact enters.symm.trans (Option.some.inj named)
    | _ => exact enters.elim
  | approval => cases request with
    | decision => exact enters.2.1.symm.trans (Option.some.inj named)
    | _ => exact enters.elim
  | inspection => cases request with
    | inspection => exact enters.2.symm.trans (Option.some.inj named)
    | _ => exact enters.elim
  | _ => cases named

/-- The token of the call verifies under a key of the keyring, and its claims are accepted. -/
def Verified (deployment : Deployment) (call : Call) : Prop :=
  ∃ keyring token, deployment.keyring = some keyring ∧
    Presents deployment.env.unicode call.authorization token ∧
    Vouched deployment.interpreter keyring deployment.settings call.now token

/-- An identified caller has a verified token. -/
theorem identified_verified {identity : Identity} (identified : identify deployment call = .ok identity) :
    Verified deployment call := by
  unfold identify getIdentity at identified
  split at identified
  case _ => cases identified
  case _ keyring present =>
    split at identified
    case isTrue => cases identified
    case isFalse =>
      split at identified
      case isTrue => cases identified
      case isFalse presented =>
        split at identified
        case _ verified => exact ⟨keyring, _, present, ⟨not_not.mp presented, rfl⟩, verifyBearer_sound verified⟩
        case _ => cases identified
        case _ => cases identified

/-- Who answers for an entry: the identity of the call that entered it, whose token verified
and whose request is for such an entry. It is the principal that the entry names, if it names
one. -/
structure AnswersFor (deployment : Deployment) (engine : PolicyEngine) (calls : List Call) (entry : Entry)
    (identity : Identity) : Prop where
  call : ∃ call, EnteredBy deployment engine calls entry call ∧ Verified deployment call ∧
    identify deployment call = .ok identity ∧
    Enters deployment.env.unicode (onBehalf identity.subject call.request) entry
  principal : ∀ principal, principalOf entry = some principal → identity.subject = principal

/-- Somebody answers for every entry, and a rule grants it to them. -/
theorem answered (has : Has (serveAll deployment engine calls).db entry) :
    ∃ identity, AnswersFor deployment engine calls entry identity ∧
      ∃ rule ∈ engine.rules, Grants rule identity (dutyOf entry).need := by
  obtain ⟨call, entered, request, admitted, enters⟩ := made has
  cases admitted with
  | unguarded free => cases free.symm.trans (enters_needs enters)
  | @granted need identity needs identified grants =>
    have same := needs.symm.trans (needOf_behalf.symm.trans (enters_needs enters))
    exact ⟨identity,
      ⟨⟨call, entered, identified_verified identified, identified, enters⟩, fun _ => enters_principal enters⟩,
      Option.some.inj same ▸ grants⟩

/-- Whatever the policy, a run leaves its rules as they were loaded, and for every entry
somebody answers to whom a rule grants it. -/
theorem accountable (deployment : Deployment) (engine : PolicyEngine) (calls : List Call) :
    (serveAll deployment engine calls).engine.rules = engine.rules ∧
    ∀ entry, Has (serveAll deployment engine calls).db entry →
      ∃ identity, AnswersFor deployment engine calls entry identity ∧
        ∃ rule ∈ engine.rules, Grants rule identity (dutyOf entry).need :=
  ⟨rules_kept calls ⟨engine, Db.empty⟩, fun _ => answered⟩

end Accounts

section Segregation

/-- The roles that the shipped policy asks for. -/
def Duty.staff : Duty → List PyStr
  | .submit => [py "excise-officer", py "customs-officer"]
  | .approve => [py "excise-approver"]
  | .ask => [py "excise-approver", py "finance-officer"]
  | .settle => [py "finance-rail-callback"]
  | .issue => [py "excise-officer"]
  | .inspect => [py "quality-inspector"]
  | .activate => [py "excise-officer", py "excise-approver"]
  | .void => [py "excise-approver"]

/-- The shipped policy grants each duty to its staff. -/
theorem shipped_staff (duty : Duty) : shippedRoles duty.need = duty.staff := by
  cases duty <;> decide +kernel

/-- Somebody answers for the entry who holds one of its roles. -/
def Staffed (deployment : Deployment) (engine : PolicyEngine) (calls : List Call) (entry : Entry) : Prop :=
  ∃ identity, AnswersFor deployment engine calls entry identity ∧
    ∃ role ∈ (dutyOf entry).staff, Value.str role ∈ identity.roles

/-- Under the shipped policy the staff of the duty answers for every entry. -/
theorem staffed (shipped : engine.rules = shippedRules) (has : Has (serveAll deployment engine calls).db entry) :
    Staffed deployment engine calls entry := by
  obtain ⟨identity, answers, grants⟩ := answered has
  rw [shipped, shipped_grants, shipped_staff] at grants
  exact ⟨identity, answers, grants⟩

/-- Everybody who answers for a stamp, its batch and what stands behind the batch. The
checkers are not the submitter, there are as many as the risk of the assessment asks for, and
the receipt is the one applied to the assessment's intent, for exactly the duty. -/
structure Segregated (deployment : Deployment) (engine : PolicyEngine) (calls : List Call) (stampId : Nat)
    (stamp : Stamp) (batch : StampBatch) (assessment : Assessment) : Prop where
  submitted : Staffed deployment engine calls (.assessment batch.assessmentId assessment.submittedBy)
  approved : ∃ checkers : List PyStr, checkers.Nodup ∧ assessment.approvalsRequired ≤ checkers.length ∧
    ∀ checker ∈ checkers, checker ≠ assessment.submittedBy ∧ ∃ id approval,
      approval.assessmentId = batch.assessmentId ∧ approval.principalSub = checker ∧
      approval.decision = .approve ∧ Staffed deployment engine calls (.approval id approval)
  paid : ∃ id receipt intentId, ∃ intent : PaymentIntent, receipt.status = .applied ∧
    receipt.paymentIntentId = some intentId ∧
    (serveAll deployment engine calls).db.paymentIntents[intentId]? = some intent ∧
    intent.assessmentId = batch.assessmentId ∧ receipt.amountKobo = assessment.totalDutyKobo ∧
    receipt.currency = py "NGN" ∧ Staffed deployment engine calls (.receipt id receipt)
  opened : Staffed deployment engine calls (.batch stamp.batchId batch.assessmentId)
  issued : Staffed deployment engine calls (.stamp stampId stamp.batchId)
  anchored : Staffed deployment engine calls (.anchor stamp.batchId)
  inspected : ∃ id inspection, inspection.batchId = stamp.batchId ∧ inspection.result = .pass ∧
    Staffed deployment engine calls (.inspection id inspection)
  released : Staffed deployment engine calls (.activation stampId stamp.batchId)

/-- Under the shipped policy an ACTIVE stamp has gone through the hands of all of them. -/
theorem duties_segregated (shipped : engine.rules = shippedRules) {stampId : Nat} {stamp : Stamp}
    (stored : (serveAll deployment engine calls).db.stamps[stampId]? = some stamp)
    (active : stamp.status = .active) :
    ∃ batch assessment,
      Pipeline.Backed deployment.env (serveAll deployment engine calls).db stamp.batchId batch assessment ∧
      Segregated deployment engine calls stampId stamp batch assessment := by
  have reached := @serveAll_reachable deployment engine calls
  obtain ⟨before, after, released⟩ := Pipeline.released reached stored active
  obtain ⟨held, present, ready, _⟩ := released.anchored
  have grown := Lifecycle.grows_path released.reached (released.path.head released.step)
  obtain ⟨batch, last, later⟩ := grown.stampBatches _ held present
  have anchored := Lifecycle.anchored_stays later.forward (Or.inl ready)
  obtain ⟨assessment, backed⟩ := Pipeline.backed reached last anchored
  refine ⟨batch, assessment, backed, ?_⟩
  constructor
  case submitted => exact staffed shipped ⟨assessment, backed.assessed, rfl⟩
  case approved =>
    obtain ⟨checkers, distinct, enough, each⟩ := backed.approved
    refine ⟨checkers, distinct, enough, fun checker member => ?_⟩
    obtain ⟨other, approval, listed, subject, principal, approve⟩ := each checker member
    obtain ⟨id, stored⟩ := List.mem_iff_getElem?.mp listed
    exact ⟨other, id, approval, subject, principal, approve, staffed shipped stored⟩
  case paid =>
    obtain ⟨receipt, listed, intentId, intent, applied, refers, present, subject, amount, currency⟩ :=
      backed.received
    obtain ⟨id, stored⟩ := List.mem_iff_getElem?.mp listed
    exact ⟨id, receipt, intentId, intent, applied, refers, present, subject, amount, currency,
      staffed shipped stored⟩
  case opened => exact staffed shipped ⟨batch, last, rfl⟩
  case issued => exact staffed shipped ⟨stamp, stored, rfl⟩
  case anchored => exact staffed shipped ⟨batch, last, anchored⟩
  case inspected =>
    obtain ⟨inspection, listed, subject, pass⟩ := released.passed
    obtain ⟨id, stored⟩ := List.mem_iff_getElem?.mp (grown.inspections.subset listed)
    exact ⟨id, inspection, subject, pass, staffed shipped stored⟩
  case released => exact staffed shipped ⟨stamp, stored, rfl, active⟩

end Segregation

section Sample

/-- A deployment whose one key takes every signature. -/
def sampleDeployment : Deployment where
  env := .sample
  interpreter := Jcs.sampleInterpreter
  keyring := some ⟨[(.str (py "k1"), ⟨.edDsa, fun _ _ => true⟩)], List.cons_ne_nil _ _⟩
  settings := sampleSettings

/-- A bearer, with what the token says. -/
structure Person where
  authorization : PyStr
  subject : PyStr
  role : PyStr

/-- The officer of the sample, with a bearer token. -/
def maker : Person where
  authorization := py "Bearer eyJraWQiOiJrMSIsImFsZyI6IkVkRFNBIn0.eyJzdWIiOiJtYWtlciIsImV4cCI6OSwia" ++
    py "XNzIjoiaHR0cHM6Ly9pc3N1ZXIuZXhhbXBsZSIsInJlYWxtX2FjY2VzcyI6eyJyb2xlcyI6WyJle" ++
    py "GNpc2Utb2ZmaWNlciJdfX0.AA"
  subject := py "maker"
  role := py "excise-officer"

/-- The approver of the sample. -/
def checker : Person where
  authorization := py "Bearer eyJraWQiOiJrMSIsImFsZyI6IkVkRFNBIn0.eyJzdWIiOiJjaGVja2VyIiwiZXhwIjo5L" ++
    py "CJpc3MiOiJodHRwczovL2lzc3Vlci5leGFtcGxlIiwicmVhbG1fYWNjZXNzIjp7InJvbGVzIjpbI" ++
    py "mV4Y2lzZS1hcHByb3ZlciJdfX0.AA"
  subject := py "checker"
  role := py "excise-approver"

/-- The payment rail of the sample. -/
def rail : Person where
  authorization := py "Bearer eyJraWQiOiJrMSIsImFsZyI6IkVkRFNBIn0.eyJzdWIiOiJyYWlsIiwiZXhwIjo5LCJpc" ++
    py "3MiOiJodHRwczovL2lzc3Vlci5leGFtcGxlIiwicmVhbG1fYWNjZXNzIjp7InJvbGVzIjpbImZpb" ++
    py "mFuY2UtcmFpbC1jYWxsYmFjayJdfX0.AA"
  subject := py "rail"
  role := py "finance-rail-callback"

/-- The inspector of the sample. -/
def inspector : Person where
  authorization := py "Bearer eyJraWQiOiJrMSIsImFsZyI6IkVkRFNBIn0.eyJzdWIiOiJpbnNwZWN0b3IiLCJleHAiO" ++
    py "jksImlzcyI6Imh0dHBzOi8vaXNzdWVyLmV4YW1wbGUiLCJyZWFsbV9hY2Nlc3MiOnsicm9sZXMiO" ++
    py "lsicXVhbGl0eS1pbnNwZWN0b3IiXX19.AA"
  subject := py "inspector"
  role := py "quality-inspector"

/-- The tokens say who the bearers are. -/
theorem sample_identified : ∀ person ∈ [maker, checker, rail, inspector],
    (getIdentity sampleDeployment.interpreter sampleDeployment.env.unicode sampleDeployment.keyring
      sampleDeployment.settings 0 person.authorization).toOption.any (fun identity =>
        decide (identity.subject = person.subject) &&
          identity.roles.any (fun held => isStr person.role (some held))) = true := by
  decide +kernel

/-- A call of a granted request is served as that request. -/
theorem serve_granted {need : Need} {identity : Identity} (needs : needOf call.request = some need)
    (identified : identify deployment call = .ok identity)
    (grants : ∃ rule ∈ service.engine.rules, Grants rule identity need) :
    (serve deployment service call).db =
      submit deployment.env call.occasion (onBehalf identity.subject call.request) service.db := by
  have allowed : (service.engine.allow identity need).1 = true := allow_iff.mpr grants
  have answer : guarded deployment service.engine call =
      (.ok (onBehalf identity.subject call.request), (service.engine.allow identity need).2) := by
    unfold guarded
    simp only [needs, identified, requirePolicy, allowed, if_true]
  rw [serve, answer]

/-- The call of a person. -/
def asks (person : Person) (request : Request) : Call := ⟨Sample.occasion, 0, person.authorization, request⟩

/-- A person asks for what the shipped policy grants the role. -/
structure Entitled (person : Person) (request : Request) : Prop where
  known : person ∈ [maker, checker, rail, inspector]
  granted : ∃ need, needOf request = some need ∧ person.role ∈ shippedRoles need
  own : onBehalf person.subject request = request

/-- A call of an entitled person has the effect of its request. -/
theorem entitled_serves {person : Person} {request : Request} (entitled : Entitled person request)
    (shipped : service.engine.rules = shippedRules) :
    (serve sampleDeployment service (asks person request)).db =
      submit .sample Sample.occasion request service.db := by
  have read := sample_identified person entitled.known
  simp only [Option.any_eq_true, Bool.and_eq_true, decide_eq_true_eq, Result.toOption_some, List.any_eq_true,
    isStr_iff, Option.some.injEq] at read
  obtain ⟨identity, identified, subject, held, listed, role⟩ := read
  obtain ⟨need, needs, allowed⟩ := entitled.granted
  have grants : ∃ rule ∈ service.engine.rules, Grants rule identity need := by
    rw [shipped]
    exact shipped_grants.mpr ⟨person.role, allowed, role ▸ listed⟩
  have served := @serve_granted sampleDeployment service (asks person request) _ _ needs identified grants
  rwa [subject, asks, entitled.own] at served

/-- Who asks for what in the sample. -/
def parts : List (Person × Request) :=
  [maker, maker, checker, checker, rail, maker, maker, maker, inspector, maker].zip Sample.activating

/-- The calls of the sample. -/
def script : List Call := parts.map (fun part => asks part.1 part.2)

/-- A member of a duty's staff is entitled to its requests. -/
theorem entitled_duty {person : Person} {request : Request} (known : person ∈ [maker, checker, rail, inspector])
    (duty : Duty) (needs : needOf request = some duty.need) (role : person.role ∈ duty.staff)
    (own : onBehalf person.subject request = request) : Entitled person request :=
  ⟨known, ⟨duty.need, needs, shipped_staff duty ▸ role⟩, own⟩

/-- Everybody in the sample is entitled to what they ask for. -/
theorem parts_entitled : ∀ part ∈ parts, Entitled part.1 part.2 := by
  have makers : maker ∈ [maker, checker, rail, inspector] := List.mem_cons_self
  have checkers : checker ∈ [maker, checker, rail, inspector] := List.mem_cons_of_mem _ List.mem_cons_self
  have declares : maker.role ∈ shippedRoles ⟨py "assessment", py "create", py "INTERNAL"⟩ := by decide +kernel
  refine List.forall_mem_cons.mpr ⟨⟨makers, ⟨_, rfl, declares⟩, rfl⟩, ?_⟩
  refine List.forall_mem_cons.mpr ⟨entitled_duty makers .submit rfl List.mem_cons_self rfl, ?_⟩
  refine List.forall_mem_cons.mpr ⟨entitled_duty checkers .approve rfl List.mem_cons_self rfl, ?_⟩
  refine List.forall_mem_cons.mpr ⟨entitled_duty checkers .ask rfl List.mem_cons_self rfl, ?_⟩
  refine List.forall_mem_cons.mpr ⟨entitled_duty (by simp) .settle rfl List.mem_cons_self rfl, ?_⟩
  refine List.forall_mem_cons.mpr ⟨entitled_duty makers .issue rfl List.mem_cons_self rfl, ?_⟩
  refine List.forall_mem_cons.mpr ⟨entitled_duty makers .issue rfl List.mem_cons_self rfl, ?_⟩
  refine List.forall_mem_cons.mpr ⟨entitled_duty makers .issue rfl List.mem_cons_self rfl, ?_⟩
  refine List.forall_mem_cons.mpr ⟨entitled_duty (by simp) .inspect rfl List.mem_cons_self rfl, ?_⟩
  exact List.forall_mem_cons.mpr ⟨entitled_duty makers .activate rfl List.mem_cons_self rfl, List.forall_mem_nil _⟩

/-- Calls of entitled people have the effects of their requests. -/
theorem served : ∀ (played : List (Person × Request)) (service : Service),
    (∀ part ∈ played, Entitled part.1 part.2) → service.engine.rules = shippedRules →
    ((played.map (fun part => asks part.1 part.2)).foldl (serve sampleDeployment) service).db =
      run .sample ((played.map Prod.snd).map (fun request => (Sample.occasion, request))) service.db := by
  intro played
  induction played with
  | nil => exact fun _ _ _ => rfl
  | cons part rest inductionHypothesis =>
    intro service entitled shipped
    obtain ⟨here, others⟩ := List.forall_mem_cons.mp entitled
    have next := inductionHypothesis (serve sampleDeployment service (asks part.1 part.2)) others
      (serve_cases.1.trans shipped)
    rw [entitled_serves here shipped] at next
    exact next

/-- The sample ends with its batch ACTIVE. -/
theorem script_served (shipped : engine.rules = shippedRules) :
    (serveAll sampleDeployment engine script).db = Sample.state Sample.activating :=
  served parts ⟨engine, Db.empty⟩ parts_entitled shipped

/-- Somebody answers for the activation in the sample. -/
theorem accountable_sample : ∃ (engine : PolicyEngine) (stamp : Stamp) (identity : Identity),
    AnswersFor sampleDeployment engine script (.activation 0 stamp.batchId) identity ∧
      ∃ rule ∈ engine.rules, Grants rule identity Duty.activate.need := by
  obtain ⟨engine, _, shipped⟩ := shipped_loads
  obtain ⟨stamp, stored, active, _⟩ := Sample.activating_released
  rw [← script_served shipped] at stored
  obtain ⟨identity, answers, grants⟩ := (accountable sampleDeployment engine script).2
    (.activation 0 stamp.batchId) ⟨stamp, stored, rfl, active⟩
  exact ⟨engine, stamp, identity, answers, grants⟩

/-- Everybody who answers for the first stamp of the sample. -/
theorem duties_segregated_sample : ∃ (engine : PolicyEngine) (stamp : Stamp) (batch : StampBatch)
    (assessment : Assessment), Segregated sampleDeployment engine script 0 stamp batch assessment := by
  obtain ⟨engine, _, shipped⟩ := shipped_loads
  obtain ⟨stamp, stored, active, _⟩ := Sample.activating_released
  rw [← script_served shipped] at stored
  obtain ⟨batch, assessment, _, segregated⟩ := duties_segregated shipped stored active
  exact ⟨engine, stamp, batch, assessment, segregated⟩

end Sample

end TaxStamps.Duties
