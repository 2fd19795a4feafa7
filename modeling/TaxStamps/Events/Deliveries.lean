import TaxStamps.Api.Sample
import TaxStamps.Events.Applied
import TaxStamps.Events.Wire

/-!
# Exactly-once application

Any sequence of deliveries, with redeliveries, rejected envelopes and crashes
on either side of the commit, applies each event at most once. The processed
events, the declarations that came with events and the audit events that name
one list the same identifiers, in the order in which they were applied.
-/

namespace TaxStamps.Consumer

open Assessments Envelope

variable {env : Env} {loads : Loads} {directory : KeyDirectory} {start intake later : Intake}

/-- The identifier of the event. -/
def Delivery.eventId (delivery : Delivery) : PyStr :=
  match Value.lookup (key "eventId") (membersOf delivery.envelope) with
  | some (.str text) => text
  | _ => []

/-- The line items that the event carries. -/
def Delivery.lines (tables : Unicode) (delivery : Delivery) : List LineItem :=
  (resourceOf (membersOf delivery.envelope) >>= fun resource => lineItemsOf resource >>=
    readLines tables).toOption.getD []

/-- The delivery applies its event, and no crash comes before the commit. -/
def Delivery.commits (env : Env) (loads : Loads) (directory : KeyDirectory) (delivery : Delivery)
    (intake : Intake) : Bool :=
  match delivery.apply env loads directory intake with
  | .ok (.applied, _) => decide (delivery.crash ≠ some .beforeCommit)
  | _ => false

/-- The deliveries of a sequence that apply their events, in order. -/
def appliedOf (env : Env) (loads : Loads) (directory : KeyDirectory) :
    List Delivery → Intake → List Delivery
  | [], _ => []
  | delivery :: rest, intake =>
    (if delivery.commits env loads directory intake then [delivery] else []) ++
      appliedOf env loads directory rest (receive env loads directory intake delivery)

/-- No event was delivered yet: no identifier is recorded. A line belongs to a
declaration, by its foreign key. -/
structure Fresh (start : Intake) : Prop where
  processed : start.processedEvents = []
  audited : start.auditEvents.filterMap carried = []
  owned : ∀ line ∈ start.db.declarationLines, line.declarationId < start.db.declarations.length

/-- The tables after some events were applied, each by one delivery. The
declarations after those of the start are those of the event stream. -/
structure ExactlyOnce (env : Env) (start : Intake) (applied : List Delivery) (current : Intake) :
    Prop where
  distinct : (applied.map Delivery.eventId).Nodup
  processed : current.processedEvents.map (·.eventId) = applied.map Delivery.eventId
  declared : ∃ rows, current.db.declarations = start.db.declarations ++ rows ∧
    rows.map (·.sourceEventId) = applied.map Delivery.eventId
  audited : current.auditEvents.filterMap carried =
    applied.map (fun delivery => .str delivery.eventId)
  lined : ∀ position delivery, applied[position]? = some delivery →
    linesOf (start.db.declarations.length + position) current.db.declarationLines =
      (delivery.lines env.unicode).map (Api.lineRow (start.db.declarations.length + position))
  owned : ∀ line ∈ current.db.declarationLines, line.declarationId < current.db.declarations.length

/-- A delivery changes the tables by recording its event, or not at all. -/
theorem receive_cases (delivery : Delivery) :
    delivery.commits env loads directory intake = true ∧
        Recorded intake (receive env loads directory intake delivery) delivery.eventId
          (delivery.lines env.unicode) ∨
      delivery.commits env loads directory intake = false ∧
        receive env loads directory intake delivery = intake := by
  rw [Delivery.commits, receive]
  cases result : delivery.apply env loads directory intake with
  | error problem => exact Or.inr ⟨rfl, rfl⟩
  | ok answer =>
    obtain ⟨disposition, committed⟩ := answer
    obtain ⟨resource, verified, applied⟩ := Result.bind_ok.mp result
    obtain ⟨_, _, applied⟩ := Result.bind_ok.mp applied
    obtain ⟨members, found, rfl⟩ := verifyEnvelope_resource verified
    obtain ⟨eventId, rows, named, listed, outcome⟩ := apply_ok applied
    rw [membersOf] at listed
    rcases outcome with ⟨rfl, rfl⟩ | ⟨rfl, text, lines, rfl, readable, recorded⟩
    · exact Or.inr ⟨rfl, by dsimp only; split <;> rfl⟩
    · by_cases crashed : delivery.crash = some .beforeCommit
      · exact Or.inr ⟨by simp [crashed], by simp [crashed]⟩
      · refine Or.inl ⟨by simp [crashed], ?_⟩
        have identified : delivery.eventId = text := by
          rw [subscript] at named
          split at named <;> cases named
          case _ stated => rw [Delivery.eventId, stated]
        have carries : delivery.lines env.unicode = lines := by
          rw [Delivery.lines, found, Result.ok_bind, listed, Result.ok_bind, readable]
          rfl
        rw [identified, carries]
        simpa [crashed] using recorded

/-- The lines of a new declaration are those of its items. -/
theorem linesOf_own {declarationId : Nat} {lines : List DeclarationLine} {items : List LineItem}
    (below : ∀ line ∈ lines, line.declarationId < declarationId) :
    linesOf declarationId (lines ++ items.map (Api.lineRow declarationId)) =
      items.map (Api.lineRow declarationId) := by
  rw [linesOf, List.filter_append, List.filter_eq_nil_iff.mpr, List.nil_append, List.filter_eq_self]
  · intro line member
    obtain ⟨item, _, rfl⟩ := List.mem_map.mp member
    exact decide_eq_true rfl
  · intro line member own
    exact Nat.ne_of_lt (below line member) (of_decide_eq_true own)

/-- The lines of another declaration are as before. -/
theorem linesOf_other {declarationId other : Nat} {lines : List DeclarationLine} {items : List LineItem}
    (different : declarationId ≠ other) :
    linesOf declarationId (lines ++ items.map (Api.lineRow other)) = linesOf declarationId lines := by
  have foreign : linesOf declarationId (items.map (Api.lineRow other)) = [] := by
    rw [linesOf, List.filter_eq_nil_iff]
    intro line member own
    obtain ⟨item, _, rfl⟩ := List.mem_map.mp member
    exact different (of_decide_eq_true own).symm
  rw [linesOf] at foreign
  rw [linesOf, List.filter_append, foreign, List.append_nil, linesOf]

/-- Recording a new event. -/
theorem ExactlyOnce.record {applied : List Delivery} (once : ExactlyOnce env start applied intake)
    {delivery : Delivery}
    (recorded : Recorded intake later delivery.eventId (delivery.lines env.unicode)) :
    ExactlyOnce env start (applied ++ [delivery]) later := by
  obtain ⟨declaration, eventType, event, source, names, rfl⟩ := recorded.added
  obtain ⟨rows, declarations, sources⟩ := once.declared
  have counted : intake.db.declarations.length = start.db.declarations.length + applied.length := by
    have length := congrArg List.length sources
    rw [List.length_map, List.length_map] at length
    rw [declarations, List.length_append, length]
  have unapplied : delivery.eventId ∉ applied.map Delivery.eventId := by
    rw [← once.processed, List.mem_map]
    rintro ⟨row, member, same⟩
    exact recorded.unprocessed row member same
  constructor
  case distinct =>
    rw [List.map_append, List.map_singleton]
    exact List.nodup_append.mpr ⟨once.distinct, List.nodup_singleton _, fun old held new single => by
      rw [List.mem_singleton.mp single]
      exact fun same => unapplied (same ▸ held)⟩
  case processed => rw [List.map_append, List.map_append, once.processed]; rfl
  case declared =>
    refine ⟨rows ++ [declaration], by rw [declarations, List.append_assoc], ?_⟩
    rw [List.map_append, List.map_append, sources, List.map_singleton, source]
    rfl
  case audited =>
    rw [List.filterMap_append, List.map_append, once.audited, List.filterMap_cons, names]
    rfl
  case lined =>
    intro position other listed
    rcases Nat.lt_or_ge position applied.length with old | new
    · rw [List.getElem?_append_left old] at listed
      rw [counted, linesOf_other (by omega)]
      exact once.lined position other listed
    · have last := (List.getElem?_eq_some_iff.mp listed).1
      rw [List.length_append, List.length_singleton] at last
      obtain rfl : position = applied.length := by omega
      rw [List.getElem?_concat_length] at listed
      rw [← Option.some.inj listed, ← counted, linesOf_own once.owned]
  case owned =>
    intro line member
    rw [List.length_append, List.length_singleton]
    rcases List.mem_append.mp member with old | new
    · exact Nat.lt_succ_of_lt (once.owned line old)
    · obtain ⟨item, _, rfl⟩ := List.mem_map.mp new
      exact Nat.lt_succ_self _

/-- A sequence of deliveries records the events it applies. -/
theorem ExactlyOnce.run {applied : List Delivery} (once : ExactlyOnce env start applied intake)
    (deliveries : List Delivery) :
    ExactlyOnce env start (applied ++ appliedOf env loads directory deliveries intake)
      (run env loads directory deliveries intake) := by
  induction deliveries generalizing applied intake with
  | nil => simpa [appliedOf, Consumer.run] using once
  | cons delivery rest inductionHypothesis =>
    rw [appliedOf, Consumer.run, List.foldl_cons, ← List.append_assoc]
    rcases @receive_cases env loads directory intake delivery with
      ⟨committed, recorded⟩ | ⟨ignored, unchanged⟩
    · rw [if_pos committed]
      exact inductionHypothesis (once.record recorded)
    · rw [ignored, unchanged, if_neg Bool.false_ne_true, List.append_nil]
      exact inductionHypothesis once

/-- Nothing has happened before the first delivery. -/
theorem Fresh.once (fresh : Fresh start) : ExactlyOnce env start [] start := by
  constructor
  case distinct => exact List.nodup_nil
  case processed => rw [fresh.processed]; rfl
  case declared => exact ⟨[], by simp, rfl⟩
  case audited => rw [fresh.audited]; rfl
  case lined => exact fun position delivery absent => by cases absent
  case owned => exact fresh.owned

section Sample

end Sample

end TaxStamps.Consumer
