import TaxStamps.Api.Sample
import TaxStamps.Invariants.Announced

/-!
# The outbox is exact

At the end of every run of requests the outbox holds one message for each stamp
that was scanned or voided, for each batch that was anchored or activated and
for each assessment that was approved, and no other message about them. The
message of an activation counts the stamps that went from ISSUED to ACTIVE.
-/

namespace TaxStamps.Outbox

open Api Announcements

variable {env : Env} {before after : Db} {requests : List (Occasion × Request)}

section Runs

/-- The state after the first requests of a run. -/
def stateAt (env : Env) (requests : List (Occasion × Request)) (count : Nat) : Db :=
  run env (requests.take count) Db.empty

/-- All requests lead to the state of the run. -/
theorem stateAt_all : stateAt env requests requests.length = run env requests Db.empty := by
  rw [stateAt, List.take_length]

/-- One more request submits it. -/
theorem stateAt_succ {count : Nat} (below : count < requests.length) : ∃ occasion request,
    stateAt env requests (count + 1) = submit env occasion request (stateAt env requests count) := by
  refine ⟨requests[count].1, requests[count].2, ?_⟩
  rw [stateAt, List.take_succ_eq_append_getElem below, run, List.foldl_append]
  rfl

/-- Every intermediate state is reachable. -/
theorem stateAt_reachable (count : Nat) : Reachable env (stateAt env requests count) :=
  reachable_iff_run.mpr ⟨_, rfl⟩

/-- Every request announces what it makes happen. -/
theorem stateAt_tells {count : Nat} (below : count < requests.length) :
    ∃ added, Tells env (stateAt env requests count) (stateAt env requests (count + 1)) added := by
  obtain ⟨occasion, request, next⟩ := stateAt_succ below
  rw [next]
  exact submit_tells env occasion request _

/-- Every request has an effect. -/
theorem stateAt_effect {count : Nat} (below : count < requests.length) :
    Effect env (stateAt env requests count) (stateAt env requests (count + 1)) := by
  obtain ⟨occasion, request, next⟩ := stateAt_succ below
  exact Step.effect ⟨occasion, request, next⟩

/-- Assessments and batches are never removed. -/
theorem stateAt_grows {count : Nat} (bounded : count ≤ requests.length) :
    (stateAt env requests count).assessments.length ≤ (run env requests Db.empty).assessments.length ∧
      (stateAt env requests count).stampBatches.length ≤ (run env requests Db.empty).stampBatches.length := by
  induction bounded using Nat.decreasingInduction with
  | self =>
    rw [stateAt_all]
    exact ⟨le_refl _, le_refl _⟩
  | of_succ count below inductionHypothesis =>
    obtain ⟨added, tells⟩ := @stateAt_tells env _ _ below
    exact ⟨tells.happens.approved.length_le.trans inductionHypothesis.1,
      tells.happens.issued.length_le.trans inductionHypothesis.2⟩

/-- Identifiers that are distinct at the end were distinct before. -/
theorem stateAt_keys (keys : PrimaryKeys env (run env requests Db.empty)) {count : Nat}
    (bounded : count ≤ requests.length) : PrimaryKeys env (stateAt env requests count) := by
  obtain ⟨assessments, batches⟩ := @stateAt_grows env _ _ bounded
  constructor
  · intro first second here there
    exact keys.assessments first second (here.trans_le assessments) (there.trans_le assessments)
  · intro first second here there
    exact keys.stampBatches first second (here.trans_le batches) (there.trans_le batches)

end Runs

section Activation

/-- A stamp of the batch goes from ISSUED to ACTIVE. -/
def turns (batchId : Nat) (before after : Db) (stampId : Nat) : Bool :=
  match before.stamps[stampId]?, after.stamps[stampId]? with
  | some old, some row => decide (old.batchId = batchId ∧ old.status = .issued ∧ row.status = .active)
  | _, _ => false

/-- The stamp did so in one of the first requests. -/
def turned (env : Env) (requests : List (Occasion × Request)) (batchId count stampId : Nat) : Bool :=
  (List.range count).any (fun number =>
    turns batchId (stateAt env requests number) (stateAt env requests (number + 1)) stampId)

/-- The number of stamps of the batch that went from ISSUED to ACTIVE in the run. -/
def turnedCount (env : Env) (requests : List (Occasion × Request)) (batchId : Nat) : Nat :=
  (List.range (run env requests Db.empty).stamps.length).countP
    (turned env requests batchId requests.length)

/-- A stamp of the batch that was activated. -/
def awake (batchId : Nat) (stamp : Stamp) : Bool :=
  decide (stamp.batchId = batchId) && stamp.activatedAt.isSome

/-- What a request does to the stamps, as far as their activation goes. -/
inductive Wakes (before after : Db) : Prop
  | grows (new : List Stamp) (dormant : ∀ row ∈ new, row.activatedAt = none)
      (stamps : after.stamps = before.stamps ++ new) : Wakes before after
  | changes (stampId : Nat) (change : Stamp → Stamp)
      (stamps : after.stamps = before.stamps.modify stampId change)
      (batch : ∀ row, (change row).batchId = row.batchId)
      (activated : ∀ row, (change row).activatedAt = row.activatedAt)
      (other : ∀ row, (change row).status ≠ .active) : Wakes before after
  | activates (batchId : Nat) (time : Datetime)
      (ready : ∃ batch, before.stampBatches[batchId]? = some batch ∧ batch.status = .ready)
      (active : ∃ batch, after.stampBatches[batchId]? = some batch ∧ batch.status = .active)
      (stamps : after.stamps = (Issuance.activateStamps batchId time before).stamps) : Wakes before after

/-- An issued stamp is not activated. -/
theorem issueStamp_dormant {time : Datetime} {chunk : Issuance.Chunk} {sequence : Int}
    (issued : Issuance.issueStamp env time chunk sequence before = .ok after) :
    ∃ row, row.activatedAt = none ∧ after.stamps = before.stamps ++ [row] := by
  obtain ⟨serial, _, issued⟩ := Result.bind_ok.mp issued
  obtain ⟨index, _, issued⟩ := Result.bind_ok.mp issued
  obtain ⟨signed, _, inserted⟩ := Result.bind_ok.mp issued
  obtain ⟨stored, _, _, rfl⟩ := Db.insertStamp_ok inserted
  refine ⟨_, ?_, rfl⟩
  rfl

/-- Issued stamps are not activated. -/
theorem issueStamps_dormant {time : Datetime} {chunk : Issuance.Chunk} {count : Nat} {sequence : Int}
    (issued : Issuance.issueStamps env time chunk count sequence before = .ok after) :
    ∃ new, (∀ row ∈ new, row.activatedAt = none) ∧ after.stamps = before.stamps ++ new := by
  induction count generalizing sequence before with
  | zero =>
    cases issued
    exact ⟨[], by simp, by simp⟩
  | succ count inductionHypothesis =>
    obtain ⟨middle, first, issued⟩ := Result.bind_ok.mp issued
    obtain ⟨row, unset, added⟩ := issueStamp_dormant first
    obtain ⟨rest, dormant, stamps⟩ := inductionHypothesis issued
    refine ⟨row :: rest, List.forall_mem_cons.mpr ⟨unset, dormant⟩, ?_⟩
    rw [stamps, added, List.append_assoc, List.singleton_append]

/-- The stamps of a chunk are not activated. -/
theorem issueChunk_dormant {occasion : Occasion} {requested : Option Int} {batchId : Nat}
    {locked copy : StampBatch} {issued : Int}
    (chunked : Issuance.issueChunk env occasion requested batchId locked before = .ok (issued, copy, after)) :
    ∃ new, (∀ row ∈ new, row.activatedAt = none) ∧ after.stamps = before.stamps ++ new := by
  unfold Issuance.issueChunk at chunked
  split at chunked
  case isTrue =>
    cases chunked
    exact ⟨[], by simp, by simp⟩
  case isFalse =>
    dsimp only at chunked
    split at chunked
    case isTrue =>
      obtain ⟨middle, wrote, chunked⟩ := Result.bind_ok.mp chunked
      cases chunked
      obtain ⟨_, rfl⟩ := Issuance.writeBatch_ok wrote
      exact ⟨[], by simp, by simp⟩
    case isFalse =>
      obtain ⟨⟨base, claimed⟩, claiming, chunked⟩ := Result.bind_ok.mp chunked
      obtain ⟨assessment, _, chunked⟩ := Result.bind_ok.mp chunked
      obtain ⟨declaration, _, chunked⟩ := Result.bind_ok.mp chunked
      obtain ⟨line, _, chunked⟩ := Result.bind_ok.mp chunked
      obtain ⟨validUntil, _, chunked⟩ := Result.bind_ok.mp chunked
      obtain ⟨filled, issuing, chunked⟩ := Result.bind_ok.mp chunked
      obtain ⟨last, wrote, chunked⟩ := Result.bind_ok.mp chunked
      cases chunked
      obtain ⟨counters, rfl⟩ := Issuance.claimSerialBlock_ok claiming
      obtain ⟨_, rfl⟩ := Issuance.writeBatch_ok wrote
      have dormant := issueStamps_dormant issuing
      exact dormant

/-- Stamps that stay are not woken. -/
theorem wakes_same (same : after.stamps = before.stamps) : Wakes before after :=
  .grows [] (fun row absent => absurd absent List.not_mem_nil) (by rw [same, List.append_nil])

/-- Every effect adds dormant stamps, leaves activations or activates a batch. -/
theorem wakes_of_effect (effect : Effect env before after) : Wakes before after := by
  cases effect with
  | issued _ _ ran =>
    obtain ⟨occasion, chunking⟩ := ran
    obtain ⟨new, dormant, stamps⟩ := issueChunk_dormant chunking
    exact .grows new dormant stamps
  | activated stored ready =>
    exact .activates _ _ ⟨_, stored, ready⟩ ⟨_, Issuance.written_current stored, rfl⟩ rfl
  | scanned _ scanned =>
    cases scanned with
    | answered => exact wakes_same rfl
    | suspected => exact .changes _ _ rfl (fun _ => rfl) (fun _ => rfl) (fun _ => by simp)
    | consumes =>
      exact .changes _ _ rfl (fun _ => rfl) (fun _ => rfl) (fun _ => by simp [Verify.consumed])
  | voided _ voided =>
    cases voided with
    | already => exact wakes_same rfl
    | voids => exact .changes _ _ rfl (fun _ => rfl) (fun _ => rfl) (fun _ => by simp)
  | _ => exact wakes_same rfl

/-- A stamp is awake after a request if it was before or the request turned it. -/
theorem Wakes.awake (wakes : Wakes before after) (batchId stampId : Nat) :
    (after.stamps[stampId]?).any (awake batchId) =
      ((before.stamps[stampId]?).any (Outbox.awake batchId) || turns batchId before after stampId) := by
  cases wakes with
  | grows new dormant stamps =>
    cases stored : before.stamps[stampId]? with
    | some stamp =>
      have kept := Rows.stored_append new stored
      simp only [turns, stamps, kept, stored, Option.any_some]
      cases status : stamp.status <;> simp
    | none =>
      simp only [turns, stamps, stored, Option.any_none, Bool.or_self]
      rw [Option.any_eq_false]
      intro row present
      rcases Rows.stored_append_cases present with old | ⟨_, fresh⟩
      · rw [stored] at old
        cases old
      · simp [Outbox.awake, dormant row (List.mem_of_getElem? fresh)]
  | changes changed change stamps batch activated other =>
    have pointwise := Rows.pointwise_modify changed change before.stamps
    rw [← stamps] at pointwise
    cases stored : before.stamps[stampId]? with
    | none => simp [turns, pointwise stampId, stored]
    | some stamp =>
      simp only [turns, pointwise.stored stored, stored, Option.any_some]
      by_cases here : stampId = changed
      · simp [here, Outbox.awake, batch, activated, other]
      · simp only [if_neg here]
        cases status : stamp.status <;> simp
  | activates opened time _ _ stamps =>
    have pointwise := Rows.pointwise_map (fun stamp => if Issuance.activates opened stamp then
      { stamp with status := StampStatus.active, activatedAt := some time } else stamp) before.stamps
    cases stored : before.stamps[stampId]? with
    | none =>
      have absent := pointwise stampId
      rw [stored] at absent
      simp [turns, stamps, Issuance.activateStamps, absent, stored]
    | some stamp =>
      have present := pointwise.stored stored
      simp only [turns, stamps, Issuance.activateStamps, present, stored, Option.any_some]
      split
      case isTrue activates =>
        rw [Issuance.activates, Bool.and_eq_true, decide_eq_true_eq, decide_eq_true_eq] at activates
        by_cases owned : stamp.batchId = batchId <;> simp [Outbox.awake, activates.2, owned]
      case isFalse =>
        cases status : stamp.status <;> simp

/-- Dormant stamps are not counted as activated. -/
theorem countP_dormant {new : List Stamp} (dormant : ∀ row ∈ new, row.activatedAt = none)
    (stamps : List Stamp) (batchId : Nat) :
    (stamps ++ new).countP (awake batchId) = stamps.countP (awake batchId) := by
  have none : new.countP (awake batchId) = 0 := by
    rw [List.countP_eq_zero]
    intro row member
    simp [awake, dormant row member]
  rw [List.countP_append, none, Nat.add_zero]

/-- A batch that is not READY gains no activated stamps. -/
theorem Wakes.count (wakes : Wakes before after) {batchId : Nat}
    (unready : ∀ batch, before.stampBatches[batchId]? = some batch → batch.status ≠ .ready) :
    after.stamps.countP (Outbox.awake batchId) = before.stamps.countP (Outbox.awake batchId) := by
  cases wakes with
  | grows new dormant stamps =>
    rw [stamps]
    exact countP_dormant dormant before.stamps batchId
  | changes changed change stamps batch activated =>
    rw [stamps]
    apply Rows.countP_modify
    intro row _
    rw [Outbox.awake, batch, activated]
    rfl
  | activates opened time ready _ stamps =>
    obtain ⟨batch, stored, ready⟩ := ready
    rw [stamps]
    apply Rows.countP_map
    intro row _
    split
    case isTrue activates =>
      rw [Issuance.activates, Bool.and_eq_true, decide_eq_true_eq] at activates
      have other : row.batchId ≠ batchId := by
        rintro rfl
        rw [activates.1] at unready
        exact unready batch stored ready
      simp [Outbox.awake, other]
    case isFalse => rfl

/-- An activated stamp belongs to a batch that was released. -/
def Owned (db : Db) : Prop :=
  ∀ stamp ∈ db.stamps, stamp.activatedAt.isSome = true →
    ∃ batch, db.stampBatches[stamp.batchId]? = some batch ∧ Released batch.status

/-- A step keeps activated stamps in released batches. -/
theorem Owned.step (owned : Owned before) {added : List OutboxMessage} (tells : Tells env before after added)
    (wakes : Wakes before after) : Owned after := by
  have remains : ∀ {batchId : Nat}, (∃ batch, before.stampBatches[batchId]? = some batch ∧ Released batch.status) →
      ∃ batch, after.stampBatches[batchId]? = some batch ∧ Released batch.status := by
    rintro batchId ⟨batch, stored, released⟩
    obtain ⟨later, present, _, lasts⟩ := tells.happens.activated.lasting batchId batch stored
    exact ⟨later, present, lasts released⟩
  intro stamp member activated
  cases wakes with
  | grows new dormant stamps =>
    rw [stamps] at member
    rcases List.mem_append.mp member with old | fresh
    · exact remains (owned stamp old activated)
    · rw [dormant stamp fresh] at activated
      cases activated
  | changes changed change stamps batch kept =>
    rw [stamps] at member
    obtain ⟨stampId, stored⟩ := List.mem_iff_getElem?.mp member
    rcases Rows.stored_modify_cases stored with ⟨_, old⟩ | ⟨_, old, origin, rfl⟩
    · exact remains (owned stamp (List.mem_of_getElem? old) activated)
    · rw [kept] at activated
      rw [batch]
      exact remains (owned old (List.mem_of_getElem? origin) activated)
  | activates opened time _ active stamps =>
    rw [stamps] at member
    obtain ⟨old, present, rfl⟩ := List.mem_map.mp member
    by_cases here : Issuance.activates opened old = true
    · rw [if_pos here]
      rw [Issuance.activates, Bool.and_eq_true, decide_eq_true_eq] at here
      obtain ⟨batch, stored, released⟩ := active
      exact ⟨batch, here.1.symm ▸ stored, Or.inl released⟩
    · rw [if_neg here] at activated ⊢
      exact remains (owned old present activated)

/-- The stamps that an activation counts are the activated ones afterwards. -/
theorem Activation.awake {message : OutboxMessage} {batchId : Nat}
    (activation : Activation env before after message batchId) (owned : Owned before) :
    Counts message (after.stamps.countP (Outbox.awake batchId)) := by
  obtain ⟨time, stamps⟩ := activation.stamps
  obtain ⟨batch, stored, ready⟩ := activation.ready
  have same : after.stamps.countP (Outbox.awake batchId) = before.stamps.countP (Issuance.activates batchId) := by
    rw [stamps, Issuance.activateStamps, List.countP_map]
    apply List.countP_congr
    intro stamp member
    have asleep : stamp.batchId = batchId → stamp.activatedAt = none := by
      rintro rfl
      rw [← Option.not_isSome_iff_eq_none]
      intro activated
      obtain ⟨other, present, released⟩ := owned stamp member activated
      rw [← Option.some.inj (stored.symm.trans present), ready] at released
      rcases released with active | failed
      · cases active
      · cases failed
    by_cases here : Issuance.activates batchId stamp = true
    · have own := (Bool.and_eq_true_iff.mp here).1
      simpa [here, Outbox.awake] using own
    · have quiet : Outbox.awake batchId stamp = false := by
        rw [Outbox.awake, Bool.and_eq_false_iff, decide_eq_false_iff_not]
        by_cases own : stamp.batchId = batchId
        · exact Or.inr (by rw [asleep own]; rfl)
        · exact Or.inl own
      simp [here, quiet]
  rw [same]
  exact activation.counts

end Activation

section Exact

/-- Every message of an activation counts the activated stamps of its batch. -/
def Counted (env : Env) (db : Db) : Prop :=
  ∀ message ∈ db.outboxMessages, ∀ batchId < db.stampBatches.length,
    about message = some (.activated, Issuance.batchText env batchId) →
      Counts message (db.stamps.countP (awake batchId))

/-- A step keeps the counts of the activation messages. -/
theorem Counted.step (counted : Counted env before)
    (past : ∀ notice ∈ heard before.outboxMessages, Past env before notice) (owned : Owned before)
    (keys : PrimaryKeys env after) {added : List OutboxMessage} (tells : Tells env before after added)
    (wakes : Wakes before after) : Counted env after := by
  have grows := tells.happens.issued.length_le
  intro message member batchId bounded named
  rw [tells.appended] at member
  rcases List.mem_append.mp member with old | fresh
  · -- the batch was released before, so this request activates none of its stamps
    have known : (.activated, Issuance.batchText env batchId) ∈ heard before.outboxMessages :=
      List.mem_filter.mpr ⟨List.mem_filterMap.mpr ⟨message, old, named⟩, by simp⟩
    obtain ⟨id, batch, stored, same, released⟩ := past _ known
    have bound := (List.getElem?_eq_some_iff.mp stored).1
    obtain rfl := keys.stampBatches id batchId (bound.trans_le grows) bounded same
    have unready : ∀ other, before.stampBatches[id]? = some other → other.status ≠ .ready := by
      intro other present ready
      rw [← Option.some.inj (present.symm.trans stored), ready] at released
      rcases released with active | failed
      · cases active
      · cases failed
    rw [wakes.count unready]
    exact counted message old id bound named
  · obtain ⟨id, activation⟩ := tells.counted message fresh _ named
    obtain ⟨batch, stored, _⟩ := activation.ready
    have bound := (List.getElem?_eq_some_iff.mp stored).1
    have same := (Prod.mk.inj (Option.some.inj (activation.named.symm.trans named))).2
    obtain rfl := keys.stampBatches id batchId (bound.trans_le grows) bounded same
    exact activation.awake owned

/-- What is known of the outbox after a number of requests. -/
structure Recorded (env : Env) (requests : List (Occasion × Request)) (count : Nat) : Prop where
  exact : Exact (board env) (stateAt env requests) count
  owned : Owned (stateAt env requests count)
  turned : ∀ batchId stampId, ((stateAt env requests count).stamps[stampId]?).any (awake batchId) =
    turned env requests batchId count stampId
  counted : Counted env (stateAt env requests count)

/-- Before the first request the outbox is exact. -/
theorem Recorded.start : Recorded env requests 0 := by
  have empty : stateAt env requests 0 = Db.empty := by rw [stateAt, List.take_zero]; rfl
  constructor
  · apply Exact.start
    · rw [empty]
      rfl
    · rw [empty]
      rintro ⟨event, subject⟩ marks
      cases event with
      | assessed => exact marks
      | _ =>
        obtain ⟨id, row, stored, _⟩ := marks
        cases stored
  · rw [empty]
    exact fun stamp absent => absurd absent List.not_mem_nil
  · rw [empty]
    exact fun _ _ => rfl
  · rw [empty]
    exact fun message absent => absurd absent List.not_mem_nil

/-- One more request keeps the outbox exact. -/
theorem Recorded.step {count : Nat} (recorded : Recorded env requests count)
    (keys : PrimaryKeys env (run env requests Db.empty)) (below : count < requests.length) :
    Recorded env requests (count + 1) := by
  obtain ⟨added, tells⟩ := @stateAt_tells env _ _ below
  have wakes := wakes_of_effect (@stateAt_effect env _ _ below)
  have serials : Named stampName (stateAt env requests count).stamps := fun first second left right here there =>
    (Stamps.valid (stateAt_reachable count)).serial_unique here there
  constructor
  · exact recorded.exact.step (tells.announces (stateAt_keys keys below.le) serials)
  · exact recorded.owned.step tells wakes
  · intro batchId stampId
    rw [wakes.awake, recorded.turned, Outbox.turned, Outbox.turned, List.range_succ, List.any_append, List.any_cons,
      List.any_nil, Bool.or_false]
  · exact recorded.counted.step recorded.exact.past recorded.owned (stateAt_keys keys below) tells wakes

/-- After any number of requests the outbox is exact. -/
theorem recorded (keys : PrimaryKeys env (run env requests Db.empty)) {count : Nat}
    (bounded : count ≤ requests.length) : Recorded env requests count := by
  induction count with
  | zero => exact .start
  | succ count inductionHypothesis => exact (inductionHypothesis (Nat.le_of_succ_le bounded)).step keys bounded

/-- The outbox holds one message for everything that happened in the run. -/
structure OutboxExact (env : Env) (requests : List (Occasion × Request)) : Prop where
  verified : ∀ serial, Once (announced (run env requests Db.empty) .verified serial)
    (∃ stamp ∈ (run env requests Db.empty).stamps, stamp.serial = serial ∧ stamp.firstScanAt.isSome = true)
  voided : ∀ serial, Once (announced (run env requests Db.empty) .voided serial)
    (∃ stamp ∈ (run env requests Db.empty).stamps, stamp.serial = serial ∧ stamp.status = .void)
  issued : ∀ (batchId : Nat) (batch : StampBatch),
    (run env requests Db.empty).stampBatches[batchId]? = some batch →
      Once (announced (run env requests Db.empty) .issued (Issuance.batchText env batchId))
        (batch.status = .ready ∨ batch.status = .active ∨ batch.status = .inspectionFailed)
  activated : ∀ batchId < (run env requests Db.empty).stampBatches.length,
    Once (announced (run env requests Db.empty) .activated (Issuance.batchText env batchId))
      (∃ count ≤ requests.length, ∃ batch, (stateAt env requests count).stampBatches[batchId]? = some batch ∧
        batch.status = .active)
  counts : ∀ batchId < (run env requests Db.empty).stampBatches.length,
    ∀ message ∈ (run env requests Db.empty).outboxMessages,
      about message = some (.activated, Issuance.batchText env batchId) →
        Counts message (turnedCount env requests batchId)
  approved : ∀ assessmentId < (run env requests Db.empty).assessments.length,
    Once (announced (run env requests Db.empty) .approved (Issuance.assessmentText env assessmentId))
      (∃ count ≤ requests.length, ∃ assessment,
        (stateAt env requests count).assessments[assessmentId]? = some assessment ∧
          assessment.status = .approved)

/-- A stamp with a serial is found by it. -/
theorem holds_stamp {property : Stamp → Prop} {stamps : List Stamp} {serial : PyStr} :
    Holds stampName property stamps serial ↔ ∃ stamp ∈ stamps, stamp.serial = serial ∧ property stamp := by
  constructor
  · rintro ⟨id, stamp, stored, named, held⟩
    exact ⟨stamp, List.mem_of_getElem? stored, named, held⟩
  · rintro ⟨stamp, member, named, held⟩
    obtain ⟨id, stored⟩ := List.mem_iff_getElem?.mp member
    exact ⟨id, stamp, stored, named, held⟩

/-- In every run the outbox is exact. -/
theorem outbox_exact (env : Env) (requests : List (Occasion × Request))
    (keys : PrimaryKeys env (run env requests Db.empty)) : OutboxExact env requests := by
  have known := recorded keys (le_refl _)
  have once : ∀ (event : EventType) (subject : PyStr), event ≠ .assessed →
      Once (announced (run env requests Db.empty) event subject)
        (∃ count ≤ requests.length, Marks env (stateAt env requests count) (event, subject)) := by
    intro event subject other
    rw [announced_count other, ← stateAt_all]
    exact known.exact.once (event, subject)
  have last : ∀ (event : EventType) (subject : PyStr), event ≠ .assessed →
      (∀ state, Past env state (event, subject) → Marks env state (event, subject)) →
      Once (announced (run env requests Db.empty) event subject)
        (Marks env (run env requests Db.empty) (event, subject)) := by
    intro event subject other stays
    rw [announced_count other, ← stateAt_all]
    exact known.exact.once_last (event, subject) stays
  constructor
  case verified =>
    intro serial
    exact (last .verified serial (by decide) (fun _ past => past)).congr holds_stamp
  case voided =>
    intro serial
    exact (last .voided serial (by decide) (fun _ past => past)).congr holds_stamp
  case issued =>
    intro batchId batch stored
    have bounded := (List.getElem?_eq_some_iff.mp stored).1
    apply (last .issued _ (by decide) (fun _ past => past)).congr
    constructor
    · rintro ⟨id, row, present, same, anchored⟩
      have bound := (List.getElem?_eq_some_iff.mp present).1
      obtain rfl := keys.stampBatches id batchId bound bounded same
      rwa [← Option.some.inj (present.symm.trans stored)]
    · exact fun anchored => ⟨batchId, batch, stored, rfl, anchored⟩
  case activated =>
    intro batchId bounded
    apply (once .activated _ (by decide)).congr
    constructor
    · rintro ⟨count, within, id, row, present, same, active⟩
      have bound := (List.getElem?_eq_some_iff.mp present).1.trans_le (stateAt_grows within).2
      obtain rfl := keys.stampBatches id batchId bound bounded same
      exact ⟨count, within, row, present, active⟩
    · rintro ⟨count, within, row, present, active⟩
      exact ⟨count, within, batchId, row, present, rfl, active⟩
  case counts =>
    intro batchId bounded message member named
    have counted := known.counted
    rw [stateAt_all] at counted
    have same : turnedCount env requests batchId =
        (run env requests Db.empty).stamps.countP (awake batchId) := by
      have turns := known.turned batchId
      rw [stateAt_all] at turns
      rw [turnedCount, ← funext turns, Rows.countP_range]
    rw [same]
    exact counted message member batchId bounded named
  case approved =>
    intro assessmentId bounded
    apply (once .approved _ (by decide)).congr
    constructor
    · rintro ⟨count, within, id, row, present, same, approved⟩
      have bound := (List.getElem?_eq_some_iff.mp present).1.trans_le (stateAt_grows within).1
      obtain rfl := keys.assessments id assessmentId bound bounded same
      exact ⟨count, within, row, present, approved⟩
    · rintro ⟨count, within, row, present, approved⟩
      exact ⟨count, within, assessmentId, row, present, rfl, approved⟩

/-- The sample run up to the activation. -/
def sampleRun : List (Occasion × Request) :=
  Sample.activating.map (fun request => (Sample.occasion, request))

/-- In the sample run the approval, the batch and its activation are announced once,
and no stamp is announced as voided. -/
theorem outbox_exact_sample : OutboxExact .sample sampleRun ∧
    announced (run .sample sampleRun Db.empty) .approved (Issuance.assessmentText .sample 0) = 1 ∧
    announced (run .sample sampleRun Db.empty) .issued (Issuance.batchText .sample 0) = 1 ∧
    announced (run .sample sampleRun Db.empty) .activated (Issuance.batchText .sample 0) = 1 ∧
    announced (run .sample sampleRun Db.empty) .voided Sample.serial = 0 := by
  obtain ⟨batches, assessments, _, stamps, _⟩ := Sample.activating_active
  obtain ⟨assessment, approvals, approved⟩ := List.map_eq_singleton_iff.mp Sample.asked_approved.1
  obtain ⟨batch, only, active⟩ := List.map_eq_singleton_iff.mp batches
  have earlier : stateAt .sample sampleRun 3 = Sample.state (Sample.asking.take 3) := rfl
  have all : stateAt .sample sampleRun sampleRun.length = Sample.state Sample.activating := stateAt_all
  have ended : run .sample sampleRun Db.empty = Sample.state Sample.activating := rfl
  have keys : PrimaryKeys .sample (run .sample sampleRun Db.empty) := by
    rw [ended]
    constructor
    · intro first second here there _
      rw [assessments] at here there
      omega
    · intro first second here there _
      rw [only, List.length_singleton] at here there
      omega
  have exact := outbox_exact .sample sampleRun keys
  have kept : (Sample.state Sample.activating).stampBatches[0]? = some batch := by
    rw [only]
    rfl
  refine ⟨exact, (exact.approved 0 ?_).1 ⟨3, by decide, assessment, ?_, approved⟩,
    (exact.issued 0 batch kept).1 (Or.inr (Or.inl active)),
    (exact.activated 0 ?_).1 ⟨sampleRun.length, le_refl _, batch, ?_, active⟩, (exact.voided Sample.serial).2 ?_⟩
  · rw [ended, assessments]
    exact Nat.one_pos
  · rw [earlier, approvals]
    rfl
  · rw [ended, only]
    exact Nat.one_pos
  · rw [all, kept]
  · rintro ⟨stamp, member, _, void⟩
    rw [ended] at member
    cases (of_decide_eq_true (List.all_eq_true.mp stamps stamp member)).symm.trans void

end Exact

end TaxStamps.Outbox
