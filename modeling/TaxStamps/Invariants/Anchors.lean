import TaxStamps.Domain.MerkleBinding
import TaxStamps.Invariants.Announced
import TaxStamps.Invariants.Cursor

/-!
# The published anchor

The message of a finalized batch states its quantity and its Merkle root. The
stamps of the batch are as many as the quantity, they keep their serials, and
no other list of that length has the root, unless a hash collides.
-/

namespace TaxStamps.Anchors

open Api Issuance Outbox

variable {env : Env} {occasion : Occasion} {db before after : Db} {batchId : Nat}

/-- The stamps of a batch in the ascending order of their sequences. -/
structure Ascending (batchId : Nat) (stamps rows : List Stamp) : Prop where
  stamps : rows.Perm (Cursor.stampsOf batchId stamps)
  ascending : rows.Pairwise (fun left right => left.sequence < right.sequence)

/-- What the message of a batch publishes. -/
structure Publishes (message : OutboxMessage) (quantity : Int) (root : PyStr) : Prop where
  quantity : ∃ stored, member "quantity" message = some stored ∧ stored.JsonEq (.int quantity)
  root : member "merkleRoot" message = some (.str root)

section Serials

/-- The rows that `finalize_batch` reads. -/
def sorted (batchId : Nat) (stamps : List Stamp) : List Stamp :=
  (Cursor.stampsOf batchId stamps).insertionSort (fun left right => left.sequence ≤ right.sequence)

/-- The serials of a batch are those of its stamps, in order. -/
theorem batchSerials_eq : batchSerials batchId db = (sorted batchId db.stamps).map Stamp.serial := rfl

/-- The serials are fixed columns. -/
theorem batchSerials_fixed (same : after.stamps.map Stamp.fixed = before.stamps.map Stamp.fixed) :
    batchSerials batchId after = batchSerials batchId before := by
  have fixed : ∀ stamps : List Stamp, (sorted batchId (stamps.map Stamp.fixed)).map Stamp.serial =
      (sorted batchId stamps).map Stamp.serial := by
    intro stamps
    have chosen : Cursor.stampsOf batchId (stamps.map Stamp.fixed) =
        (Cursor.stampsOf batchId stamps).map Stamp.fixed := List.filter_map
    rw [sorted, chosen, ← List.map_insertionSort (fun left right : Stamp => left.sequence ≤ right.sequence)
      (fun left right : Stamp => left.sequence ≤ right.sequence) Stamp.fixed _ (fun _ _ _ _ => Iff.rfl),
      List.map_map]
    rfl
  rw [batchSerials_eq, batchSerials_eq, ← fixed after.stamps, same, fixed]

/-- Stamps of other batches do not enter. -/
theorem batchSerials_append {new : List Stamp} (others : ∀ stamp ∈ new, stamp.batchId ≠ batchId)
    (stamps : after.stamps = before.stamps ++ new) :
    batchSerials batchId after = batchSerials batchId before := by
  have none : Cursor.stampsOf batchId new = [] := by
    rw [Cursor.stampsOf, List.filter_eq_nil_iff]
    intro stamp member
    rw [decide_eq_true_eq]
    exact others stamp member
  have same : Cursor.stampsOf batchId after.stamps = Cursor.stampsOf batchId before.stamps := by
    rw [stamps, Cursor.stampsOf, List.filter_append]
    exact (congrArg (_ ++ ·) none).trans (List.append_nil _)
  rw [batchSerials_eq, batchSerials_eq, sorted, same]
  rfl

/-- Every serial is a leaf. -/
theorem encodeAll_length {texts : List PyStr} {leaves : List Bytes} (encoded : encodeAll texts = .ok leaves) :
    leaves.length = texts.length := by
  induction texts generalizing leaves with
  | nil =>
    cases encoded
    rfl
  | cons text rest inductionHypothesis =>
    obtain ⟨bytes, _, encoded⟩ := Result.bind_ok.mp encoded
    obtain ⟨others, later, encoded⟩ := Result.bind_ok.mp encoded
    cases encoded
    rw [List.length_cons, List.length_cons, inductionHypothesis later]

/-- The order of the rows is that of their sequences, which differ. -/
theorem sorted_ascending (reached : Reachable env db) (batchId : Nat) :
    Ascending batchId db.stamps (sorted batchId db.stamps) := by
  have kept := Cursor.kept reached
  have total : Std.Total (fun left right : Stamp => left.sequence ≤ right.sequence) :=
    ⟨fun left right => le_total left.sequence right.sequence⟩
  have transitive : IsTrans Stamp (fun left right => left.sequence ≤ right.sequence) :=
    ⟨fun _ _ _ first second => le_trans first second⟩
  have perm : (sorted batchId db.stamps).Perm (Cursor.stampsOf batchId db.stamps) :=
    List.perm_insertionSort _ _
  refine ⟨perm, ?_⟩
  have numbers : ((sorted batchId db.stamps).map (fun stamp => stamp.origin.number)).Nodup := by
    have distinct := kept.distinct
    rw [List.map_map] at distinct
    rw [(perm.map _).nodup_iff]
    exact distinct.sublist (List.filter_sublist.map _)
  have ordered : (sorted batchId db.stamps).Pairwise (fun left right => left.sequence ≤ right.sequence) :=
    List.pairwise_insertionSort _ _
  have apart := List.pairwise_map.mp numbers
  apply (ordered.and apart).imp_of_mem
  rintro left right here there ⟨least, different⟩
  apply lt_of_le_of_ne least
  intro same
  apply different
  have placed : ∀ stamp ∈ sorted batchId db.stamps, stamp ∈ db.stamps ∧ stamp.batchId = batchId := by
    intro stamp member
    obtain ⟨present, chosen⟩ := List.mem_filter.mp (perm.mem_iff.mp member)
    exact ⟨present, of_decide_eq_true chosen⟩
  obtain ⟨leftPresent, leftBatch⟩ := placed left here
  obtain ⟨rightPresent, rightBatch⟩ := placed right there
  obtain ⟨batch, stored, category, year⟩ := kept.owned _ (List.mem_map_of_mem leftPresent)
  obtain ⟨other, otherStored, otherCategory, otherYear⟩ := kept.owned _ (List.mem_map_of_mem rightPresent)
  have one : left.origin.batchId = right.origin.batchId := leftBatch.trans rightBatch.symm
  rw [one] at stored
  obtain rfl := Option.some.inj (stored.symm.trans otherStored)
  exact Prod.ext (category.trans otherCategory.symm) (Prod.ext (year.trans otherYear.symm) same)

end Serials

section Steps

/-- A batch is finalized: its row, its message, and what both say. -/
structure Finalized (env : Env) (before after : Db) (batchId : Nat) (batch : StampBatch)
    (message : OutboxMessage) : Prop where
  stored : before.stampBatches[batchId]? = some batch
  issued : batch.status = .issued
  stamps : after.stamps = before.stamps
  messages : after.outboxMessages = before.outboxMessages ++ [message]
  about : Outbox.about message = some (.issued, batchText env batchId)
  root : ∃ leaves, encodeAll (batchSerials batchId before) = .ok leaves ∧
    after.stampBatches = written batchId batch
      { batch with merkleRoot := Merkle.merkleRoot env leaves, status := .ready } before.stampBatches ∧
    Publishes message batch.quantity (Merkle.merkleRoot env leaves)

/-- Finalizing writes the root that the message announces. -/
theorem finalizeBatch_publishes {principalSub : PyStr} {batch : StampBatch}
    (stored : before.stampBatches[batchId]? = some batch)
    (finalized : finalizeBatch env occasion principalSub batchId batch before = .ok after) :
    ∃ message, Finalized env before after batchId batch message := by
  obtain ⟨_, issued, finalized⟩ := Result.bind_ok.mp finalized
  rw [Result.require_ok, decide_eq_true_eq] at issued
  obtain ⟨leaves, encoded, finalized⟩ := Result.bind_ok.mp finalized
  obtain ⟨middle, wrote, queued⟩ := Result.bind_ok.mp finalized
  obtain ⟨_, rfl⟩ := writeBatch_ok wrote
  obtain ⟨message, rfl, named, members⟩ := enqueue_announces queued
    ⟨show [key "batchId", key "assessmentId", key "categoryCode", key "quantity", key "merkleRoot"].Nodup by
      decide, ⟨_, rfl⟩, trivial, ⟨_, rfl⟩, trivial, ⟨_, rfl⟩, trivial, ⟨_, rfl⟩, trivial, ⟨_, rfl⟩, trivial,
      trivial⟩ rfl rfl
  obtain ⟨stated, found, same⟩ := members "merkleRoot" _ rfl
  obtain rfl := Value.denote_str same
  exact ⟨message, stored, issued, rfl, rfl, named,
    ⟨leaves, encoded, rfl, members "quantity" _ rfl, found⟩⟩

/-- The anchor of a batch stays: the status, the quantity, the root and the serials. -/
structure Stays (batchId : Nat) (before after : Db) (old row : StampBatch) : Prop where
  anchored : Anchored old.status ↔ Anchored row.status
  quantity : row.quantity = old.quantity
  root : Anchored old.status → row.merkleRoot = old.merkleRoot
  serials : Anchored old.status → batchSerials batchId after = batchSerials batchId before

/-- Nothing is anchored, and every anchor stays. -/
def Calm (before after : Db) : Prop :=
  (∀ (id : Nat) (old : StampBatch), before.stampBatches[id]? = some old →
    ∃ row, after.stampBatches[id]? = some row ∧ Stays id before after old row) ∧
  ∀ (id : Nat) (row : StampBatch), after.stampBatches[id]? = some row → Anchored row.status →
    ∃ old, before.stampBatches[id]? = some old ∧ Stays id before after old row

/-- Where no batch changes and stamps keep what is fixed, nothing is anchored. -/
theorem calm_same (batches : after.stampBatches = before.stampBatches)
    (stamps : after.stamps.map Stamp.fixed = before.stamps.map Stamp.fixed) : Calm before after := by
  have stays : ∀ id row, Stays id before after row row := fun id row =>
    ⟨Iff.rfl, rfl, fun _ => rfl, fun _ => batchSerials_fixed stamps⟩
  rw [Calm, batches]
  exact ⟨fun id old stored => ⟨old, stored, stays id old⟩, fun id row stored _ => ⟨row, stored, stays id row⟩⟩

/-- A write that neither anchors its batch nor changes an anchor. -/
theorem calm_written {batch changed : StampBatch} (stored : before.stampBatches[batchId]? = some batch)
    (batches : after.stampBatches = written batchId batch changed before.stampBatches)
    (anchored : Anchored batch.status ↔ Anchored changed.status)
    (root : Anchored batch.status → changed.merkleRoot = batch.merkleRoot)
    (serials : ∀ id, (id = batchId → Anchored batch.status) → batchSerials id after = batchSerials id before) :
    Calm before after := by
  have here : Stays batchId before after batch { batch with
      issuedCount := changed.issuedCount, status := changed.status, merkleRoot := changed.merkleRoot } :=
    ⟨anchored, rfl, root, fun kept => serials batchId (fun _ => kept)⟩
  have there : ∀ id row, id ≠ batchId → Stays id before after row row := fun id row other =>
    ⟨Iff.rfl, rfl, fun _ => rfl, fun _ => serials id (fun same => absurd same other)⟩
  rw [Calm, batches]
  constructor
  · intro id old present
    by_cases same : id = batchId
    · subst same
      obtain rfl := Option.some.inj (stored.symm.trans present)
      exact ⟨_, written_current stored, here⟩
    · exact ⟨old, (Rows.stored_modify_other same).trans present, there id old same⟩
  · intro id row present _
    rcases Cursor.written_rows stored present with ⟨other, old⟩ | ⟨rfl, rfl⟩
    · exact ⟨row, old, there id row other⟩
    · exact ⟨batch, stored, here⟩

/-- A batch that is being issued has no anchor. -/
theorem advanced_unanchored (locked : StampBatch) (size : Int) : ¬ Anchored (advanced locked size).status := by
  rcases advanced_status locked size with issuing | issued
  · simp [Anchored, issuing]
  · simp [Anchored, issued]

/-- A request finalizes a batch or leaves every anchor as it is. -/
theorem anchoring (effect : Effect env before after) :
    (∃ batchId batch message, Finalized env before after batchId batch message) ∨ Calm before after := by
  cases effect with
  | finalized stored _ _ ran =>
    obtain ⟨occasion, principalSub, finalizing⟩ := ran
    exact Or.inl ⟨_, _, finalizeBatch_publishes stored finalizing⟩
  | opened _ _ opened =>
    refine Or.inr ⟨fun id old stored => ⟨old, Rows.stored_append _ stored, Iff.rfl, rfl, fun _ => rfl,
      fun _ => rfl⟩, ?_⟩
    intro id row stored anchored
    rcases Rows.stored_insert_cases stored with old | ⟨_, rfl⟩
    · exact ⟨row, old, Iff.rfl, rfl, fun _ => rfl, fun _ => rfl⟩
    · simp [Anchored, opened.pending] at anchored
  | issued stored chunked ran =>
    rename_i batchId batch copy issued
    obtain ⟨occasion, chunking⟩ := ran
    right
    have unanchored : batch.status = .pending ∨ batch.status = .issuing → ¬ Anchored batch.status := by
      rintro (pending | issuing)
      · simp [Anchored, pending]
      · simp [Anchored, issuing]
    cases chunked with
    | past => exact calm_same rfl rfl
    | exhausted open_ =>
      have none := unanchored open_
      refine calm_written stored rfl ?_ (fun kept => absurd kept none) (fun _ _ => rfl)
      exact iff_of_false none (by simp [Anchored])
    | issues open_ remaining owned counted fresh =>
      have none := unanchored open_
      refine calm_written stored rfl ?_ (fun kept => absurd kept none) ?_
      · exact iff_of_false none (advanced_unanchored _ _)
      · intro id other
        refine batchSerials_append ?_ rfl
        intro stamp member
        obtain ⟨earlier, placed⟩ := fresh.each member
        rw [placed.batch, owned]
        rintro rfl
        exact none (other rfl)
  | failed stored inspectable =>
    right
    refine calm_written stored rfl ?_ (fun _ => rfl) (fun _ _ => rfl)
    apply iff_of_true
    · rcases inspectable with ready | active
      · exact Or.inl ready
      · exact Or.inr (Or.inl active)
    · exact Or.inr (Or.inr rfl)
  | activated stored ready =>
    right
    refine calm_written stored rfl ?_ (fun _ => rfl) (fun id _ => batchSerials_fixed (Stamps.activate_fixed _ _))
    exact iff_of_true (Or.inl ready) (Or.inr (Or.inl rfl))
  | scanned _ scanned =>
    right
    cases scanned with
    | answered => exact calm_same rfl rfl
    | suspected => exact calm_same rfl (Stamps.modify_fixed _ _ _ (fun _ => rfl))
    | consumes => exact calm_same rfl (Stamps.modify_fixed _ _ _ (fun _ => rfl))
  | voided _ voided =>
    right
    cases voided with
    | already => exact calm_same rfl rfl
    | voids => exact calm_same rfl (Stamps.modify_fixed _ _ _ (fun _ => rfl))
  | _ => exact Or.inr (calm_same rfl rfl)

end Steps

section Runs

/-- Anchors and messages agree: an anchored batch has the root of its serials and a
message, and every message of an anchor publishes what the batch has. -/
structure Agree (env : Env) (db : Db) : Prop where
  rooted : ∀ (id : Nat) (row : StampBatch), db.stampBatches[id]? = some row → Anchored row.status →
    (∃ leaves, encodeAll (batchSerials id db) = .ok leaves ∧ row.merkleRoot = Merkle.merkleRoot env leaves) ∧
    ∃ message ∈ db.outboxMessages, about message = some (.issued, batchText env id)
  stated : ∀ message ∈ db.outboxMessages, ∀ subject, about message = some (.issued, subject) →
    ∃ (id : Nat) (row : StampBatch), db.stampBatches[id]? = some row ∧ Anchored row.status ∧
      subject = batchText env id ∧ Publishes message row.quantity row.merkleRoot

/-- The finalized batch and its message agree, and nothing else changes. -/
theorem Agree.finalize (agree : Agree env before) {batch : StampBatch} {message : OutboxMessage}
    (finalized : Finalized env before after batchId batch message) : Agree env after := by
  obtain ⟨stored, issued, stamps, messages, named, leaves, encoded, batches, publishes⟩ := finalized
  have serials : ∀ id, batchSerials id after = batchSerials id before :=
    fun id => batchSerials_fixed (by rw [stamps])
  constructor
  · intro id row present anchored
    rw [batches] at present
    rw [serials, messages]
    rcases Cursor.written_rows stored present with ⟨_, old⟩ | ⟨rfl, rfl⟩
    · obtain ⟨root, sent, listed, other⟩ := agree.rooted id row old anchored
      exact ⟨root, sent, List.mem_append_left _ listed, other⟩
    · exact ⟨⟨leaves, encoded, rfl⟩, message, List.mem_append_right _ (List.mem_singleton_self _), named⟩
  · intro sent listed subject about_
    rw [messages] at listed
    rw [batches]
    rcases List.mem_append.mp listed with old | new
    · obtain ⟨id, row, present, anchored, same, states⟩ := agree.stated sent old subject about_
      by_cases here : id = batchId
      · subst here
        obtain rfl := Option.some.inj (stored.symm.trans present)
        simp [Anchored, issued] at anchored
      · exact ⟨id, row, (Rows.stored_modify_other here).trans present, anchored, same, states⟩
    · rw [List.mem_singleton.mp new, named] at about_
      obtain ⟨_, rfl⟩ := Prod.mk.inj (Option.some.inj about_)
      rw [List.mem_singleton.mp new]
      exact ⟨batchId, _, written_current stored, Or.inl rfl, rfl, publishes⟩

/-- Where nothing is anchored, no message of an anchor is added. -/
theorem Agree.calm (agree : Agree env before) (calm : Calm before after) {added : List OutboxMessage}
    (tells : Tells env before after added) : Agree env after := by
  constructor
  · intro id row present anchored
    obtain ⟨old, stored, stays⟩ := calm.2 id row present anchored
    have was := stays.anchored.mpr anchored
    obtain ⟨⟨leaves, encoded, root⟩, message, listed, named⟩ := agree.rooted id old stored was
    rw [stays.serials was, stays.root was, tells.appended]
    exact ⟨⟨leaves, encoded, root⟩, message, List.mem_append_left _ listed, named⟩
  · intro message listed subject named
    rw [tells.appended] at listed
    rcases List.mem_append.mp listed with earlier | new
    · obtain ⟨id, old, stored, was, same, publishes⟩ := agree.stated message earlier subject named
      obtain ⟨row, present, stays⟩ := calm.1 id old stored
      rw [← stays.quantity, ← stays.root was] at publishes
      exact ⟨id, row, present, stays.anchored.mp was, same, publishes⟩
    · have notice : (EventType.issued, subject) ∈ heard added := by
        rw [heard, List.mem_filter]
        exact ⟨List.mem_filterMap.mpr ⟨message, new, named⟩, decide_eq_true (by simp)⟩
      obtain ⟨id, old, row, stored, _, unpast, present, _, anchored⟩ :=
        tells.happens.issued.fresh subject (mem_subjects.mpr notice)
      obtain ⟨source, origin, stays⟩ := calm.2 id row present anchored
      obtain rfl := Option.some.inj (stored.symm.trans origin)
      exact absurd (stays.anchored.mpr anchored) unpast

/-- Anchors and messages agree in every reachable state. -/
theorem agree (reached : Reachable env db) : Agree env db := by
  refine Transition.invariant (Agree env) ?_ reached ?_
  · rintro before after known ⟨occasion, request, rfl⟩
    rcases anchoring (Step.effect ⟨occasion, request, rfl⟩) with ⟨id, batch, message, finalized⟩ | calm
    · exact known.finalize finalized
    · obtain ⟨added, tells⟩ := submit_tells env occasion request before
      exact known.calm calm tells
  · exact ⟨fun id row absent => (by cases absent), fun message absent => absurd absent List.not_mem_nil⟩

/-- What the message of a batch binds: the batch has as many stamps as the message
says, and among the lists of that length only its serials, in ascending order of
their sequences, have the published root. -/
structure Binds (env : Env) (db : Db) (batchId : Nat) (message : OutboxMessage) (quantity : Int) (root : PyStr) :
    Prop where
  publishes : Publishes message quantity root
  counted : ((Cursor.stampsOf batchId db.stamps).length : Int) = quantity
  binds : ∃ rows leaves, Ascending batchId db.stamps rows ∧ encodeAll (rows.map Stamp.serial) = .ok leaves ∧
    Merkle.merkleRoot env leaves = root ∧
    ∀ others : List Bytes, (others.length : Int) = quantity → Merkle.Apart env others leaves →
      Merkle.merkleRoot env others = root → others = leaves

/-- Every finalized batch has a message, and every message of it binds its
serials. -/
theorem anchor_binds (reached : Reachable env db) (keys : PrimaryKeys env db) {batch : StampBatch}
    (stored : db.stampBatches[batchId]? = some batch) (anchored : Anchored batch.status) :
    (∃ message ∈ db.outboxMessages, about message = some (.issued, batchText env batchId)) ∧
    ∀ message ∈ db.outboxMessages, about message = some (.issued, batchText env batchId) →
      ∃ quantity root, Binds env db batchId message quantity root := by
  have known := agree reached
  obtain ⟨⟨leaves, encoded, root⟩, sent⟩ := known.rooted batchId batch stored anchored
  refine ⟨sent, ?_⟩
  intro message listed named
  obtain ⟨id, row, present, _, same, publishes⟩ := known.stated message listed _ named
  obtain rfl := keys.stampBatches batchId id (List.getElem?_eq_some_iff.mp stored).1
    (List.getElem?_eq_some_iff.mp present).1 same
  obtain rfl := Option.some.inj (stored.symm.trans present)
  have total : ((Cursor.stampsOf batchId db.stamps).length : Int) = batch.quantity := by
    apply Cursor.complete reached stored
    · rintro pending
      simp [Anchored, pending] at anchored
    · rintro issuing
      simp [Anchored, issuing] at anchored
  have ascending := sorted_ascending reached batchId
  refine ⟨batch.quantity, batch.merkleRoot, publishes, total, sorted batchId db.stamps, leaves, ascending,
    encoded, root.symm, ?_⟩
  intro others counted apart same'
  apply Merkle.merkleRoot_binds _ apart (same'.trans root)
  have length := encodeAll_length encoded
  rw [batchSerials_eq, List.length_map, ascending.stamps.length_eq] at length
  omega

/-- The sample batch of two stamps, after it was finalized. -/
theorem anchor_binds_sample :
    (∃ message ∈ (Sample.state Sample.issuing).outboxMessages,
      about message = some (.issued, batchText .sample 0)) ∧
    ∀ message ∈ (Sample.state Sample.issuing).outboxMessages,
      about message = some (.issued, batchText .sample 0) →
        ∃ quantity root, Binds .sample (Sample.state Sample.issuing) 0 message quantity root := by
  have rows : (Sample.state Sample.issuing).stampBatches.map StampBatch.status = [.ready] ∧
      (Sample.state Sample.issuing).assessments.length = 1 :=
    ⟨Sample.issuing_ready.1, Sample.issuing_ready.2.1⟩
  obtain ⟨batch, only, ready⟩ := List.map_eq_singleton_iff.mp rows.1
  have keys : PrimaryKeys .sample (Sample.state Sample.issuing) := by
    constructor
    · intro first second here there _
      omega
    · intro first second here there _
      rw [only, List.length_singleton] at here there
      omega
  exact anchor_binds (Sample.state_reachable _) keys (by rw [only]; rfl) (Or.inl ready)

end Runs

end TaxStamps.Anchors
