import TaxStamps.Invariants.Cursor
import TaxStamps.Library.Relocking

/-!
# Concurrent issuing of one batch

A request reads the batch without a lock and issues it chunk by chunk, each chunk
in a transaction of its own that reads the batch again under its lock. The session
keeps the copy that it read first, or left after its last chunk, and takes what
remains from it. A copy whose cursor is behind lets more stamps be issued than were
paid for.
-/

namespace TaxStamps.Issuers

open Issuance Cursor

variable {env : Env} {batchId : Nat} {db after initial : Db}

/-- The body of `POST /v1/batches/{id}/issue`. -/
structure Call where
  chunkSize : Option ChunkSize
  runToCompletion : Bool

/-- The chunk size that the call asks for. -/
def Call.requested (call : Call) : Option Int := call.chunkSize.map ChunkSize.value

/-- A request to run to completion goes on after a chunk that issued something. -/
def goesOn (call : Call) (issued : Int) (changed : StampBatch) : Option (Call × StampBatch) :=
  if issued ≠ 0 ∧ call.runToCompletion = true then some (call, changed) else none

/-- The chunks of the requests, each at its own time. -/
def service (env : Env) (batchId : Nat) : Relocking.Service Db Call StampBatch where
  read db := db.stampBatches[batchId]?
  answered _ _ := False
  commits db call copy later next := ∃ (occasion : Occasion) (issued : Int) (changed : StampBatch),
    issueChunk env occasion call.requested batchId copy db = .ok (issued, changed, later) ∧
      next = goesOn call issued changed

/-- The cursor of the batch counts its stamps, and there are no more than its
quantity. -/
def Exact (batchId : Nat) (db : Db) : Prop :=
  ∀ row : StampBatch, db.stampBatches[batchId]? = some row →
    ((stampsOf batchId db.stamps).length : Int) = row.issuedCount ∧
      ((stampsOf batchId db.stamps).length : Int) ≤ row.quantity

/-- The cursor of a copy by which stamps would be issued is the stored one. -/
def Abreast (batchId : Nat) (db : Db) (_ : Call) (copy : StampBatch) : Prop :=
  copy.status = .pending ∨ copy.status = .issuing → copy.issuedCount < copy.quantity →
    ∀ row : StampBatch, db.stampBatches[batchId]? = some row → copy.issuedCount = row.issuedCount

/-- A copy of the batch has its quantity. -/
def Alike (copy row : StampBatch) : Prop := copy.quantity = row.quantity

/-- The size of a chunk is at least one. -/
theorem chunk_positive (positive : 1 ≤ env.settings.issuanceChunkSize) (call : Call) {remaining : Int}
    (left : 0 < remaining) : 0 < chunkSize env.settings call.requested remaining := by
  have asked : ∀ size, call.requested = some size → 1 ≤ size := by
    intro size requested
    obtain ⟨chunk, _, rfl⟩ := Option.map_eq_some_iff.mp requested
    exact chunk.positive
  exact Numbering.chunkSize_positive positive ⟨Api.Sample.occasion, call.requested, 0, asked⟩ left

/-- The batch after a chunk. -/
theorem chunk_stored {occasion : Occasion} {requested : Option Int} {copy changed row : StampBatch}
    {issued : Int} (stored : db.stampBatches[batchId]? = some row)
    (chunked : issueChunk env occasion requested batchId copy db = .ok (issued, changed, after)) :
    changed.quantity = copy.quantity ∧ ∃ later : StampBatch, after.stampBatches[batchId]? = some later ∧
      later.quantity = row.quantity ∧
      later.issuedCount = Relock.column copy.issuedCount changed.issuedCount row.issuedCount := by
  cases issueChunk_ok chunked with
  | past => exact ⟨rfl, row, stored, rfl, (Relock.column_unassigned _ _).symm⟩
  | exhausted => exact ⟨rfl, _, Rows.stored_modify_self stored, rfl, rfl⟩
  | issues => exact ⟨rfl, _, Rows.stored_modify_self stored, rfl, rfl⟩

/-- A chunk by a copy that is abreast keeps the count. -/
theorem chunk_exact (positive : 1 ≤ env.settings.issuanceChunkSize) {call : Call} {occasion : Occasion}
    {copy changed row : StampBatch} {issued : Int} (counts : Exact batchId db)
    (stored : db.stampBatches[batchId]? = some row) (alike : Alike copy row)
    (abreast : Abreast batchId db call copy)
    (chunked : issueChunk env occasion call.requested batchId copy db = .ok (issued, changed, after)) :
    Exact batchId after := by
  obtain ⟨counted, bounded⟩ := counts row stored
  obtain ⟨_, later, present, quantity, cursor⟩ := chunk_stored stored chunked
  intro held same
  obtain rfl := Option.some.inj (present.symm.trans same)
  rw [cursor, quantity]
  rw [Alike] at alike
  cases issueChunk_ok chunked with
  | past => exact ⟨counted.trans (Relock.column_unassigned _ _).symm, bounded⟩
  | exhausted => exact ⟨counted.trans (Relock.column_unassigned _ _).symm, bounded⟩
  | @issues time chunk counters new open_ remaining batch size issued =>
    have current : copy.issuedCount = row.issuedCount := abreast open_ (by omega) row stored
    have some_ := chunk_positive positive call remaining
    have most : chunkSize env.settings call.requested (copy.quantity - copy.issuedCount) ≤
        copy.quantity - copy.issuedCount := min_le_right _ _
    have moved : (advanced copy (chunkSize env.settings call.requested
        (copy.quantity - copy.issuedCount))).issuedCount ≠ copy.issuedCount := by
      dsimp only [advanced]
      omega
    have own : stampsOf batchId new = new := by
      rw [stampsOf, List.filter_eq_self]
      intro stamp member
      obtain ⟨_, fresh⟩ := issued.each member
      exact decide_eq_true (fresh.batch.trans batch)
    have total : stampsOf batchId (db.stamps ++ new) = stampsOf batchId db.stamps ++ new := by
      rw [stampsOf, List.filter_append]
      exact congrArg _ own
    rw [Relock.column_assigned moved]
    dsimp only [advanced]
    rw [total, List.length_append, Nat.cast_add, size]
    omega

/-- Chunks of requests that are abreast keep the count. -/
theorem law (positive : 1 ≤ env.settings.issuanceChunkSize) (batchId : Nat) :
    Relocking.Law (service env batchId) (Exact batchId) Alike (Abreast batchId) := by
  constructor
  case refl => exact fun _ => rfl
  case commits =>
    rintro db call copy row later next counts stored alike abreast ⟨occasion, issued, changed, chunked, rfl⟩
    obtain ⟨copied, held, present, quantity, _⟩ := chunk_stored stored chunked
    refine ⟨chunk_exact positive counts stored alike abreast chunked, held, present,
      fun other same => same.trans quantity.symm, fun call' copy' on => ?_⟩
    unfold goesOn at on
    split at on
    · obtain ⟨_, rfl⟩ := Prod.mk.inj (Option.some.inj on)
      exact copied.trans (alike.trans quantity.symm)
    · cases on

/-- The count is exact in every reachable state. -/
theorem exact_of_reachable (positive : 1 ≤ env.settings.issuanceChunkSize)
    (reached : Api.Reachable env db) : Exact batchId db := by
  intro row stored
  rw [← issuedOf_stamps]
  rcases (Cursor.kept reached).counted batchId row stored with ⟨counts, most⟩ | ⟨_, spent⟩
  · exact ⟨counts.symm, counts ▸ most⟩
  · have numbered := (Numbering.good positive reached).sequences row.categoryCode row.year
    rcases spent with negative | taken
    · exact absurd numbered.1 (not_le.mpr negative)
    · obtain ⟨_, listed, number⟩ := List.mem_map.mp (taken _ numbered.1 (le_refl _))
      obtain ⟨stamp, member, rfl⟩ := List.mem_map.mp listed
      simp only [Origin.number, Stamp.origin, Prod.mk.injEq] at number
      have handed : stamp.sequence ∈ Numbering.sequencesOf row.categoryCode row.year db.stamps :=
        List.mem_map.mpr ⟨stamp, List.mem_filter.mpr
          ⟨member, decide_eq_true ⟨number.1, number.2.1⟩⟩, rfl⟩
      have below := (numbered.mem_iff.mp handed).2
      rw [number.2.2] at below
      exact absurd below (lt_irrefl _)

/-- A batch never exceeds what is paid, in every interleaving of requests that are
abreast when they get the lock. -/
theorem never_exceeds {world : Sessions.World Db (Relocking.Stage Call StampBatch)}
    (positive : 1 ≤ env.settings.issuanceChunkSize) (reached : Api.Reachable env initial)
    (run : Sessions.Reachable (Relocking.timed (service env batchId) (Abreast batchId)) initial world) :
    Exact batchId world.shared :=
  (law positive batchId).reachable (exact_of_reachable positive reached) run

/-- A request for one chunk that runs by itself is abreast. -/
theorem alone {call : Call} {row copy : StampBatch} {occasion : Occasion} {issued : Int}
    (single : call.runToCompletion = false) (stored : db.stampBatches[batchId]? = some row)
    (chunked : issueChunk env occasion call.requested batchId row db = .ok (issued, copy, after)) :
    Sessions.Alone (Relocking.timed (service env batchId) (Abreast batchId)) db (.called call) after := by
  have abreast : Abreast batchId db call row := by
    intro _ _ held present
    obtain rfl := Option.some.inj (stored.symm.trans present)
    rfl
  have last : none = goesOn call issued copy := by
    rw [goesOn, single]
    exact (if_neg (by simp)).symm
  exact Relocking.alone stored not_false abreast ⟨occasion, issued, copy, chunked, last⟩

/-- A request for one chunk that is overtaken issues by its older copy. -/
theorem overtaken {first second : Call} {row later copy changed : StampBatch}
    {occasion moment : Occasion} {issued count : Int} {final : Db} (single : first.runToCompletion = false)
    (other : second.runToCompletion = false) (stored : db.stampBatches[batchId]? = some row)
    (chunked : issueChunk env occasion second.requested batchId row db = .ok (issued, copy, after))
    (present : after.stampBatches[batchId]? = some later)
    (again : issueChunk env moment first.requested batchId row after = .ok (count, changed, final)) :
    Sessions.Reachable (Relocking.protocol (service env batchId)) db (Sessions.World.start final) := by
  have last : none = goesOn first count changed := by
    rw [goesOn, single]
    exact (if_neg (by simp)).symm
  exact Relocking.overtaken stored not_false (alone other stored chunked).forget present
    ⟨moment, count, changed, again, last⟩

section Sample

/-- A request for one chunk of the configured size. -/
def oneChunk : Call := ⟨none, false⟩

/-- Two requests issue the sample batch by the same copy. -/
theorem exceeded : ¬ ∀ (env : Env) (batchId : Nat) (initial : Db)
    (world : Sessions.World Db (Relocking.Stage Call StampBatch)),
    1 ≤ env.settings.issuanceChunkSize → Api.Reachable env initial →
      Sessions.Reachable (Relocking.protocol (service env batchId)) initial world →
        Exact batchId world.shared := by
  intro claimed
  obtain ⟨initial, after, final, batch, copy, later, issued, again, reached, stored, filled, _, present,
    chunked, held, full, paid, exceeds⟩ := Numbering.issued_sample
  have run := @overtaken .sample 0 initial after oneChunk oneChunk batch later copy again.2 _ _ issued
    again.1 final rfl rfl stored filled present chunked
  have counts := (claimed .sample 0 initial _ (by decide) reached run held full).2
  rw [paid] at counts
  have four : (stampsOf 0 final.stamps).length = 4 := exceeds
  rw [Sessions.World.start, four] at counts
  omega

/-- A request that goes on in chunks of one stamp. -/
def oneByOne : Call := ⟨some Api.Sample.oneStamp, true⟩

/-- The sample batch is issued by two chunks, the second by the batch as the first left it. -/
theorem issued_by_two : ∃ (initial middle final : Db) (batch copy row last : StampBatch) (issued : Int),
    Api.Reachable .sample initial ∧ initial.stampBatches[0]? = some batch ∧
    issueChunk .sample Api.Sample.occasion oneByOne.requested 0 batch initial = .ok (1, copy, middle) ∧
    middle.stampBatches[0]? = some row ∧
    issueChunk .sample Api.Sample.occasion oneChunk.requested 0 row middle = .ok (issued, last, final) ∧
    final.stamps.length = 2 := by
  have checked : ((Api.Sample.state Api.Sample.paying).stampBatches[0]?.any (fun batch =>
      (issueChunk .sample Api.Sample.occasion oneByOne.requested 0 batch
        (Api.Sample.state Api.Sample.paying)).toOption.any (fun first => decide (first.1 = 1) &&
          first.2.2.stampBatches[0]?.any (fun row =>
            (issueChunk .sample Api.Sample.occasion oneChunk.requested 0 row first.2.2).toOption.any
              (fun second => decide (second.2.2.stamps.length = 2)))))) = true := by decide +kernel
  simp only [Option.any_eq_true, Bool.and_eq_true, decide_eq_true_eq, Result.toOption_some] at checked
  obtain ⟨batch, stored, ⟨_, copy, middle⟩, first, rfl, row, present, ⟨issued, last, final⟩, second, two⟩ :=
    checked
  exact ⟨_, middle, final, batch, copy, row, last, issued, Api.Sample.state_reachable _, stored, first, present,
    second, two⟩

/-- Two requests share the batch: the one issues the first stamp and goes on from its copy,
the other issues the second stamp in between. -/
theorem never_exceeds_sample : ∃ (initial final : Db) (copy : StampBatch),
    Sessions.Reachable (Relocking.timed (service .sample 0) (Abreast 0)) initial
      (Sessions.World.single final (.loaded oneByOne copy)) ∧
      final.stamps.length = 2 ∧ Exact 0 final := by
  obtain ⟨initial, middle, final, batch, copy, row, last, issued, reached, stored, first, present, second,
    two⟩ := issued_by_two
  have abreast : Abreast 0 initial oneByOne batch := by
    intro _ _ held same
    obtain rfl := Option.some.inj (stored.symm.trans same)
    rfl
  have commits : (service .sample 0).commits initial oneByOne batch middle (some (oneByOne, copy)) :=
    ⟨Api.Sample.occasion, 1, copy, first, rfl⟩
  have goes : Sessions.Runs (Relocking.timed (service .sample 0) (Abreast 0)) initial (.called oneByOne)
      middle (.loaded oneByOne copy) :=
    .next ⟨.load stored, trivial⟩ (.next ⟨.ask not_false, trivial⟩ (.next ⟨.lock stored, abreast⟩
      (.next ⟨.commit commits, trivial⟩ .here)))
  have run : Sessions.Reachable (Relocking.timed (service .sample 0) (Abreast 0)) initial _ :=
    Sessions.waited ⟨oneByOne, rfl⟩ goes (fun _ => not_false) ⟨oneChunk, rfl⟩
      (@alone .sample 0 middle final oneChunk row last _ issued rfl present second)
  exact ⟨initial, final, copy, run, two, never_exceeds (by decide) reached run⟩

end Sample

end TaxStamps.Issuers
