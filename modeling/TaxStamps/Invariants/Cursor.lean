import TaxStamps.Concurrency.Numbering

/-!
# The cursor of a batch

`issued_count` counts the stamps of a batch, and a batch that is past issuing
has as many as its quantity. A deployment may configure a chunk size below
zero. Such a chunk issues nothing and moves the cursor and the serial counter
back; the counter then hands out numbers that are taken or negative, and no
later chunk of its category and year is committed.
-/

namespace TaxStamps

open Api Issuance TaxStamps.Numbering

/-- Where a stamp comes from: its batch and its number. -/
structure Origin where
  batchId : Nat
  categoryCode : PyStr
  year : Int
  sequence : Int

/-- The batch and the number of a stamp. -/
def Stamp.origin (stamp : Stamp) : Origin :=
  ⟨stamp.batchId, stamp.categoryCode, stamp.year, stamp.sequence⟩

/-- The number of a stamp, unique in the table. -/
def Origin.number (origin : Origin) : PyStr × Int × Int :=
  (origin.categoryCode, origin.year, origin.sequence)

namespace Cursor

variable {env : Env} {occasion : Occasion} {db after : Db}

/-- The stamps of a batch. -/
def stampsOf (batchId : Nat) (stamps : List Stamp) : List Stamp :=
  stamps.filter (fun stamp => decide (stamp.batchId = batchId))

/-- How many stamps come from a batch. -/
def issuedOf (batchId : Nat) (origins : List Origin) : Nat :=
  origins.countP (fun origin => decide (origin.batchId = batchId))

/-- A number is used. -/
def Taken (categoryCode : PyStr) (year sequence : Int) (origins : List Origin) : Prop :=
  (categoryCode, year, sequence) ∈ origins.map Origin.number

/-- A used number stays used. -/
theorem Taken.append {categoryCode : PyStr} {year sequence : Int} {origins : List Origin}
    (taken : Taken categoryCode year sequence origins) (new : List Origin) :
    Taken categoryCode year sequence (origins ++ new) := by
  rw [Taken, List.map_append]
  exact List.mem_append_left _ taken

/-- The stamps of a batch are counted by their origins. -/
theorem issuedOf_stamps (batchId : Nat) (stamps : List Stamp) :
    issuedOf batchId (stamps.map Stamp.origin) = (stampsOf batchId stamps).length := by
  rw [issuedOf, List.countP_map, stampsOf, ← List.countP_eq_length_filter]
  rfl

section Chunks

/-- The stamps of a chunk: consecutive numbers, each unused when it was taken. -/
def Filled (chunk : Chunk) : List Origin → Int → List Origin → Prop
  | _, _, [] => True
  | origins, sequence, origin :: rest =>
    (origin = ⟨chunk.batchId, chunk.categoryCode, chunk.year, sequence⟩ ∧ 0 ≤ sequence ∧
      ¬ Taken chunk.categoryCode chunk.year sequence origins) ∧
    Filled chunk (origins ++ [origin]) (sequence + 1) rest

variable {chunk : Chunk} {origins new : List Origin} {sequence : Int}

/-- An issued stamp has the number of the sequence, which was unused. -/
theorem issueStamp_placed {time : Datetime} (issued : issueStamp env time chunk sequence db = .ok after) :
    ∃ row : Stamp, row.origin = ⟨chunk.batchId, chunk.categoryCode, chunk.year, sequence⟩ ∧ 0 ≤ sequence ∧
      ¬ Taken chunk.categoryCode chunk.year sequence (db.stamps.map Stamp.origin) ∧
      after = { db with stamps := db.stamps ++ [row] } := by
  obtain ⟨serial, numbered, issued⟩ := Result.bind_ok.mp issued
  obtain ⟨_, _, _, _, _, _, range, _⟩ := Serials.buildSerial_ok numbered
  obtain ⟨index, _, issued⟩ := Result.bind_ok.mp issued
  obtain ⟨signed, _, inserted⟩ := Result.bind_ok.mp issued
  obtain ⟨stored, _, inserted⟩ := Result.bind_ok.mp inserted
  obtain ⟨accepted, rfl⟩ := Db.constrained.mp inserted
  refine ⟨_, ?_, range.1, ?_, rfl⟩
  · rfl
  · simp only [Bool.and_eq_true, List.all_eq_true, Bool.not_eq_true', Bool.and_eq_false_imp,
      decide_eq_true_eq, decide_eq_false_iff_not] at accepted
    rintro taken
    obtain ⟨_, listed, same⟩ := List.mem_map.mp taken
    obtain ⟨other, present, rfl⟩ := List.mem_map.mp listed
    simp only [Origin.number, Stamp.origin, Prod.mk.injEq] at same
    exact (accepted.2 other present).2 ⟨same.1, same.2.1⟩ same.2.2

/-- Issued stamps have consecutive numbers, each unused before. -/
theorem issueStamps_filled {time : Datetime} {count : Nat}
    (issued : issueStamps env time chunk count sequence db = .ok after) :
    ∃ new, new.length = count ∧ Filled chunk (db.stamps.map Stamp.origin) sequence (new.map Stamp.origin) ∧
      after = { db with stamps := db.stamps ++ new } := by
  induction count generalizing sequence db with
  | zero =>
    cases issued
    exact ⟨[], rfl, trivial, by simp⟩
  | succ count inductionHypothesis =>
    obtain ⟨middle, first, issued⟩ := Result.bind_ok.mp issued
    obtain ⟨row, placed, counted, unused, rfl⟩ := issueStamp_placed first
    obtain ⟨rest, length, filled, rfl⟩ := inductionHypothesis issued
    rw [List.map_append] at filled
    exact ⟨row :: rest, by simp [length], ⟨⟨placed, counted, unused⟩, filled⟩, by simp⟩

/-- Every stamp of a chunk has the batch, the category and the year of the chunk. -/
theorem Filled.each (filled : Filled chunk origins sequence new) : ∀ origin ∈ new,
    origin.batchId = chunk.batchId ∧ origin.categoryCode = chunk.categoryCode ∧
      origin.year = chunk.year := by
  induction new generalizing origins sequence with
  | nil => exact fun origin absent => absurd absent List.not_mem_nil
  | cons first rest inductionHypothesis =>
    obtain ⟨⟨rfl, _⟩, later⟩ := filled
    exact List.forall_mem_cons.mpr ⟨⟨rfl, rfl, rfl⟩, inductionHypothesis later⟩

/-- A chunk takes the numbers from its base on. -/
theorem Filled.taken (filled : Filled chunk origins sequence new) {wanted : Int} (first : sequence ≤ wanted)
    (last : wanted < sequence + new.length) :
    Taken chunk.categoryCode chunk.year wanted (origins ++ new) := by
  induction new generalizing origins sequence with
  | nil =>
    rw [List.length_nil] at last
    omega
  | cons origin rest inductionHypothesis =>
    obtain ⟨⟨placed, _⟩, later⟩ := filled
    by_cases here : wanted = sequence
    · rw [Taken, here, List.map_append, List.map_cons, placed]
      exact List.mem_append_right _ List.mem_cons_self
    · have rest_ := inductionHypothesis later (by omega)
        (by rw [List.length_cons, Nat.cast_add, Nat.cast_one] at last; omega)
      rwa [List.append_assoc, List.singleton_append] at rest_

/-- No number is used twice. -/
theorem Filled.distinct (filled : Filled chunk origins sequence new)
    (distinct : (origins.map Origin.number).Nodup) : ((origins ++ new).map Origin.number).Nodup := by
  induction new generalizing origins sequence with
  | nil => rwa [List.append_nil]
  | cons origin rest inductionHypothesis =>
    obtain ⟨⟨placed, _, unused⟩, later⟩ := filled
    have grown : ((origins ++ [origin]).map Origin.number).Nodup := by
      rw [List.map_append, List.nodup_append]
      refine ⟨distinct, List.nodup_singleton _, ?_⟩
      rintro number old other single rfl
      rw [List.mem_singleton.mp single, placed] at old
      exact unused old
    have rest_ := inductionHypothesis later grown
    rwa [List.append_assoc, List.singleton_append] at rest_

/-- The first number of a chunk that issues a stamp is not negative and unused. -/
theorem Filled.first (filled : Filled chunk origins sequence new) (some_ : new ≠ []) :
    0 ≤ sequence ∧ ¬ Taken chunk.categoryCode chunk.year sequence origins := by
  cases new with
  | nil => exact absurd rfl some_
  | cons origin rest => exact filled.1.2

/-- A chunk adds its stamps to its own batch. -/
theorem Filled.issuedOf_self (filled : Filled chunk origins sequence new) :
    issuedOf chunk.batchId (origins ++ new) = issuedOf chunk.batchId origins + new.length := by
  have all := List.countP_eq_length.mpr (fun origin member => decide_eq_true (filled.each origin member).1)
  rw [issuedOf, List.countP_append, all]
  rfl

/-- A chunk adds nothing to other batches. -/
theorem Filled.issuedOf_other (filled : Filled chunk origins sequence new) {batchId : Nat}
    (other : batchId ≠ chunk.batchId) : issuedOf batchId (origins ++ new) = issuedOf batchId origins := by
  have none : new.countP (fun origin => decide (origin.batchId = batchId)) = 0 := by
    rw [List.countP_eq_zero]
    intro origin member
    rw [decide_eq_true_eq, (filled.each origin member).1]
    exact fun same => other same.symm
  rw [issuedOf, List.countP_append, none, Nat.add_zero]
  rfl

/-- What a chunk does to the counters, the batches and the stamps. -/
inductive Advances (batchId : Nat) (locked : StampBatch) (db : Db) : Db → Prop
  | past : Advances batchId locked db db
  | exhausted (done : locked.quantity ≤ locked.issuedCount) :
      Advances batchId locked db { db with
        stampBatches := written batchId locked { locked with status := .issued } db.stampBatches }
  | issues {size : Int} {chunk : Chunk} {new : List Stamp}
      (remaining : locked.issuedCount < locked.quantity) (bounded : locked.issuedCount + size ≤ locked.quantity)
      (batch : chunk.batchId = batchId) (category : chunk.categoryCode = locked.categoryCode)
      (year : chunk.year = locked.year) (counted : new.length = size.toNat)
      (filled : Filled chunk (db.stamps.map Stamp.origin)
        (nextSequence locked.categoryCode locked.year db.serialCounters) (new.map Stamp.origin)) :
      Advances batchId locked db { db with
        serialCounters := bumped locked.categoryCode locked.year size db.serialCounters
        stamps := db.stamps ++ new
        stampBatches := written batchId locked (advanced locked size) db.stampBatches }

/-- A chunk advances its batch. -/
theorem issueChunk_advances {requested : Option Int} {batchId : Nat} {locked copy : StampBatch} {issued : Int}
    (chunked : issueChunk env occasion requested batchId locked db = .ok (issued, copy, after)) :
    Advances batchId locked db after := by
  unfold issueChunk at chunked
  split at chunked
  case isTrue =>
    cases chunked
    exact .past
  case isFalse =>
    dsimp only at chunked
    split at chunked
    case isTrue done =>
      obtain ⟨middle, wrote, chunked⟩ := Result.bind_ok.mp chunked
      cases chunked
      obtain ⟨_, rfl⟩ := writeBatch_ok wrote
      exact .exhausted (by omega)
    case isFalse remaining =>
      obtain ⟨⟨base, claimed⟩, claiming, chunked⟩ := Result.bind_ok.mp chunked
      obtain ⟨assessment, _, chunked⟩ := Result.bind_ok.mp chunked
      obtain ⟨declaration, _, chunked⟩ := Result.bind_ok.mp chunked
      obtain ⟨line, _, chunked⟩ := Result.bind_ok.mp chunked
      obtain ⟨validUntil, _, chunked⟩ := Result.bind_ok.mp chunked
      obtain ⟨filled, issuing, chunked⟩ := Result.bind_ok.mp chunked
      obtain ⟨last, wrote, chunked⟩ := Result.bind_ok.mp chunked
      cases chunked
      obtain ⟨rfl, rfl⟩ := claimSerialBlock_eq claiming
      obtain ⟨new, counted, numbered, rfl⟩ := issueStamps_filled issuing
      obtain ⟨_, rfl⟩ := writeBatch_ok wrote
      have size : chunkSize env.settings requested (locked.quantity - locked.issuedCount) ≤
          locked.quantity - locked.issuedCount := min_le_right _ _
      refine .issues (by omega) (by omega) ?_ ?_ ?_ counted numbered <;> rfl

end Chunks

section Invariant

variable {counters : List SerialCounter} {batches : List StampBatch} {origins : List Origin}

/-- The counter hands out no number any more: its next one is negative, or taken
with all before it. -/
def Spent (categoryCode : PyStr) (year : Int) (counters : List SerialCounter) (origins : List Origin) : Prop :=
  nextSequence categoryCode year counters < 0 ∨
    ∀ sequence, 0 ≤ sequence → sequence ≤ nextSequence categoryCode year counters →
      Taken categoryCode year sequence origins

/-- The cursor counts the stamps of the batch, or it was moved back below the
quantity with a counter that is spent. -/
def Counts (batchId : Nat) (row : StampBatch) (counters : List SerialCounter) (origins : List Origin) : Prop :=
  (row.issuedCount = issuedOf batchId origins ∧ row.issuedCount ≤ row.quantity) ∨
    (row.issuedCount < row.quantity ∧ Spent row.categoryCode row.year counters origins)

/-- Counters, batches and stamps that fit together. -/
structure Kept (counters : List SerialCounter) (batches : List StampBatch) (origins : List Origin) : Prop where
  stocked : ∀ categoryCode year sequence, 0 ≤ sequence → sequence < nextSequence categoryCode year counters →
    Taken categoryCode year sequence origins
  counted : ∀ (batchId : Nat) (row : StampBatch), batches[batchId]? = some row →
    Counts batchId row counters origins
  closed : ∀ (batchId : Nat) (row : StampBatch), batches[batchId]? = some row → row.status ≠ .pending →
    row.status ≠ .issuing → row.issuedCount = row.quantity
  owned : ∀ origin ∈ origins, ∃ batch : StampBatch, batches[origin.batchId]? = some batch ∧
    origin.categoryCode = batch.categoryCode ∧ origin.year = batch.year
  distinct : (origins.map Origin.number).Nodup

/-- The rows after a write of the stored copy. -/
theorem written_rows {batchId other : Nat} {copy changed row : StampBatch}
    (stored : batches[batchId]? = some copy)
    (present : (written batchId copy changed batches)[other]? = some row) :
    (other ≠ batchId ∧ batches[other]? = some row) ∨
      (other = batchId ∧ row = { copy with
        issuedCount := changed.issuedCount, status := changed.status, merkleRoot := changed.merkleRoot }) := by
  by_cases same : other = batchId
  · rw [same, written_current stored] at present
    exact Or.inr ⟨same, (Option.some.inj present).symm⟩
  · rw [written, Rows.stored_modify_other same] at present
    exact Or.inl ⟨same, present⟩

/-- A write leaves every batch its category and year. -/
theorem written_owner {batchId : Nat} {copy changed : StampBatch} {origin : Origin}
    (owned : ∃ batch : StampBatch, batches[origin.batchId]? = some batch ∧
      origin.categoryCode = batch.categoryCode ∧ origin.year = batch.year) :
    ∃ batch : StampBatch, (written batchId copy changed batches)[origin.batchId]? = some batch ∧
      origin.categoryCode = batch.categoryCode ∧ origin.year = batch.year := by
  obtain ⟨batch, stored, category, year⟩ := owned
  by_cases same : origin.batchId = batchId
  · rw [same] at stored ⊢
    exact ⟨_, Rows.stored_modify_self stored, category, year⟩
  · exact ⟨batch, (Rows.stored_modify_other same).trans stored, category, year⟩

/-- A write that leaves the cursor where it is, and closes a batch only at its
quantity. -/
theorem Kept.write (kept : Kept counters batches origins) {batchId : Nat} {copy changed : StampBatch}
    (stored : batches[batchId]? = some copy) (cursor : changed.issuedCount = copy.issuedCount)
    (full : copy.issuedCount = copy.quantity) : Kept counters (written batchId copy changed batches) origins := by
  constructor
  · exact kept.stocked
  · intro other row present
    rcases written_rows stored present with ⟨_, old⟩ | ⟨rfl, rfl⟩
    · exact kept.counted other row old
    · have counts := kept.counted other copy stored
      rw [Counts] at counts ⊢
      dsimp only
      rwa [cursor]
  · intro other row present
    rcases written_rows stored present with ⟨_, old⟩ | ⟨rfl, rfl⟩
    · exact kept.closed other row old
    · exact fun _ _ => cursor.trans full
  · exact fun origin member => written_owner (kept.owned origin member)
  · exact kept.distinct

/-- A new batch has no stamps. -/
theorem Kept.opened (kept : Kept counters batches origins) {batch : StampBatch} (empty : batch.issuedCount = 0)
    (pending : batch.status = .pending) (quantity : 0 < batch.quantity) :
    Kept counters (batches ++ [batch]) origins := by
  constructor
  · exact kept.stocked
  · intro other row present
    rcases Rows.stored_insert_cases present with old | ⟨rfl, rfl⟩
    · exact kept.counted other row old
    · have none : issuedOf batches.length origins = 0 := by
        rw [issuedOf, List.countP_eq_zero]
        intro origin member
        obtain ⟨batch, stored, _⟩ := kept.owned origin member
        have bound := (List.getElem?_eq_some_iff.mp stored).1
        rw [decide_eq_true_eq]
        omega
      rw [Counts, none, empty]
      exact Or.inl ⟨rfl, quantity.le⟩
  · intro other row present
    rcases Rows.stored_insert_cases present with old | ⟨rfl, rfl⟩
    · exact kept.closed other row old
    · exact fun open_ => absurd pending open_
  · intro origin member
    obtain ⟨batch, stored, same⟩ := kept.owned origin member
    exact ⟨batch, Rows.stored_append _ stored, same⟩
  · exact kept.distinct

/-- A claim that does not move a counter forward leaves spent what was spent. -/
theorem Spent.claim {categoryCode other : PyStr} {year otherYear size : Int} (back : size ≤ 0)
    (spent : Spent other otherYear counters origins) :
    Spent other otherYear (bumped categoryCode year size counters) origins := by
  rw [Spent, nextSequence_bumped]
  by_cases same : other = categoryCode ∧ otherYear = year
  · obtain ⟨rfl, rfl⟩ := same
    rw [if_pos ⟨rfl, rfl⟩]
    rcases spent with negative | taken
    · exact Or.inl (by omega)
    · exact Or.inr (fun sequence first last => taken sequence first (by omega))
  · rwa [if_neg same]

/-- A chunk of no stamps that moves the cursor back leaves the counter spent. -/
theorem Kept.back (kept : Kept counters batches origins) {batchId : Nat} {locked : StampBatch} {size : Int}
    (stored : batches[batchId]? = some locked) (remaining : locked.issuedCount < locked.quantity)
    (back : size ≤ 0) :
    Kept (bumped locked.categoryCode locked.year size counters)
      (written batchId locked (advanced locked size) batches) origins := by
  constructor
  · intro category year sequence first last
    rw [nextSequence_bumped] at last
    split at last
    case isTrue same => exact kept.stocked _ _ _ first (by rw [same.1, same.2]; omega)
    case isFalse => exact kept.stocked _ _ _ first last
  · intro other row present
    rcases written_rows stored present with ⟨_, old⟩ | ⟨rfl, rfl⟩
    · rcases kept.counted other row old with counts | ⟨below, spent⟩
      · exact Or.inl counts
      · exact Or.inr ⟨below, spent.claim back⟩
    · by_cases still : size = 0
      · rcases kept.counted other locked stored with counts | ⟨below, spent⟩
        · exact Or.inl (by simpa [advanced, still] using counts)
        · refine Or.inr ⟨?_, spent.claim back⟩
          simpa [advanced, still] using below
      · have spent : Spent locked.categoryCode locked.year
            (bumped locked.categoryCode locked.year size counters) origins := by
          rw [Spent, nextSequence_bumped, if_pos ⟨rfl, rfl⟩]
          by_cases negative : nextSequence locked.categoryCode locked.year counters + size < 0
          · exact Or.inl negative
          · exact Or.inr (fun sequence first last => kept.stocked _ _ sequence first (by omega))
        exact Or.inr ⟨by dsimp only [advanced]; omega, spent⟩
  · intro other row present
    rcases written_rows stored present with ⟨_, old⟩ | ⟨rfl, rfl⟩
    · exact kept.closed other row old
    · have unfinished : locked.issuedCount + size < locked.quantity := by omega
      intro _ issuing
      simp only [advanced, if_pos unfinished] at issuing
      exact absurd rfl issuing
  · exact fun origin member => written_owner (kept.owned origin member)
  · exact kept.distinct

/-- A chunk of stamps. Its counter was not spent, so the cursor counted. -/
theorem Kept.forward (kept : Kept counters batches origins) {batchId : Nat} {locked : StampBatch} {size : Int}
    {chunk : Chunk} {new : List Origin} (stored : batches[batchId]? = some locked)
    (bounded : locked.issuedCount + size ≤ locked.quantity) (batch : chunk.batchId = batchId)
    (category : chunk.categoryCode = locked.categoryCode) (year : chunk.year = locked.year)
    (counted : (new.length : Int) = size) (some_ : new ≠ [])
    (filled : Filled chunk origins (nextSequence locked.categoryCode locked.year counters) new) :
    Kept (bumped locked.categoryCode locked.year size counters)
      (written batchId locked (advanced locked size) batches) (origins ++ new) := by
  obtain ⟨first, unused⟩ := filled.first some_
  rw [category, year] at unused
  have fresh : ¬ Spent locked.categoryCode locked.year counters origins := by
    rintro (negative | taken)
    · omega
    · exact unused (taken _ first (le_refl _))
  constructor
  · intro other otherYear sequence start last
    rw [nextSequence_bumped] at last
    split at last
    case isTrue same =>
      obtain ⟨rfl, rfl⟩ := same
      by_cases earlier : sequence < nextSequence locked.categoryCode locked.year counters
      · exact (kept.stocked _ _ _ start earlier).append new
      · have taken := filled.taken (not_lt.mp earlier) (by omega)
        rwa [category, year] at taken
    case isFalse => exact (kept.stocked _ _ _ start last).append new
  · intro other row present
    rcases written_rows stored present with ⟨different, old⟩ | ⟨rfl, rfl⟩
    · rcases kept.counted other row old with counts | ⟨below, spent⟩
      · refine Or.inl ?_
        rwa [filled.issuedOf_other (by rwa [batch])]
      · refine Or.inr ⟨below, ?_⟩
        by_cases same : row.categoryCode = locked.categoryCode ∧ row.year = locked.year
        · rw [same.1, same.2] at spent
          exact absurd spent fresh
        · rw [Spent, nextSequence_bumped, if_neg same]
          rcases spent with negative | taken
          · exact Or.inl negative
          · exact Or.inr (fun sequence start last => (taken sequence start last).append new)
    · rcases kept.counted other locked stored with counts | ⟨_, spent⟩
      · refine Or.inl ⟨?_, bounded⟩
        have total := filled.issuedOf_self
        rw [batch] at total
        dsimp only [advanced]
        rw [counts.1, total, ← counted, Nat.cast_add]
      · exact absurd spent fresh
  · intro other row present
    rcases written_rows stored present with ⟨_, old⟩ | ⟨rfl, rfl⟩
    · exact kept.closed other row old
    · intro _ issuing
      dsimp only [advanced] at issuing ⊢
      by_cases unfinished : locked.issuedCount + size < locked.quantity
      · rw [if_pos unfinished] at issuing
        exact absurd rfl issuing
      · omega
  · intro origin member
    rcases List.mem_append.mp member with old | added
    · exact written_owner (kept.owned origin old)
    · obtain ⟨placed, sameCategory, sameYear⟩ := filled.each origin added
      apply written_owner
      rw [placed, batch]
      exact ⟨locked, stored, sameCategory.trans category, sameYear.trans year⟩
  · exact filled.distinct kept.distinct

/-- A chunk keeps counters, batches and stamps fitting together. -/
theorem Kept.advance {batchId : Nat} {locked : StampBatch}
    (kept : Kept db.serialCounters db.stampBatches (db.stamps.map Stamp.origin))
    (stored : db.stampBatches[batchId]? = some locked) (advances : Advances batchId locked db after) :
    Kept after.serialCounters after.stampBatches (after.stamps.map Stamp.origin) := by
  cases advances with
  | past => exact kept
  | exhausted done =>
    apply kept.write stored
    · rfl
    · rcases kept.counted batchId locked stored with ⟨_, most⟩ | ⟨below, _⟩
      · omega
      · omega
  | issues remaining bounded batch category year counted filled =>
    rename_i size chunk new
    rw [List.map_append]
    by_cases none : new = []
    · subst none
      simp only [List.map_nil, List.append_nil]
      rw [List.length_nil] at counted
      have back : size ≤ 0 := by omega
      exact kept.back stored remaining back
    · have positive : 0 < new.length := List.length_pos_iff.mpr none
      apply kept.forward stored bounded batch category year ?_ ?_ filled
      · rw [List.length_map]
        omega
      · rwa [Ne, List.map_eq_nil_iff]

/-- Updates of stamps leave their origins. -/
theorem Kept.update {stamps later : List Stamp} (kept : Kept counters batches (stamps.map Stamp.origin))
    (same : later.map Stamp.fixed = stamps.map Stamp.fixed) :
    Kept counters batches (later.map Stamp.origin) := by
  have unchanged : ∀ stamp : Stamp, stamp.fixed.origin = stamp.origin := fun _ => rfl
  have composed := congrArg (List.map Stamp.origin) same
  simp only [List.map_map, Function.comp_def, unchanged] at composed
  exact composed ▸ kept

end Invariant

section Runs

/-- Counters, batches and stamps fit together in every reachable state. -/
theorem kept (reached : Reachable env db) :
    Kept db.serialCounters db.stampBatches (db.stamps.map Stamp.origin) := by
  refine reached.invariant
    (fun state => Kept state.serialCounters state.stampBatches (state.stamps.map Stamp.origin)) ?_ ?_
  · constructor
    · intro categoryCode year sequence first last
      have start : nextSequence categoryCode year Db.empty.serialCounters = 0 := rfl
      rw [start] at last
      omega
    · exact fun batchId row absent => by cases absent
    · exact fun batchId row absent => by cases absent
    · exact fun origin absent => absurd absent List.not_mem_nil
    · exact List.nodup_nil
  · intro before after known effect
    have full : ∀ {batchId : Nat} {batch : StampBatch}, before.stampBatches[batchId]? = some batch →
        batch.status ≠ .pending → batch.status ≠ .issuing → batch.issuedCount = batch.quantity :=
      fun stored => known.closed _ _ stored
    cases effect with
    | opened _ _ opened made =>
      exact known.opened opened.count opened.pending (opened.quantity ▸ made.positive)
    | issued stored _ ran =>
      obtain ⟨occasion, chunking⟩ := ran
      exact known.advance stored (issueChunk_advances chunking)
    | finalized stored issued =>
      exact known.write stored rfl (full stored (by simp [issued]) (by simp [issued]))
    | failed stored inspectable =>
      refine known.write stored rfl (full stored ?_ ?_)
      · rcases inspectable with ready | active
        · simp [ready]
        · simp [active]
      · rcases inspectable with ready | active
        · simp [ready]
        · simp [active]
    | @activated batchId batch time message stored ready passing =>
      have updated := known.update (Stamps.activate_fixed batchId time)
      exact updated.write stored rfl (full stored (by simp [ready]) (by simp [ready]))
    | scanned _ scanned =>
      cases scanned with
      | answered => exact known
      | suspected => exact known.update (Stamps.modify_fixed _ _ _ (fun _ => rfl))
      | consumes => exact known.update (Stamps.modify_fixed _ _ _ (fun _ => rfl))
    | voided _ voided =>
      cases voided with
      | already => exact known
      | voids => exact known.update (Stamps.modify_fixed _ _ _ (fun _ => rfl))
    | _ => exact known

/-- A batch that is past issuing has as many stamps as its quantity. -/
theorem complete (reached : Reachable env db) {batchId : Nat} {batch : StampBatch}
    (stored : db.stampBatches[batchId]? = some batch) (closed : batch.status ≠ .pending)
    (past : batch.status ≠ .issuing) : ((stampsOf batchId db.stamps).length : Int) = batch.quantity := by
  have known := kept reached
  have full := known.closed batchId batch stored closed past
  rcases known.counted batchId batch stored with ⟨counts, _⟩ | ⟨below, _⟩
  · rw [← issuedOf_stamps, ← counts, full]
  · omega

end Runs

end Cursor

end TaxStamps
