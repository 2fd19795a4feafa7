import TaxStamps.Api.Sample
import TaxStamps.Invariants.Stamps
import TaxStamps.Library.Counting
import TaxStamps.Library.Sessions

/-!
# Concurrent issuing

Transactions that issue chunks, for any batches and in any order of their
statements. A transaction claims a block of its serial counter, whose row stays
locked, and then issues stamp by stamp: it takes the advisory lock of the list
indexes and the index after the greatest it sees. Locks are held until the
transaction commits, and what it wrote is visible to it alone until then.
-/

namespace TaxStamps.Numbering

open Counting Issuance

variable {env : Env} {db : Db}

section Counters

/-- The stamp's number is one of the category and year. -/
def keyed (categoryCode : PyStr) (year : Int) (stamp : Stamp) : Bool :=
  decide (stamp.categoryCode = categoryCode ∧ stamp.year = year)

/-- The sequences of the stamps of a category and a year. -/
def sequencesOf (categoryCode : PyStr) (year : Int) (stamps : List Stamp) : List Int :=
  (stamps.filter (keyed categoryCode year)).map Stamp.sequence

/-- The row of a serial counter. -/
def counterOf (categoryCode : PyStr) (year : Int) (counters : List SerialCounter) :
    Option (Nat × SerialCounter) :=
  Rows.select (fun row => decide (row.categoryCode = categoryCode ∧ row.year = year)) counters

/-- The next sequence of a counter; zero without a row. -/
def nextSequence (categoryCode : PyStr) (year : Int) (counters : List SerialCounter) : Int :=
  ((counterOf categoryCode year counters).map (fun row => row.2.nextSequence)).getD 0

/-- The counters after a block was claimed. -/
def bumped (categoryCode : PyStr) (year count : Int) (counters : List SerialCounter) :
    List SerialCounter :=
  match counterOf categoryCode year counters with
  | some (id, _) => counters.modify id (fun row => { row with nextSequence := row.nextSequence + count })
  | none => counters ++ [⟨categoryCode, year, count⟩]

/-- A counter that is there is increased. -/
theorem bumped_found {categoryCode : PyStr} {year count : Int} {counters : List SerialCounter} {id : Nat}
    {counter : SerialCounter} (found : counterOf categoryCode year counters = some (id, counter)) :
    bumped categoryCode year count counters =
      counters.modify id (fun row => { row with nextSequence := row.nextSequence + count }) := by
  rw [bumped, found]

/-- A counter that is not there is inserted. -/
theorem bumped_absent {categoryCode : PyStr} {year count : Int} {counters : List SerialCounter}
    (absent : counterOf categoryCode year counters = none) :
    bumped categoryCode year count counters = counters ++ [⟨categoryCode, year, count⟩] := by
  rw [bumped, absent]

/-- A claim hands out the block that the counter then skips. -/
theorem claimSerialBlock_eq {categoryCode : PyStr} {year count base : Int} {after : Db}
    (claimed : claimSerialBlock categoryCode year count db = .ok (base, after)) :
    base = nextSequence categoryCode year db.serialCounters ∧
      after = { db with serialCounters := bumped categoryCode year count db.serialCounters } := by
  unfold claimSerialBlock at claimed
  split at claimed
  case _ id counter found =>
    obtain ⟨_, _, claimed⟩ := Result.bind_ok.mp claimed
    obtain ⟨rfl, rfl⟩ := Prod.mk.inj (Except.ok.inj claimed)
    have stored := (Rows.select_some found).1
    have named : counterOf categoryCode year db.serialCounters = some (id, counter) := found
    rw [nextSequence, bumped_found named, named, Rows.modify_stored stored, Rows.modify_stored stored]
    exact ⟨by simp, rfl⟩
  case _ absent =>
    obtain ⟨_, _, claimed⟩ := Result.bind_ok.mp claimed
    obtain ⟨rfl, rfl⟩ := Prod.mk.inj (Except.ok.inj claimed)
    have unnamed : counterOf categoryCode year db.serialCounters = none := absent
    rw [nextSequence, bumped_absent unnamed, unnamed]
    exact ⟨by simp, rfl⟩

/-- A claim moves its own counter by the size of the block, and no other. -/
theorem nextSequence_bumped (categoryCode other : PyStr) (year otherYear count : Int)
    (counters : List SerialCounter) :
    nextSequence other otherYear (bumped categoryCode year count counters) =
      if other = categoryCode ∧ otherYear = year then nextSequence categoryCode year counters + count
      else nextSequence other otherYear counters := by
  cases found : counterOf categoryCode year counters with
  | some row =>
    obtain ⟨id, counter⟩ := row
    obtain ⟨stored, named⟩ := Rows.select_some found
    rw [decide_eq_true_eq] at named
    rw [bumped_found found]
    unfold nextSequence counterOf
    rw [Rows.select_modify (by exact fun _ => rfl)]
    split
    case isTrue same =>
      obtain ⟨rfl, rfl⟩ := same
      unfold counterOf at found
      rw [found]
      simp
    case isFalse different =>
      cases selected : Rows.select (fun row : SerialCounter =>
          decide (row.categoryCode = other ∧ row.year = otherYear)) counters with
      | none => rfl
      | some row =>
        obtain ⟨position, candidate⟩ := row
        obtain ⟨present, matching⟩ := Rows.select_some selected
        rw [decide_eq_true_eq] at matching
        have apart : position ≠ id := by
          rintro rfl
          obtain rfl := Option.some.inj (present.symm.trans stored)
          exact different ⟨matching.1.symm.trans named.1, matching.2.symm.trans named.2⟩
        simp [apart]
  | none =>
    rw [bumped_absent found]
    unfold nextSequence counterOf
    rw [Rows.select_insert]
    by_cases same : other = categoryCode ∧ otherYear = year
    · obtain ⟨rfl, rfl⟩ := same
      unfold counterOf at found
      rw [found]
      simp
    · have unnamed : ¬ (categoryCode = other ∧ year = otherYear) :=
        fun equal => same ⟨equal.1.symm, equal.2.symm⟩
      simp [same, unnamed]

end Counters

section Numbered

/-- Stamps that are numbered without gaps: by sequence, up to the next one of
their category and year, and by list index, up to their number. -/
structure Numbered (next : PyStr → Int → Int) (stamps : List Stamp) : Prop where
  sequences : ∀ categoryCode year, Counted (sequencesOf categoryCode year stamps) (next categoryCode year)
  indexes : stamps.map Stamp.statusListIndex = List.range stamps.length
  bounded : stamps.length ≤ defaultListSizeBits
  serials : (stamps.map Stamp.serial).Nodup

/-- What the counters hand out next. -/
def upcoming (db : Db) : PyStr → Int → Int :=
  fun categoryCode year => nextSequence categoryCode year db.serialCounters

/-- The committed stamps are numbered up to their counters. -/
def Good (db : Db) : Prop := Numbered (upcoming db) db.stamps

/-- A counter's next value moved forward. -/
def moved (categoryCode : PyStr) (year count : Int) (next : PyStr → Int → Int) : PyStr → Int → Int :=
  fun other otherYear => if other = categoryCode ∧ otherYear = year then next categoryCode year + count
    else next other otherYear

/-- Moving a counter moves its own next number. -/
theorem moved_self (categoryCode : PyStr) (year count : Int) (next : PyStr → Int → Int) :
    moved categoryCode year count next categoryCode year = next categoryCode year + count :=
  if_pos ⟨rfl, rfl⟩

/-- Moves of one counter add up. -/
theorem moved_moved (categoryCode : PyStr) (year first second : Int) (next : PyStr → Int → Int) :
    moved categoryCode year second (moved categoryCode year first next) =
      moved categoryCode year (first + second) next := by
  funext other otherYear
  by_cases same : other = categoryCode ∧ otherYear = year
  · obtain ⟨rfl, rfl⟩ := same
    simp only [moved_self]
    omega
  · simp [moved, same]

/-- A move by nothing changes nothing. -/
theorem moved_zero (categoryCode : PyStr) (year : Int) (next : PyStr → Int → Int) :
    moved categoryCode year 0 next = next := by
  funext other otherYear
  by_cases same : other = categoryCode ∧ otherYear = year
  · obtain ⟨rfl, rfl⟩ := same
    rw [moved_self, Int.add_zero]
  · simp [moved, same]

/-- A claimed block moves the next number of its counter. -/
theorem upcoming_bumped (categoryCode : PyStr) (year count : Int) (db : Db) :
    upcoming { db with serialCounters := bumped categoryCode year count db.serialCounters } =
      moved categoryCode year count (upcoming db) := by
  funext other otherYear
  exact nextSequence_bumped categoryCode other year otherYear count db.serialCounters

/-- The next stamp of a category and a year, under the next list index. -/
theorem Numbered.issue {next : PyStr → Int → Int} {stamps : List Stamp} {row : Stamp}
    (numbered : Numbered next stamps) (sequence : row.sequence = next row.categoryCode row.year)
    (index : row.statusListIndex = stamps.length) (room : stamps.length < defaultListSizeBits)
    (serial : ∀ other ∈ stamps, other.serial ≠ row.serial) :
    Numbered (moved row.categoryCode row.year 1 next) (stamps ++ [row]) := by
  constructor
  · intro categoryCode year
    by_cases same : categoryCode = row.categoryCode ∧ year = row.year
    · obtain ⟨rfl, rfl⟩ := same
      have extended := (numbered.sequences row.categoryCode row.year).extend
      rw [moved_self]
      simpa [sequencesOf, keyed, sequence] using extended
    · have other : keyed categoryCode year row = false :=
        decide_eq_false (fun equal => same ⟨equal.1.symm, equal.2.symm⟩)
      have kept := numbered.sequences categoryCode year
      rw [moved, if_neg same]
      simpa [sequencesOf, other] using kept
  · rw [List.map_append, List.length_append, List.length_singleton, List.range_succ, numbered.indexes,
      List.map_singleton, index]
  · rw [List.length_append, List.length_singleton]
    exact room
  · rw [List.map_append, List.nodup_append]
    refine ⟨numbered.serials, List.nodup_singleton _, ?_⟩
    intro value member other single
    obtain ⟨stamp, present, rfl⟩ := List.mem_map.mp member
    rw [List.mem_singleton.mp single]
    exact serial stamp present

/-- The index after the greatest is the number of stamps. -/
theorem allocateIndex_next {next : PyStr → Int → Int} {index : Nat}
    (numbered : Numbered next db.stamps) (allocated : StatusLists.allocateIndex db = .ok index) :
    index = db.stamps.length ∧ db.stamps.length < defaultListSizeBits := by
  unfold StatusLists.allocateIndex at allocated
  rw [numbered.indexes] at allocated
  cases count : db.stamps.length with
  | zero =>
    rw [count] at allocated
    cases allocated
    exact ⟨rfl, by decide⟩
  | succ count =>
    rw [count, max_range] at allocated
    dsimp only at allocated
    split at allocated
    · cases allocated
    case isFalse room => exact ⟨(Except.ok.inj allocated).symm, not_le.mp room⟩

end Numbered

section Protocol

/-- A transaction: when it runs, the chunk size it asks for, and its batch. -/
structure Call where
  occasion : Occasion
  requested : Option Int
  batchId : Nat
  positive : ∀ size, requested = some size → 1 ≤ size

/-- A block that a transaction has claimed for its copy of the batch. -/
structure Claim where
  call : Call
  copy : StampBatch
  size : Int
  base : Int

/-- Where a transaction is in `issue_chunk`. -/
inductive Session
  /-- It has some copy of the batch, of any age, and waits for the batch's lock. -/
  | opened (call : Call) (copy : StampBatch)
  /-- It has the lock of the batch; the copy is what it was. -/
  | locked (call : Call) (copy : StampBatch)
  /-- Nothing was left to issue, and the status is written. -/
  | exhausted (call : Call) (copy : StampBatch)
  /-- The block is claimed. -/
  | claimed (claim : Claim)
  /-- Some stamps of the block are issued. -/
  | issuing (claim : Claim) (chunk : Chunk) (new : List Stamp)
  /-- It has the advisory lock of the list indexes. -/
  | advised (claim : Claim) (chunk : Chunk) (new : List Stamp)
  /-- The next stamp has its serial and its index. -/
  | allocated (claim : Claim) (chunk : Chunk) (new : List Stamp) (serial : PyStr) (index : Nat)
  /-- All stamps are issued, and the cursor of the batch is written. -/
  | written (claim : Claim) (new : List Stamp)

/-- What a transaction with a claimed block sees. -/
def visible (claim : Claim) (new : List Stamp) (db : Db) : Db :=
  { db with
    serialCounters := bumped claim.copy.categoryCode claim.copy.year claim.size db.serialCounters
    stamps := db.stamps ++ new }

/-- The tables after the commit of a chunk. -/
def published (claim : Claim) (new : List Stamp) (db : Db) : Db :=
  { visible claim new db with
    stampBatches := written claim.call.batchId claim.copy (advanced claim.copy claim.size)
      db.stampBatches }

/-- The tables after the commit of a status. -/
def settled (batchId : Nat) (copy : StampBatch) (db : Db) : Db :=
  { db with stampBatches := written batchId copy { copy with status := .issued } db.stampBatches }

/-- The stamp that a pass of the loop adds. -/
def stampRow (chunk : Chunk) (sequence : Int) (serial : PyStr) (index : Nat)
    (credential : List (Key × Value)) : Stamp :=
  { batchId := chunk.batchId
    serial := serial
    categoryCode := chunk.categoryCode
    year := chunk.year
    sequence := sequence
    status := .issued
    hsCode := chunk.hsCode
    declarationRef := chunk.declarationRef
    consigneeTin := chunk.consigneeTin
    dutyPaidKobo := chunk.dutyPaidKobo
    statusListIndex := index
    credential := .dict credential
    validFrom := chunk.validFrom
    validUntil := chunk.validUntil
    activatedAt := none
    firstScanAt := none
    firstScanVerifier := []
    firstScanLatMicros := none
    firstScanLongMicros := none }

/-- The statements of `issue_chunk`. -/
inductive Acts (env : Env) (db : Db) : Session → Db → Option Session → Prop
  | lock {call : Call} {copy : StampBatch} (stored : (db.stampBatches[call.batchId]?).isSome = true) :
      Acts env db (.opened call copy) db (some (.locked call copy))
  | past {call : Call} {copy : StampBatch} (past : copy.status ≠ .pending ∧ copy.status ≠ .issuing) :
      Acts env db (.locked call copy) db none
  | exhaust {call : Call} {copy : StampBatch} {pending : Db}
      (done : copy.quantity - copy.issuedCount ≤ 0)
      (wrote : writeBatch call.batchId copy { copy with status := .issued } db = .ok pending) :
      Acts env db (.locked call copy) db (some (.exhausted call copy))
  | settle {call : Call} {copy : StampBatch} :
      Acts env db (.exhausted call copy) (settled call.batchId copy db) none
  | claim {call : Call} {copy : StampBatch} {base : Int} {pending : Db}
      (remaining : 0 < copy.quantity - copy.issuedCount)
      (claimed : claimSerialBlock copy.categoryCode copy.year
        (chunkSize env.settings call.requested (copy.quantity - copy.issuedCount)) db = .ok (base, pending)) :
      Acts env db (.locked call copy) db (some (.claimed ⟨call, copy,
        chunkSize env.settings call.requested (copy.quantity - copy.issuedCount), base⟩))
  /-- The tables that are read here are written by no chunk. -/
  | prepare {claim : Claim} {assessment : Assessment} {declaration : Declaration}
      {line : AssessmentLine} {validUntil : Datetime}
      (assessed : db.assessments[claim.copy.assessmentId]? = some assessment)
      (declared : db.declarations[assessment.declarationId]? = some declaration)
      (primary : primaryLine claim.call.occasion.pick claim.copy.assessmentId db = .ok line)
      (valid : Datetime.addDays claim.call.occasion.time env.settings.stampValidityDays = .ok validUntil) :
      Acts env db (.claimed claim) db (some (.issuing claim
        { batchId := claim.call.batchId
          categoryCode := claim.copy.categoryCode
          year := claim.copy.year
          hsCode := line.hsCode
          declarationRef := declaration.declarationRef
          consigneeTin := declaration.consigneeTin
          dutyPaidKobo := assessment.totalDutyKobo
          validFrom := claim.call.occasion.time
          validUntil := validUntil } []))
  | advise {claim : Claim} {chunk : Chunk} {new : List Stamp} (more : new.length < claim.size.toNat) :
      Acts env db (.issuing claim chunk new) db (some (.advised claim chunk new))
  | allocate {claim : Claim} {chunk : Chunk} {new : List Stamp} {serial : PyStr} {index : Nat}
      (numbered : Serials.buildSerial env.unicode chunk.categoryCode chunk.year
        (claim.base + new.length) = .ok serial)
      (allocated : StatusLists.allocateIndex (visible claim new db) = .ok index) :
      Acts env db (.advised claim chunk new) db (some (.allocated claim chunk new serial index))
  | insert {claim : Claim} {chunk : Chunk} {new : List Stamp} {serial : PyStr} {index : Nat}
      {signed : List (Key × Value)} {stored : Value} {pending : Db}
      (issued : Vc.issueProof env (stampDocument env chunk serial index)
        (StatusLists.verificationMethod env.settings)
        (Datetime.isoSeconds claim.call.occasion.time) = .ok signed)
      (kept : env.jsonb (.dict signed) = some stored)
      (inserted : (visible claim new db).insertStamp env
        (stampRow chunk (claim.base + new.length) serial index signed) = .ok pending) :
      Acts env db (.allocated claim chunk new serial index) db (some (.issuing claim chunk (new ++
        [{ stampRow chunk (claim.base + new.length) serial index signed with credential := stored }])))
  | write {claim : Claim} {chunk : Chunk} {new : List Stamp} {pending : Db}
      (all : new.length = claim.size.toNat)
      (wrote : writeBatch claim.call.batchId claim.copy (advanced claim.copy claim.size)
        (visible claim new db) = .ok pending) :
      Acts env db (.issuing claim chunk new) db (some (.written claim new))
  | commit {claim : Claim} {new : List Stamp} :
      Acts env db (.written claim new) (published claim new db) none

/-- What a transaction can hold: a batch, a counter, or the lock of the list indices. -/
inductive Lock
  | batch (id : Nat)
  | counter (categoryCode : PyStr) (year : Int)
  | advisory

/-- The rows that a transaction with a claimed block holds. -/
def Claim.holds (claim : Claim) (lock : Lock) : Prop :=
  lock = .batch claim.call.batchId ∨ lock = .counter claim.copy.categoryCode claim.copy.year

/-- The locks that a transaction holds between its statements. -/
def holds : Session → Lock → Prop
  | .opened _ _, _ => False
  | .locked call _, lock => lock = .batch call.batchId
  | .exhausted call _, lock => lock = .batch call.batchId
  | .claimed claim, lock => claim.holds lock
  | .issuing claim _ new, lock => claim.holds lock ∨ (new ≠ [] ∧ lock = .advisory)
  | .advised claim _ _, lock => claim.holds lock ∨ lock = .advisory
  | .allocated claim _ _ _ _, lock => claim.holds lock ∨ lock = .advisory
  | .written claim _, lock => claim.holds lock ∨ lock = .advisory

/-- Any number of transactions that issue chunks of any batches. -/
def protocol (env : Env) : Sessions.Protocol Db Session Lock where
  begins session := ∃ call copy, session = .opened call copy
  acts := Acts env
  holds := holds

end Protocol

section Invariant

variable {claim : Claim} {new : List Stamp}

/-- A transaction's block starts at its counter, and its stamps continue the
committed ones. -/
structure Holding (claim : Claim) (new : List Stamp) (db : Db) : Prop where
  base : upcoming db claim.copy.categoryCode claim.copy.year = claim.base
  numbered : Numbered (moved claim.copy.categoryCode claim.copy.year new.length (upcoming db))
    (db.stamps ++ new)

/-- The stamps of a chunk are those of the claimed counter. -/
structure Owned (claim : Claim) (chunk : Chunk) : Prop where
  size : 0 < claim.size
  categoryCode : chunk.categoryCode = claim.copy.categoryCode
  year : chunk.year = claim.copy.year

/-- What each transaction knows. -/
def Sound (db : Db) : Session → Prop
  | .opened _ _ => True
  | .locked _ _ => True
  | .exhausted _ _ => True
  | .claimed claim => 0 < claim.size ∧ Holding claim [] db
  | .issuing claim chunk new => Owned claim chunk ∧ Holding claim new db
  | .advised claim chunk new => Owned claim chunk ∧ Holding claim new db
  | .allocated claim chunk new _ index => Owned claim chunk ∧ Holding claim new db ∧
      index = (db.stamps ++ new).length ∧ (db.stamps ++ new).length < defaultListSizeBits
  | .written claim new => claim.size = new.length ∧ Holding claim new db

/-- A block that has just been claimed. -/
theorem Good.start (good : Good db) (base : upcoming db claim.copy.categoryCode claim.copy.year = claim.base) :
    Holding claim [] db := by
  refine ⟨base, ?_⟩
  rw [List.length_nil, Nat.cast_zero, moved_zero, List.append_nil]
  exact good

/-- One more stamp of the block. -/
theorem Holding.issue (holding : Holding claim new db) {row : Stamp}
    (categoryCode : row.categoryCode = claim.copy.categoryCode) (year : row.year = claim.copy.year)
    (sequence : row.sequence = claim.base + new.length)
    (index : row.statusListIndex = (db.stamps ++ new).length)
    (room : (db.stamps ++ new).length < defaultListSizeBits)
    (serial : ∀ other ∈ db.stamps ++ new, other.serial ≠ row.serial) : Holding claim (new ++ [row]) db := by
  refine ⟨holding.base, ?_⟩
  have next : row.sequence = moved claim.copy.categoryCode claim.copy.year new.length (upcoming db)
      row.categoryCode row.year := by
    rw [categoryCode, year, moved_self, holding.base, sequence]
  have issued := holding.numbered.issue next index room serial
  rw [categoryCode, year, moved_moved, List.append_assoc] at issued
  rw [List.length_append, List.length_singleton, Nat.cast_add, Nat.cast_one]
  exact issued

/-- The commit of a chunk moves its counter by the number of its stamps. -/
theorem upcoming_published : upcoming (published claim new db) =
    moved claim.copy.categoryCode claim.copy.year claim.size (upcoming db) :=
  upcoming_bumped claim.copy.categoryCode claim.copy.year claim.size db

/-- The commit of a whole block leaves stamps and counters in step. -/
theorem Holding.publish (holding : Holding claim new db) (all : claim.size = new.length) :
    Good (published claim new db) := by
  rw [Good, upcoming_published, all]
  exact holding.numbered

/-- What a transaction knows depends on the stamps and the counters only. -/
theorem Sound.congr {later : Db} {session : Session} (sound : Sound db session)
    (stamps : later.stamps = db.stamps) (counters : later.serialCounters = db.serialCounters) :
    Sound later session := by
  have next : upcoming later = upcoming db := by
    funext categoryCode year
    rw [upcoming, upcoming, counters]
  have holding : ∀ {claim new}, Holding claim new db → Holding claim new later := by
    intro claim new known
    exact ⟨next ▸ known.base, by rw [next, stamps]; exact known.numbered⟩
  cases session with
  | opened => trivial
  | locked => trivial
  | exhausted => trivial
  | claimed => exact ⟨sound.1, holding sound.2⟩
  | issuing => exact ⟨sound.1, holding sound.2⟩
  | advised => exact ⟨sound.1, holding sound.2⟩
  | allocated =>
    obtain ⟨owned, known, allocated⟩ := sound
    exact ⟨owned, holding known, by rw [stamps]; exact allocated⟩
  | written => exact ⟨sound.1, holding sound.2⟩

/-- What another transaction knows survives the commit of a chunk, when they
share neither a counter nor the advisory lock. -/
theorem Sound.survive {session : Session} (sound : Sound db session)
    (good : Good (published claim new db))
    (apart : ∀ lock, holds (.written claim new) lock → ¬ holds session lock) :
    Sound (published claim new db) session := by
  have restart : ∀ {other : Claim}, ¬ other.holds (.counter claim.copy.categoryCode claim.copy.year) →
      Holding other [] db → Holding other [] (published claim new db) := by
    intro other different known
    apply good.start
    rw [upcoming_published, moved, if_neg]
    · exact known.base
    · rintro ⟨category, year⟩
      exact different (Or.inr (by rw [category, year]))
  have counterHeld : holds (.written claim new)
      (.counter claim.copy.categoryCode claim.copy.year) := Or.inl (Or.inr rfl)
  have advisoryHeld : holds (.written claim new) .advisory := Or.inr rfl
  cases session with
  | opened => trivial
  | locked => trivial
  | exhausted => trivial
  | claimed other => exact ⟨sound.1, restart (apart _ counterHeld) sound.2⟩
  | issuing other chunk issued =>
    by_cases empty : issued = []
    · subst empty
      exact ⟨sound.1, restart (fun held => apart _ counterHeld (Or.inl held)) sound.2⟩
    · exact absurd (Or.inr ⟨empty, rfl⟩) (apart _ advisoryHeld)
  | advised => exact absurd (Or.inr rfl) (apart _ advisoryHeld)
  | allocated => exact absurd (Or.inr rfl) (apart _ advisoryHeld)
  | written => exact absurd (Or.inr rfl) (apart _ advisoryHeld)

/-- A chunk is not empty. -/
theorem chunkSize_positive (chunked : 1 ≤ env.settings.issuanceChunkSize) (call : Call) {remaining : Int}
    (left : 0 < remaining) : 0 < chunkSize env.settings call.requested remaining := by
  have positive := call.positive
  unfold chunkSize
  cases requested : call.requested with
  | none => simp only [lt_min_iff]; omega
  | some size =>
    have asked := positive size requested
    have nonzero : size ≠ 0 := by omega
    simp only [nonzero, if_false, lt_min_iff]
    omega

/-- The statements of a transaction keep the numbering. -/
theorem rule (chunked : 1 ≤ env.settings.issuanceChunkSize) :
    Sessions.Rule (protocol env) Good Sound := by
  constructor
  case begins =>
    rintro db session _ ⟨call, copy, rfl⟩
    trivial
  case acts =>
    intro db session later next good sound acts
    cases acts with
    | lock => exact ⟨good, by rintro _ ⟨⟩; trivial⟩
    | past => exact ⟨good, fun _ absurdity => by cases absurdity⟩
    | exhaust => exact ⟨good, by rintro _ ⟨⟩; trivial⟩
    | settle => exact ⟨good, fun _ absurdity => by cases absurdity⟩
    | @claim call copy base pending remaining claimed =>
      refine ⟨good, ?_⟩
      rintro _ ⟨⟩
      obtain ⟨rfl, _⟩ := claimSerialBlock_eq claimed
      exact ⟨chunkSize_positive chunked call remaining, good.start rfl⟩
    | prepare =>
      refine ⟨good, ?_⟩
      rintro _ ⟨⟩
      exact ⟨⟨sound.1, rfl, rfl⟩, sound.2⟩
    | advise =>
      refine ⟨good, ?_⟩
      rintro _ ⟨⟩
      exact sound
    | allocate numbered allocated =>
      refine ⟨good, ?_⟩
      rintro _ ⟨⟩
      exact ⟨sound.1, sound.2, allocateIndex_next sound.2.numbered allocated⟩
    | insert issued kept inserted =>
      refine ⟨good, ?_⟩
      rintro _ ⟨⟩
      obtain ⟨owned, holding, rfl, room⟩ := sound
      obtain ⟨_, _, accepted, _⟩ := Db.insertStamp_ok inserted
      exact ⟨owned, holding.issue owned.categoryCode owned.year rfl rfl room accepted.serial_new⟩
    | write all =>
      refine ⟨good, ?_⟩
      rintro _ ⟨⟩
      have size := sound.1.size
      exact ⟨by omega, sound.2⟩
    | commit => exact ⟨sound.2.publish sound.1, fun _ absurdity => by cases absurdity⟩
  case stable =>
    intro db session later next other good sound acts otherSound apart
    cases acts with
    | settle => exact otherSound.congr rfl rfl
    | commit => exact otherSound.survive (sound.2.publish sound.1) apart
    | _ => exact otherSound

end Invariant

section Alone

variable {claim : Claim} {chunk : Chunk} {new : List Stamp} {filled : Db}

/-- A pass of the loop of a transaction that runs by itself. -/
theorem issueStamp_alone (more : new.length < claim.size.toNat)
    (issued : issueStamp env claim.call.occasion.time chunk (claim.base + new.length)
      (visible claim new db) = .ok filled) :
    ∃ row, filled = visible claim (new ++ [row]) db ∧
      ∀ later, Sessions.Alone (protocol env) db (.issuing claim chunk (new ++ [row])) later →
        Sessions.Alone (protocol env) db (.issuing claim chunk new) later := by
  obtain ⟨serial, numbered, issued⟩ := Result.bind_ok.mp issued
  obtain ⟨index, allocated, issued⟩ := Result.bind_ok.mp issued
  obtain ⟨signed, signing, inserted⟩ := Result.bind_ok.mp issued
  obtain ⟨stored, kept, _, rfl⟩ := Db.insertStamp_ok inserted
  refine ⟨{ stampRow chunk (claim.base + new.length) serial index signed with credential := stored },
    ?_, ?_⟩
  · rw [visible, visible, ← List.append_assoc]
    rfl
  · intro later rest
    exact .next (Acts.advise more) (.next (Acts.allocate numbered allocated)
      (.next (Acts.insert signing kept inserted) rest))

/-- The loop of a transaction that runs by itself. -/
theorem issuing_alone {count : Nat} {first : Int} {seen : Db}
    (left : new.length + count = claim.size.toNat) (position : first = claim.base + new.length)
    (view : seen = visible claim new db)
    (issued : issueStamps env claim.call.occasion.time chunk count first seen = .ok filled) :
    ∃ all, all.length = claim.size.toNat ∧ filled = visible claim all db ∧
      ∀ later, Sessions.Alone (protocol env) db (.issuing claim chunk all) later →
        Sessions.Alone (protocol env) db (.issuing claim chunk new) later := by
  induction count generalizing new first seen with
  | zero =>
    cases issued
    exact ⟨new, left, view, fun _ alone => alone⟩
  | succ count inductionHypothesis =>
    subst position view
    obtain ⟨middle, pass, issued⟩ := Result.bind_ok.mp issued
    obtain ⟨row, rfl, resume⟩ := issueStamp_alone (by omega) pass
    have grown : (new ++ [row]).length = new.length + 1 := List.length_append
    obtain ⟨all, counted, same, finish⟩ := inductionHypothesis (by omega) (by omega) rfl issued
    exact ⟨all, counted, same, fun later alone => resume later (finish later alone)⟩

/-- A transaction that runs by itself is `issue_chunk`. -/
theorem alone {occasion : Occasion} {requested : Option Int} {batchId : Nat} {copy changed : StampBatch}
    {issued : Int} {after : Db} (positive : ∀ size, requested = some size → 1 ≤ size)
    (stored : (db.stampBatches[batchId]?).isSome = true)
    (ran : issueChunk env occasion requested batchId copy db = .ok (issued, changed, after)) :
    Sessions.Alone (protocol env) db (.opened ⟨occasion, requested, batchId, positive⟩ copy) after := by
  refine .next (Acts.lock stored) ?_
  unfold issueChunk at ran
  split at ran
  case isTrue past =>
    cases ran
    exact .last (Acts.past past)
  case isFalse =>
    dsimp only at ran
    split at ran
    case isTrue done =>
      obtain ⟨middle, wrote, ran⟩ := Result.bind_ok.mp ran
      cases ran
      have change := (writeBatch_ok wrote).2
      exact .next (Acts.exhaust done wrote) (.last (change ▸ Acts.settle))
    case isFalse remaining =>
      obtain ⟨⟨base, pending⟩, claimed, ran⟩ := Result.bind_ok.mp ran
      obtain ⟨assessment, assessed, ran⟩ := Result.bind_ok.mp ran
      obtain ⟨declaration, declared, ran⟩ := Result.bind_ok.mp ran
      obtain ⟨line, primary, ran⟩ := Result.bind_ok.mp ran
      obtain ⟨validUntil, valid, ran⟩ := Result.bind_ok.mp ran
      obtain ⟨filled, issuing, ran⟩ := Result.bind_ok.mp ran
      obtain ⟨last, wrote, ran⟩ := Result.bind_ok.mp ran
      cases ran
      obtain ⟨_, rfl⟩ := claimSerialBlock_eq claimed
      rw [Result.one_ok] at assessed declared
      let claim : Claim := ⟨⟨occasion, requested, batchId, positive⟩, copy,
        chunkSize env.settings requested (copy.quantity - copy.issuedCount), base⟩
      have opening : visible claim [] db = { db with
          serialCounters := bumped copy.categoryCode copy.year claim.size db.serialCounters } := by
        rw [visible, List.append_nil]
      have first : base = claim.base + (([] : List Stamp).length : Int) := (Int.add_zero base).symm
      obtain ⟨all, counted, rfl, finish⟩ := issuing_alone (Nat.zero_add _) first opening.symm issuing
      have change := (writeBatch_ok wrote).2
      have committed : Acts env db (.written claim all) after none := change ▸ Acts.commit
      refine .next (Acts.claim (not_le.mp remaining) claimed) (.next (Acts.prepare assessed declared
        primary valid) (finish after ?_))
      exact .next (Acts.write counted wrote) (.last committed)

end Alone

section Numbers

/-- The numbers of stamps are among what stays fixed. -/
theorem sequencesOf_fixed (categoryCode : PyStr) (year : Int) (stamps : List Stamp) :
    sequencesOf categoryCode year (stamps.map Stamp.fixed) = sequencesOf categoryCode year stamps := by
  rw [sequencesOf, List.filter_map, List.map_map]
  rfl

/-- The numbering speaks of fixed columns only. -/
theorem Good.kept {later : Db} (good : Good db)
    (same : later.stamps.map Stamp.fixed = db.stamps.map Stamp.fixed)
    (counters : later.serialCounters = db.serialCounters) : Good later := by
  have column : ∀ {κ : Type} (key : Stamp → κ), (∀ stamp, key stamp.fixed = key stamp) →
      later.stamps.map key = db.stamps.map key := by
    intro κ key fixed
    have composed := congrArg (List.map key) same
    simpa only [List.map_map, Function.comp_def, fixed] using composed
  have total : later.stamps.length = db.stamps.length := by
    simpa only [List.length_map] using congrArg List.length same
  constructor
  · intro categoryCode year
    have chosen : sequencesOf categoryCode year later.stamps = sequencesOf categoryCode year db.stamps := by
      have filtered := congrArg (sequencesOf categoryCode year) same
      rwa [sequencesOf_fixed, sequencesOf_fixed] at filtered
    have next : upcoming later categoryCode year = upcoming db categoryCode year := by
      rw [upcoming, upcoming, counters]
    rw [chosen, next]
    exact good.sequences categoryCode year
  · rw [column Stamp.statusListIndex (fun _ => rfl), total]
    exact good.indexes
  · rw [total]
    exact good.bounded
  · rw [column Stamp.serial (fun _ => rfl)]
    exact good.serials

/-- The stamps of a run of requests are numbered. -/
theorem good (chunked : 1 ≤ env.settings.issuanceChunkSize) (reached : Api.Reachable env db) : Good db := by
  refine reached.invariant Good ?_ ?_
  · exact ⟨fun _ _ => Counted.none, rfl, by decide, List.nodup_nil⟩
  · intro before after known effect
    cases effect with
    | @issued chunkSize batchId batch copy issued after stored unfinished ran =>
      obtain ⟨occasion, ran⟩ := ran
      have positive : ∀ size, chunkSize.map ChunkSize.value = some size → 1 ≤ size := by
        intro size requested
        obtain ⟨asked, _, rfl⟩ := Option.map_eq_some_iff.mp requested
        exact asked.positive
      have run : Sessions.Reachable (protocol env) before (Sessions.World.start after) :=
        (alone positive (by rw [stored]; rfl) ran).reachable ⟨_, _, rfl⟩
      exact ((rule chunked).reachable known run).1
    | activated => exact known.kept (Stamps.activate_fixed _ _) rfl
    | scanned stored scanned =>
      cases scanned with
      | answered => exact known
      | suspected => exact known.kept (Stamps.modify_fixed _ _ _ (fun _ => rfl)) rfl
      | consumes => exact known.kept (Stamps.modify_fixed _ _ _ (fun _ => rfl)) rfl
    | voided stored voided =>
      cases voided with
      | already => exact known
      | voids => exact known.kept (Stamps.modify_fixed _ _ _ (fun _ => rfl)) rfl
    | _ => exact known

/-- In every committed state the sequences of each counter, the serials and the
list indexes have neither a gap nor a duplicate. -/
theorem crash_safe_numbering {initial : Db} {world : Sessions.World Db Session}
    (chunked : 1 ≤ env.settings.issuanceChunkSize) (reached : Api.Reachable env initial)
    (run : Sessions.Reachable (protocol env) initial world) :
    (∀ categoryCode year, (sequencesOf categoryCode year world.shared.stamps).Nodup ∧
      ∀ sequence, sequence ∈ sequencesOf categoryCode year world.shared.stamps ↔
        0 ≤ sequence ∧ sequence < nextSequence categoryCode year world.shared.serialCounters) ∧
    (world.shared.stamps.map Stamp.serial).Nodup ∧
    (world.shared.stamps.map Stamp.statusListIndex).Nodup ∧
    (∀ index, index ∈ world.shared.stamps.map Stamp.statusListIndex ↔ index < world.shared.stamps.length) ∧
    world.shared.stamps.length ≤ defaultListSizeBits := by
  have numbered : Good world.shared := ((rule chunked).reachable (good chunked reached) run).1
  refine ⟨?_, numbered.serials, ?_, ?_, numbered.bounded⟩
  · intro categoryCode year
    have counted := numbered.sequences categoryCode year
    exact ⟨counted.nodup, fun _ => counted.mem_iff⟩
  · rw [numbered.indexes]
    exact List.nodup_range
  · intro index
    rw [numbered.indexes]
    exact List.mem_range

/-- The paid sample batch, the chunk that fills it, and another by the same copy. -/
theorem issued_sample : ∃ (initial after final : Db) (batch copy later : StampBatch) (issued : Int)
    (again : Int × StampBatch), Api.Reachable .sample initial ∧ initial.stampBatches[0]? = some batch ∧
    issueChunk .sample Api.Sample.occasion none 0 batch initial = .ok (issued, copy, after) ∧
    after.stamps.length = 2 ∧ after.stampBatches[0]? = some later ∧
    issueChunk .sample Api.Sample.occasion none 0 batch after = .ok (again.1, again.2, final) ∧
    ∃ row : StampBatch, final.stampBatches[0]? = some row ∧ row.quantity = 2 ∧
      (final.stamps.filter (fun stamp => decide (stamp.batchId = 0))).length = 4 := by
  have checked : ((Api.Sample.state Api.Sample.paying).stampBatches[0]?.any (fun batch =>
      (issueChunk .sample Api.Sample.occasion none 0 batch
        (Api.Sample.state Api.Sample.paying)).toOption.any (fun first =>
          decide (first.2.2.stamps.length = 2) && first.2.2.stampBatches[0]?.isSome &&
          (issueChunk .sample Api.Sample.occasion none 0 batch first.2.2).toOption.any (fun second =>
            second.2.2.stampBatches[0]?.any (fun row => decide (row.quantity = 2)) &&
            decide ((second.2.2.stamps.filter
              (fun stamp => decide (stamp.batchId = 0))).length = 4))))) = true := by decide +kernel
  simp only [Option.any_eq_true, Bool.and_eq_true, decide_eq_true_eq, Option.isSome_iff_exists,
    Result.toOption_some] at checked
  obtain ⟨batch, stored, ⟨issued, copy, after⟩, filled, ⟨counted, later, present⟩,
    ⟨count, changed, final⟩, again, ⟨row, held, quantity⟩, exceeded⟩ := checked
  exact ⟨_, after, final, batch, copy, later, issued, (count, changed), Api.Sample.state_reachable _, stored,
    filled, counted, present, again, row, held, quantity, exceeded⟩

/-- Two transactions read the sample batch; one fills it, and the other issues another chunk
by its older copy. Too many stamps are issued, and all are numbered. -/
theorem crash_safe_numbering_sample : ∃ (initial final : Db),
    Sessions.Reachable (protocol .sample) initial (Sessions.World.start final) ∧
      (final.stamps.filter (fun stamp => decide (stamp.batchId = 0))).length = 4 ∧
      ∀ index, index ∈ final.stamps.map Stamp.statusListIndex ↔ index < final.stamps.length := by
  obtain ⟨initial, after, final, batch, copy, later, issued, again, reached, stored, filled, _, present,
    chunked, _, _, _, exceeds⟩ := issued_sample
  have first := @alone .sample initial Api.Sample.occasion none 0 batch copy issued after
    (fun _ absurdity => by cases absurdity) (by rw [stored]; rfl) filled
  have second := @alone .sample after Api.Sample.occasion none 0 batch again.2 again.1 final
    (fun _ absurdity => by cases absurdity) (by rw [present]; rfl) chunked
  have run : Sessions.Reachable (protocol .sample) initial (Sessions.World.start final) :=
    Sessions.interleaved ⟨_, _, rfl⟩ .here (fun _ => not_false) ⟨_, _, rfl⟩ first second
  have numbered := crash_safe_numbering (by decide) reached run
  exact ⟨initial, final, run, exceeds, numbered.2.2.2.1⟩

end Numbers

end TaxStamps.Numbering
