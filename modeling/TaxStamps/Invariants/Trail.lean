import Mathlib.Algebra.Group.Pi.Lemmas
import TaxStamps.Api.Sample
import TaxStamps.Concurrency.AuditChain
import TaxStamps.Events.Applied
import TaxStamps.Invariants.Replay

/-!
# What the audit trail tells

Reading the events of the trail in their order gives back, table by table, what the
requests entered. The chain of the events verifies as long as the producers of the
declaration envelopes are texts: no other value of a payload is a float.
-/

namespace TaxStamps.Audited

open Api Audit

variable {env : Env}

section Chain

/-- A text or an integer. -/
def datum : Value → Bool
  | .str _ => true
  | .int _ => true
  | _ => false

/-- A text or an integer comes back as one. -/
theorem datum_reparsed {value clean : Value} (plain : datum value = true) (parsed : value.reparse = .ok clean) :
    datum clean = true := by
  cases value with
  | str text =>
    cases parsed
    rfl
  | int number =>
    rw [Value.reparse] at parsed
    split at parsed
    case isTrue =>
      cases parsed
      rfl
    case isFalse => cases parsed
  | _ => cases plain

/-- Texts and integers come back as such. -/
theorem members_reparsed {members pairs : List (Key × Value)}
    (plain : ∀ member ∈ members, datum member.2 = true) (parsed : Value.reparseMembers members = .ok pairs) :
    ∀ pair ∈ pairs, datum pair.2 = true := by
  induction members generalizing pairs with
  | nil =>
    cases parsed
    exact fun _ absent => absurd absent List.not_mem_nil
  | cons member rest inductionHypothesis =>
    obtain ⟨name, value⟩ := member
    cases name with
    | other tag => cases parsed
    | str name =>
      obtain ⟨clean, here, parsed⟩ := Result.bind_ok.mp parsed
      obtain ⟨others, later, parsed⟩ := Result.bind_ok.mp parsed
      cases parsed
      obtain ⟨first, following⟩ := List.forall_mem_cons.mp plain
      exact List.forall_mem_cons.mpr ⟨datum_reparsed first here, inductionHypothesis following later⟩

/-- What the canonicalizer accepts of texts and integers is interoperable. -/
theorem datum_interoperable {value : Value} (plain : datum value = true) (canonical : Jcs.Canonical value) :
    value.interoperable = true := by
  cases value with
  | str text =>
    obtain ⟨_, encoded, carried⟩ := canonical
    cases encoded
    exact Jcs.escapeString_carried carried
  | int number => exact decide_eq_true (Jcs.int_bounded canonical)
  | _ => cases plain

/-- A payload of texts and integers under distinct names. -/
structure Exact (payload : Value) : Prop where
  object : ∃ members, payload = .dict members ∧ (members.map Prod.fst).Nodup ∧
    ∀ member ∈ members, Jcs.encodableKey member.1 = true ∧ datum member.2 = true

/-- It reads back from its JSON text as an interoperable value, if it is hashed. -/
theorem Exact.reparsed {payload clean : Value} (exact_ : Exact payload) (parsed : payload.reparse = .ok clean)
    (canonical : Jcs.Canonical clean) : clean.interoperable = true := by
  obtain ⟨members, rfl, distinct, each⟩ := exact_.object
  obtain ⟨pairs, listed, parsed⟩ := Result.bind_ok.mp parsed
  cases parsed
  have keys := (Consumer.reparseMembers_lookup (fun member held => (each member held).1) listed).1
  have apart : (pairs.map Prod.fst).Nodup := keys ▸ distinct
  have plain := members_reparsed (fun member held => (each member held).2) listed
  rw [Value.ofPairs_distinct apart] at canonical ⊢
  refine Value.interoperable_dict.mpr ⟨apart, fun pair held => ?_⟩
  obtain ⟨named, valued⟩ := canonical.members pair held
  exact ⟨named, datum_interoperable (plain pair held) valued⟩

/-- The event states the payload as it reads back from its JSON text. -/
def Says (eventType : PyStr) (payload : Value) (event : AuditEvent) : Prop :=
  event.eventType = eventType ∧ ∃ clean, payload.reparse = .ok clean ∧ event.payload.JsonEq clean

variable {now : Datetime} {eventType prevHash : PyStr} {payload : Value} {id : Nat}
  {rows : List AuditEvent} {row : AuditEvent}

/-- What is recorded is what was to be recorded. -/
theorem append_stated (appended : append env now eventType payload prevHash id rows = .ok row) :
    row.id = id ∧ Says eventType payload row := by
  obtain ⟨clean, parsed, appended⟩ := Result.bind_ok.mp appended
  obtain ⟨hash, _, appended⟩ := Result.bind_ok.mp appended
  obtain ⟨_, _, appended⟩ := Result.bind_ok.mp appended
  obtain ⟨stored, column, appended⟩ := Result.bind_ok.mp appended
  cases appended
  obtain ⟨meaning, _⟩ := env.jsonb_restores _ _ (Value.reparse_wellFormed parsed) (Db.jsonbColumn_ok column)
  exact ⟨rfl, rfl, clean, parsed, meaning⟩

/-- The event of an exact payload is linked as it comes back from its column. -/
theorem append_links (exact_ : Exact payload)
    (appended : append env now eventType payload prevHash id rows = .ok row) : Follows env prevHash row := by
  obtain ⟨clean, parsed, appended⟩ := Result.bind_ok.mp appended
  obtain ⟨hash, hashed, appended⟩ := Result.bind_ok.mp appended
  obtain ⟨_, _, appended⟩ := Result.bind_ok.mp appended
  obtain ⟨stored, column, appended⟩ := Result.bind_ok.mp appended
  cases appended
  obtain ⟨meaning, stated⟩ := env.jsonb_restores _ _ (Value.reparse_wellFormed parsed) (Db.jsonbColumn_ok column)
  have canonical : Jcs.Canonical clean := by
    obtain ⟨bytes, canonical, _⟩ := Result.bind_ok.mp hashed
    exact ((Jcs.canonical_iff.mpr ⟨bytes, canonical⟩).members (key "payload", clean)
      (List.mem_cons_of_mem _ List.mem_cons_self)).2
  have same : Jcs.encode stored = Jcs.encode clean :=
    Jcs.interoperable_text (exact_.reparsed parsed canonical) stated meaning
  have bodies : Jcs.encode (body eventType stored (Datetime.isoMicros now)) =
      Jcs.encode (body eventType clean (Datetime.isoMicros now)) := by
    apply Jcs.encode_members
    simp only [List.map_cons, List.map_nil, same]
  refine ⟨rfl, ?_⟩
  rw [chainHash, Jcs.canonicalizeBytes, Jcs.canonicalize] at hashed ⊢
  rw [bodies]
  exact hashed

/-- The members of a note have distinct names that can be written. -/
theorem Note.names (env : Env) (note : Note) :
    ((note.members env).map (fun member => key member.1)).Nodup ∧
      ∀ name ∈ (note.members env).map (fun member => key member.1), Jcs.encodableKey name = true := by
  cases note <;> simp only [Note.members, List.map_cons, List.map_nil] <;> decide

/-- The members of a note are texts and integers, if the producer is a text. -/
theorem Note.data (note : Note) (textual : note.Textual) :
    ∀ member ∈ note.members env, datum member.2 = true := by
  cases note with
  | applied declarationRef eventId producer =>
    obtain ⟨text, rfl⟩ := textual
    simp [Note.members, datum]
  | _ => simp [Note.members, datum]

/-- A note with a textual producer is recorded and verified with one payload. -/
theorem Note.exact (note : Note) (textual : note.Textual) : Exact (note.payload env) := by
  obtain ⟨distinct, encodes⟩ := note.names env
  refine ⟨⟨_, rfl, ?_, ?_⟩⟩
  · rw [List.map_map]
    exact distinct
  · intro member held
    obtain ⟨stated, listed, rfl⟩ := List.mem_map.mp held
    exact ⟨encodes _ (List.mem_map_of_mem listed), note.data textual stated listed⟩

end Chain

section Ledgers

/-- A ledger with stamps that no event tells of. -/
def Ledger.plus (ledger : Ledger) (more : Nat → Int) : Ledger := { ledger with issued := ledger.issued + more }

/-- What no event tells of adds up. -/
theorem Ledger.plus_plus (ledger : Ledger) (first second : Nat → Int) :
    (ledger.plus first).plus second = ledger.plus (first + second) := by
  rw [plus, plus, plus, add_assoc]

/-- With nothing untold the ledger is itself. -/
theorem Ledger.plus_zero (ledger : Ledger) : ledger.plus 0 = ledger := by
  rw [plus, add_zero]

/-- Reading an issue note adds its stamps. -/
theorem Ledger.read_issued (ledger : Ledger) (batchId : Nat) (number : Int) :
    ledger.read (.issued batchId number) = ledger.plus (Pi.single batchId number) := by
  have counted : Function.update ledger.issued batchId (ledger.issued batchId + number) =
      ledger.issued + Pi.single batchId number := by
    funext other
    rw [Function.update_apply, Pi.add_apply, Pi.single_apply]
    split
    case isTrue same => rw [same]
    case isFalse => exact (add_zero _).symm
  rw [read, plus, counted]

/-- An event says the same beside stamps that none tells of. -/
theorem Ledger.plus_read (ledger : Ledger) (more : Nat → Int) (note : Note) :
    (ledger.plus more).read note = (ledger.read note).plus more := by
  cases note with
  | issued batchId number => rw [read_issued, read_issued, plus_plus, plus_plus, add_comm]
  | _ => rfl

/-- What calls committed and did not record, batch by batch. -/
def unrecordedOf (numbers : List (Nat × Int)) : Nat → Int :=
  (numbers.map (fun number => Pi.single number.1 number.2)).sum

/-- A further unrecorded call adds its stamps. -/
theorem unrecordedOf_append (numbers : List (Nat × Int)) (batchId : Nat) (number : Int) :
    unrecordedOf (numbers ++ [(batchId, number)]) = unrecordedOf numbers + Pi.single batchId number := by
  rw [unrecordedOf, List.map_append, List.sum_append]
  exact congrArg _ (add_zero _)

/-- The ledger of empty tables is empty. -/
theorem Ledger.ofDb_empty : Ledger.ofDb Db.empty = Ledger.empty := by
  have nobody : voidsIn Db.empty.stamps = ∅ := by
    ext serial
    exact ⟨fun ⟨_, absent, _⟩ => absurd absent List.not_mem_nil, fun absent => absurd absent (Set.notMem_empty serial)⟩
  rw [ofDb, nobody]
  rfl

end Ledgers

section Steps

variable {books later : Books} {notes : List Note} {note : Option Note} {now : Datetime} {skipped batchId : Nat}
  {db : Db}

/-- The rounds of a call that runs to completion issue together what it counts, and the
last one issues nothing. -/
structure Completed (env : Env) (batchId : Nat) (db : Db) (issued : Int) (loop : Loop) : Prop where
  reached : Reachable env loop.db
  told : Ledger.ofDb loop.db = (Ledger.ofDb db).plus (Pi.single batchId (loop.issued - issued))
  last : ∀ occasion after, loop.last = some (occasion, after) →
    Reachable env after ∧ Ledger.ofDb after = Ledger.ofDb loop.db

/-- A call that commits no further chunk. -/
theorem Completed.idle (reached : Reachable env db) {issued : Int} {last : Option (Occasion × Db)}
    (ends : ∀ occasion after, last = some (occasion, after) →
      Reachable env after ∧ Ledger.ofDb after = Ledger.ofDb db) :
    Completed env batchId db issued ⟨db, issued, last⟩ where
  reached := reached
  told := by rw [Int.sub_self, Pi.single_zero, Ledger.plus_zero]
  last := ends

/-- A call that runs to completion issues what its rounds count. -/
theorem runToCompletion_completed (sized : 0 ≤ env.settings.issuanceChunkSize) (chunkSize : Option ChunkSize)
    (rounds : List Occasion) (issued : Int) (reached : Reachable env db) :
    Completed env batchId db issued (runToCompletion env batchId chunkSize rounds issued db) := by
  induction rounds generalizing issued db with
  | nil => exact .idle reached fun _ _ absurdity => by cases absurdity
  | cons occasion rest inductionHypothesis =>
    rw [runToCompletion]
    split
    case h_1 => exact .idle reached fun _ _ absurdity => by cases absurdity
    case h_2 number after answer =>
      have told := (issueBatch_told sized answer).trans (Ledger.read_issued _ batchId number)
      have handled : handle env occasion (.issue batchId chunkSize) db = .ok after := map_snd answer
      have next := reached.commit handled
      split
      case isTrue none =>
        rw [none, Pi.single_zero, Ledger.plus_zero] at told
        refine .idle reached ?_
        rintro _ _ ⟨⟩
        exact ⟨next, told⟩
      case isFalse =>
        have completed := inductionHypothesis (issued + number) next
        refine ⟨completed.reached, ?_, completed.last⟩
        rw [completed.told, told, Ledger.plus_plus, ← Pi.single_add]
        congr 2
        omega

/-- Each event states what it was recorded for. -/
def Stated (env : Env) (note : Note) (event : AuditEvent) : Prop :=
  Says note.eventType (note.payload env) event

/-- A recorded event states its note and follows the latest row. -/
theorem record_ok {stated : Note} (recorded : record env now skipped stated books = .ok later) :
    ∃ row, later = ⟨books.db, books.trail ++ [row], row.id + 1, books.unrecorded⟩ ∧ Stated env stated row ∧
      books.sequence ≤ row.id ∧ (stated.Textual → Follows env (latestHash books.trail) row) := by
  obtain ⟨row, appended, recorded⟩ := Result.bind_ok.mp recorded
  cases recorded
  obtain ⟨named, states⟩ := append_stated appended
  refine ⟨row, ?_, states, ?_, fun textual => append_links (stated.exact textual) appended⟩
  · rw [named]
  · omega

/-- What the books hold, event by event and table by table, and whether the trail verifies
once every producer is a text. -/
structure Account (env : Env) (textual : Prop) (books : Books) (notes : List Note) : Prop where
  reached : Reachable env books.db
  listed : List.Forall₂ (Stated env) notes books.trail
  told : Ledger.ofDb books.db = (replay notes).plus (unrecordedOf books.unrecorded)
  sound : textual → Sound env books.sequence books.trail

variable {textual : Prop}

/-- Empty books are accounted for. -/
theorem Account.empty (env : Env) (textual : Prop) : Account env textual Books.empty [] where
  reached := .refl
  listed := .nil
  told := Ledger.ofDb_empty.trans (Ledger.plus_zero _).symm
  sound _ := ⟨.nil, (fun _ absurdity => by cases absurdity), trivial⟩

/-- A transaction with its event. -/
theorem Account.commit (account : Account env textual books notes) (next : Reachable env db)
    (told : Ledger.ofDb db = note.elim (Ledger.ofDb books.db) (Ledger.ofDb books.db).read)
    (texts : textual → ∀ stated, note = some stated → stated.Textual)
    (committed : commit env now skipped note db books = .ok later) : ∃ notes, Account env textual later notes := by
  cases note with
  | none =>
    cases committed
    exact ⟨notes, next, account.listed, told.trans account.told, account.sound⟩
  | some stated =>
    obtain ⟨after, recorded, committed⟩ := Result.bind_ok.mp committed
    cases committed
    obtain ⟨row, rfl, states, drawn, follows⟩ := record_ok recorded
    refine ⟨notes ++ [stated], next, ?_, ?_, ?_⟩
    · exact List.rel_append account.listed (.cons states .nil)
    · rw [replay_append, ← Ledger.plus_read, ← account.told]
      exact told
    · intro plain
      exact (account.sound plain).append drawn (follows (texts plain stated rfl))

/-- The producer of its envelope is a text. -/
def Call.Textual : Call → Prop
  | .request _ _ producer _ => ∃ text, producer = .str text
  | .complete .. => True

/-- A call keeps the books accounted for. -/
theorem serve_account (sized : 0 ≤ env.settings.issuanceChunkSize) (account : Account env textual books notes)
    {call : Call} (texts : textual → call.Textual) : ∃ notes, Account env textual (serve env books call) notes := by
  cases call with
  | request occasion skipped producer request =>
    rw [serve]
    split
    case h_1 => exact ⟨notes, account⟩
    case h_2 note db done =>
      have done := noted_ok sized account.reached done
      split
      case h_1 later committed =>
        exact account.commit (account.reached.commit done.handled) done.told (fun plain => done.textual (texts plain))
          committed
      case h_2 => exact ⟨notes, account⟩
  | complete rounds skipped batchId chunkSize =>
    have completed : Completed env batchId books.db 0 (runToCompletion env batchId chunkSize rounds 0 books.db) :=
      runToCompletion_completed sized chunkSize rounds 0 account.reached
    rw [serve]
    generalize runToCompletion env batchId chunkSize rounds 0 books.db = loop at completed ⊢
    have told : Ledger.ofDb loop.db = (Ledger.ofDb books.db).plus (Pi.single batchId loop.issued) := by
      rw [completed.told, Int.sub_zero]
    -- the process died, or the last transaction was refused: no event tells of the chunks
    have died : Account env textual
        { books with db := loop.db, unrecorded := books.unrecorded ++ [(batchId, loop.issued)] } notes := by
      refine ⟨completed.reached, account.listed, ?_, account.sound⟩
      rw [told, account.told, Ledger.plus_plus, unrecordedOf_append]
    split
    case h_1 => exact ⟨notes, died⟩
    case h_2 occasion db ended =>
      obtain ⟨next, same⟩ := completed.last occasion db ended
      split
      case h_1 later committed =>
        refine account.commit next ?_ ?_ committed
        · exact same.trans (told.trans (Ledger.read_issued _ batchId loop.issued).symm)
        · rintro _ _ ⟨⟩
          trivial
      case h_2 => exact ⟨notes, died⟩

/-- A run of calls keeps the books accounted for. -/
theorem serveAll_account (sized : 0 ≤ env.settings.issuanceChunkSize) (calls : List Call)
    (texts : textual → ∀ call ∈ calls, call.Textual) : ∃ notes, Account env textual (serveAll env calls) notes := by
  induction calls using List.reverseRecOn with
  | nil => exact ⟨[], .empty env textual⟩
  | append_singleton earlier call inductionHypothesis =>
    obtain ⟨notes, account⟩ := inductionHypothesis fun plain other member =>
      texts plain other (List.mem_append_left _ member)
    simp only [serveAll, List.foldl_append, List.foldl_cons, List.foldl_nil] at account ⊢
    exact serve_account sized account fun plain => texts plain call (List.mem_append_right _ List.mem_cons_self)

end Steps

section Trail

/-- Whatever was called, each event of the trail states a note, and the notes replayed in
their order are the ledger of the tables, but for chunks that were committed by calls
which recorded nothing. The trail verifies if the producers of the envelopes were texts. -/
theorem trail_accounts (sized : 0 ≤ env.settings.issuanceChunkSize) (calls : List Call) :
    ∃ notes, List.Forall₂ (Stated env) notes (serveAll env calls).trail ∧
      Ledger.ofDb (serveAll env calls).db = (replay notes).plus (unrecordedOf (serveAll env calls).unrecorded) ∧
      ((∀ call ∈ calls, call.Textual) →
        verifyChain env (serveAll env calls).trail = .ok ⟨true, (serveAll env calls).trail.length, none, []⟩) := by
  obtain ⟨notes, account⟩ := serveAll_account sized calls fun texts => texts
  exact ⟨notes, account.listed, account.told, fun texts => (account.sound texts).verified⟩

/-- The sample up to its payment, and a call that dies when it has committed both stamps. -/
def dying : List Call :=
  Sample.paying.map (Call.request Sample.occasion 0 (.str (py "sample"))) ++
    [.complete [Sample.occasion] 0 0 none]

/-- The producers of the sample are texts. -/
theorem dying_textual : ∀ call ∈ dying, call.Textual := by
  intro call member
  rcases List.mem_append.mp member with requested | completes
  · obtain ⟨_, _, rfl⟩ := List.mem_map.mp requested
    exact ⟨_, rfl⟩
  · rw [List.mem_singleton.mp completes]
    trivial

/-- Its trail has one event for each of the six requests, and the two stamps are told by none. -/
theorem dying_trail : (serveAll .sample dying).trail.length = 6 ∧
    (serveAll .sample dying).unrecorded = [(0, 2)] := by decide +kernel

/-- What the six events tell, with two stamps of the batch more, is the ledger. -/
theorem trail_accounts_sample :
    ∃ notes, notes.length = 6 ∧ List.Forall₂ (Stated .sample) notes (serveAll .sample dying).trail ∧
      Ledger.ofDb (serveAll .sample dying).db = (replay notes).plus (unrecordedOf [(0, 2)]) ∧
      verifyChain .sample (serveAll .sample dying).trail = .ok ⟨true, 6, none, []⟩ := by
  obtain ⟨notes, listed, told, verified⟩ := @trail_accounts .sample (by decide) dying
  obtain ⟨six, two⟩ := dying_trail
  have sound := verified dying_textual
  rw [six] at sound
  rw [two] at told
  exact ⟨notes, listed.length_eq.trans six, listed, told, sound⟩

end Trail

end TaxStamps.Audited
