import TaxStamps.Concurrency.AuditChain
import TaxStamps.Crypto.VcProofs

/-!
# The head of the audit chain

The hash of an event covers the 64 digits of the hash before it, a full stop and
the canonical body, so the covered bytes split in one way only. Going back from
the last hash, two verified chains agree event by event, provided that the hash
has no collision among the bytes the two verifications hash and that none of
these hashes is the genesis hash.
-/

namespace TaxStamps.Audit

variable {env : Env}

section Texts

/-- ASCII texts with one encoding are one text. -/
theorem ascii_injective {left right : PyStr} {bytes : Bytes} (leftEncoded : left.ascii = .ok bytes)
    (rightEncoded : right.ascii = .ok bytes) : left = right := by
  have codes : ∀ first second : Code, first.ord < 128 → second.ord < 128 →
      UInt8.ofNat first.ord = UInt8.ofNat second.ord → first = second := by
    intro first second firstSmall secondSmall same
    have ords : first.ord = second.ord := by
      have numbers := congrArg UInt8.toNat same
      simp only [UInt8.toNat_ofNat'] at numbers
      omega
    cases first with
    | lone offset => simp only [Code.ord] at firstSmall; omega
    | scalar char =>
      cases second with
      | lone offset => simp only [Code.ord] at secondSmall; omega
      | scalar other => exact congrArg Code.scalar (Char.ext (UInt32.toNat_inj.mp ords))
  unfold PyStr.ascii at leftEncoded rightEncoded
  split at leftEncoded
  case isFalse => cases leftEncoded
  case isTrue leftAscii =>
    split at rightEncoded
    case isFalse => cases rightEncoded
    case isTrue rightAscii =>
      have mapped := (Except.ok.inj leftEncoded).trans (Except.ok.inj rightEncoded).symm
      clear leftEncoded rightEncoded
      induction left generalizing right with
      | nil => exact (List.map_eq_nil_iff.mp mapped.symm).symm
      | cons first rest inductionHypothesis =>
        cases right with
        | nil => cases mapped
        | cons second others =>
          rw [List.all_cons, Bool.and_eq_true, decide_eq_true_eq] at leftAscii rightAscii
          obtain ⟨same, tails⟩ := List.cons.inj mapped
          rw [codes first second leftAscii.1 rightAscii.1 same,
            inductionHypothesis leftAscii.2 rightAscii.2 tails]

/-- An ASCII text has as many bytes as characters. -/
theorem ascii_length {text : PyStr} {bytes : Bytes} (encoded : text.ascii = .ok bytes) :
    bytes.length = text.length := by
  unfold PyStr.ascii at encoded
  split at encoded
  case isTrue =>
    rw [← Except.ok.inj encoded, List.length_map]
  case isFalse => cases encoded

end Texts

/-- The bytes that the hash of a row covers. -/
def Covers (row : AuditEvent) (data : Bytes) : Prop :=
  ∃ link bytes, row.prevHash.ascii = .ok link ∧
    Jcs.canonicalizeBytes (body row.eventType row.payload (Datetime.isoMicros row.createdAt)) = .ok bytes ∧
    data = link ++ 46 :: bytes

/-- What is assumed of the hash, on the bytes that the rows' hashes cover. -/
structure Binding (env : Env) (rows : List AuditEvent) : Prop where
  injective : ∀ first ∈ rows, ∀ second ∈ rows, ∀ left right, Covers first left → Covers second right →
    Vc.NoCollision env left right
  fresh : ∀ row ∈ rows, ∀ data, Covers row data → Merkle.hex (env.sha256 data) ≠ genesisHash

/-- `verify_chain` accepts the rows. -/
def Accepted (env : Env) (rows : List AuditEvent) : Prop :=
  ∃ verification, verifyChain env rows = .ok verification ∧ verification.ok = true

/-- Two rows tell the same event at the same place in the chain. -/
structure Same (row other : AuditEvent) : Prop where
  eventType : row.eventType = other.eventType
  payload : row.payload.JsonEq other.payload
  recordedAt : Datetime.isoMicros row.createdAt = Datetime.isoMicros other.createdAt
  prevHash : row.prevHash = other.prevHash
  hash : row.hash = other.hash

section Links

/-- A row follows a hash of 64 digits, among rows that hold JSON documents. -/
structure Links (env : Env) (rows : List AuditEvent) (prevHash : PyStr) (row : AuditEvent) : Prop where
  follows : Follows env prevHash row
  listed : row ∈ rows
  digits : prevHash.length = 64

/-- Rows that the verification accepts are linked. -/
theorem linked_of_verified {total : Nat} {prevHash : PyStr} {rows : List AuditEvent}
    {verification : ChainVerification} (verified : verifyRows env total prevHash rows = .ok verification)
    (ok : verification.ok = true) : Chain.Linked (Follows env) (·.hash) prevHash rows := by
  induction rows generalizing prevHash with
  | nil => trivial
  | cons row rest inductionHypothesis =>
    rw [verifyRows] at verified
    split at verified
    case _ => cases verified
    case _ expected hashed =>
      split at verified
      case isTrue =>
        cases verified
        cases ok
      case isFalse named =>
        split at verified
        case isTrue =>
          cases verified
          cases ok
        case isFalse same =>
          refine ⟨⟨not_not.mp named, ?_⟩, inductionHypothesis verified⟩
          rw [hashed, not_not.mp same]

/-- The row's hash is the hash of the bytes it covers. -/
theorem Follows.covers {prevHash : PyStr} {row : AuditEvent} (follows : Follows env prevHash row) :
    ∃ data, Covers row data ∧ row.hash = Merkle.hex (env.sha256 data) := by
  obtain ⟨rfl, hashed⟩ := follows
  obtain ⟨bytes, canonical, hashed⟩ := Result.bind_ok.mp hashed
  obtain ⟨link, encoded, hashed⟩ := Result.bind_ok.mp hashed
  exact ⟨_, ⟨link, bytes, encoded, canonical, rfl⟩, (Except.ok.inj hashed).symm⟩

/-- Every link of a verified chain is a hash of 64 digits. -/
theorem links_of_linked {rows listed : List AuditEvent} {prevHash : PyStr}
    (linked : Chain.Linked (Follows env) (·.hash) prevHash rows) (digits : prevHash.length = 64)
    (among : ∀ row ∈ rows, row ∈ listed) : Chain.Linked (Links env listed) (·.hash) prevHash rows := by
  induction rows generalizing prevHash with
  | nil => trivial
  | cons row rest inductionHypothesis =>
    obtain ⟨follows, others⟩ := linked
    obtain ⟨data, _, hashed⟩ := follows.covers
    have next : row.hash.length = 64 := by rw [hashed, Merkle.hex_length, env.sha256_length]
    exact ⟨⟨follows, among row List.mem_cons_self, digits⟩,
      inductionHypothesis others next (fun other member => among other (List.mem_cons_of_mem _ member))⟩

/-- A body determines the event that it tells. -/
theorem body_injective {eventType otherType createdIso otherIso : PyStr} {payload otherPayload : Value}
    (same : (body eventType payload createdIso).JsonEq (body otherType otherPayload otherIso)) :
    eventType = otherType ∧ payload.JsonEq otherPayload ∧ createdIso = otherIso := by
  have types : some (Value.str eventType).denote = some (Value.str otherType).denote :=
    Value.lookup_meaning same (py "eventType")
  have payloads : some payload.denote = some otherPayload.denote :=
    Value.lookup_meaning same (py "payload")
  have times : some (Value.str createdIso).denote = some (Value.str otherIso).denote :=
    Value.lookup_meaning same (py "recordedAt")
  exact ⟨Json.str.inj (Option.some.inj types), Option.some.inj payloads,
    Json.str.inj (Option.some.inj times)⟩

/-- Covered bytes split in one way only. -/
theorem covers_split {row other : AuditEvent} {data : Bytes} (digits : row.prevHash.length = 64)
    (otherDigits : other.prevHash.length = 64) (document : row.payload.WellFormed)
    (otherDocument : other.payload.WellFormed) (covers : Covers row data)
    (otherCovers : Covers other data) :
    row.prevHash = other.prevHash ∧
      (body row.eventType row.payload (Datetime.isoMicros row.createdAt)).JsonEq
        (body other.eventType other.payload (Datetime.isoMicros other.createdAt)) := by
  obtain ⟨link, bytes, encoded, canonical, rfl⟩ := covers
  obtain ⟨otherLink, otherBytes, otherEncoded, otherCanonical, joined⟩ := otherCovers
  have lengths : link.length = otherLink.length := by
    rw [ascii_length encoded, ascii_length otherEncoded, digits, otherDigits]
  obtain ⟨rfl, tails⟩ := List.append_inj joined lengths
  obtain rfl := (List.cons.inj tails).2
  exact ⟨ascii_injective encoded otherEncoded, Jcs.canonicalizeBytes_faithful (body_wellFormed document)
    (body_wellFormed otherDocument) canonical otherCanonical⟩

/-- A hash determines its row and the hash before it. -/
theorem links_commit {rows : List AuditEvent} (documents : ∀ row ∈ rows, row.payload.WellFormed)
    (binding : Binding env rows) {before after : PyStr} {row other : AuditEvent}
    (links : Links env rows before row) (otherLinks : Links env rows after other)
    (hashes : row.hash = other.hash) : before = after ∧ Same row other := by
  obtain ⟨data, covers, hashed⟩ := links.follows.covers
  obtain ⟨otherData, otherCovers, otherHashed⟩ := otherLinks.follows.covers
  have digests : env.sha256 data = env.sha256 otherData := by
    apply Merkle.hex_injective
    rw [← hashed, ← otherHashed, hashes]
  obtain rfl := binding.injective row links.listed other otherLinks.listed data otherData covers
    otherCovers digests
  have named := links.follows.1
  have otherNamed := otherLinks.follows.1
  obtain ⟨previous, bodies⟩ := covers_split (named ▸ links.digits) (otherNamed ▸ otherLinks.digits)
    (documents row links.listed) (documents other otherLinks.listed) covers otherCovers
  obtain ⟨eventType, payload, recordedAt⟩ := body_injective bodies
  exact ⟨named.symm.trans (previous.trans otherNamed),
    ⟨eventType, payload, recordedAt, previous, hashes⟩⟩

/-- The hash of a linked row is not the genesis hash. -/
theorem links_fresh {rows : List AuditEvent} (binding : Binding env rows) {before : PyStr}
    {row : AuditEvent} (links : Links env rows before row) : row.hash ≠ genesisHash := by
  obtain ⟨data, covers, hashed⟩ := links.follows.covers
  rw [hashed]
  exact binding.fresh row links.listed data covers

end Links

/-- Two tables that the verification accepts and whose last rows have one hash
hold the same events in the same order. The payloads are JSON documents, as
their column holds them. -/
theorem head_commits {rows others : List AuditEvent}
    (documents : ∀ row ∈ rows ++ others, row.payload.WellFormed)
    (binding : Binding env (rows ++ others)) (accepted : Accepted env rows)
    (otherAccepted : Accepted env others) {head otherHead : AuditEvent}
    (last : (byId rows).getLast? = some head) (otherLast : (byId others).getLast? = some otherHead)
    (hashes : head.hash = otherHead.hash) :
    rows.length = others.length ∧ List.Forall₂ Same (byId rows) (byId others) := by
  obtain ⟨verification, verified, ok⟩ := accepted
  obtain ⟨otherVerification, otherVerified, otherOk⟩ := otherAccepted
  have sorted : ∀ table : List AuditEvent, (byId table).Perm table :=
    fun table => List.perm_insertionSort _ table
  have genesis : genesisHash.length = 64 := List.length_replicate
  have linked := links_of_linked (linked_of_verified verified ok) genesis
    (fun row member => List.mem_append_left others ((sorted rows).mem_iff.mp member))
  have otherLinked := links_of_linked (linked_of_verified otherVerified otherOk) genesis
    (fun row member => List.mem_append_right rows ((sorted others).mem_iff.mp member))
  have agree : List.Forall₂ Same (byId rows) (byId others) := by
    apply Chain.tip_commits _ _ linked otherLinked
    · rw [Chain.tip, Chain.tip, last, otherLast]
      exact hashes
    · exact fun _ _ _ _ => links_commit documents binding
    · exact fun _ _ => links_fresh binding
  refine ⟨?_, agree⟩
  rw [← (sorted rows).length_eq, ← (sorted others).length_eq]
  exact agree.length_eq

section Sample

/-- The first event of a chain, about one number. -/
def sampleRow (number : Value) : AuditEvent where
  id := 1
  prevHash := genesisHash
  hash := (List.replicate 32 (py "30")).flatten
  eventType := py "test.one"
  payload := .object [("n", number)]
  createdAt := 739828 * Datetime.microsPerDay

/-- The event after it. -/
def nextRow : AuditEvent where
  id := 2
  prevHash := (List.replicate 32 (py "30")).flatten
  hash := (List.replicate 16 (py "3330")).flatten
  eventType := py "test.two"
  payload := .object [("n", .int 7)]
  createdAt := 739829 * Datetime.microsPerDay

/-- The literal `5.0`. -/
def five : PyFloat := .finite false ⟨[5], some [0], none, by decide, by decide +kernel, Decimal.unscaled⟩

/-- The chain about `5` and the one about `5.0`. -/
def sampleRows : List AuditEvent := [sampleRow (.int 5), nextRow, sampleRow (.float five), nextRow]

/-- Every row of the two chains follows its predecessor. -/
theorem sample_follows : ∀ row ∈ sampleRows, Follows .sample row.prevHash row := by
  have follows : Follows .sample genesisHash (sampleRow (.int 5)) ∧
      Follows .sample genesisHash (sampleRow (.float five)) ∧ Follows .sample nextRow.prevHash nextRow :=
    ⟨⟨rfl, by decide +kernel⟩, ⟨rfl, by decide +kernel⟩, rfl, by decide +kernel⟩
  simp only [sampleRows, List.forall_mem_cons]
  exact ⟨follows.1, follows.2.2, follows.2.1, follows.2.2, List.forall_mem_nil _⟩

/-- Each of the two chains is accepted. -/
theorem sample_accepted {number : Value} (listed : sampleRow number ∈ sampleRows) :
    Accepted .sample [sampleRow number, nextRow] := by
  have linked : Chain.Linked (Follows .sample) (·.hash) genesisHash [sampleRow number, nextRow] :=
    ⟨sample_follows _ listed, sample_follows nextRow (List.mem_cons_of_mem _ List.mem_cons_self), trivial⟩
  exact ⟨_, verifyRows_linked linked, rfl⟩

/-- A row covers one byte string. -/
theorem Covers.unique {row : AuditEvent} {left right : Bytes} (covers : Covers row left)
    (otherCovers : Covers row right) : left = right := by
  obtain ⟨link, bytes, encoded, written, rfl⟩ := covers
  obtain ⟨otherLink, otherBytes, otherEncoded, otherWritten, rfl⟩ := otherCovers
  obtain rfl := Except.ok.inj (encoded.symm.trans otherEncoded)
  obtain rfl := Except.ok.inj (written.symm.trans otherWritten)
  rfl

/-- The events about `5` and about `5.0` cover the same bytes. -/
theorem sample_covers {data : Bytes} : Covers (sampleRow (.float five)) data ↔ Covers (sampleRow (.int 5)) data := by
  have canonical : Jcs.canonicalizeBytes (body (py "test.one") (.object [("n", .int 5)])
        (Datetime.isoMicros (739828 * Datetime.microsPerDay))) =
      Jcs.canonicalizeBytes (body (py "test.one") (.object [("n", .float five)])
        (Datetime.isoMicros (739828 * Datetime.microsPerDay))) := by decide +kernel
  constructor
  · rintro ⟨link, bytes, encoded, written, rfl⟩
    exact ⟨link, bytes, encoded, canonical.trans written, rfl⟩
  · rintro ⟨link, bytes, encoded, written, rfl⟩
    exact ⟨link, bytes, encoded, canonical.symm.trans written, rfl⟩

/-- The hash of a row is that of the bytes it covers. -/
theorem sample_hash {row : AuditEvent} (listed : row ∈ sampleRows) {data : Bytes} (covers : Covers row data) :
    row.hash = Merkle.hex (Env.sample.sha256 data) := by
  obtain ⟨hashed, hashedCovers, same⟩ := (sample_follows row listed).covers
  rw [same, covers.unique hashedCovers]

/-- The hash separates the rows of the two chains from each other. -/
theorem sample_binding : Binding .sample sampleRows := by
  constructor
  case injective =>
    intro first firstListed second secondListed left right covers otherCovers digests
    have hashes : first.hash = second.hash := by
      rw [sample_hash firstListed covers, sample_hash secondListed otherCovers, digests]
    have apart : ∀ number, (sampleRow number).hash ≠ nextRow.hash := by
      intro number
      change (List.replicate 32 (py "30")).flatten ≠ (List.replicate 16 (py "3330")).flatten
      decide
    simp only [sampleRows, List.mem_cons, List.not_mem_nil, or_false] at firstListed secondListed
    rcases firstListed with rfl | rfl | rfl | rfl <;> rcases secondListed with rfl | rfl | rfl | rfl
    all_goals first
      | exact covers.unique otherCovers
      | exact absurd hashes (apart _)
      | exact absurd hashes.symm (apart _)
      | exact covers.unique (sample_covers.mp otherCovers)
      | exact (sample_covers.mp covers).unique otherCovers
  case fresh =>
    intro row listed data covers
    rw [← sample_hash listed covers]
    have fresh : ∀ row ∈ sampleRows, row.hash ≠ genesisHash := by decide
    exact fresh row listed

/-- The payloads are JSON documents. -/
theorem sample_documents : ∀ row ∈ sampleRows, row.payload.WellFormed := by
  have object : ∀ number : Value, number.WellFormed → (Value.object [("n", number)]).WellFormed := by
    intro number formed
    refine Value.wellFormed_dict.mpr ⟨List.nodup_singleton _, fun member present => ?_⟩
    obtain rfl := List.mem_singleton.mp present
    exact ⟨⟨_, rfl⟩, formed⟩
  simp only [sampleRows, List.forall_mem_cons]
  exact ⟨object _ trivial, object _ trivial, object _ trivial, object _ trivial, List.forall_mem_nil _⟩

/-- The chains that differ in `5` and `5.0` hold the same events. -/
theorem head_commits_sample :
    List.Forall₂ Same (byId [sampleRow (.int 5), nextRow]) (byId [sampleRow (.float five), nextRow]) :=
  (@head_commits .sample [sampleRow (.int 5), nextRow] [sampleRow (.float five), nextRow] sample_documents
    sample_binding (sample_accepted List.mem_cons_self)
    (sample_accepted (List.mem_cons_of_mem _ (List.mem_cons_of_mem _ List.mem_cons_self))) nextRow nextRow
    rfl rfl rfl).2

end Sample

end TaxStamps.Audit
