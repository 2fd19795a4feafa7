import TaxStamps.Crypto.Representable
import TaxStamps.Domain.Merkle
import TaxStamps.Models

/-!
# Hash-chained audit

`services/audit.py`. Each event's hash covers the hash of the event before it,
and the verification recomputes all of them in the order of the identifiers. The
rows a transaction sees are those committed and its own; which they are when
`record` reads them, and when it inserts, is for the caller to say.
-/

namespace TaxStamps

/-- `text.encode("ascii")`. -/
def PyStr.ascii (text : PyStr) : Result Bytes :=
  if text.all (fun code => decide (code.ord < 128)) then
    .ok (text.map (fun code => UInt8.ofNat code.ord))
  else .error .unicodeEncodeError

/-- A row of `audit_events`. -/
structure AuditEvent where
  id : Nat
  prevHash : PyStr
  hash : PyStr
  eventType : PyStr
  payload : Value
  createdAt : Datetime

namespace Audit

/-- `GENESIS_HASH`. -/
def genesisHash : PyStr := List.replicate 64 (Code.digit 0)

/-- What a hash covers beside the hash before it. -/
def body (eventType : PyStr) (payload : Value) (createdIso : PyStr) : Value :=
  .object [("eventType", .str eventType), ("payload", payload), ("recordedAt", .str createdIso)]

/-- A body about a JSON document is one. -/
theorem body_wellFormed {eventType createdIso : PyStr} {payload : Value} (document : payload.WellFormed) :
    (body eventType payload createdIso).WellFormed := by
  have names : [key "eventType", key "payload", key "recordedAt"].Nodup := by decide
  refine Value.wellFormed_dict.mpr ⟨names, ?_⟩
  intro member listed
  simp only [List.map_cons, List.map_nil, List.mem_cons, List.not_mem_nil, or_false] at listed
  rcases listed with rfl | rfl | rfl
  · exact ⟨⟨_, rfl⟩, trivial⟩
  · exact ⟨⟨_, rfl⟩, document⟩
  · exact ⟨⟨_, rfl⟩, trivial⟩

/-- `_chain_hash`. -/
def chainHash (env : Env) (prevHash eventType : PyStr) (payload : Value) (createdIso : PyStr) :
    Result PyStr := do
  let body ← Jcs.canonicalizeBytes (body eventType payload createdIso)
  let link ← prevHash.ascii
  .ok (Merkle.hex (env.sha256 (link ++ 46 :: body)))

/-- `ORDER BY id`. -/
def byId (rows : List AuditEvent) : List AuditEvent :=
  rows.insertionSort (fun left right => left.id ≤ right.id)

/-- `SELECT hash ... ORDER BY id DESC LIMIT 1`, or the genesis hash. -/
def latestHash (rows : List AuditEvent) : PyStr :=
  match (byId rows).getLast? with
  | some row => row.hash
  | none => genesisHash

/-- The row is inserted among the rows there are; the payload column gives back
what it stored. -/
def insertAuditEvent (env : Env) (rows : List AuditEvent) (row : AuditEvent) : Result AuditEvent := do
  Db.constrain "audit_events" (PyStr.fits 64 row.prevHash && PyStr.fits 64 row.hash &&
    PyStr.fits 64 row.eventType && rows.all (fun other => decide (other.hash ≠ row.hash)))
  let stored ← Db.jsonbColumn env "audit_events" row.payload
  .ok { row with payload := stored }

/-- The part of `record` after the link is read: the event is hashed and
inserted under an identifier of the sequence. -/
def append (env : Env) (now : Datetime) (eventType : PyStr) (payload : Value) (prevHash : PyStr)
    (id : Nat) (rows : List AuditEvent) : Result AuditEvent := do
  let cleanPayload ← payload.reparse
  let hash ← chainHash env prevHash eventType cleanPayload (Datetime.isoMicros now)
  insertAuditEvent env rows
    { id := id
      prevHash := prevHash
      hash := hash
      eventType := eventType
      payload := cleanPayload
      createdAt := now }

/-- `ChainVerification`. -/
structure ChainVerification where
  ok : Bool
  events : Nat
  firstBadId : Option Nat
  detail : PyStr
deriving DecidableEq

/-- The loop of `verify_chain` over the rows that are left. -/
def verifyRows (env : Env) (total : Nat) : PyStr → List AuditEvent → Result ChainVerification
  | _, [] => .ok ⟨true, total, none, []⟩
  | prev, row :: rest =>
    match chainHash env prev row.eventType row.payload (Datetime.isoMicros row.createdAt) with
    | .error problem => .error problem
    | .ok expected =>
      if row.prevHash ≠ prev then .ok ⟨false, row.id, some row.id, py "prev_hash link broken"⟩
      else if row.hash ≠ expected then
        .ok ⟨false, row.id, some row.id, py "hash mismatch: payload tampered"⟩
      else verifyRows env total row.hash rest

/-- `verify_chain`. -/
def verifyChain (env : Env) (rows : List AuditEvent) : Result ChainVerification :=
  verifyRows env rows.length genesisHash (byId rows)

end Audit

end TaxStamps
