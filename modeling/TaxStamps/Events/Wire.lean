import TaxStamps.Crypto.Representable
import TaxStamps.Events.Unsigned
import TaxStamps.Jsonb

/-!
# An event on the wire

An event is built, signed, stored, published and read back. What is read back is
JSON-equal to what was signed, so the consumer recomputes the signed bytes and
accepts, unless an integer beyond the safe range stands where the producer had a
float: the consumer's canonicalizer refuses it.
-/

namespace TaxStamps.Envelope

open Outbox

variable {env : Env} {loads : Loads} {directory : KeyDirectory}

section Jws

/-- A segment holds no dot. -/
theorem unpadded_segment (data : Bytes) : .scalar '.' ∉ Base64.unpadded data := fun member =>
  (Base64.unpadded_clean data _ member).2.2.2 rfl

/-- A segment of bytes is not empty. -/
theorem unpadded_present {data : Bytes} (present : data ≠ []) : (Base64.unpadded data).isEmpty = false := by
  rw [Base64.unpadded_sextets, List.isEmpty_eq_false_iff, ne_eq, List.map_eq_nil_iff]
  intro empty
  have length := Base64.sextets_length data
  rw [empty, List.length_nil] at length
  have positive := List.length_pos_iff.mpr present
  split at length <;> omega

/-- A segment is decoded to its bytes. -/
theorem b64uDecode_unpadded (data : Bytes) : b64uDecode (Base64.unpadded data) = .ok data := by
  have unpadded : (Base64.unpadded data).contains Base64.pad = false := by
    rw [List.contains_eq_any_beq, List.any_eq_false]
    intro code member equal
    exact (Base64.unpadded_clean data code member).1 (LawfulBEq.eq_of_beq equal).symm
  simp only [b64uDecode, unpadded, Bool.false_eq_true, if_false, Base64.decode_unpadded]

/-- The three segments of a text that was signed. -/
theorem jwsSign_segments (payload : Bytes) : (jwsSign env payload).splitOn (.scalar '.') =
    [Base64.unpadded (asciiBytes protectedHeader), Base64.unpadded payload,
      Base64.unpadded (env.sign (asciiBytes (signatureInput payload)))] := by
  have joined : jwsSign env payload = Base64.unpadded (asciiBytes protectedHeader) ++ .scalar '.' ::
      (Base64.unpadded payload ++ .scalar '.' ::
        Base64.unpadded (env.sign (asciiBytes (signatureInput payload)))) := by
    have dot : py "." = [.scalar '.'] := by decide
    simp [jwsSign, signatureInput, dot]
  rw [joined, List.splitOn_append_cons_self_of_not_mem (unpadded_segment _),
    List.splitOn_append_cons_self_of_not_mem (unpadded_segment _),
    List.splitOn_eq_singleton (unpadded_segment _)]

/-- `json.loads` reads the protected header the service writes. -/
def ReadsHeader (loads : Loads) : Prop :=
  loads (asciiBytes protectedHeader) = some (.object [("alg", Value.literal "EdDSA"), ("kid", .str kid)])

/-- A text that was signed verifies against its payload, if the signature is not
empty. -/
theorem jwsVerify_sign (reads : ReadsHeader loads) (known : directory kid = some env.verify)
    {payload : Bytes} (present : payload ≠ []) (signed : env.sign (asciiBytes (signatureInput payload)) ≠ []) :
    jwsVerify loads directory (jwsSign env payload) payload = .ok payload := by
  have header : headerKid (loads (asciiBytes protectedHeader)) = .ok kid := by
    rw [reads]
    decide
  have headed : asciiBytes protectedHeader ≠ [] := by decide
  have resolved : resolve directory kid = .ok env.verify := by rw [resolve, known]
  have input : Base64.unpadded (asciiBytes protectedHeader) ++ py "." ++ Base64.unpadded payload =
      signatureInput payload := rfl
  rw [jwsVerify, jwsSign_segments]
  simp only [unpadded_present headed, unpadded_present present, unpadded_present signed, Bool.or_false,
    Bool.not_false, Result.require, if_true, Result.ok_bind, b64uDecode_unpadded, header, resolved,
    decide_true, input, env.verify_sign]

/-- A signature is not empty. -/
theorem jwsSign_truthy (payload : Bytes) : (Value.str (jwsSign env payload)).truthy = true := by
  have long := signatureInput_long payload
  rw [asciiBytes, List.length_map] at long
  cases input : signatureInput payload with
  | nil => simp [input] at long
  | cons code rest =>
    rw [jwsSign, input]
    rfl

/-- The canonical bytes of an object are not empty. -/
theorem canonical_present {members : List (Key × Value)} {payload : Bytes}
    (canonical : Jcs.canonicalizeBytes (.dict members) = .ok payload) : payload ≠ [] := by
  rw [Jcs.canonicalizeBytes, Jcs.canonicalize] at canonical
  obtain ⟨text, encoded, bytes⟩ := Result.bind_ok.mp canonical
  rw [(Jcs.encodeDict_ok encoded).1, Jcs.utf8] at bytes
  split at bytes
  case h_1 chars mapped =>
    obtain rfl := Except.ok.inj bytes
    have restored := Jcs.mapM_char mapped
    cases chars with
    | nil => cases restored
    | cons char rest =>
      intro empty
      rw [List.flatMap_cons, List.append_eq_nil_iff] at empty
      exact absurd empty.1 (String.utf8EncodeChar_ne_nil)
  case h_2 => cases bytes

end Jws

section Event

variable {time : Datetime} {row : Nat} {event : EventType} {resource : List (Key × Value)}
  {principalId principalRole correlationId : PyStr}

/-- A resource without a type gets that of the event. -/
theorem untyped_withType (untyped : Value.lookup (key "@type") resource = none) :
    withType event resource = resource ++ [(key "@type",
      .str (py "type.googleapis.com/blueeconomy.contracts.v1." ++ event.resource))] := by
  rw [withType, untyped]
  rfl

/-- The signed envelope without its signature is the unsigned one. -/
theorem withoutSignature_signed (signature : Value) :
    withoutSignature (envelopeBody env time row event resource correlationId ++
        [(key "provenance", .dict (provenance principalId principalRole ++ [(key "signature", signature)]))])
        (provenance principalId principalRole ++ [(key "signature", signature)]) =
      unsigned env time row event resource principalId principalRole correlationId := by
  rw [withoutSignature, Value.setMember_last rfl, Value.without_append rfl, unsigned]

/-- An envelope is a JSON value when its resource and its provenance are. -/
theorem envelope_wellFormed (stated : (Value.dict (withType event resource)).WellFormed)
    {members : List (Key × Value)} (provenanceStated : (Value.dict members).WellFormed) :
    (Value.dict (envelopeBody env time row event resource correlationId ++
      [(key "provenance", .dict members)])).WellFormed := by
  have keys : (envelopeBody env time row event resource correlationId ++
      [(key "provenance", Value.dict members)]).map Prod.fst =
        [key "envelopeVersion", key "eventId", key "eventType", key "occurredAt", key "producer",
          key "correlationId", key "classification", key "fhir", key "provenance"] := rfl
  have entry : (Value.dict [(key "fullUrl", .str (py "urn:uuid:" ++ env.uuid (py "entry") row)),
      (key "resource", .dict (withType event resource))]).WellFormed :=
    ⟨show [key "fullUrl", key "resource"].Nodup by decide, ⟨_, rfl⟩, trivial, ⟨_, rfl⟩, stated, trivial⟩
  have bundle : (Value.dict [(key "resourceType", Value.literal "Bundle"),
      (key "type", Value.literal "message"),
      (key "bundleId", .str (py "bdl-" ++ env.uuid (py "bundle") row)),
      (key "entry", .list [.dict [(key "fullUrl", .str (py "urn:uuid:" ++ env.uuid (py "entry") row)),
        (key "resource", .dict (withType event resource))]])]).WellFormed :=
    ⟨show [key "resourceType", key "type", key "bundleId", key "entry"].Nodup by decide, ⟨_, rfl⟩, trivial,
      ⟨_, rfl⟩, trivial, ⟨_, rfl⟩, trivial, ⟨_, rfl⟩, ⟨entry, trivial⟩, trivial⟩
  constructor
  · rw [keys]
    decide
  · exact ⟨⟨_, rfl⟩, trivial, ⟨_, rfl⟩, trivial, ⟨_, rfl⟩, trivial, ⟨_, rfl⟩, trivial, ⟨_, rfl⟩, trivial,
      ⟨_, rfl⟩, trivial, ⟨_, rfl⟩, trivial, ⟨_, rfl⟩, bundle, ⟨_, rfl⟩, provenanceStated, trivial⟩

/-- An object that is JSON-equal to a member of an object. -/
theorem lookup_stored_dict {left right inner : List (Key × Value)}
    (same : (Value.dict left).JsonEq (.dict right)) {name : PyStr}
    (found : Value.lookup (.str name) right = some (.dict inner)) :
    ∃ members, Value.lookup (.str name) left = some (.dict members) ∧
      (Value.dict members).JsonEq (.dict inner) := by
  obtain ⟨stored, present, equal⟩ := Value.lookup_stored same found
  obtain ⟨members, rfl, _⟩ := Value.denote_obj equal
  exact ⟨members, present, equal⟩

/-- The resource of what is read back. -/
theorem resourceOf_received {received members : List (Key × Value)} (stated : (Value.dict received).WellFormed)
    (same : (Value.dict received).JsonEq (.dict (envelopeBody env time row event resource correlationId ++
      [(key "provenance", .dict members)]))) :
    ∃ returned, resourceOf received = .ok returned ∧
      (Value.dict returned).JsonEq (.dict (withType event resource)) := by
  obtain ⟨fhir, fhirHere, fhirSame⟩ := @lookup_stored_dict _ _ _ same (py "fhir") rfl
  have bundle := @Value.lookup_stored_text _ _ fhirSame (py "resourceType") _ rfl
  have message := @Value.lookup_stored_text _ _ fhirSame (py "type") _ rfl
  obtain ⟨entries, entryHere, entrySame⟩ := @Value.lookup_stored _ _ fhirSame (py "entry") _ rfl
  have entriesStated := Value.wellFormed_lookup (Value.wellFormed_lookup stated fhirHere) entryHere
  obtain ⟨items, rfl, meanings⟩ := Value.denote_arr entriesStated entrySame
  rw [Value.denoteItems_map, List.map_cons, List.map_nil] at meanings
  obtain ⟨item, rfl, itemSame⟩ := List.map_eq_singleton_iff.mp meanings
  obtain ⟨entry, rfl, _⟩ := Value.denote_obj itemSame
  obtain ⟨returned, resourceHere, returnedSame⟩ := @lookup_stored_dict _ _ _ itemSame (py "resource") rfl
  refine ⟨returned, ?_, returnedSame⟩
  simp only [resourceOf, fhirHere, bundle, message, entryHere, resourceHere, isText, decide_true,
    Bool.and_self, if_true]

/-- The type that is set names the event's resource. -/
theorem namesResource_typed (event : EventType) : namesResource event.resource
    (some (.str (py "type.googleapis.com/blueeconomy.contracts.v1." ++ event.resource))) = true := by
  cases event <;> decide

/-- Every event type is known with its resource. -/
theorem knownResource_name (event : EventType) : knownResource event.name = some event.resource := by
  cases event <;> decide

/-- Every event type has a name. -/
theorem eventType_present (event : EventType) : event.name.isEmpty = false := by
  cases event <;> decide

/-- What the service produced of an event: the resource is a representable object
without a type of its own, and the envelope around it was signed and stored. -/
structure Sent (env : Env) (time : Datetime) (row : Nat) (event : EventType) (resource : List (Key × Value))
    (principalId principalRole correlationId : PyStr) (stored : Value) : Prop where
  object : (Value.dict resource).WellFormed
  representable : ∃ bytes, Jcs.canonicalizeBytes (.dict resource) = .ok bytes
  untyped : Value.lookup (key "@type") resource = none
  published : ∃ envelope,
    signed env time row event resource principalId principalRole correlationId = .ok envelope ∧
      env.jsonb envelope = some stored

/-- A typed resource is as well formed as before. -/
theorem typed_wellFormed (object : (Value.dict resource).WellFormed)
    (untyped : Value.lookup (key "@type") resource = none) :
    (Value.dict (withType event resource)).WellFormed := by
  obtain ⟨distinct, each⟩ := Value.wellFormed_dict.mp object
  rw [untyped_withType untyped]
  refine Value.wellFormed_dict.mpr ⟨?_, ?_⟩
  · rw [List.map_append, List.nodup_append]
    refine ⟨distinct, List.pairwise_singleton _ _, ?_⟩
    rintro name listed other single rfl
    obtain ⟨member, held, same⟩ := List.mem_map.mp listed
    exact Value.lookup_none.mp untyped member held (same.trans (List.mem_singleton.mp single))
  · intro member listed
    rcases List.mem_append.mp listed with held | new
    · exact each member held
    · rw [List.mem_singleton.mp new]
      exact ⟨⟨_, rfl⟩, trivial⟩

/-- The provenance is well formed. -/
theorem provenance_wellFormed : (Value.dict (provenance principalId principalRole)).WellFormed :=
  ⟨show [key "principalId", key "principalRole", key "ledgerCommitHash"].Nodup by decide,
    ⟨_, rfl⟩, trivial, ⟨_, rfl⟩, trivial, ⟨_, rfl⟩, trivial, trivial⟩

/-- The signed provenance is well formed. -/
theorem signed_wellFormed (signature : PyStr) : (Value.dict (provenance principalId principalRole ++
    [(key "signature", .str signature)])).WellFormed :=
  ⟨show [key "principalId", key "principalRole", key "ledgerCommitHash", key "signature"].Nodup by decide,
    ⟨_, rfl⟩, trivial, ⟨_, rfl⟩, trivial, ⟨_, rfl⟩, trivial, ⟨_, rfl⟩, trivial, trivial⟩

/-- Leaving out the signature text leaves out no integer. -/
theorem withoutSignature_safe {members inner : List (Key × Value)} {signature : PyStr}
    (stated : (Value.dict members).WellFormed)
    (has : Value.lookup (key "provenance") members = some (.dict inner))
    (signed : Value.lookup (key "signature") inner = some (.str signature)) :
    (withoutSignature members inner).safe = true ↔ (Value.dict members).safe = true := by
  have innerStated := Value.wellFormed_lookup stated has
  rw [withoutSignature, Value.safe, Value.safe, Value.safeMembers_iff, Value.safeMembers_iff]
  constructor
  · intro safe member present
    obtain ⟨name, value⟩ := member
    have found := (Value.lookup_mem stated.1).mpr present
    obtain ⟨text, rfl⟩ := (Value.wellFormedMembers_iff.mp stated.2 _ present).1
    by_cases same : text = py "provenance"
    · subst same
      obtain rfl := Option.some.inj (found.symm.trans has)
      have stripped := safe _ (Value.mem_of_lookup (by rw [lookup_withoutSignature, if_pos rfl]))
      rw [Value.safe, Value.safeMembers_iff] at stripped ⊢
      rintro ⟨inside, held⟩ listed
      by_cases signs : inside = key "signature"
      · subst signs
        obtain rfl := Option.some.inj (((Value.lookup_mem innerStated.1).mpr listed).symm.trans signed)
        rfl
      · exact stripped _ (List.mem_filter.mpr ⟨listed, decide_eq_true signs⟩)
    · exact safe _ (Value.mem_of_lookup (by rw [lookup_withoutSignature, if_neg same, found]))
  · intro safe member listed
    rcases Value.mem_setMember listed with held | rfl
    · exact safe member held
    · have whole := safe _ (Value.mem_of_lookup has)
      rw [Value.safe, Value.safeMembers_iff] at whole ⊢
      exact fun inside present => whole inside (List.mem_of_mem_filter present)

/-- An envelope that was signed and stored keeps its meaning. -/
theorem stored_envelope {envelope stored : Value} (object : (Value.dict resource).WellFormed)
    (untyped : Value.lookup (key "@type") resource = none)
    (built : signed env time row event resource principalId principalRole correlationId = .ok envelope)
    (column : env.jsonb envelope = some stored) : ∃ payload,
      Jcs.canonicalizeBytes (unsigned env time row event resource principalId principalRole correlationId) =
        .ok payload ∧
      stored.WellFormed ∧
      stored.JsonEq (.dict (envelopeBody env time row event resource correlationId ++
        [(key "provenance", .dict (provenance principalId principalRole ++
          [(key "signature", .str (jwsSign env payload))]))])) := by
  rw [signed, Result.bind_ok] at built
  obtain ⟨payload, canonical, made⟩ := built
  obtain rfl := Except.ok.inj made
  obtain ⟨meaning, stated⟩ := env.jsonb_restores _ _ (envelope_wellFormed (typed_wellFormed object untyped)
    (signed_wellFormed (jwsSign env payload))) column
  exact ⟨payload, canonical, stated, meaning⟩

/-- What is read back is the envelope that was signed, but for the order of its
members and the spelling of its numbers. -/
theorem received_meaning {stored received : Value}
    (sent : Sent env time row event resource principalId principalRole correlationId stored)
    (meaning : received.JsonEq stored) : ∃ payload,
      Jcs.canonicalizeBytes (unsigned env time row event resource principalId principalRole correlationId) =
        .ok payload ∧
      received.JsonEq (.dict (envelopeBody env time row event resource correlationId ++
        [(key "provenance", .dict (provenance principalId principalRole ++
          [(key "signature", .str (jwsSign env payload))]))])) := by
  obtain ⟨object, _, untyped, envelope, built, column⟩ := sent
  obtain ⟨payload, canonical, _, same⟩ := stored_envelope object untyped built column
  exact ⟨payload, canonical, Eq.trans meaning same⟩

/-- A sent envelope is well formed. -/
theorem sent_wellFormed {stored : Value}
    (sent : Sent env time row event resource principalId principalRole correlationId stored) :
    stored.WellFormed := by
  obtain ⟨object, _, untyped, envelope, built, column⟩ := sent
  obtain ⟨_, _, stated, _⟩ := stored_envelope object untyped built column
  exact stated

/-- What is read back carries the signature text of the producer, and its
unsigned form is what the producer signed. -/
theorem received_signature {stored received : Value}
    (sent : Sent env time row event resource principalId principalRole correlationId stored)
    (meaning : received.JsonEq stored) : ∃ payload members inner, received = .dict members ∧
      Jcs.canonicalizeBytes (unsigned env time row event resource principalId principalRole correlationId) =
        .ok payload ∧
      Value.lookup (key "provenance") members = some (.dict inner) ∧
      Value.lookup (key "signature") inner = some (.str (jwsSign env payload)) ∧
      (withoutSignature members inner).JsonEq
        (unsigned env time row event resource principalId principalRole correlationId) ∧
      (Value.dict members).JsonEq (.dict (envelopeBody env time row event resource correlationId ++
        [(key "provenance", .dict (provenance principalId principalRole ++
          [(key "signature", .str (jwsSign env payload))]))])) := by
  obtain ⟨payload, canonical, same⟩ := received_meaning sent meaning
  obtain ⟨members, rfl, _⟩ := Value.denote_obj same
  obtain ⟨inner, has, innerSame⟩ := @lookup_stored_dict _ _ _ same (py "provenance") rfl
  refine ⟨payload, members, inner, rfl, canonical, has, ?_, ?_, same⟩
  · exact @Value.lookup_stored_text _ _ innerSame (py "signature") _ rfl
  · rw [← withoutSignature_signed (.str (jwsSign env payload))]
    exact withoutSignature_jsonEq.mpr
      ⟨fun name _ => Value.dict_jsonEq.mp same name, Value.without_jsonEq innerSame _⟩

/-- What is accepted has no integer beyond the safe range. -/
theorem accepted_safe {stored received returned : Value} {expected : Option PyStr}
    (sent : Sent env time row event resource principalId principalRole correlationId stored)
    (stated : received.WellFormed) (meaning : received.JsonEq stored)
    (accepted : verifyEnvelope loads directory expected true received = .ok returned) :
    received.safe = true := by
  obtain ⟨_, members, inner, rfl, _, has, signature, _⟩ := received_signature sent meaning
  obtain ⟨payload, bytes, _⟩ := verifyEnvelope_ok accepted has signature
  have canonical := Jcs.canonical_iff.mpr ⟨payload, bytes⟩
  exact (withoutSignature_safe stated has signature).mp
    (Jcs.canonical_safe canonical (withoutSignature_wellFormed stated has))

/-- What has no integer beyond the safe range is accepted, and the resource is
returned with its type. -/
theorem safe_accepted {stored received : Value} (reads : ReadsHeader loads)
    (known : directory kid = some env.verify) (sized : ∀ message, (env.sign message).length = 64)
    (sent : Sent env time row event resource principalId principalRole correlationId stored)
    (stated : received.WellFormed) (meaning : received.JsonEq stored) (safe : received.safe = true) :
    ∃ returned, verifyEnvelope loads directory (some event.name) true received = .ok returned ∧
      returned.JsonEq (.dict (withType event resource)) := by
  obtain ⟨payload, members, inner, rfl, canonical, has, signature, unsignedSame, same⟩ :=
    received_signature sent meaning
  have typed : (Value.dict (withType event resource)).WellFormed :=
    typed_wellFormed sent.object sent.untyped
  have version := @Value.lookup_stored_text _ _ same (py "envelopeVersion") _ rfl
  have named := @Value.lookup_stored_text _ _ same (py "eventType") _ rfl
  have text := Jcs.canonical_text (Jcs.canonical_iff.mpr ⟨payload, canonical⟩)
    (envelope_wellFormed typed provenance_wellFormed) (withoutSignature_wellFormed stated has)
    ((withoutSignature_safe stated has signature).mpr safe) unsignedSame
  have bytes : Jcs.canonicalizeBytes (withoutSignature members inner) = .ok payload := by
    rw [Jcs.canonicalizeBytes, Jcs.canonicalize] at canonical ⊢
    rw [text]
    exact canonical
  have present : env.sign (asciiBytes (signatureInput payload)) ≠ [] :=
    List.length_pos_iff.mp (by rw [sized]; decide)
  have verified := jwsVerify_sign reads known (canonical_present canonical) present
  obtain ⟨returned, found, returnedSame⟩ := resourceOf_received stated same
  have typeUrl : Value.lookup (key "@type") returned = some (.str
      (py "type.googleapis.com/blueeconomy.contracts.v1." ++ event.resource)) := by
    apply Value.lookup_stored_text returnedSame
    rw [untyped_withType sent.untyped, Value.lookup_append, sent.untyped]
    rfl
  refine ⟨.dict returned, ?_, returnedSame⟩
  simp only [verifyEnvelope, version, isText, decide_true, Result.require, if_true, Result.ok_bind,
    eventTypeOf, named, eventType_present, Bool.false_eq_true, if_false, Option.all_some, found,
    knownResource_name, typeUrl, namesResource_typed, provenanceOf, has, checkSignature, signature,
    jwsSign_truthy, bytes, verified, asEnvelopeError]

/-- The consumer accepts what is read back exactly when no integer beyond the safe
range is in it, and then returns the resource with its type added. -/
theorem event_round_trip {stored received : Value} (reads : ReadsHeader loads)
    (known : directory kid = some env.verify) (sized : ∀ message, (env.sign message).length = 64)
    (sent : Sent env time row event resource principalId principalRole correlationId stored)
    (stated : received.WellFormed) (meaning : received.JsonEq stored) :
    (∃ returned, verifyEnvelope loads directory (some event.name) true received = .ok returned ∧
      returned.JsonEq (.dict (resource ++ [(key "@type",
        .str (py "type.googleapis.com/blueeconomy.contracts.v1." ++ event.resource))]))) ↔
      received.safe = true := by
  rw [← untyped_withType sent.untyped]
  constructor
  · rintro ⟨returned, accepted, _⟩
    exact accepted_safe sent stated meaning accepted
  · exact safe_accepted reads known sized sent stated meaning

end Event

section Sample

/-- `json.loads` on the header of the service. -/
def sampleLoads : Loads := fun data =>
  if data = asciiBytes protectedHeader then
    some (.object [("alg", Value.literal "EdDSA"), ("kid", .str kid)])
  else none

/-- A directory with the key of the service. -/
def sampleDirectory : KeyDirectory := fun name => if name = kid then some Env.decimal.verify else none

/-- A voided event about one number, on the first day of August 2026. -/
def sampleSigned (number : PyFloat) : Result Value :=
  signed .decimal (739828 * Datetime.microsPerDay) 0 .voided [(key "n", .float number)] (py "principal")
    (py "role") []

/-- The sample signatures have 64 bytes. -/
theorem sample_sized (message : Bytes) : (Env.decimal.sign message).length = 64 := by
  change ((message ++ List.replicate 64 0).take 64).length = 64
  rw [List.length_take, List.length_append, List.length_replicate]
  omega

/-- The sample event is sent. -/
theorem sample_sent {number : PyFloat} {envelope : Value}
    (representable : (Jcs.canonicalizeBytes (.dict [(key "n", .float number)])).isOk = true)
    (built : sampleSigned number = .ok envelope) :
    Sent .decimal (739828 * Datetime.microsPerDay) 0 .voided [(key "n", .float number)] (py "principal")
      (py "role") [] envelope.decimals := by
  constructor
  · exact ⟨by simp, ⟨_, rfl⟩, trivial, trivial⟩
  · cases bytes : Jcs.canonicalizeBytes (.dict [(key "n", .float number)]) with
    | ok written => exact ⟨written, rfl⟩
    | error => rw [bytes] at representable; cases representable
  · rfl
  · exact ⟨envelope, built, rfl⟩

/-- The sample event is built, and is a JSON value as it comes back. -/
theorem sample_built {number : PyFloat} {safe : Bool}
    (checked : (sampleSigned number).toOption.any
      (fun envelope => decide (envelope.decimals.safe = safe)) = true) :
    ∃ envelope, sampleSigned number = .ok envelope ∧ envelope.decimals.safe = safe := by
  rw [Option.any_eq_true] at checked
  obtain ⟨envelope, built, kept⟩ := checked
  cases result : sampleSigned number with
  | ok held => rw [result] at built; cases built; exact ⟨_, rfl, of_decide_eq_true kept⟩
  | error => rw [result] at built; cases built

/-- The event about `0.5`, read back as it was stored. -/
theorem event_round_trip_sample : ∃ stored returned : Value,
    verifyEnvelope sampleLoads sampleDirectory (some EventType.voided.name) true stored = .ok returned ∧
      returned.JsonEq (.dict ([(key "n", .float .half)] ++ [(key "@type",
        .str (py "type.googleapis.com/blueeconomy.contracts.v1." ++ EventType.voided.resource))])) := by
  obtain ⟨envelope, built, safe⟩ := @sample_built .half true (by decide +kernel)
  have sent := sample_sent (by decide +kernel) built
  have reads : ReadsHeader sampleLoads := if_pos rfl
  have known : sampleDirectory kid = some Env.decimal.verify := if_pos rfl
  obtain ⟨returned, accepted, same⟩ :=
    (event_round_trip reads known sample_sized sent (sent_wellFormed sent) rfl).mpr safe
  exact ⟨_, returned, accepted, same⟩

/-- Not every representable event is accepted: the event about `1e16` comes back
as one about an integer, which the consumer's canonicalizer refuses. -/
theorem float_event_refused : ¬ ∀ (env : Env) (loads : Loads) (directory : KeyDirectory) (time : Datetime)
    (row : Nat) (event : EventType) (resource : List (Key × Value))
    (principalId principalRole correlationId : PyStr) (stored received : Value),
    ReadsHeader loads → directory kid = some env.verify → (∀ message, (env.sign message).length = 64) →
    Sent env time row event resource principalId principalRole correlationId stored →
    received.WellFormed → received.JsonEq stored →
    ∃ returned, verifyEnvelope loads directory (some event.name) true received = .ok returned ∧
      returned.JsonEq (.dict (resource ++ [(key "@type",
        .str (py "type.googleapis.com/blueeconomy.contracts.v1." ++ event.resource))])) := by
  intro claimed
  obtain ⟨envelope, built, unsafe_⟩ := @sample_built .tenQuadrillion false (by decide +kernel)
  have sent := sample_sent (by decide +kernel) built
  obtain ⟨returned, accepted, _⟩ := claimed .decimal sampleLoads sampleDirectory _ _ _ _ _ _ _ _ _
    (if_pos rfl) (if_pos rfl) sample_sized sent (sent_wellFormed sent) rfl
  have safe := accepted_safe sent (sent_wellFormed sent) rfl accepted
  rw [unsafe_] at safe
  cases safe

end Sample

end TaxStamps.Envelope
