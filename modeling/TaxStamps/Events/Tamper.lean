import TaxStamps.Events.Wire

/-!
# Tampering with a signed event

The payload inside a signature text is compared with the canonical envelope
before the signature is looked at, so an envelope under somebody else's signature
text is refused whatever its signature would say. Nothing is assumed about
signatures or keys.
-/

namespace TaxStamps.Envelope

variable {loads : Loads} {directory : KeyDirectory}

/-- The envelope carries the signature text. -/
def Carries (envelope : Value) (signature : PyStr) : Prop :=
  ∃ members provenance, envelope = .dict members ∧
    Value.lookup (key "provenance") members = some (.dict provenance) ∧
    Value.lookup (key "signature") provenance = some (.str signature)

/-- An envelope that differs from an accepted one anywhere but in the signature
text is refused, whatever directory it is checked against. -/
theorem tamper_rejected {otherLoads : Loads} {otherDirectory : KeyDirectory}
    {expected otherExpected : Option PyStr} {envelope tampered resource : Value} {signature : PyStr}
    (stated : envelope.WellFormed) (tamperedStated : tampered.WellFormed)
    (accepted : verifyEnvelope loads directory expected true envelope = .ok resource)
    (carries : Carries envelope signature) (same : Carries tampered signature)
    (different : ¬ tampered.JsonEq envelope) :
    ∃ problem, verifyEnvelope otherLoads otherDirectory otherExpected true tampered = .error problem := by
  obtain ⟨members, provenance, rfl, has, signed⟩ := carries
  obtain ⟨others, otherProvenance, rfl, otherHas, otherSigned⟩ := same
  cases result : verifyEnvelope otherLoads otherDirectory otherExpected true (.dict others) with
  | error problem => exact ⟨problem, rfl⟩
  | ok otherResource =>
    obtain ⟨payload, canonical, _, verified⟩ := verifyEnvelope_ok accepted has signed
    obtain ⟨otherPayload, otherCanonical, _, otherVerified⟩ := verifyEnvelope_ok result otherHas otherSigned
    obtain ⟨seg1, seg2, seg3, split, decoded⟩ := jwsVerify_payload verified
    obtain ⟨other1, other2, other3, otherSplit, otherDecoded⟩ := jwsVerify_payload otherVerified
    rw [split] at otherSplit
    obtain ⟨rfl, rest⟩ := List.cons.inj otherSplit
    obtain ⟨rfl, _⟩ := List.cons.inj rest
    obtain rfl : payload = otherPayload := Except.ok.inj (decoded.symm.trans otherDecoded)
    have unsigned := Jcs.canonicalizeBytes_faithful (withoutSignature_wellFormed tamperedStated otherHas)
      (withoutSignature_wellFormed stated has) otherCanonical canonical
    exact absurd (jsonEq_of_unsigned otherHas has otherSigned signed unsigned) different

section Sample

/-- The sample event under another identifier. -/
def forged (members : List (Key × Value)) : List (Key × Value) :=
  Value.setMember members (key "eventId", Value.literal "forged")

/-- A forged envelope differs in the event identifier alone. -/
theorem forged_other {name : PyStr} (other : name ≠ py "eventId") (members : List (Key × Value)) :
    Value.lookup (.str name) (forged members) = Value.lookup (.str name) members := by
  have different : ¬ key "eventId" = .str name := fun equal => other (Key.str.inj equal).symm
  rw [forged, Value.lookup_setMember, if_neg different]

/-- The sample event is accepted, and not under another identifier. -/
theorem tamper_rejected_sample : ∃ (envelope tampered resource : Value) (problem : PyError),
    verifyEnvelope sampleLoads sampleDirectory (some Outbox.EventType.voided.name) true envelope = .ok resource ∧
      ¬ tampered.JsonEq envelope ∧
      verifyEnvelope sampleLoads sampleDirectory none true tampered = .error problem := by
  obtain ⟨envelope, built, safe⟩ := @sample_built .half true (by decide +kernel)
  have sent := sample_sent (by decide +kernel) built
  have stated := sent_wellFormed sent
  have reads : ReadsHeader sampleLoads := if_pos rfl
  have known : sampleDirectory kid = some Env.decimal.verify := if_pos rfl
  obtain ⟨resource, accepted, _⟩ := safe_accepted reads known sample_sized sent stated rfl safe
  obtain ⟨payload, members, inner, opened, _, has, signature, _, same⟩ := received_signature sent rfl
  rw [opened] at accepted stated
  have original := @Value.lookup_stored_text _ _ same (py "eventId") _ rfl
  have replaced : Value.lookup (key "eventId") (forged members) = some (Value.literal "forged") := by
    rw [forged, Value.lookup_setMember, if_pos rfl]
  have different : ¬ (Value.dict (forged members)).JsonEq (.dict members) := by
    intro equal
    have texts := @Value.lookup_stored_text _ _ equal (py "eventId") _ original
    rw [replaced] at texts
    exact absurd (Value.str.inj (Option.some.inj texts)) (by decide)
  have forgedStated : (Value.dict (forged members)).WellFormed :=
    Value.wellFormed_setMember stated trivial
  have forgedHas : Value.lookup (key "provenance") (forged members) = some (.dict inner) := by
    rw [forged_other (by decide), has]
  obtain ⟨problem, refused⟩ := @tamper_rejected _ _ sampleLoads sampleDirectory _ none _ _ _ _ stated
    forgedStated accepted ⟨members, inner, rfl, has, signature⟩
    ⟨forged members, inner, rfl, forgedHas, signature⟩ different
  exact ⟨_, _, resource, problem, accepted, different, refused⟩

end Sample

end TaxStamps.Envelope
