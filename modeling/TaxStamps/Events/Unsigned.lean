import TaxStamps.Crypto.JcsFaithful
import TaxStamps.Events.Envelope

/-!
# What a signature text binds

The unsigned form of an envelope and its signature text determine the envelope,
and a text that verifies carries the canonical bytes of the unsigned form.
-/

namespace TaxStamps.Envelope

variable {loads : Loads} {directory : KeyDirectory}

section Unsigned

variable {left right leftProvenance rightProvenance : List (Key × Value)}

/-- Leaving out the signature hides no member but the provenance. -/
theorem lookup_withoutSignature (name : PyStr) (envelope provenance : List (Key × Value)) :
    Value.lookup (.str name)
        (Value.setMember envelope (key "provenance", .dict (Value.without (py "signature") provenance))) =
      if name = py "provenance" then some (.dict (Value.without (py "signature") provenance))
      else Value.lookup (.str name) envelope := by
  rw [Value.lookup_setMember]
  by_cases same : name = py "provenance"
  · simp [same]
  · have different : ¬ key "provenance" = .str name := fun equal => same (Key.str.inj equal).symm
    simp [same, different]

/-- What the unsigned forms of two envelopes being one JSON value says. -/
theorem withoutSignature_jsonEq : (withoutSignature left leftProvenance).JsonEq
      (withoutSignature right rightProvenance) ↔
    (∀ name, name ≠ py "provenance" → (Value.lookup (.str name) left).map Value.denote =
      (Value.lookup (.str name) right).map Value.denote) ∧
    (Value.dict (Value.without (py "signature") leftProvenance)).JsonEq
      (.dict (Value.without (py "signature") rightProvenance)) := by
  rw [withoutSignature, withoutSignature, Value.dict_jsonEq]
  constructor
  · intro same
    constructor
    · intro name other
      have meanings := same name
      rwa [lookup_withoutSignature, lookup_withoutSignature, if_neg other, if_neg other] at meanings
    · have meanings := same (py "provenance")
      rw [lookup_withoutSignature, lookup_withoutSignature, if_pos rfl, if_pos rfl] at meanings
      exact Option.some.inj meanings
  · rintro ⟨others, provenances⟩ name
    rw [lookup_withoutSignature, lookup_withoutSignature]
    by_cases same : name = py "provenance"
    · rw [if_pos same, if_pos same]
      exact congrArg some provenances
    · rw [if_neg same, if_neg same]
      exact others name same

/-- The unsigned form and the signature text determine the envelope. -/
theorem jsonEq_of_unsigned {signature : PyStr}
    (leftHas : Value.lookup (key "provenance") left = some (.dict leftProvenance))
    (rightHas : Value.lookup (key "provenance") right = some (.dict rightProvenance))
    (leftSigned : Value.lookup (key "signature") leftProvenance = some (.str signature))
    (rightSigned : Value.lookup (key "signature") rightProvenance = some (.str signature))
    (same : (withoutSignature left leftProvenance).JsonEq (withoutSignature right rightProvenance)) :
    (Value.dict left).JsonEq (.dict right) := by
  obtain ⟨others, stripped⟩ := withoutSignature_jsonEq.mp same
  have provenances : (Value.dict leftProvenance).JsonEq (.dict rightProvenance) :=
    Value.jsonEq_of_without stripped (by rw [leftSigned, rightSigned])
  rw [Value.dict_jsonEq]
  intro name
  by_cases provenance : name = py "provenance"
  · subst provenance
    rw [leftHas, rightHas]
    exact congrArg some provenances
  · exact others name provenance

/-- An envelope without its signature is as well formed as with it. -/
theorem withoutSignature_wellFormed {envelope provenance : List (Key × Value)}
    (stated : (Value.dict envelope).WellFormed)
    (has : Value.lookup (key "provenance") envelope = some (.dict provenance)) :
    (withoutSignature envelope provenance).WellFormed :=
  Value.wellFormed_setMember stated (Value.wellFormed_without (Value.wellFormed_lookup stated has) _)

end Unsigned

/-- A text that verifies carries the payload that was expected. -/
theorem jwsVerify_payload {jws : PyStr} {expected payload : Bytes}
    (verified : jwsVerify loads directory jws expected = .ok payload) :
    ∃ seg1 seg2 seg3, jws.splitOn (.scalar '.') = [seg1, seg2, seg3] ∧ b64uDecode seg2 = .ok expected := by
  unfold jwsVerify at verified
  split at verified
  case h_1 seg1 seg2 seg3 split =>
    obtain ⟨_, _, verified⟩ := Result.bind_ok.mp verified
    obtain ⟨_, _, verified⟩ := Result.bind_ok.mp verified
    obtain ⟨_, _, verified⟩ := Result.bind_ok.mp verified
    obtain ⟨_, _, verified⟩ := Result.bind_ok.mp verified
    obtain ⟨_, decoded, verified⟩ := Result.bind_ok.mp verified
    obtain ⟨_, equal, _⟩ := Result.bind_ok.mp verified
    rw [Result.require_ok, decide_eq_true_iff] at equal
    exact ⟨seg1, seg2, seg3, split, equal ▸ decoded⟩
  case h_2 => cases verified

/-- An accepted envelope: its signature text verifies against its unsigned
form. -/
theorem verifyEnvelope_ok {expected : Option PyStr} {envelope : List (Key × Value)} {resource : Value}
    (accepted : verifyEnvelope loads directory expected true (.dict envelope) = .ok resource)
    {provenance : List (Key × Value)} {signature : PyStr}
    (has : Value.lookup (key "provenance") envelope = some (.dict provenance))
    (signed : Value.lookup (key "signature") provenance = some (.str signature)) :
    ∃ payload, Jcs.canonicalizeBytes (withoutSignature envelope provenance) = .ok payload ∧
      ∃ decoded, jwsVerify loads directory signature payload = .ok decoded := by
  rw [verifyEnvelope] at accepted
  obtain ⟨_, _, accepted⟩ := Result.bind_ok.mp accepted
  obtain ⟨_, _, accepted⟩ := Result.bind_ok.mp accepted
  obtain ⟨_, _, accepted⟩ := Result.bind_ok.mp accepted
  obtain ⟨_, _, accepted⟩ := Result.bind_ok.mp accepted
  obtain ⟨_, _, accepted⟩ := Result.bind_ok.mp accepted
  obtain ⟨found, provenances, accepted⟩ := Result.bind_ok.mp accepted
  rw [provenanceOf, has] at provenances
  obtain rfl := Except.ok.inj provenances
  obtain ⟨_, checked, _⟩ := Result.bind_ok.mp accepted
  rw [checkSignature, signed] at checked
  dsimp only at checked
  split at checked
  case isTrue =>
    obtain ⟨payload, canonical, checked⟩ := Result.bind_ok.mp checked
    obtain ⟨decoded, verified, _⟩ := Result.bind_ok.mp checked
    refine ⟨payload, canonical, decoded, ?_⟩
    cases result : jwsVerify loads directory signature payload with
    | ok => rw [result] at verified; exact verified
    | error problem => rw [result] at verified; cases problem <;> cases verified
  case isFalse => cases checked

end TaxStamps.Envelope
