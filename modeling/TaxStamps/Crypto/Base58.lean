import TaxStamps.Crypto.VcProofs

/-!
# The bijection of base58btc

Byte strings and texts over the 58 characters are both digits with leading zeros,
and base58btc keeps the zeros and the number. So encoding and decoding are inverse
to each other, every other text is refused, and an accepted proof value is the
only spelling of its signature.
-/

namespace TaxStamps.Vc

section Base58

variable {text : PyStr}

/-- Each of the 58 characters is that of a digit. -/
theorem b58Index_known : ∀ code ∈ b58Alphabet, ∃ digit < 58, b58Code digit = code := by decide +kernel

/-- A character outside the alphabet has no index. -/
theorem b58Index_none {code : Code} (foreign : code ∉ b58Alphabet) : b58Index code = none := by
  rw [b58Index, List.findIdx?_eq_none_iff]
  intro other listed
  rw [decide_eq_false_iff_not]
  rintro rfl
  exact foreign listed

/-- A text over the alphabet is a list of digits. -/
theorem b58_digits (listed : ∀ code ∈ text, code ∈ b58Alphabet) :
    ∃ digits : List Nat, (∀ digit ∈ digits, digit < 58) ∧ text = digits.map b58Code := by
  induction text with
  | nil => exact ⟨[], by simp, rfl⟩
  | cons code rest inductionHypothesis =>
    obtain ⟨digit, small, rfl⟩ := b58Index_known code (listed code List.mem_cons_self)
    obtain ⟨digits, bounded, rfl⟩ := inductionHypothesis
      (fun other member => listed other (List.mem_cons_of_mem _ member))
    refine ⟨digit :: digits, ?_, rfl⟩
    intro other member
    rcases List.mem_cons.mp member with rfl | later
    · exact small
    · exact bounded other later

/-- A text over the alphabet is decoded, and encoding gives it back. -/
theorem base58_encodes (listed : ∀ code ∈ text, code ∈ b58Alphabet) :
    ∃ data, base58btcDecode text = .ok data ∧ base58btcEncode data = text := by
  obtain ⟨digits, bounded, rfl⟩ := b58_digits listed
  refine ⟨_, base58btcDecode_codes digits bounded, ?_⟩
  have restored : ((Radix.spell 256 (Radix.leading digits) (Radix.number 58 digits)).map UInt8.ofNat).map
      UInt8.toNat = Radix.spell 256 (Radix.leading digits) (Radix.number 58 digits) := by
    have each : ∀ digit ∈ Radix.spell 256 (Radix.leading digits) (Radix.number 58 digits),
        (UInt8.toNat ∘ UInt8.ofNat) digit = digit := by
      intro digit member
      have small : digit < 256 := Radix.spell_bounded (by omega) digit member
      exact Nat.mod_eq_of_lt small
    rw [List.map_map, List.map_congr_left each, List.map_id']
  rw [base58btcEncode_spell, leadingZeros_leading, bytesNat_number, restored, Radix.leading_spell,
    Radix.number_spell, Radix.spell_number (by omega) bounded]

/-- A text with a character outside the alphabet is refused. -/
theorem base58_refuses (foreign : ¬ ∀ code ∈ text, code ∈ b58Alphabet) :
    base58btcDecode text = .error (.vcError (py "malformed-proof")) := by
  have unread : ∀ start, b58Number text start = none := by
    induction text with
    | nil => exact absurd (fun code member => absurd member List.not_mem_nil) foreign
    | cons code rest inductionHypothesis =>
      intro start
      rw [b58Number]
      by_cases known : code ∈ b58Alphabet
      · obtain ⟨digit, small, rfl⟩ := b58Index_known code known
        rw [b58Index_code digit small]
        apply inductionHypothesis
        intro listed
        apply foreign
        intro other member
        rcases List.mem_cons.mp member with rfl | later
        · exact known
        · exact listed other later
      · rw [b58Index_none known]
  rw [base58btcDecode, unread 0]

/-- Two texts that are decoded into the same bytes are the same text. -/
theorem base58_unique {other : PyStr} {data : Bytes} (decoded : base58btcDecode text = .ok data)
    (otherDecoded : base58btcDecode other = .ok data) : text = other := by
  have encoded : ∀ {spelled : PyStr}, base58btcDecode spelled = .ok data → base58btcEncode data = spelled := by
    intro spelled accepted
    by_cases listed : ∀ code ∈ spelled, code ∈ b58Alphabet
    · obtain ⟨bytes, same, restored⟩ := base58_encodes listed
      rw [← Except.ok.inj (same.symm.trans accepted), restored]
    · rw [base58_refuses listed] at accepted
      cases accepted
  exact (encoded decoded).symm.trans (encoded otherDecoded)

end Base58

/-- base58btc is a bijection between the byte strings and the texts over its
alphabet, every other text is refused, and no two accepted proof values carry the
same signature. -/
theorem base58_bijection (env : Env) :
    (∀ data, base58btcDecode (base58btcEncode data) = .ok data) ∧
    (∀ text : PyStr, (∀ code ∈ text, code ∈ b58Alphabet) →
      ∃ data, base58btcDecode text = .ok data ∧ base58btcEncode data = text) ∧
    (∀ text : PyStr, (¬ ∀ code ∈ text, code ∈ b58Alphabet) →
      base58btcDecode text = .error (.vcError (py "malformed-proof"))) ∧
    ∀ document other proof otherProof proofValue otherValue signature,
      verifyProof env document = .ok () → verifyProof env other = .ok () →
      Value.lookup (key "proof") document = some (.dict proof) →
      Value.lookup (key "proof") other = some (.dict otherProof) →
      Value.lookup (key "proofValue") proof = some (.str proofValue) →
      Value.lookup (key "proofValue") otherProof = some (.str otherValue) →
      base58btcDecode (proofValue.drop 1) = .ok signature →
      base58btcDecode (otherValue.drop 1) = .ok signature → proofValue = otherValue := by
  refine ⟨base58_restores, fun text => base58_encodes, fun text => base58_refuses, ?_⟩
  intro document other proof otherProof proofValue otherValue signature verified otherVerified carries
    otherCarries valued otherValued decoded otherDecoded
  have prefixed : ∀ {document proof : List (Key × Value)} {proofValue : PyStr},
      verifyProof env document = .ok () → Value.lookup (key "proof") document = some (.dict proof) →
      Value.lookup (key "proofValue") proof = some (.str proofValue) →
      ∃ text, proofValue = .scalar 'z' :: text := by
    intro document proof proofValue verified carries valued
    obtain ⟨accepted⟩ := accepted_of_verifies verified
    have same := accepted.carries.symm.trans carries
    simp only [Option.some.injEq, Value.dict.injEq] at same
    have stated := accepted.valued
    rw [same, valued] at stated
    simp only [Option.some.injEq, Value.str.injEq] at stated
    exact ⟨accepted.proofValue, stated⟩
  obtain ⟨text, rfl⟩ := prefixed verified carries valued
  obtain ⟨otherText, rfl⟩ := prefixed otherVerified otherCarries otherValued
  have same : text = otherText := base58_unique decoded otherDecoded
  rw [same]

/-- A text of the alphabet decodes, and encodes back to itself. -/
theorem base58_bijection_sample :
    ∃ data, base58btcDecode (py "2NEpo7TZRRrLZSi2U") = .ok data ∧
      base58btcEncode data = py "2NEpo7TZRRrLZSi2U" :=
  (base58_bijection .sample).2.1 _ (by decide)

end TaxStamps.Vc
