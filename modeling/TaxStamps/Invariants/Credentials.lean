import TaxStamps.Invariants.Mirror

/-!
# The credential of a stamp

The stored credential of every stamp is JSON-equal to the signed document that
was built for it, so it verifies, names the stamp's serial, and its status
entries point to the stamp's own bit in each list. The offline check of it fails
exactly when one of these bits is published.
-/

namespace TaxStamps

open Api StatusLists

variable {env : Env}

section Numbers

variable {tables : Unicode}

/-- The ten digits are decimal. -/
theorem digit_decoded : ∀ value < 10, tables.decimal (Code.digit value) = some value := by
  intro value small
  obtain ⟨_, char, same, ascii, _⟩ := Serials.digit_check value small
  rw [same, tables.decimal_ascii char ascii, ← same]
  exact Code.digit_value value small

/-- A digit is nothing that `int` skips. -/
theorem digit_kept : ∀ value < 10, Verify.skipped tables (Code.digit value) = false := by
  intro value small
  rw [Code.digit, Verify.skipped]
  interval_cases value <;> rfl

/-- A run of digits is read as an integer literal. -/
theorem literalDigits_digits (digits : List Nat) (small : ∀ digit ∈ digits, digit < 10) :
    Verify.literalDigits tables true (digits.map Code.digit) = some digits := by
  induction digits with
  | nil => rfl
  | cons digit rest inductionHypothesis =>
    rw [List.map_cons, Verify.literalDigits, digit_decoded digit (small digit List.mem_cons_self)]
    dsimp only
    rw [inductionHypothesis (fun other member => small other (List.mem_cons_of_mem _ member))]
    rfl

/-- The digits a number is written in. -/
theorem decimal_written (number : Nat) : ∃ first rest,
    PyStr.decimal number = (first :: rest).map Code.digit ∧ (∀ digit ∈ first :: rest, digit < 10) ∧
      (first :: rest).foldl (fun total digit => 10 * total + digit) 0 = number := by
  by_cases zero : number = 0
  · subst zero
    exact ⟨0, [], rfl, by simp, rfl⟩
  · have small : ∀ digit ∈ (Nat.digits 10 number).reverse, digit < 10 := fun digit member =>
      Nat.digits_lt_base (by omega) (List.mem_reverse.mp member)
    have value : (Nat.digits 10 number).reverse.foldl (fun total digit => 10 * total + digit) 0 = number := by
      have folded := Radix.foldl_ofDigits 10 (Nat.digits 10 number)
      rw [Nat.ofDigits_digits] at folded
      simpa only [Nat.mul_comm 10] using folded
    have text : PyStr.decimal number = (Nat.digits 10 number).reverse.map Code.digit := if_neg zero
    cases digits : (Nat.digits 10 number).reverse with
    | nil =>
      rw [digits] at value
      exact absurd value.symm zero
    | cons first rest =>
      rw [digits] at small value text
      exact ⟨first, rest, text, small, value⟩

/-- `int(str(number))`. -/
theorem intOf_decimal {number : Nat} (bounded : number < defaultListSizeBits) :
    Verify.intOf tables (.str (PyStr.decimal number)) = .ok (number : Int) := by
  obtain ⟨first, rest, text, small, value⟩ := decimal_written number
  have kept : ∀ code ∈ PyStr.decimal number, Verify.skipped tables code = false := by
    intro code member
    rw [text] at member
    obtain ⟨digit, present, rfl⟩ := List.mem_map.mp member
    exact digit_kept digit (small digit present)
  have short : (first :: rest).length ≤ 4300 := by
    have length := Serials.decimal_length (by omega : 0 < 6)
      (Nat.lt_of_lt_of_le bounded (by decide : defaultListSizeBits ≤ 10 ^ 6))
    rw [text, List.length_map] at length
    omega
  have unsigned : ∀ digit < 10, Code.digit digit ≠ .scalar '-' ∧ Code.digit digit ≠ .scalar '+' := by
    decide
  have read : Verify.literalDigits tables false ((first :: rest).map Code.digit) = some (first :: rest) := by
    rw [List.map_cons, Verify.literalDigits, digit_decoded first (small first List.mem_cons_self)]
    dsimp only
    rw [literalDigits_digits rest (fun digit member => small digit (List.mem_cons_of_mem _ member))]
    rfl
  rw [Verify.intOf, Verify.intOfText, PyStr.trim_fixed kept, text]
  have signless : Verify.literalSign ((first :: rest).map Code.digit) =
      (1, (first :: rest).map Code.digit) := by
    rw [List.map_cons]
    unfold Verify.literalSign
    split
    case _ tail same => exact absurd (List.cons.inj same).1 (unsigned first (small first List.mem_cons_self)).1
    case _ tail same => exact absurd (List.cons.inj same).1 (unsigned first (small first List.mem_cons_self)).2
    case _ => rfl
  rw [signless, read]
  dsimp only
  rw [if_neg (by omega), value, Int.one_mul]

end Numbers

section Documents

/-- The characters of a serial can be stored. -/
theorem serialCode_storable {code : Code} (stated : Serials.serialCode code = true) :
    code.storable = true := by
  cases code with
  | lone offset => cases stated
  | scalar char =>
    rw [Code.storable, decide_eq_true_iff]
    intro zero
    have same : char = Char.ofNat 0 := by
      rw [← zero]
      exact (Char.ofNat_toNat char).symm
    rw [same] at stated
    cases stated

/-- The subject of a stamp's credential. -/
def subjectOf (env : Env) (chunk : Issuance.Chunk) (serial : PyStr) : List (Key × Value) :=
  [(key "id", .str (env.settings.issuerDid ++ py "/credentials/" ++ serial ++ py "#stamp")),
    (key "serial", .str serial),
    (key "hsCode", .str chunk.hsCode),
    (key "declarationRef", .str chunk.declarationRef),
    (key "consigneeTin", .str chunk.consigneeTin),
    (key "dutyPaidKobo", .int chunk.dutyPaidKobo)]

/-- The status entries of a stamp's credential. -/
def entriesFor (env : Env) (index : Nat) : List Value :=
  purposes.map (fun purpose => .dict
    (StatusList.statusEntry (listCredentialId env.settings purpose) index purpose))

/-- An amount in a canonical document is in the safe range. -/
theorem duty_safe {chunk : Issuance.Chunk} {serial : PyStr} {index : Nat} {signed : List (Key × Value)}
    {verificationMethod created : PyStr}
    (issued : Vc.issueProof env (Issuance.stampDocument env chunk serial index) verificationMethod
      created = .ok signed) : chunk.dutyPaidKobo.natAbs ≤ Jcs.maxSafeInteger.natAbs := by
  obtain ⟨_, message, hashed, _⟩ := Vc.issueProof_ok issued
  obtain ⟨_, _, hashed⟩ := Result.bind_ok.mp hashed
  obtain ⟨bytes, canonical, _⟩ := Result.bind_ok.mp hashed
  obtain ⟨text, encoded, _⟩ := Result.bind_ok.mp canonical
  have present : Value.lookup (key "credentialSubject") (Issuance.stampDocument env chunk serial index) =
      some (.dict (subjectOf env chunk serial)) := rfl
  have subject := (Jcs.encodeDict_ok encoded).2 _ (Value.mem_of_lookup present)
  have stated : Value.lookup (key "dutyPaidKobo") (subjectOf env chunk serial) =
      some (.int chunk.dutyPaidKobo) := rfl
  have duty := (Jcs.encodeDict_ok subject).2 _ (Value.mem_of_lookup stated)
  by_contra beyond
  simp only [Jcs.encode, Jcs.encodeInt, beyond, if_false] at duty
  split at duty
  · cases duty
  · cases duty

/-- A status entry with storable texts is plain. -/
theorem statusEntry_plain {listId purpose : PyStr} {index : Nat}
    (listStorable : listId.all Code.storable = true) (purposeStorable : purpose.all Code.storable = true) :
    (Value.dict (StatusList.statusEntry listId index purpose)).plain = true := by
  have entryId : (listId ++ py "#" ++ PyStr.decimal index).all Code.storable = true := by
    simp only [List.all_append, listStorable, PyStr.decimal_storable, Bool.and_true]
    decide
  simp only [StatusList.statusEntry, Value.plain, Value.plainMembers, Value.literal, listStorable,
    purposeStorable, entryId, PyStr.decimal_storable, Bool.and_true, List.map_cons, List.map_nil]
  decide

/-- The status entries of a stamp are plain. -/
theorem entries_plain (index : Nat) : Value.plainItems (entriesFor env index) = true := by
  rw [Value.plainItems_iff]
  intro entry member
  obtain ⟨purpose, known, rfl⟩ := List.mem_map.mp member
  exact statusEntry_plain (listCredentialId_storable env.settings (purpose_storable known))
    (purpose_storable known)

/-- The document of a stamp is plain. -/
theorem stampDocument_plain {chunk : Issuance.Chunk} {serial : PyStr} {index : Nat}
    (serialStorable : serial.all Code.storable = true)
    (hsCode : chunk.hsCode.all Code.storable = true)
    (reference : chunk.declarationRef.all Code.storable = true)
    (tin : chunk.consigneeTin.all Code.storable = true)
    (duty : chunk.dutyPaidKobo.natAbs ≤ Jcs.maxSafeInteger.natAbs) :
    (Value.dict (Issuance.stampDocument env chunk serial index)).plain = true := by
  have credentialId : (env.settings.issuerDid ++ py "/credentials/" ++ serial).all Code.storable = true := by
    simp only [List.all_append, env.settings.issuerDid_storable, serialStorable, Bool.and_true]
    decide
  have subjectId : (env.settings.issuerDid ++ py "/credentials/" ++ serial ++ py "#stamp").all
      Code.storable = true := by
    rw [List.all_append, credentialId]
    decide
  have entries : Value.plainItems (Issuance.statusPurposes.map (fun purpose => .dict
      (StatusList.statusEntry (listCredentialId env.settings purpose) index purpose))) = true :=
    entries_plain index
  simp only [Issuance.stampDocument, Vc.buildStampCredential, Vc.vcContext, Value.plain,
    Value.plainItems, Value.plainMembers, Value.literal, env.settings.issuerDid_storable, credentialId,
    subjectId, serialStorable, hsCode, reference, tin, duty, entries, Datetime.isoSeconds_storable,
    Bool.and_true, decide_true, List.map_cons, List.map_nil]
  decide

end Documents

/-- The credential a stamp holds: JSON-equal to the document signed for it. -/
structure Credential (env : Env) (stamp : Stamp) where
  time : Datetime
  chunk : Issuance.Chunk
  signed : List (Key × Value)
  members : List (Key × Value)
  held : stamp.credential = .dict members
  issued : Vc.issueProof env (Issuance.stampDocument env chunk stamp.serial stamp.statusListIndex)
    (verificationMethod env.settings) (Datetime.isoSeconds time) = .ok signed
  plain : (Value.dict (Issuance.stampDocument env chunk stamp.serial stamp.statusListIndex)).plain = true
  same : (Value.dict members).JsonEq (.dict signed)
  wellFormed : (Value.dict members).WellFormed

namespace Credential

/-- A text that fits a column can be stored. -/
theorem fits_storable {length : Nat} {text : PyStr} (fits : PyStr.fits length text = true) :
    text.all Code.storable = true := by
  rw [PyStr.fits, Bool.and_eq_true] at fits
  exact fits.2

/-- Every stamp of a run holds its credential, issued for its HS code. -/
theorem of_issue {stamp : Stamp} (documented : Stamps.Documented env stamp) :
    ∃ credential : Credential env stamp, credential.chunk.hsCode = stamp.hsCode := by
  obtain ⟨time, chunk, _, fresh⟩ := documented
  obtain ⟨signed, issued, stored⟩ := fresh.credential
  obtain ⟨sequence, numbered⟩ := fresh.numbered
  have serialStorable : stamp.serial.all Code.storable = true := by
    rw [List.all_eq_true]
    exact fun code member => serialCode_storable ((Serials.buildSerial_codes numbered).1 code member)
  have hsCode := fits_storable fresh.accepted.hsCode_fits
  have reference := fits_storable fresh.accepted.reference_fits
  have tin := fits_storable fresh.accepted.tin_fits
  rw [fresh.hsCode] at hsCode
  rw [fresh.reference] at reference
  rw [fresh.consignee] at tin
  have plain : (Value.dict (Issuance.stampDocument env chunk stamp.serial stamp.statusListIndex)).plain =
      true := stampDocument_plain serialStorable hsCode reference tin (duty_safe issued)
  have signedPlain := Vc.signed_plain issued plain (verificationMethod_storable env.settings)
    (Datetime.isoSeconds_storable time)
  obtain ⟨same, wellFormed⟩ := env.jsonb_restores _ _ (Value.plain_wellFormed signedPlain) stored
  obtain ⟨members, held, _⟩ := Value.denote_obj same
  have kept : stamp.credential = .dict members := held
  rw [held] at same wellFormed
  exact ⟨⟨time, chunk, signed, members, kept, issued, plain, same, wellFormed⟩, fresh.hsCode.symm⟩

/-- A documented stamp has a credential. -/
theorem of_documented {stamp : Stamp} (documented : Stamps.Documented env stamp) :
    Nonempty (Credential env stamp) :=
  ⟨(of_issue documented).choose⟩

variable {stamp : Stamp}

/-- The stored credential verifies. -/
theorem verifies (credential : Credential env stamp) : Vc.verifyProof env credential.members = .ok () :=
  Vc.stored_verifies credential.issued credential.plain (verificationMethod_storable env.settings)
    (Datetime.isoSeconds_storable credential.time) credential.wellFormed credential.same

/-- What a member of the document looks up in the signed document. -/
theorem lookup_signed (credential : Credential env stamp) {name : String} {value : Value}
    (present : Value.lookup (key name)
      (Issuance.stampDocument env credential.chunk stamp.serial stamp.statusListIndex) = some value) :
    Value.lookup (key name) credential.signed = some value := by
  obtain ⟨_, _, _, signed⟩ := Vc.issueProof_ok credential.issued
  rw [signed, Value.lookup_append, present]
  rfl

/-- The subject of the stored credential. -/
theorem subject (credential : Credential env stamp) : ∃ members,
    Value.lookup (key "credentialSubject") credential.members = some (.dict members) ∧
      (Value.dict members).JsonEq (.dict (subjectOf env credential.chunk stamp.serial)) := by
  have signed : Value.lookup (key "credentialSubject") credential.signed =
      some (.dict (subjectOf env credential.chunk stamp.serial)) := credential.lookup_signed rfl
  obtain ⟨subject, present, equal⟩ := Value.lookup_stored credential.same signed
  obtain ⟨members, rfl, _⟩ := Value.denote_obj equal
  exact ⟨members, present, equal⟩

/-- The stored credential names the stamp's serial. -/
theorem names (credential : Credential env stamp) :
    Verify.subjectSerial credential.members = .ok (some (.str stamp.serial)) := by
  obtain ⟨members, present, equal⟩ := credential.subject
  have serial : Value.lookup (key "serial") members = some (.str stamp.serial) :=
    Value.lookup_stored_text equal rfl
  rw [Verify.subjectSerial, present]
  simp only [Option.getD_some, Value.get?, serial]

/-- The stored status entries are JSON-equal to the entries that were signed. -/
theorem entries (credential : Credential env stamp) : ∃ items,
    Value.lookup (key "credentialStatus") credential.members = some (.list items) ∧
      items.map Value.denote = (entriesFor env stamp.statusListIndex).map Value.denote := by
  have signed : Value.lookup (key "credentialStatus") credential.signed =
      some (.list (entriesFor env stamp.statusListIndex)) := credential.lookup_signed rfl
  obtain ⟨stored, present, equal⟩ := Value.lookup_stored credential.same signed
  rw [Value.JsonEq, Value.denote, Value.denoteItems_map] at equal
  obtain ⟨items, rfl, same⟩ := Value.denote_arr (Value.wellFormed_lookup credential.wellFormed present) equal
  exact ⟨items, present, same⟩

end Credential

end TaxStamps
