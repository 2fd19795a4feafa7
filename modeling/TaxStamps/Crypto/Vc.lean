import TaxStamps.Env
import TaxStamps.Library.Radix
import TaxStamps.Python.Base64

/-!
# Verifiable credentials

Data Integrity proofs of the suite eddsa-jcs-2022, as `vc.py` issues and checks
them. The signed message is the hash of the canonical proof options followed by
the hash of the canonical document without its proof.
-/

namespace TaxStamps.Vc

/-- `VC_CONTEXT`. -/
def vcContext : Value := .list [Value.literal "https://www.w3.org/ns/credentials/v2"]

section Base58

/-- The alphabet of base58btc: without zero, capital O, capital I and small l. -/
def b58Alphabet : PyStr := py "123456789ABCDEFGHJKLMNPQRSTUVWXYZabcdefghijkmnopqrstuvwxyz"

/-- The character of a digit. -/
def b58Code (digit : Nat) : Code := b58Alphabet.getD digit (.scalar '1')

/-- `_B58_INDEX`. -/
def b58Index (code : Code) : Option Nat := b58Alphabet.findIdx? (fun other => decide (other = code))

/-- `int.from_bytes(data, "big")`. -/
def bytesNat (data : Bytes) : Nat := data.foldl (fun total byte => total * 256 + byte.toNat) 0

/-- The number of leading zero bytes. -/
def leadingZeros (data : Bytes) : Nat := (data.takeWhile (fun byte => decide (byte = 0))).length

/-- `base58btc_encode`. -/
def base58btcEncode (data : Bytes) : PyStr :=
  List.replicate (leadingZeros data) (b58Code 0) ++ ((Nat.digits 58 (bytesNat data)).reverse.map b58Code)

/-- The loop over the characters of `base58btc_decode`. -/
def b58Number (text : PyStr) (start : Nat) : Option Nat :=
  match text with
  | [] => some start
  | code :: rest => match b58Index code with
    | none => none
    | some digit => b58Number rest (start * 58 + digit)

/-- `num.bit_length()`. -/
def bitLength (number : Nat) : Nat := if number = 0 then 0 else number.log2 + 1

/-- The last bytes of a number, most significant first. -/
def lowBytes : Nat → Nat → Bytes
  | 0, _ => []
  | length + 1, number => lowBytes length (number / 256) ++ [UInt8.ofNat (number % 256)]

/-- `num.to_bytes(length, "big")`. -/
def toBytes (number length : Nat) : Result Bytes :=
  if number < 256 ^ length then .ok (lowBytes length number) else .error .overflowError

/-- `base58btc_decode`. -/
def base58btcDecode (text : PyStr) : Result Bytes :=
  match b58Number text 0 with
  | none => .error (.vcError (py "malformed-proof"))
  | some number => do
    let body ← if number = 0 then .ok [] else toBytes number ((bitLength number + 7) / 8)
    .ok (List.replicate (text.takeWhile (fun code => decide (code = b58Code 0))).length 0 ++ body)

section Bytes

variable {number length : Nat}

/-- As many bytes as a number has digits in base 256 are these digits. -/
theorem lowBytes_digits (width : (Nat.digits 256 number).length = length) :
    lowBytes length number = (Nat.digits 256 number).reverse.map UInt8.ofNat := by
  induction length generalizing number with
  | zero =>
    rw [List.eq_nil_of_length_eq_zero width]
    rfl
  | succ length inductionHypothesis =>
    have positive : 0 < number := by
      rw [Nat.pos_iff_ne_zero]
      rintro rfl
      cases width
    rw [Nat.digits_def' (by omega) positive, List.length_cons] at width
    rw [lowBytes, Nat.digits_def' (by omega) positive, inductionHypothesis (Nat.succ.inj width),
      List.reverse_cons, List.map_append]
    rfl

/-- A number has a byte for every eight bits that it began. -/
theorem bytes_length (nonzero : number ≠ 0) :
    (Nat.digits 256 number).length = (bitLength number + 7) / 8 := by
  rw [bitLength, if_neg nonzero]
  exact Radix.digits_packed (by omega : 0 < 8) nonzero

/-- The length that `base58btc_decode` asks for fits the number. -/
theorem toBytes_length (nonzero : number ≠ 0) :
    toBytes number ((bitLength number + 7) / 8) = .ok ((Nat.digits 256 number).reverse.map UInt8.ofNat) := by
  have width := bytes_length nonzero
  have fits : number < 256 ^ ((bitLength number + 7) / 8) := by
    rw [← width]
    exact Nat.lt_base_pow_length_digits (by omega)
  rw [toBytes, if_pos fits, lowBytes_digits width]

end Bytes

/-- A text of the alphabet is decoded into the bytes of its number behind its leading ones. -/
theorem base58btcDecode_number {text : PyStr} {number : Nat} (read : b58Number text 0 = some number) :
    base58btcDecode text =
      .ok (List.replicate (text.takeWhile (fun code => decide (code = b58Code 0))).length 0 ++
        (Nat.digits 256 number).reverse.map UInt8.ofNat) := by
  rw [base58btcDecode, read]
  dsimp only
  by_cases zero : number = 0
  · rw [if_pos zero, zero, Nat.digits_zero]
    rfl
  · rw [if_neg zero, toBytes_length zero]
    rfl

/-- The index of a digit's character is the digit. -/
theorem b58Index_code : ∀ digit < 58, b58Index (b58Code digit) = some digit := by decide

/-- No other digit has the character of zero. -/
theorem b58Code_zero : ∀ digit < 58, b58Code digit = b58Code 0 → digit = 0 := by decide

/-- The characters of the alphabet can be stored. -/
theorem b58Code_storable : ∀ digit < 58, (b58Code digit).storable = true := by decide

/-- An encoded text is one that every column accepts. -/
theorem base58_storable (data : Bytes) : (base58btcEncode data).all Code.storable = true := by
  rw [base58btcEncode, List.all_append, Bool.and_eq_true]
  constructor
  · rw [List.all_eq_true]
    intro code member
    rw [(List.mem_replicate.mp member).2]
    exact b58Code_storable 0 (by omega)
  · rw [List.all_map, List.all_reverse, List.all_eq_true]
    intro digit member
    exact b58Code_storable digit (Nat.digits_lt_base (by omega) member)

/-- Characters of digits are read as the number that the digits are. -/
theorem b58Number_codes (digits : List Nat) (bounded : ∀ digit ∈ digits, digit < 58) (start : Nat) :
    b58Number (digits.map b58Code) start =
      some (digits.foldl (fun total digit => total * 58 + digit) start) := by
  induction digits generalizing start with
  | nil => rfl
  | cons digit rest inductionHypothesis =>
    rw [List.map_cons, b58Number, b58Index_code digit (bounded digit List.mem_cons_self),
      List.foldl_cons]
    exact inductionHypothesis (fun other member => bounded other (List.mem_cons_of_mem _ member)) _

/-- The number of a byte string is the number of its bytes as digits. -/
theorem bytesNat_number (data : Bytes) : bytesNat data = Radix.number 256 (data.map UInt8.toNat) := by
  rw [bytesNat, Radix.number, List.foldl_map]

/-- The leading zero bytes are the leading zeros of the numeral. -/
theorem leadingZeros_leading (data : Bytes) :
    leadingZeros data = Radix.leading (data.map UInt8.toNat) := by
  have zero_iff : ∀ byte : UInt8, decide (byte = 0) = decide (byte.toNat = 0) := by
    intro byte
    rw [decide_eq_decide, ← UInt8.toNat_inj]
    rfl
  rw [leadingZeros, Radix.leading, List.takeWhile_map, List.length_map]
  simp only [zero_iff]
  rfl

/-- An encoded text is the digits of the bytes in base 58. -/
theorem base58btcEncode_spell (data : Bytes) : base58btcEncode data =
    (Radix.spell 58 (leadingZeros data) (bytesNat data)).map b58Code := by
  rw [base58btcEncode, Radix.spell, List.map_append, List.map_replicate]

/-- Digits in base 58 are decoded into the bytes of the number they denote. -/
theorem base58btcDecode_codes (digits : List Nat) (bounded : ∀ digit ∈ digits, digit < 58) :
    base58btcDecode (digits.map b58Code) =
      .ok ((Radix.spell 256 (Radix.leading digits) (Radix.number 58 digits)).map UInt8.ofNat) := by
  have ones : ((digits.map b58Code).takeWhile (fun code => decide (code = b58Code 0))).length =
      Radix.leading digits := by
    have zero_iff : ∀ digit ∈ digits, decide (b58Code digit = b58Code 0) = decide (digit = 0) := by
      intro digit member
      rw [decide_eq_decide]
      exact ⟨b58Code_zero digit (bounded digit member), fun same => by rw [same]⟩
    rw [List.takeWhile_map, List.length_map, Radix.leading]
    clear bounded
    induction digits with
    | nil => rfl
    | cons digit rest inductionHypothesis =>
      have tail := inductionHypothesis (fun other member => zero_iff other (List.mem_cons_of_mem _ member))
      simp only [List.takeWhile_cons, Function.comp_apply, zero_iff digit List.mem_cons_self]
      split
      · rw [List.length_cons, List.length_cons, tail]
      · rfl
  rw [base58btcDecode_number (b58Number_codes digits bounded 0), ones, Radix.spell, List.map_append, List.map_replicate]
  rfl

/-- Decoding an encoded byte string. -/
theorem base58_restores (data : Bytes) : base58btcDecode (base58btcEncode data) = .ok data := by
  have bytes : ∀ digit ∈ data.map UInt8.toNat, digit < 256 := by
    intro digit member
    obtain ⟨byte, _, rfl⟩ := List.mem_map.mp member
    exact byte.toNat_lt
  have restored : UInt8.ofNat ∘ UInt8.toNat = id := funext fun byte => UInt8.ofNat_toNat
  rw [base58btcEncode_spell, base58btcDecode_codes _ (Radix.spell_bounded (by omega)),
    Radix.leading_spell, Radix.number_spell, leadingZeros_leading, bytesNat_number,
    Radix.spell_number (by omega) bytes, List.map_map, restored, List.map_id]

end Base58

/-- `_hash_data`. -/
def hashData (env : Env) (document options : List (Key × Value)) : Result Bytes := do
  let optionBytes ← Jcs.canonicalizeBytes (.dict options)
  let documentBytes ← Jcs.canonicalizeBytes (.dict document)
  .ok (env.sha256 optionBytes ++ env.sha256 documentBytes)

/-- The proof's members without the proof value. -/
def proofOptions (verificationMethod created : PyStr) : List (Key × Value) :=
  [(key "type", Value.literal "DataIntegrityProof"),
    (key "cryptosuite", Value.literal "eddsa-jcs-2022"),
    (key "created", .str created),
    (key "verificationMethod", .str verificationMethod),
    (key "proofPurpose", Value.literal "assertionMethod")]

/-- `issue_proof`. -/
def issueProof (env : Env) (document : List (Key × Value)) (verificationMethod created : PyStr) :
    Result (List (Key × Value)) :=
  if (Value.lookup (key "proof") document).isSome then .error (.vcError (py "already-signed"))
  else do
    let message ← hashData env document (proofOptions verificationMethod created)
    let proof := proofOptions verificationMethod created ++
      [(key "proofValue", .str (.scalar 'z' :: base58btcEncode (env.sign message)))]
    .ok (document ++ [(key "proof", .dict proof)])

/-- The members every proof must have. -/
def requiredMembers : List String :=
  ["type", "cryptosuite", "created", "verificationMethod", "proofPurpose", "proofValue"]

/-- `value == text`. -/
def isText (text : String) : Option Value → Bool
  | some (.str value) => decide (value = py text)
  | _ => false

/-- The proof value after its multibase prefix. -/
def multibase : Option Value → Option PyStr
  | some (.str (.scalar 'z' :: text)) => some text
  | _ => none

/-- `verify_proof`. -/
def verifyProof (env : Env) (document : List (Key × Value)) : Result Unit :=
  match Value.lookup (key "proof") document with
  | some (.dict proof) =>
    if !requiredMembers.all (fun name => (Value.lookup (key name) proof).isSome) then
      .error (.vcError (py "malformed-proof"))
    else if !isText "DataIntegrityProof" (Value.lookup (key "type") proof) then
      .error (.vcError (py "unsupported-proof-type"))
    else if !isText "eddsa-jcs-2022" (Value.lookup (key "cryptosuite") proof) then
      .error (.vcError (py "unsupported-cryptosuite"))
    else match multibase (Value.lookup (key "proofValue") proof) with
      | none => .error (.vcError (py "malformed-proof"))
      | some text => do
        let signature ← base58btcDecode text
        match hashData env (Value.without (py "proof") document)
            (Value.without (py "proofValue") proof) with
        | .error _ => .error (.vcError (py "invalid-proof"))
        | .ok message =>
          if env.verify signature message then .ok () else .error (.vcError (py "invalid-proof"))
  | _ => .error (.vcError (py "missing-proof"))

/-- `build_stamp_credential`. -/
def buildStampCredential (credentialId issuerDid serial hsCode declarationRef consigneeTin : PyStr)
    (dutyPaidKobo : Int) (validFrom validUntil : PyStr) (statusEntries : List Value) :
    List (Key × Value) :=
  [(key "@context", vcContext),
    (key "id", .str credentialId),
    (key "type", .list [Value.literal "VerifiableCredential", Value.literal "ExciseTaxStamp"]),
    (key "issuer", .str issuerDid),
    (key "validFrom", .str validFrom),
    (key "validUntil", .str validUntil),
    (key "credentialSubject", .dict
      [(key "id", .str (credentialId ++ py "#stamp")),
        (key "serial", .str serial),
        (key "hsCode", .str hsCode),
        (key "declarationRef", .str declarationRef),
        (key "consigneeTin", .str consigneeTin),
        (key "dutyPaidKobo", .int dutyPaidKobo)]),
    (key "credentialStatus", .list statusEntries)]

end TaxStamps.Vc
