import Mathlib.Data.Nat.Bitwise
import TaxStamps.Crypto.VcProofs

/-!
# Bitstring status lists

A list is a byte string of a fixed number of bits; bit `i` is bit `7 - i % 8` of
byte `i / 8`. It is published as a signed credential whose `encodedList` is the
base64url of the compressed bytes. A published list that went through the JSONB
column is parsed back to the list that was published.
-/

namespace TaxStamps

/-- `DEFAULT_LIST_SIZE_BITS`. -/
def defaultListSizeBits : Nat := 131072

/-- `PURPOSES`. -/
def purposes : List PyStr := [py "void", py "expired", py "suspect"]

/-- A bitstring of a positive whole number of bytes. -/
structure StatusList where
  sizeBits : Nat
  bits : Bytes
  positive : 0 < sizeBits
  aligned : sizeBits % 8 = 0
  sized : bits.length = sizeBits / 8

namespace StatusList

/-- `StatusList(size_bits, data)`. -/
def make (sizeBits : Int) (data : Option Bytes) : Result StatusList :=
  if valid : 0 < sizeBits.toNat ∧ sizeBits.toNat % 8 = 0 then
    match data with
    | none => .ok ⟨sizeBits.toNat, List.replicate (sizeBits.toNat / 8) 0, valid.1, valid.2, by simp⟩
    | some bytes =>
      if sized : bytes.length = sizeBits.toNat / 8 then
        .ok ⟨sizeBits.toNat, bytes, valid.1, valid.2, sized⟩
      else .error (.statusListError (py "invalid-size"))
  else .error (.statusListError (py "invalid-size"))

/-- `StatusList()`. -/
def empty : StatusList :=
  ⟨defaultListSizeBits, List.replicate (defaultListSizeBits / 8) 0, by decide, by decide, by simp⟩

/-- `1 << (7 - (index % 8))`. -/
def mask (index : Nat) : UInt8 := 1 <<< UInt8.ofNat (7 - index % 8)

/-- The bit at an index. -/
def bit (list : StatusList) (index : Nat) : Bool :=
  decide (list.bits.getD (index / 8) 0 &&& mask index ≠ 0)

/-- `_check_index`. -/
def checkIndex (list : StatusList) (index : Int) : Result Unit :=
  if 0 ≤ index ∧ index < list.sizeBits then .ok ()
  else .error (.statusListError (py "index-out-of-range"))

/-- `get`. -/
def get (list : StatusList) (index : Int) : Result Bool := do
  checkIndex list index
  .ok (list.bit index.toNat)

/-- One byte of the list rewritten. -/
def write (list : StatusList) (index : Nat) (value : Bool) : StatusList :=
  { list with
    bits := list.bits.modify (index / 8)
      (fun byte => if value then byte ||| mask index else byte &&& ~~~mask index)
    sized := by rw [List.length_modify, list.sized] }

/-- `set`. -/
def set (list : StatusList) (index : Int) (value : Bool) : Result StatusList := do
  checkIndex list index
  .ok (list.write index.toNat value)

/-- `encode`. -/
def encode (env : Env) (list : StatusList) : PyStr :=
  .scalar 'u' :: Base64.unpadded (env.gzipCompress list.bits)

/-- What is raised for an encoded list that is no list. -/
def malformed : PyError := .statusListError (py "malformed-encoded-list")

/-- `StatusList.decode` of a list of a stated size. -/
def decodeSized (env : Env) (encoded : PyStr) (sizeBits : Int) : Result StatusList :=
  match encoded with
  | .scalar 'u' :: body =>
    if body.contains Base64.pad then .error malformed
    else match Base64.urlsafeB64decode (body ++ Base64.padding body) with
      | none => .error malformed
      | some compressed => match env.gzipDecompress compressed with
        | none => .error malformed
        | some raw => make sizeBits (some raw)
  | _ => .error malformed

/-- `StatusList.decode` with its default size. -/
def decode (env : Env) (encoded : PyStr) : Result StatusList := decodeSized env encoded defaultListSizeBits

section Bits

/-- The mask of an index has its one bit at the index, counted from the left. -/
theorem mask_value (index : Nat) : (mask index).toNat = 2 ^ (7 - index % 8) := by
  have small : index % 8 < 8 := Nat.mod_lt _ (by omega)
  rw [mask]
  generalize index % 8 = offset at small
  interval_cases offset <;> rfl

/-- A byte meets the mask of an index exactly in that index's bit. -/
theorem masked (byte : UInt8) (index : Nat) :
    (byte &&& mask index ≠ 0) ↔ byte.toNat.testBit (7 - index % 8) = true := by
  rw [Ne, ← UInt8.toNat_inj, UInt8.toNat_and, mask_value, Nat.and_two_pow]
  cases byte.toNat.testBit (7 - index % 8) <;> simp

/-- One bit of a byte rewritten. -/
theorem masked_write (byte : UInt8) (index other : Nat) (value : Bool) :
    ((if value then byte ||| mask index else byte &&& ~~~mask index) &&& mask other ≠ 0) ↔
      (if other % 8 = index % 8 then value = true else byte &&& mask other ≠ 0) := by
  have small : index % 8 < 8 := Nat.mod_lt _ (by omega)
  have otherSmall : other % 8 < 8 := Nat.mod_lt _ (by omega)
  have same : 7 - index % 8 = 7 - other % 8 ↔ other % 8 = index % 8 := by omega
  rw [masked, masked]
  cases value with
  | true =>
    rw [if_pos rfl, UInt8.toNat_or, mask_value, Nat.testBit_or, Nat.testBit_two_pow]
    by_cases here : other % 8 = index % 8 <;> simp [here, same]
  | false =>
    have complement : 255 - 2 ^ (7 - index % 8) = 2 ^ 8 - (2 ^ (7 - index % 8) + 1) := by omega
    have bounded : 2 ^ (7 - index % 8) < 2 ^ 8 := Nat.pow_lt_pow_right (by decide) (by omega)
    have width : 7 - other % 8 < 8 := by omega
    rw [if_neg Bool.false_ne_true, UInt8.toNat_and, UInt8.toNat_not, mask_value, Nat.testBit_and,
      show UInt8.size - 1 - 2 ^ (7 - index % 8) = 255 - 2 ^ (7 - index % 8) from rfl, complement,
      Nat.testBit_two_pow_sub_succ bounded, Nat.testBit_two_pow]
    by_cases here : other % 8 = index % 8 <;> simp [here, same, width]

/-- A write sets one bit and no other. -/
theorem bit_written (list : StatusList) {index : Nat} (bounded : index < list.sizeBits) (value : Bool)
    (other : Nat) :
    (list.write index value).bit other = if other = index then value else list.bit other := by
  have inside : index / 8 < list.bits.length := by
    rw [list.sized]
    have aligned := list.aligned
    omega
  rw [bit, bit, write]
  by_cases sameByte : index / 8 = other / 8
  · have otherInside : other / 8 < list.bits.length := sameByte ▸ inside
    have stored : (list.bits.modify (index / 8)
        (fun byte => if value then byte ||| mask index else byte &&& ~~~mask index)).getD (other / 8) 0 =
        if value then list.bits.getD (other / 8) 0 ||| mask index
        else list.bits.getD (other / 8) 0 &&& ~~~mask index := by
      simp [List.getD_eq_getElem?_getD, sameByte, otherInside]
    have split : other = index ↔ other % 8 = index % 8 := by omega
    rw [stored, Bool.eq_iff_iff, decide_eq_true_iff, masked_write]
    by_cases here : other = index
    · simp [here]
    · simp [here, split.not.mp here]
  · have stored : (list.bits.modify (index / 8)
        (fun byte => if value then byte ||| mask index else byte &&& ~~~mask index)).getD (other / 8) 0 =
        list.bits.getD (other / 8) 0 := by
      simp [List.getD_eq_getElem?_getD, sameByte]
    have different : other ≠ index := by
      rintro rfl
      exact sameByte rfl
    rw [stored, if_neg different]

/-- Setting a bit sets that bit and no other. -/
theorem bit_write (list : StatusList) {index : Nat} (bounded : index < list.sizeBits) (other : Nat) :
    (list.write index true).bit other = (decide (other = index) || list.bit other) := by
  rw [bit_written list bounded]
  by_cases same : other = index <;> simp [same]

/-- An empty list has no bit set. -/
@[simp] theorem bit_empty (index : Nat) : empty.bit index = false := by
  have zero : empty.bits.getD (index / 8) 0 = 0 := by
    rw [List.getD_eq_getElem?_getD, empty, List.getElem?_replicate]
    split <;> rfl
  rw [bit, zero]
  simp

/-- A bit that was set lies within the list. -/
theorem set_ok {list result : StatusList} {index : Nat} {value : Bool}
    (done : list.set index value = .ok result) :
    index < list.sizeBits ∧ result = list.write index value := by
  rw [set, checkIndex, Result.bind_ok] at done
  obtain ⟨_, checked, written⟩ := done
  split at checked
  case isTrue inside => exact ⟨by omega, (Except.ok.inj written).symm⟩
  case isFalse => cases checked

/-- A natural index within the list is read as its bit. -/
theorem get_natural {list : StatusList} {index : Nat} (bounded : index < list.sizeBits) :
    list.get index = .ok (list.bit index) := by
  have inside : (0 : Int) ≤ index ∧ (index : Int) < list.sizeBits := by omega
  rw [get, checkIndex, if_pos inside]
  rfl

/-- A natural index within the list is written. -/
theorem set_natural {list : StatusList} {index : Nat} (bounded : index < list.sizeBits) (value : Bool) :
    list.set index value = .ok (list.write index value) := by
  have inside : (0 : Int) ≤ index ∧ (index : Int) < list.sizeBits := by omega
  rw [set, checkIndex, if_pos inside]
  rfl

end Bits

/-- A list is made again from its size and its bytes. -/
theorem make_bits (list : StatusList) : make list.sizeBits (some list.bits) = .ok list := by
  obtain ⟨sizeBits, bits, positive, aligned, sized⟩ := list
  have valid : 0 < (sizeBits : Int).toNat ∧ (sizeBits : Int).toNat % 8 = 0 := ⟨positive, aligned⟩
  have length : bits.length = (sizeBits : Int).toNat / 8 := sized
  rw [make, dif_pos valid]
  dsimp only
  rw [dif_pos length]
  rfl

/-- Decoding an encoded list with its size. -/
theorem decodeSized_encode (env : Env) (list : StatusList) :
    decodeSized env (encode env list) list.sizeBits = .ok list := by
  have unpadded : (Base64.unpadded (env.gzipCompress list.bits)).contains Base64.pad = false := by
    simp only [List.contains_eq_mem, decide_eq_false_iff_not]
    exact fun member => (Base64.unpadded_clean _ _ member).1 rfl
  rw [encode, decodeSized]
  simp only [unpadded, Bool.false_eq_true, if_false, Base64.decode_unpadded, env.gzip_restores, make_bits]

/-- Decoding an encoded list of the default size. -/
theorem decode_encode (env : Env) {list : StatusList} (standard : list.sizeBits = defaultListSizeBits) :
    decode env (encode env list) = .ok list := by
  have sized := decodeSized_encode env list
  rw [standard] at sized
  exact sized

/-- The credential of a list before it is signed. -/
def document (env : Env) (listCredentialId statusPurpose validFrom : PyStr) (list : StatusList) :
    List (Key × Value) :=
  [(key "@context", Vc.vcContext),
    (key "id", .str listCredentialId),
    (key "type", .list [Value.literal "VerifiableCredential",
      Value.literal "BitstringStatusListCredential"]),
    (key "issuer", .str env.settings.issuerDid),
    (key "validFrom", .str validFrom),
    (key "credentialSubject", .dict
      [(key "id", .str (listCredentialId ++ py "#list")),
        (key "type", Value.literal "BitstringStatusList"),
        (key "statusPurpose", .str statusPurpose),
        (key "encodedList", .str (list.encode env))])]

/-- `build_status_list_credential` with the issuer's key. -/
def build (env : Env) (now : Datetime) (listCredentialId statusPurpose : PyStr) (list : StatusList)
    (verificationMethod : PyStr) : Result (List (Key × Value)) :=
  if statusPurpose ∈ purposes then
    if verificationMethod.isEmpty then .error (.statusListError (py "verification-method-required"))
    else Vc.issueProof env
      (document env listCredentialId statusPurpose (Datetime.isoSeconds now) list)
      verificationMethod (Datetime.isoSeconds now)
  else .error (.statusListError (py "unknown-purpose"))

/-- `parse_status_list_credential`. -/
def parse (env : Env) (credential : Value) : Result (PyStr × StatusList) := do
  let subject ← credential.get? (py "credentialSubject")
  match subject with
  | some (.dict members) =>
    if !Vc.isText "BitstringStatusList" (Value.lookup (key "type") members) then
      .error (.statusListError (py "malformed-status-list"))
    else match Value.lookup (key "statusPurpose") members with
      | some (.str purpose) =>
        if purpose ∈ purposes then
          match Value.lookup (key "encodedList") members with
          | some (.str encoded) => do
            let list ← decode env encoded
            .ok (purpose, list)
          | _ => .error (.statusListError (py "malformed-status-list"))
        else .error (.statusListError (py "unknown-purpose"))
      | _ => .error (.statusListError (py "unknown-purpose"))
  | _ => .error (.statusListError (py "malformed-status-list"))

/-- `status_entry`. -/
def statusEntry (listCredentialId : PyStr) (index : Nat) (purpose : PyStr) : List (Key × Value) :=
  [(key "id", .str (listCredentialId ++ py "#" ++ PyStr.decimal index)),
    (key "type", Value.literal "BitstringStatusListEntry"),
    (key "statusPurpose", .str purpose),
    (key "statusListIndex", .str (PyStr.decimal index)),
    (key "statusListCredential", .str listCredentialId)]

/-- The document of a list has no proof before it is signed. -/
theorem document_unsigned (env : Env) (listCredentialId statusPurpose validFrom : PyStr)
    (list : StatusList) :
    Value.lookup (key "proof") (document env listCredentialId statusPurpose validFrom list) = none :=
  rfl

/-- An encoded list is a text that a column stores. -/
theorem encode_storable (env : Env) (list : StatusList) :
    (list.encode env).all Code.storable = true := by
  rw [encode, List.all_cons, Bool.and_eq_true, List.all_eq_true]
  exact ⟨rfl, fun code member => (Base64.unpadded_clean _ code member).2.2.1⟩

/-- The credential of a list is a plain document. -/
theorem document_plain (env : Env) {listCredentialId statusPurpose validFrom : PyStr}
    (list : StatusList) (idStorable : listCredentialId.all Code.storable = true)
    (purposeStorable : statusPurpose.all Code.storable = true)
    (validStorable : validFrom.all Code.storable = true) :
    (Value.dict (document env listCredentialId statusPurpose validFrom list)).plain = true := by
  have listId : (listCredentialId ++ py "#list").all Code.storable = true := by
    rw [List.all_append, idStorable]
    rfl
  simp only [document, Vc.vcContext, Value.plain, Value.plainItems, Value.plainMembers,
    Value.literal, idStorable, purposeStorable, validStorable, env.settings.issuerDid_storable,
    encode_storable, listId, Bool.and_true, List.map_cons, List.map_nil]
  decide

/-- The subject of a list's credential. -/
def subject (env : Env) (listCredentialId statusPurpose : PyStr) (list : StatusList) : Value :=
  .dict [(key "id", .str (listCredentialId ++ py "#list")),
    (key "type", Value.literal "BitstringStatusList"),
    (key "statusPurpose", .str statusPurpose),
    (key "encodedList", .str (list.encode env))]

/-- The subject of a signed list is that of the list. -/
theorem subject_signed (env : Env) (listCredentialId statusPurpose validFrom : PyStr)
    (list : StatusList) (proof : Value) :
    Value.lookup (key "credentialSubject")
      (document env listCredentialId statusPurpose validFrom list ++ [(key "proof", proof)]) =
      some (subject env listCredentialId statusPurpose list) := rfl

/-- What a database returns for a published list is parsed to that list. -/
theorem parse_stored (env : Env) {now : Datetime} {listCredentialId statusPurpose : PyStr}
    {list : StatusList} {verificationMethod : PyStr} {signed : List (Key × Value)} {stored : Value}
    (built : build env now listCredentialId statusPurpose list verificationMethod = .ok signed)
    (standard : list.sizeBits = defaultListSizeBits) (same : stored.JsonEq (.dict signed)) :
    parse env stored = .ok (statusPurpose, list) := by
  unfold build at built
  split at built
  case isFalse => cases built
  case isTrue known =>
    split at built
    · cases built
    · obtain ⟨_, message, _, rfl⟩ := Vc.issueProof_ok built
      obtain ⟨members, rfl, _⟩ := Value.denote_obj same
      obtain ⟨subject, present, equal⟩ := Value.lookup_stored same
        (subject_signed env listCredentialId statusPurpose (Datetime.isoSeconds now) list _)
      obtain ⟨subjectMembers, rfl, _⟩ := Value.denote_obj equal
      have typed : Value.lookup (key "type") subjectMembers =
          some (Value.literal "BitstringStatusList") := Value.lookup_stored_text equal (by rfl)
      have purposed : Value.lookup (key "statusPurpose") subjectMembers =
          some (.str statusPurpose) := Value.lookup_stored_text equal (by rfl)
      have encoded : Value.lookup (key "encodedList") subjectMembers =
          some (.str (list.encode env)) := Value.lookup_stored_text equal (by rfl)
      simp only [parse, Value.get?, present, Result.ok_bind, Vc.isText_iff.mpr typed, purposed,
        encoded, known, if_true, decode_encode env standard, Bool.not_true, Bool.false_eq_true,
        if_false]

end StatusList

end TaxStamps
