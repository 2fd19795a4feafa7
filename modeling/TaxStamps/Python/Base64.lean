import Mathlib.Tactic.IntervalCases
import TaxStamps.Python.Error

/-!
# base64

`base64.urlsafe_b64encode` and `base64.urlsafe_b64decode`. The decoder is the
lenient one of `binascii.a2b_base64`: it reads both alphabets, skips characters
outside them, and stops at padding that completes a group.
-/

namespace TaxStamps.Base64

/-- Three bytes as four sextets; a short last group is filled with zero bits. -/
def sextets : Bytes → List Nat
  | [] => []
  | [a] => [a.toNat / 4, a.toNat % 4 * 16]
  | [a, b] => [a.toNat / 4, a.toNat % 4 * 16 + b.toNat / 16, b.toNat % 16 * 4]
  | a :: b :: c :: rest =>
    a.toNat / 4 :: (a.toNat % 4 * 16 + b.toNat / 16) :: (b.toNat % 16 * 4 + c.toNat / 64) ::
      c.toNat % 64 :: sextets rest

/-- The URL-safe alphabet. -/
def urlsafeAlphabet : PyStr := py "ABCDEFGHIJKLMNOPQRSTUVWXYZabcdefghijklmnopqrstuvwxyz0123456789-_"

/-- The character of six bits. -/
def urlsafeCode (sextet : Nat) : Code := urlsafeAlphabet.getD sextet (.scalar 'A')

/-- The padding character. -/
def pad : Code := .scalar '='

/-- `base64.urlsafe_b64encode`. -/
def urlsafeB64encode (data : Bytes) : PyStr :=
  (sextets data).map urlsafeCode ++ List.replicate ((3 - data.length % 3) % 3) pad

/-- `text.rstrip("=")`. -/
def rstripPad (text : PyStr) : PyStr :=
  (text.reverse.dropWhile (fun code => decide (code = pad))).reverse

/-- The value of a character of either alphabet. -/
def sextet? : Code → Option Nat
  | .scalar char =>
    let value := char.toNat
    if 65 ≤ value ∧ value ≤ 90 then some (value - 65)
    else if 97 ≤ value ∧ value ≤ 122 then some (value - 71)
    else if 48 ≤ value ∧ value ≤ 57 then some (value + 4)
    else if value = 43 ∨ value = 45 then some 62
    else if value = 47 ∨ value = 95 then some 63
    else none
  | .lone _ => none

/-- The decoder's loop: position in the group of four, the bits left over, and
the padding characters seen since the last data character. -/
def decodeFrom (quad left pads : Nat) : PyStr → Option Bytes
  | [] => if quad = 0 then some [] else none
  | code :: rest =>
    if code = pad then
      if 2 ≤ quad then
        if 4 ≤ quad + (pads + 1) then some [] else decodeFrom quad left (pads + 1) rest
      else decodeFrom quad left pads rest
    else
      match sextet? code with
      | none => decodeFrom quad left pads rest
      | some value =>
        match quad with
        | 0 => decodeFrom 1 value 0 rest
        | 1 => (decodeFrom 2 (value % 16) 0 rest).map (UInt8.ofNat (left * 4 + value / 16) :: ·)
        | 2 => (decodeFrom 3 (value % 4) 0 rest).map (UInt8.ofNat (left * 16 + value / 4) :: ·)
        | _ => (decodeFrom 0 0 0 rest).map (UInt8.ofNat (left * 64 + value) :: ·)

/-- The character is one of the first 128. -/
def isAscii : Code → Bool
  | .scalar char => decide (char.toNat < 128)
  | .lone _ => false

/-- `base64.urlsafe_b64decode` of a string; nothing when it raises. -/
def urlsafeB64decode (text : PyStr) : Option Bytes :=
  if text.all isAscii then decodeFrom 0 0 0 text else none

/-- `"=" * (-len(text) % 4)`. -/
def padding (text : PyStr) : PyStr := List.replicate ((4 - text.length % 4) % 4) pad

/-- `base64.urlsafe_b64encode(data).rstrip(b"=").decode("ascii")`. -/
def unpadded (data : Bytes) : PyStr := rstripPad (urlsafeB64encode data)

/-- Six bits are read back from their character. -/
theorem sextet_code : ∀ value < 64, sextet? (urlsafeCode value) = some value := by
  decide

/-- The character of six bits is printable, and neither padding nor a dot. -/
theorem code_clean : ∀ value < 64, urlsafeCode value ≠ pad ∧ isAscii (urlsafeCode value) = true ∧
    (urlsafeCode value).storable = true ∧ urlsafeCode value ≠ .scalar '.' := by
  decide

/-- A sextet is below 64. -/
theorem sextets_bounded (data : Bytes) : ∀ value ∈ sextets data, value < 64 := by
  induction data using sextets.induct with
  | case1 => simp [sextets]
  | case2 a =>
    have := a.toNat_lt
    simp only [sextets, List.mem_cons, List.not_mem_nil, or_false, forall_eq_or_imp, forall_eq]
    omega
  | case3 a b =>
    have := a.toNat_lt
    have := b.toNat_lt
    simp only [sextets, List.mem_cons, List.not_mem_nil, or_false, forall_eq_or_imp, forall_eq]
    omega
  | case4 a b c rest inductionHypothesis =>
    have := a.toNat_lt
    have := b.toNat_lt
    have := c.toNat_lt
    simp only [sextets, List.mem_cons, forall_eq_or_imp]
    exact ⟨by omega, by omega, by omega, by omega, inductionHypothesis⟩

/-- Four characters for three bytes. -/
theorem sextets_length (data : Bytes) :
    (sextets data).length =
      data.length / 3 * 4 + (if data.length % 3 = 0 then 0 else data.length % 3 + 1) := by
  induction data using sextets.induct with
  | case1 => simp [sextets]
  | case2 a => simp [sextets]
  | case3 a b => simp [sextets]
  | case4 a b c rest inductionHypothesis =>
    simp only [sextets, List.length_cons, inductionHypothesis]
    split <;> split <;> omega

section Group

variable {value : Nat} (bounded : value < 64) (left pads : Nat) (rest : PyStr)
include bounded

/-- The first character of a group is kept for the next. -/
theorem decode_first : decodeFrom 0 left pads (urlsafeCode value :: rest) = decodeFrom 1 value 0 rest := by
  rw [decodeFrom, if_neg (code_clean value bounded).1, sextet_code value bounded]
  rfl

/-- The second character completes the first byte of a group. -/
theorem decode_second : decodeFrom 1 left pads (urlsafeCode value :: rest) =
    (decodeFrom 2 (value % 16) 0 rest).map (UInt8.ofNat (left * 4 + value / 16) :: ·) := by
  rw [decodeFrom, if_neg (code_clean value bounded).1, sextet_code value bounded]
  rfl

/-- The third character completes the second byte of a group. -/
theorem decode_third : decodeFrom 2 left pads (urlsafeCode value :: rest) =
    (decodeFrom 3 (value % 4) 0 rest).map (UInt8.ofNat (left * 16 + value / 4) :: ·) := by
  rw [decodeFrom, if_neg (code_clean value bounded).1, sextet_code value bounded]
  rfl

/-- The fourth character completes the third byte and the group. -/
theorem decode_fourth : decodeFrom 3 left pads (urlsafeCode value :: rest) =
    (decodeFrom 0 0 0 rest).map (UInt8.ofNat (left * 64 + value) :: ·) := by
  rw [decodeFrom, if_neg (code_clean value bounded).1, sextet_code value bounded]
  rfl

end Group

/-- A byte is what its number is. -/
theorem byte_split (byte : UInt8) {value : Nat} (same : value = byte.toNat) : UInt8.ofNat value = byte := by
  rw [same, UInt8.ofNat_toNat]

/-- Decoding the sextets with the padding that completes the last group. -/
theorem decode_sextets (data : Bytes) :
    decodeFrom 0 0 0 ((sextets data).map urlsafeCode ++
      List.replicate ((4 - (sextets data).length % 4) % 4) pad) = some data := by
  induction data using sextets.induct with
  | case1 => rfl
  | case2 a =>
    have := a.toNat_lt
    simp only [sextets, List.map_cons, List.map_nil, List.cons_append, List.nil_append]
    rw [decode_first (by omega), decode_second (by omega)]
    rw [byte_split a (by omega)]
    rfl
  | case3 a b =>
    have := a.toNat_lt
    have := b.toNat_lt
    simp only [sextets, List.map_cons, List.map_nil, List.cons_append, List.nil_append]
    rw [decode_first (by omega), decode_second (by omega), decode_third (by omega)]
    rw [byte_split a (by omega), byte_split b (by omega)]
    rfl
  | case4 a b c rest inductionHypothesis =>
    have := a.toNat_lt
    have := b.toNat_lt
    have := c.toNat_lt
    have aligned : (4 - (sextets (a :: b :: c :: rest)).length % 4) % 4 =
        (4 - (sextets rest).length % 4) % 4 := by
      simp only [sextets, List.length_cons]
      omega
    rw [aligned]
    simp only [sextets, List.map_cons, List.cons_append]
    rw [decode_first (by omega), decode_second (by omega), decode_third (by omega),
      decode_fourth (by omega)]
    rw [byte_split a (by omega), byte_split b (by omega), byte_split c (by omega),
      inductionHypothesis]
    rfl

/-- Stripping the padding leaves the data characters. -/
theorem unpadded_sextets (data : Bytes) : unpadded data = (sextets data).map urlsafeCode := by
  have clean : ∀ code ∈ (sextets data).map urlsafeCode, code ≠ pad := by
    intro code member
    obtain ⟨value, listed, rfl⟩ := List.mem_map.mp member
    exact (code_clean value (sextets_bounded data value listed)).1
  have padded : ∀ count (codes : PyStr), (∀ code ∈ codes, code ≠ pad) →
      (List.replicate count pad ++ codes).dropWhile (fun code => decide (code = pad)) = codes := by
    intro count codes each
    induction count with
    | zero =>
      cases codes with
      | nil => rfl
      | cons code rest => simp [each code List.mem_cons_self]
    | succ count inductionHypothesis => simpa [List.replicate_succ] using inductionHypothesis
  rw [unpadded, rstripPad, urlsafeB64encode, List.reverse_append, List.reverse_replicate,
    padded _ _ (fun code member => clean code (List.mem_reverse.mp member)), List.reverse_reverse]

/-- An unpadded text holds characters of the alphabet alone. -/
theorem unpadded_clean (data : Bytes) : ∀ code ∈ unpadded data,
    code ≠ pad ∧ isAscii code = true ∧ code.storable = true ∧ code ≠ .scalar '.' := by
  intro code member
  rw [unpadded_sextets] at member
  obtain ⟨value, listed, rfl⟩ := List.mem_map.mp member
  exact code_clean value (sextets_bounded data value listed)

/-- Decoding what was encoded, with the padding put back. -/
theorem decode_unpadded (data : Bytes) :
    urlsafeB64decode (unpadded data ++ padding (unpadded data)) = some data := by
  have ascii : (unpadded data ++ padding (unpadded data)).all isAscii = true := by
    rw [List.all_append, Bool.and_eq_true, List.all_eq_true, List.all_eq_true]
    refine ⟨fun code member => (unpadded_clean data code member).2.1, fun code member => ?_⟩
    rw [(List.mem_replicate.mp member).2]
    rfl
  rw [urlsafeB64decode, if_pos ascii, padding, unpadded_sextets, List.length_map]
  exact decode_sextets data

end TaxStamps.Base64
