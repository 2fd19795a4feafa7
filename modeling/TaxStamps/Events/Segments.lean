import TaxStamps.Events.Wire

/-!
# Which segments are read strictly

`b64u_decode` puts padding back by the length of its argument and hands the text
to a lenient decoder. The decoder reads the data characters of both alphabets,
skips every other character and drops the bits that do not fill a byte. So a text
is refused for its padding, its characters outside ASCII or its count of data
characters only, and it is the encoding of what it decodes into exactly when all
its characters are of the URL-safe alphabet and no dropped bit is set.
-/

namespace TaxStamps.Envelope

open Base64 Outbox

/-- The sextets that the decoder reads from a text. -/
def dataValues (text : PyStr) : List Nat := text.filterMap sextet?

/-- The bytes of a list of sextets; the bits that do not fill a byte are dropped. -/
def bytesOf : List Nat → Bytes
  | [] => []
  | [_] => []
  | [a, b] => [UInt8.ofNat (a * 4 + b / 16)]
  | [a, b, c] => [UInt8.ofNat (a * 4 + b / 16), UInt8.ofNat (b % 16 * 16 + c / 4)]
  | a :: b :: c :: d :: rest =>
    UInt8.ofNat (a * 4 + b / 16) :: UInt8.ofNat (b % 16 * 16 + c / 4) ::
      UInt8.ofNat (c % 4 * 64 + d) :: bytesOf rest

/-- The last group is of two, three or four sextets, and its dropped bits are zero. -/
def NoSurplus : List Nat → Prop
  | [] => True
  | [_] => False
  | [_, b] => b % 16 = 0
  | [_, _, c] => c % 4 = 0
  | _ :: _ :: _ :: _ :: rest => NoSurplus rest

/-- The padding completes the last group. -/
def Completes (count pads : Nat) : Prop :=
  count % 4 = 0 ∨ count % 4 = 2 ∧ 2 ≤ pads ∨ count % 4 = 3 ∧ 1 ≤ pads

/-- Whether a group is complete is decided on its counts. -/
instance (count pads : Nat) : Decidable (Completes count pads) := inferInstanceAs (Decidable (_ ∨ _))

/-- `b64u_decode` refuses the text: it has padding or a character outside ASCII, or
the padding for its length does not complete its data characters. -/
def Refused (text : PyStr) : Prop :=
  pad ∈ text ∨ text.all isAscii = false ∨
    ¬ Completes (dataValues text).length ((4 - text.length % 4) % 4)

/-- The text is an encoding: characters of the URL-safe alphabet only, and no
dropped bit set. -/
def Canonical (text : PyStr) : Prop :=
  (∀ code ∈ text, code ∈ urlsafeAlphabet) ∧ NoSurplus (dataValues text)

section Decoder

variable {text tail : PyStr} {values : List Nat} {quad left pads : Nat}

/-- A value of the alphabet has six bits. -/
theorem sextet_bounded {code : Code} {value : Nat} (known : sextet? code = some value) : value < 64 := by
  cases code with
  | lone offset => cases known
  | scalar char =>
    simp only [sextet?] at known
    split at known
    · cases known
      omega
    · split at known
      · cases known
        omega
      · split at known
        · cases known
          omega
        · split at known
          · cases known
            omega
          · split at known
            · cases known
              omega
            · cases known

/-- The values of a text have six bits. -/
theorem dataValues_bounded : ∀ value ∈ dataValues text, value < 64 := by
  intro value member
  obtain ⟨code, _, known⟩ := List.mem_filterMap.mp member
  exact sextet_bounded known

/-- The decoder reads the sextets of the data characters and nothing else. -/
theorem decodeFrom_values (clean : pad ∉ text) :
    decodeFrom quad left 0 (text ++ tail) =
      decodeFrom quad left 0 ((dataValues text).map urlsafeCode ++ tail) := by
  induction text generalizing quad left with
  | nil => rfl
  | cons code rest inductionHypothesis =>
    have other : code ≠ pad := fun same => clean (same ▸ List.mem_cons_self)
    have later : pad ∉ rest := fun member => clean (List.mem_cons_of_mem _ member)
    rw [dataValues, List.filterMap_cons, List.cons_append, decodeFrom, if_neg other]
    cases known : sextet? code with
    | none => exact inductionHypothesis later
    | some value =>
      have bounded := sextet_bounded known
      rw [List.map_cons, List.cons_append, decodeFrom, if_neg (code_clean value bounded).1,
        sextet_code value bounded]
      dsimp only
      split
      · exact inductionHypothesis later
      · rw [inductionHypothesis later]
        rfl
      · rw [inductionHypothesis later]
        rfl
      · rw [inductionHypothesis later]
        rfl

/-- Padding is skipped until it completes a group. -/
theorem decodeFrom_pads : ∀ count, quad < 4 → pads + quad < 4 →
    decodeFrom quad left pads (List.replicate count pad) =
      if quad = 0 ∨ 2 ≤ quad ∧ 4 ≤ quad + (pads + count) then some [] else none := by
  intro count
  induction count generalizing pads with
  | zero =>
    intro small _
    rw [List.replicate_zero, decodeFrom]
    by_cases aligned : quad = 0
    · rw [if_pos aligned, if_pos (Or.inl aligned)]
    · rw [if_neg aligned, if_neg (by omega)]
  | succ count inductionHypothesis =>
    intro small open_
    rw [List.replicate_succ, decodeFrom, if_pos rfl]
    by_cases started : 2 ≤ quad
    · rw [if_pos started]
      by_cases complete : 4 ≤ quad + (pads + 1)
      · rw [if_pos complete, if_pos (by omega)]
      · rw [if_neg complete, inductionHypothesis small (by omega)]
        congr 1
        apply propext
        omega
    · rw [if_neg started, inductionHypothesis small open_]
      congr 1
      apply propext
      omega

/-- What the decoder makes of sextets and padding. -/
theorem decodeFrom_sextets (bounded : ∀ value ∈ values, value < 64) (count : Nat) :
    decodeFrom 0 0 0 (values.map urlsafeCode ++ List.replicate count pad) =
      if Completes values.length count then some (bytesOf values) else none := by
  induction values using bytesOf.induct with
  | case1 =>
    rw [List.map_nil, List.nil_append, decodeFrom_pads count (by omega) (by omega)]
    rfl
  | case2 a =>
    have small := bounded a (by simp)
    rw [List.map_singleton, List.singleton_append, decode_first small,
      decodeFrom_pads count (by omega) (by omega), if_neg (by omega), if_neg]
    simp [Completes]
  | case3 a b =>
    have first := bounded a (by simp)
    have second := bounded b (by simp)
    simp only [List.map_cons, List.map_nil, List.cons_append, List.nil_append]
    rw [decode_first first, decode_second second, decodeFrom_pads count (by omega) (by omega)]
    by_cases complete : 2 ≤ count
    · have aligned : Completes [a, b].length count := Or.inr (Or.inl ⟨rfl, complete⟩)
      rw [if_pos (by omega), if_pos aligned]
      rfl
    · rw [if_neg (by omega), if_neg]
      · rfl
      · simp [Completes, complete]
  | case4 a b c =>
    have first := bounded a (by simp)
    have second := bounded b (by simp)
    have third := bounded c (by simp)
    simp only [List.map_cons, List.map_nil, List.cons_append, List.nil_append]
    rw [decode_first first, decode_second second, decode_third third,
      decodeFrom_pads count (by omega) (by omega)]
    by_cases complete : 1 ≤ count
    · have aligned : Completes [a, b, c].length count := Or.inr (Or.inr ⟨rfl, complete⟩)
      rw [if_pos (by omega), if_pos aligned]
      rfl
    · rw [if_neg (by omega), if_neg]
      · rfl
      · simp [Completes, complete]
  | case5 a b c d rest inductionHypothesis =>
    have first := bounded a (by simp)
    have second := bounded b (by simp)
    have third := bounded c (by simp)
    have fourth := bounded d (by simp)
    have later := inductionHypothesis (fun value member => bounded value (by simp [member]))
    have aligned : Completes (a :: b :: c :: d :: rest).length count ↔ Completes rest.length count := by
      simp only [Completes, List.length_cons]
      omega
    simp only [List.map_cons, List.cons_append]
    rw [decode_first first, decode_second second, decode_third third, decode_fourth fourth, later]
    by_cases complete : Completes rest.length count
    · rw [if_pos complete, if_pos (aligned.mpr complete)]
      rfl
    · rw [if_neg complete, if_neg (fun stated => complete (aligned.mp stated))]
      rfl

/-- Encoding the bytes of sextets gives the sextets back exactly when no dropped
bit is set. -/
theorem sextets_bytesOf (bounded : ∀ value ∈ values, value < 64) :
    sextets (bytesOf values) = values ↔ NoSurplus values := by
  have byte : ∀ value < 256, (UInt8.ofNat value).toNat = value := fun value small => Nat.mod_eq_of_lt small
  induction values using bytesOf.induct with
  | case1 => simp [bytesOf, sextets, NoSurplus]
  | case2 a => simp [bytesOf, sextets, NoSurplus]
  | case3 a b =>
    have first := bounded a (by simp)
    have second := bounded b (by simp)
    simp only [bytesOf, sextets, NoSurplus, byte (a * 4 + b / 16) (by omega), List.cons.injEq, and_true]
    omega
  | case4 a b c =>
    have first := bounded a (by simp)
    have second := bounded b (by simp)
    have third := bounded c (by simp)
    simp only [bytesOf, sextets, NoSurplus, byte (a * 4 + b / 16) (by omega),
      byte (b % 16 * 16 + c / 4) (by omega), List.cons.injEq, and_true]
    omega
  | case5 a b c d rest inductionHypothesis =>
    have first := bounded a (by simp)
    have second := bounded b (by simp)
    have third := bounded c (by simp)
    have fourth := bounded d (by simp)
    have later := inductionHypothesis (fun value member => bounded value (by simp [member]))
    simp only [bytesOf, sextets, NoSurplus, byte (a * 4 + b / 16) (by omega),
      byte (b % 16 * 16 + c / 4) (by omega), byte (c % 4 * 64 + d) (by omega), List.cons.injEq, ← later]
    constructor
    · exact fun same => same.2.2.2.2
    · exact fun same => ⟨by omega, by omega, by omega, by omega, same⟩

end Decoder

section Segments

variable {text : PyStr} {data : Bytes}

/-- `b64u_decode` refuses a text for its characters and their count only, and
decodes every other into the bytes of its sextets. -/
theorem b64uDecode_iff : b64uDecode text = .ok data ↔ ¬ Refused text ∧ data = bytesOf (dataValues text) := by
  by_cases padded : pad ∈ text
  · have contained : text.contains pad = true := List.contains_iff_mem.mpr padded
    rw [b64uDecode, if_pos contained]
    constructor
    · intro decoded
      cases decoded
    · exact fun accepted => absurd (Or.inl padded) accepted.1
  · have contained : ¬ text.contains pad = true := fun stated => padded (List.contains_iff_mem.mp stated)
    have padding_ascii : (padding text).all isAscii = true := by
      rw [List.all_eq_true]
      intro code member
      rw [(List.mem_replicate.mp member).2]
      rfl
    rw [b64uDecode, if_neg contained, urlsafeB64decode, List.all_append, padding_ascii, Bool.and_true]
    by_cases ascii : text.all isAscii = true
    · rw [if_pos ascii, decodeFrom_values padded, padding, decodeFrom_sextets dataValues_bounded]
      by_cases complete : Completes (dataValues text).length ((4 - text.length % 4) % 4)
      · rw [if_pos complete]
        constructor
        · intro decoded
          refine ⟨?_, (Except.ok.inj decoded).symm⟩
          rintro (stated | stated | stated)
          · exact padded stated
          · rw [ascii] at stated
            cases stated
          · exact stated complete
        · rintro ⟨_, rfl⟩
          rfl
      · rw [if_neg complete]
        constructor
        · intro decoded
          cases decoded
        · exact fun accepted => absurd (Or.inr (Or.inr complete)) accepted.1
    · rw [if_neg ascii]
      constructor
      · intro decoded
        cases decoded
      · exact fun accepted => absurd (Or.inr (Or.inl (Bool.not_eq_true _ ▸ ascii))) accepted.1

/-- A text of the alphabet is that of its values. -/
theorem alphabet_values (listed : ∀ code ∈ text, code ∈ urlsafeAlphabet) :
    (dataValues text).map urlsafeCode = text := by
  have each : ∀ code ∈ urlsafeAlphabet, ∃ value, sextet? code = some value ∧ urlsafeCode value = code := by
    have values : ∀ code ∈ urlsafeAlphabet, ∃ value < 64, sextet? code = some value ∧
        urlsafeCode value = code := by decide +kernel
    exact fun code member => (values code member).imp fun _ facts => facts.2
  induction text with
  | nil => rfl
  | cons code rest inductionHypothesis =>
    obtain ⟨value, known, spelled⟩ := each code (listed code List.mem_cons_self)
    have later := inductionHypothesis (fun other member => listed other (List.mem_cons_of_mem _ member))
    rw [dataValues] at later
    rw [dataValues, List.filterMap_cons, known]
    simp only [List.map_cons, spelled, later]

/-- Values are read back from their characters. -/
theorem values_codes {values : List Nat} (bounded : ∀ value ∈ values, value < 64) :
    dataValues (values.map urlsafeCode) = values := by
  induction values with
  | nil => rfl
  | cons value rest inductionHypothesis =>
    have later := inductionHypothesis (fun other member => bounded other (List.mem_cons_of_mem _ member))
    rw [dataValues] at later
    rw [dataValues, List.map_cons, List.filterMap_cons, sextet_code value (bounded value List.mem_cons_self),
      later]

/-- A text is the encoding of the bytes of its sextets exactly when it is
canonical. -/
theorem unpadded_bytesOf : unpadded (bytesOf (dataValues text)) = text ↔ Canonical text := by
  rw [unpadded_sextets]
  constructor
  · intro same
    have values := values_codes (sextets_bounded (bytesOf (dataValues text)))
    rw [same] at values
    refine ⟨?_, (sextets_bytesOf dataValues_bounded).mp values.symm⟩
    intro code member
    rw [← same] at member
    obtain ⟨value, listed, rfl⟩ := List.mem_map.mp member
    have each : ∀ value < 64, urlsafeCode value ∈ urlsafeAlphabet := by decide
    exact each value (sextets_bounded _ value listed)
  · intro canonical
    rw [(sextets_bytesOf dataValues_bounded).mpr canonical.2]
    exact alphabet_values canonical.1

/-- Characters that are no data, four at a time, are skipped. -/
theorem b64uDecode_stray (decoded : b64uDecode text = .ok data) :
    b64uDecode (text ++ py "!!!!") = .ok data := by
  have values : dataValues (text ++ py "!!!!") = dataValues text := by
    have unread : (py "!!!!").filterMap sextet? = [] := by decide
    rw [dataValues, List.filterMap_append, unread, List.append_nil]
    rfl
  have same : Refused (text ++ py "!!!!") ↔ Refused text := by
    have clean : pad ∉ py "!!!!" := by decide
    have ascii : (py "!!!!").all isAscii = true := by decide
    have length : (text ++ py "!!!!").length % 4 = text.length % 4 := by
      have four : (py "!!!!").length = 4 := by decide
      rw [List.length_append, four, Nat.add_mod_right]
    rw [Refused, Refused, values, length, List.all_append, ascii, Bool.and_true, List.mem_append]
    simp only [clean, or_false]
  rw [b64uDecode_iff, same, values]
  exact b64uDecode_iff.mp decoded

end Segments

/-- The three segments of the text decode into these bytes. -/
def Decodes (jws : PyStr) (header payload signature : Bytes) : Prop :=
  ∃ seg1 seg2 seg3, jws.splitOn (.scalar '.') = [seg1, seg2, seg3] ∧
    b64uDecode seg1 = .ok header ∧ b64uDecode seg2 = .ok payload ∧ b64uDecode seg3 = .ok signature

/-- The text is refused, or it is the encoding of what it decodes into. -/
def Strict (text : PyStr) : Prop := Refused text ∨ Canonical text

section Verified

variable {loads : Loads} {directory : KeyDirectory} {jws : PyStr} {expected payload : Bytes}

/-- What `jws_verify` accepts. -/
theorem jwsVerify_iff : jwsVerify loads directory jws expected = .ok payload ↔
    ∃ seg1 seg2 seg3 header kid check signature, jws.splitOn (.scalar '.') = [seg1, seg2, seg3] ∧
      (seg1.isEmpty || seg2.isEmpty || seg3.isEmpty) = false ∧
      b64uDecode seg1 = .ok header ∧ headerKid (loads header) = .ok kid ∧
      resolve directory kid = .ok check ∧ b64uDecode seg2 = .ok payload ∧ payload = expected ∧
      b64uDecode seg3 = .ok signature ∧ check signature (asciiBytes (seg1 ++ py "." ++ seg2)) = true := by
  constructor
  · intro verified
    unfold jwsVerify at verified
    split at verified
    case _ seg1 seg2 seg3 parts =>
      obtain ⟨_, present, verified⟩ := Result.bind_ok.mp verified
      obtain ⟨header, headed, verified⟩ := Result.bind_ok.mp verified
      obtain ⟨kid, identified, verified⟩ := Result.bind_ok.mp verified
      obtain ⟨check, resolved, verified⟩ := Result.bind_ok.mp verified
      obtain ⟨content, decoded, verified⟩ := Result.bind_ok.mp verified
      obtain ⟨_, same, verified⟩ := Result.bind_ok.mp verified
      obtain ⟨signature, signed, verified⟩ := Result.bind_ok.mp verified
      obtain ⟨_, valid, verified⟩ := Result.bind_ok.mp verified
      cases verified
      rw [Result.require_ok] at present same valid
      exact ⟨seg1, seg2, seg3, header, kid, check, signature, parts, by simpa using present, headed,
        identified, resolved, decoded, of_decide_eq_true same, signed, valid⟩
    case _ => cases verified
  · rintro ⟨seg1, seg2, seg3, header, kid, check, signature, parts, present, headed, identified, resolved,
      decoded, rfl, signed, valid⟩
    rw [jwsVerify, parts]
    simp only [present, headed, identified, resolved, decoded, signed, valid, Bool.not_false, Result.require,
      if_true, Result.ok_bind, decide_true]

/-- A text of three segments is the segments joined by dots. -/
theorem splitOn_joined {seg1 seg2 seg3 : PyStr} (parts : jws.splitOn (.scalar '.') = [seg1, seg2, seg3]) :
    jws = seg1 ++ .scalar '.' :: (seg2 ++ .scalar '.' :: seg3) := by
  have joined : List.intercalate [Code.scalar '.'] (jws.splitOn (.scalar '.')) = jws :=
    List.intercalate_splitOn (Code.scalar '.')
  rw [parts] at joined
  simpa [List.intercalate, List.intersperse] using joined.symm

/-- No segment has a dot. -/
theorem splitOn_dotless {seg1 seg2 seg3 : PyStr} (parts : jws.splitOn (.scalar '.') = [seg1, seg2, seg3]) :
    .scalar '.' ∉ seg1 ∧ .scalar '.' ∉ seg2 ∧ .scalar '.' ∉ seg3 := by
  have several : ∀ text : PyStr, .scalar '.' ∈ text → 2 ≤ (text.splitOn (.scalar '.')).length := by
    intro text member
    obtain ⟨front, back, rfl⟩ := List.append_of_mem member
    rw [List.splitOn_append_cons_self, List.length_append]
    have first := List.length_pos_iff.mpr (List.splitOn_ne_nil (.scalar '.') front)
    have second := List.length_pos_iff.mpr (List.splitOn_ne_nil (.scalar '.') back)
    omega
  have count := congrArg List.length parts
  rw [splitOn_joined parts, List.splitOn_append_cons_self, List.splitOn_append_cons_self,
    List.length_append, List.length_append] at count
  simp only [List.length_cons, List.length_nil] at count
  have first := List.length_pos_iff.mpr (List.splitOn_ne_nil (.scalar '.') seg1)
  have second := List.length_pos_iff.mpr (List.splitOn_ne_nil (.scalar '.') seg2)
  have third := List.length_pos_iff.mpr (List.splitOn_ne_nil (.scalar '.') seg3)
  refine ⟨fun member => ?_, fun member => ?_, fun member => ?_⟩
  · have more := several seg1 member
    omega
  · have more := several seg2 member
    omega
  · have more := several seg3 member
    omega

/-- A strict text is restored from its bytes. -/
theorem strict_restored {text : PyStr} {data : Bytes} (strict : Strict text)
    (decoded : b64uDecode text = .ok data) : unpadded data = text := by
  obtain ⟨accepted, rfl⟩ := b64uDecode_iff.mp decoded
  rcases strict with refused | canonical
  · exact absurd refused accepted
  · exact unpadded_bytesOf.mpr canonical

/-- A compact JWS of strict segments is determined by what it decodes into. -/
theorem strict_unique {other : PyStr} {header content signature : Bytes}
    (strict : ∀ segment ∈ jws.splitOn (.scalar '.'), Strict segment)
    (otherStrict : ∀ segment ∈ other.splitOn (.scalar '.'), Strict segment)
    (decodes : Decodes jws header content signature)
    (otherDecodes : Decodes other header content signature) : jws = other := by
  obtain ⟨seg1, seg2, seg3, parts, first, second, third⟩ := decodes
  obtain ⟨other1, other2, other3, otherParts, otherFirst, otherSecond, otherThird⟩ := otherDecodes
  rw [parts] at strict
  rw [otherParts] at otherStrict
  have same1 := (strict_restored (strict seg1 (by simp)) first).symm.trans
    (strict_restored (otherStrict other1 (by simp)) otherFirst)
  have same2 := (strict_restored (strict seg2 (by simp)) second).symm.trans
    (strict_restored (otherStrict other2 (by simp)) otherSecond)
  have same3 := (strict_restored (strict seg3 (by simp)) third).symm.trans
    (strict_restored (otherStrict other3 (by simp)) otherThird)
  rw [splitOn_joined parts, splitOn_joined otherParts, same1, same2, same3]

/-- Every accepted JWS has another spelling that is accepted as well. -/
theorem respelled (verified : jwsVerify loads directory jws expected = .ok payload) :
    ∃ other header signature, other ≠ jws ∧ jwsVerify loads directory other expected = .ok payload ∧
      Decodes jws header payload signature ∧ Decodes other header payload signature := by
  obtain ⟨seg1, seg2, seg3, header, kid, check, signature, parts, present, headed, identified, resolved,
    decoded, same, signed, valid⟩ := jwsVerify_iff.mp verified
  have dotless := splitOn_dotless parts
  have marked : .scalar '.' ∉ seg3 ++ py "!!!!" := by
    rw [List.mem_append]
    exact not_or.mpr ⟨dotless.2.2, by decide⟩
  have otherParts : (seg1 ++ .scalar '.' :: (seg2 ++ .scalar '.' :: (seg3 ++ py "!!!!"))).splitOn (.scalar '.') =
      [seg1, seg2, seg3 ++ py "!!!!"] := by
    rw [List.splitOn_append_cons_self_of_not_mem dotless.1,
      List.splitOn_append_cons_self_of_not_mem dotless.2.1, List.splitOn_eq_singleton marked]
  have otherSigned := b64uDecode_stray signed
  refine ⟨_, header, signature, ?_, jwsVerify_iff.mpr ⟨seg1, seg2, seg3 ++ py "!!!!", header, kid, check,
    signature, otherParts, ?_, headed, identified, resolved, decoded, same, otherSigned, valid⟩,
    ⟨seg1, seg2, seg3, parts, headed, decoded, signed⟩,
    ⟨seg1, seg2, seg3 ++ py "!!!!", otherParts, headed, decoded, otherSigned⟩⟩
  · intro equal
    have lengths := congrArg List.length equal
    rw [splitOn_joined parts] at lengths
    have four : (py "!!!!").length = 4 := by decide
    simp only [List.length_append, List.length_cons, four] at lengths
    omega
  · simp only [Bool.or_eq_false_iff, List.isEmpty_eq_false_iff] at present ⊢
    exact ⟨present.1, by simp [present.2]⟩

end Verified

/-- A text is restored from what it decodes into exactly when it is strict, every
byte string is restored from its encoding, and an accepted JWS is determined by
the bytes of its segments among those of strict segments; among all, no accepted
JWS is. -/
theorem strict_iff (loads : Loads) (directory : KeyDirectory) :
    (∀ text, (∀ data, b64uDecode text = .ok data → unpadded data = text) ↔ Strict text) ∧
    (∀ data, b64uDecode (unpadded data) = .ok data) ∧
    (∀ jws other expected otherExpected payload otherPayload header content signature,
      jwsVerify loads directory jws expected = .ok payload →
      jwsVerify loads directory other otherExpected = .ok otherPayload →
      (∀ segment ∈ jws.splitOn (.scalar '.'), Strict segment) →
      (∀ segment ∈ other.splitOn (.scalar '.'), Strict segment) →
      Decodes jws header content signature → Decodes other header content signature → jws = other) ∧
    ∀ jws expected payload, jwsVerify loads directory jws expected = .ok payload →
      ∃ other header signature, other ≠ jws ∧ jwsVerify loads directory other expected = .ok payload ∧
        Decodes jws header payload signature ∧ Decodes other header payload signature := by
  refine ⟨?_, b64uDecode_unpadded, ?_, fun jws expected payload => respelled⟩
  · intro text
    constructor
    · intro restored
      by_cases refused : Refused text
      · exact Or.inl refused
      · exact Or.inr (unpadded_bytesOf.mp (restored _ (b64uDecode_iff.mpr ⟨refused, rfl⟩)))
    · exact fun strict data => strict_restored strict
  · intro jws other _ _ _ _ header content signature _ _ strict otherStrict
    exact strict_unique strict otherStrict

/-- One byte is written with two characters. -/
theorem strict_iff_sample : unpadded [65] = py "QQ" := by
  have values : dataValues (py "QQ") = [16, 16] := by decide
  have canonical : Canonical (py "QQ") := by
    refine ⟨by decide, ?_⟩
    rw [values]
    rfl
  exact ((strict_iff (fun _ => none) (fun _ => none)).1 (py "QQ")).mpr (Or.inr canonical) [65]
    (by decide)

/-- A text whose dropped bits are set is accepted and is no encoding. -/
theorem surplus_bits_accepted : ∃ data, b64uDecode (py "QR") = .ok data ∧ unpadded data ≠ py "QR" :=
  ⟨[65], by decide, by decide⟩

end TaxStamps.Envelope
