import TaxStamps.Crypto.JcsFaithful

/-!
# Interoperable values

The JSON values on which every implementation agrees: no fractions, integers in
the safe range, strings of Unicode scalar values, objects with distinct string
keys. Such a value has a canonical text, and every JSON-equal value has that same
text.
-/

namespace TaxStamps

namespace Value

mutual

/-- An interoperable value. -/
def interoperable : Value → Bool
  | .none => true
  | .bool _ => true
  | .int value => decide (value.natAbs ≤ Jcs.maxSafeInteger.natAbs)
  | .float _ => false
  | .str value => value.all Jcs.encodable
  | .list items => interoperableItems items
  | .tuple _ => false
  | .dict members => decide (members.map Prod.fst).Nodup && interoperableMembers members
  | .foreign _ => false

/-- Every element is interoperable. -/
def interoperableItems : List Value → Bool
  | [] => true
  | item :: rest => interoperable item && interoperableItems rest

/-- Every member has a name that can be written and an interoperable value. -/
def interoperableMembers : List (Key × Value) → Bool
  | [] => true
  | (key, value) :: rest => Jcs.encodableKey key && interoperable value && interoperableMembers rest

end

/-- Interoperability of the elements, one by one. -/
theorem interoperableItems_iff {items : List Value} :
    interoperableItems items = true ↔ ∀ item ∈ items, item.interoperable = true := by
  induction items with
  | nil => simp [interoperableItems]
  | cons item rest inductionHypothesis => simp [interoperableItems, inductionHypothesis]

/-- Interoperability of the members, one by one. -/
theorem interoperableMembers_iff {members : List (Key × Value)} :
    interoperableMembers members = true ↔
      ∀ member ∈ members, Jcs.encodableKey member.1 = true ∧ member.2.interoperable = true := by
  induction members with
  | nil => simp [interoperableMembers]
  | cons member rest inductionHypothesis =>
    obtain ⟨key, value⟩ := member
    simp [interoperableMembers, inductionHypothesis, and_assoc]

/-- An interoperable object. -/
theorem interoperable_dict {members : List (Key × Value)} :
    (Value.dict members).interoperable = true ↔ (members.map Prod.fst).Nodup ∧
      ∀ member ∈ members, Jcs.encodableKey member.1 = true ∧ member.2.interoperable = true := by
  rw [interoperable, Bool.and_eq_true, decide_eq_true_iff, interoperableMembers_iff]

/-- An interoperable document has distinct names at every depth. -/
theorem interoperable_wellFormed {document : Value} (interoperable : document.interoperable = true) :
    document.WellFormed := by
  induction document using Value.induct with
  | list items each =>
    rw [Value.interoperable, interoperableItems_iff] at interoperable
    exact wellFormedItems_iff.mpr (fun item member => each item member (interoperable item member))
  | dict members each =>
    obtain ⟨distinct, allInteroperable⟩ := interoperable_dict.mp interoperable
    refine ⟨distinct, wellFormedMembers_iff.mpr (fun member present => ⟨?_, ?_⟩)⟩
    · obtain ⟨key, value⟩ := member
      cases key with
      | str name => exact ⟨name, rfl⟩
      | other tag => exact absurd (allInteroperable _ present).1 (by simp [Jcs.encodableKey])
    · exact each member present (allInteroperable member present).2
  | tuple => cases interoperable
  | foreign => cases interoperable
  | _ => trivial

end Value

namespace Jcs

/-- A hexadecimal digit can be encoded. -/
theorem hexDigit_encodable : ∀ value < 16, encodable (hexDigit value) = true := by decide

/-- An escaped character can be encoded if the character can. -/
theorem escapeCode_encodable {code : Code} (encodes : encodable code = true) :
    (escapeCode code).all encodable = true := by
  unfold escapeCode
  split <;> first | rfl | skip
  split
  case isTrue small =>
    rw [List.all_append, List.all_cons, List.all_cons, hexDigit_encodable _ (by omega),
      hexDigit_encodable _ (by omega)]
    rfl
  case isFalse => simp [encodes]

/-- A written string can be encoded if the text can. -/
theorem escapeString_encodable {text : PyStr} (encodes : text.all encodable = true) :
    (escapeString text).all encodable = true := by
  have each : (text.flatMap escapeCode).all encodable = true := by
    rw [List.all_flatMap, List.all_eq_true]
    exact fun code member =>
      escapeCode_encodable (List.all_eq_true.mp encodes code member)
  rw [escapeString, List.all_cons, List.all_append, each]
  rfl

/-- The characters of a number can be encoded. -/
theorem number_encodable {text : PyStr} (codes : text.all numberCode = true) :
    text.all encodable = true := by
  rw [List.all_eq_true] at codes ⊢
  intro code member
  have stated := codes code member
  cases code with
  | scalar char => rfl
  | lone offset => simp [numberCode, digitCode, Code.digitValue?] at stated

/-- What holds of the separator and of every text holds of the joined text. -/
theorem join_all {test : Code → Bool} {separator : PyStr} (plain : separator.all test = true)
    (texts : List PyStr) (each : ∀ text ∈ texts, text.all test = true) :
    (PyStr.join separator texts).all test = true := by
  cases texts with
  | nil => rfl
  | cons first rest =>
    rw [join_cons, List.all_append, each first List.mem_cons_self, Bool.true_and, List.all_flatMap,
      List.all_eq_true]
    intro text member
    rw [List.all_append, plain, each text (List.mem_cons_of_mem _ member)]
    rfl

/-- An interoperable value has a canonical text, which UTF-8 carries. -/
theorem interoperable_encodes {document : Value} (agreed : document.interoperable = true) :
    ∃ text, encode document = .ok text ∧ text.all encodable = true := by
  induction document using Value.induct with
  | none => exact ⟨_, rfl, rfl⟩
  | bool flag => cases flag <;> exact ⟨_, rfl, rfl⟩
  | int number =>
    have safe : number.natAbs ≤ maxSafeInteger.natAbs := of_decide_eq_true agreed
    exact ⟨PyStr.decimalInt number, by simp only [encode, encodeInt, if_pos safe],
      number_encodable (decimalInt_codes number)⟩
  | float number => cases agreed
  | str text => exact ⟨_, rfl, escapeString_encodable agreed⟩
  | list items each =>
    rw [Value.interoperable, Value.interoperableItems_iff] at agreed
    have written : ∃ texts, encodeItems items = .ok texts ∧
        ∀ text ∈ texts, text.all encodable = true := by
      induction items with
      | nil => exact ⟨[], rfl, fun _ absurdity => by cases absurdity⟩
      | cons item rest inductionHypothesis =>
        obtain ⟨text, itemText, carried⟩ := each item List.mem_cons_self (agreed item List.mem_cons_self)
        obtain ⟨texts, restTexts, restCarried⟩ := inductionHypothesis
          (fun other member => each other (List.mem_cons_of_mem _ member))
          (fun other member => agreed other (List.mem_cons_of_mem _ member))
        refine ⟨text :: texts, by simp only [encodeItems, itemText, restTexts, Result.ok_bind], ?_⟩
        intro other member
        rcases List.mem_cons.mp member with rfl | later
        · exact carried
        · exact restCarried other later
    obtain ⟨texts, encoded, carried⟩ := written
    refine ⟨.scalar '[' :: (PyStr.join (py ",") texts ++ py "]"), by
      simp only [encode, encoded, Result.ok_bind], ?_⟩
    rw [List.all_cons, List.all_append, join_all (by decide) texts carried]
    rfl
  | tuple items each => cases agreed
  | dict members each =>
    obtain ⟨_, allAgreed⟩ := Value.interoperable_dict.mp agreed
    have written : ∀ sorted : List (Key × Value), (∀ member ∈ sorted, member ∈ members) →
        ∃ texts, renderMembers (sorted.map (fun member => (member.1, encode member.2))) = .ok texts ∧
          ∀ text ∈ texts, text.all encodable = true := by
      intro sorted
      induction sorted with
      | nil => exact fun _ => ⟨[], rfl, fun _ absurdity => by cases absurdity⟩
      | cons member rest inductionHypothesis =>
        intro present
        have here := present member List.mem_cons_self
        obtain ⟨text, valueText, carried⟩ := each member here (allAgreed member here).2
        obtain ⟨texts, restTexts, restCarried⟩ :=
          inductionHypothesis (fun other later => present other (List.mem_cons_of_mem _ later))
        refine ⟨(escapeString (keyName member.1) ++ .scalar ':' :: text) :: texts, by
          simp only [List.map_cons, renderMembers, valueText, restTexts, Result.ok_bind], ?_⟩
        intro other listed
        rcases List.mem_cons.mp listed with rfl | later
        · have named : (keyName member.1).all encodable = true := by
            have encodes := (allAgreed member here).1
            cases key : member.1 with
            | str name => rw [key] at encodes; exact encodes
            | other tag => rfl
          rw [List.all_append, escapeString_encodable named, List.all_cons, carried]
          rfl
        · exact restCarried other later
    have named : members.all (fun member => isName member.1) = true := by
      rw [List.all_eq_true]
      intro member present
      have encodes := (allAgreed member present).1
      cases key : member.1 with
      | str name => rfl
      | other tag => rw [key] at encodes; cases encodes
    obtain ⟨texts, encoded, carried⟩ := written (sortMembers members)
      (fun member present => (sortMembers_perm members).mem_iff.mp present)
    refine ⟨py "\x7b" ++ (PyStr.join (py ",") texts ++ py "\x7d"), by
      simp only [encode, named, if_true, encodeMembers_map, sortMembers_map, encoded,
        Result.ok_bind], ?_⟩
    rw [List.all_append, List.all_append, join_all (by decide) texts carried]
    rfl
  | foreign typeName => cases agreed

/-- A text without lone surrogates has scalar values. -/
theorem mapM_encodable {text : PyStr} (carried : text.all encodable = true) :
    ∃ chars, text.mapM char? = some chars := by
  induction text with
  | nil => exact ⟨[], rfl⟩
  | cons code rest inductionHypothesis =>
    rw [List.all_cons, Bool.and_eq_true] at carried
    obtain ⟨chars, mapped⟩ := inductionHypothesis carried.2
    cases code with
    | scalar char => exact ⟨char :: chars, by simp [List.mapM_cons, char?, mapped]⟩
    | lone offset => cases carried.1

/-- An interoperable value has canonical bytes. -/
theorem interoperable_canonicalizes {document : Value} (agreed : document.interoperable = true) :
    ∃ bytes, canonicalizeBytes document = .ok bytes := by
  obtain ⟨text, encoded, carried⟩ := interoperable_encodes agreed
  obtain ⟨chars, mapped⟩ := mapM_encodable carried
  exact ⟨chars.flatMap String.utf8EncodeChar, by
    simp only [canonicalizeBytes, canonicalize, encoded, Result.ok_bind, utf8, mapped]⟩

/-- Lists whose elements are written alike are written alike. -/
theorem encodeItems_congr {left right : List Value}
    (same : List.Forall₂ (fun first second => encode first = encode second) left right) :
    encodeItems left = encodeItems right := by
  induction same with
  | nil => rfl
  | cons equal _ inductionHypothesis => rw [encodeItems, encodeItems, equal, inductionHypothesis]

/-- A value that means a safe integer is written as that integer. -/
theorem encode_integer {value : Value} (wellFormed : value.WellFormed) {number : Int}
    (safe : number.natAbs ≤ maxSafeInteger.natAbs) (meaning : value.denote = .num number) :
    encode value = .ok (PyStr.decimalInt number) := by
  cases value with
  | int other =>
    have same : other = number := by
      have cast : (other : ℚ) = number := by simpa [Value.denote] using meaning
      exact_mod_cast cast
    subst same
    simp only [encode, encodeInt, if_pos safe]
  | float float =>
    rw [Value.denote] at meaning
    split at meaning
    case _ stated found =>
      have same : stated = (number : ℚ) := Json.num.inj meaning
      have integral : integral? float = some number := by
        rw [integral?, found, same]
        simp [safe]
      rw [encode, encodeFloat, integral]
    case _ => cases meaning
  | _ => simp [Value.denote] at meaning

/-- Equal meanings of items, position by position. -/
theorem items_meaning {left right : List Value}
    (same : left.map Value.denote = right.map Value.denote)
    (texts : ∀ first ∈ left, ∀ second ∈ right, first.denote = second.denote →
      encode first = encode second) :
    List.Forall₂ (fun first second => encode first = encode second) left right := by
  induction left generalizing right with
  | nil =>
    cases right with
    | nil => exact List.Forall₂.nil
    | cons => cases same
  | cons first rest inductionHypothesis =>
    cases right with
    | nil => cases same
    | cons second others =>
      obtain ⟨meanings, remaining⟩ := List.cons.inj same
      exact List.Forall₂.cons
        (texts first List.mem_cons_self second List.mem_cons_self meanings)
        (inductionHypothesis remaining (fun one member other otherMember =>
          texts one (List.mem_cons_of_mem _ member) other (List.mem_cons_of_mem _ otherMember)))

/-- Two objects with one meaning list the same members with the same texts. -/
theorem members_meaning {left right : List (Key × Value)} (leftDistinct : (left.map Prod.fst).Nodup)
    (rightDistinct : (right.map Prod.fst).Nodup)
    (leftNamed : ∀ member ∈ left, ∃ name, member.1 = .str name)
    (same : Value.denoteMembers left = Value.denoteMembers right)
    (texts : ∀ first ∈ left, ∀ second ∈ right, first.2.denote = second.2.denote →
      encode first.2 = encode second.2) :
    ∀ entry, entry ∈ left.map (fun member => (member.1, encode member.2)) →
      entry ∈ right.map (fun member => (member.1, encode member.2)) := by
  rintro entry listed
  obtain ⟨⟨key, value⟩, member, rfl⟩ := List.mem_map.mp listed
  obtain ⟨name, named⟩ := leftNamed _ member
  obtain rfl : key = .str name := named
  have meaning := congrFun same name
  rw [Value.denoteMembers_lookup, Value.denoteMembers_lookup,
    (Value.lookup_mem leftDistinct).mpr member, Option.map_some] at meaning
  obtain ⟨other, found, equal⟩ := Option.map_eq_some_iff.mp meaning.symm
  have otherMember := (Value.lookup_mem rightDistinct).mp found
  rw [texts _ member _ otherMember equal.symm]
  exact List.mem_map.mpr ⟨_, otherMember, rfl⟩

/-- Writing the values keeps the names. -/
theorem keys_rendered (members : List (Key × Value)) :
    (members.map (fun member => (member.1, encode member.2))).map Prod.fst =
      members.map Prod.fst := by
  rw [List.map_map]
  rfl

/-- Members named by texts have names. -/
theorem isName_all {members : List (Key × Value)}
    (named : ∀ member ∈ members, ∃ name, member.1 = .str name) :
    members.all (fun member => isName member.1) = true := by
  rw [List.all_eq_true]
  intro member present
  obtain ⟨name, stated⟩ := named member present
  rw [stated]
  rfl

/-- Arrays with one meaning have one text when their items do. -/
theorem list_text {items : List Value} {value : Value} (wellFormed : value.WellFormed)
    (meaning : value.denote = (Value.list items).denote)
    (texts : ∀ others, value = .list others → ∀ first ∈ others, first.WellFormed → ∀ second ∈ items,
      first.denote = second.denote → encode first = encode second) :
    encode value = encode (.list items) := by
  obtain ⟨others, rfl, same⟩ := Value.denote_arr wellFormed meaning
  rw [Value.denoteItems_map] at same
  have agree := items_meaning same (fun first member second otherMember equal => texts others rfl first
    member (Value.wellFormedItems_iff.mp wellFormed first member) second otherMember equal)
  rw [encode, encode, encodeItems_congr agree]

/-- Objects with one meaning have one text when their members do. -/
theorem dict_text {members : List (Key × Value)} (document : (Value.dict members).WellFormed)
    (encodes : ∀ member ∈ members, encodableKey member.1 = true) {value : Value}
    (wellFormed : value.WellFormed) (meaning : value.denote = (Value.dict members).denote)
    (texts : ∀ others, value = .dict others → ∀ first ∈ others, first.2.WellFormed → ∀ second ∈ members,
      first.2.denote = second.2.denote → encode first.2 = encode second.2) :
    encode value = encode (.dict members) := by
  obtain ⟨distinct, stated⟩ := document
  rw [Value.wellFormedMembers_iff] at stated
  have named := fun member present => (stated member present).1
  obtain ⟨others, rfl, same⟩ := Value.denote_obj meaning
  obtain ⟨othersDistinct, othersStated⟩ := wellFormed
  rw [Value.wellFormedMembers_iff] at othersStated
  have othersNamed := fun member present => (othersStated member present).1
  have agree : ∀ first ∈ others, ∀ second ∈ members, first.2.denote = second.2.denote →
      encode first.2 = encode second.2 := fun first member second otherMember equal =>
    texts others rfl first member (othersStated first member).2 second otherMember equal
  have permuted : (members.map (fun member => (member.1, encode member.2))).Perm
      (others.map (fun member => (member.1, encode member.2))) := by
    refine (List.perm_ext_iff_of_nodup
      (List.Nodup.of_map Prod.fst (keys_rendered members ▸ distinct))
      (List.Nodup.of_map Prod.fst (keys_rendered others ▸ othersDistinct))).mpr ?_
    intro entry
    exact ⟨members_meaning distinct othersDistinct named same.symm
        (fun first member second otherMember equal =>
          (agree second otherMember first member equal.symm).symm) entry,
      members_meaning othersDistinct distinct othersNamed same agree entry⟩
  have sorted := sortMembers_unique permuted (by rw [keys_rendered]; exact distinct)
    (fun entry listed => by
      obtain ⟨member, present, rfl⟩ := List.mem_map.mp listed
      exact encodes member present)
  rw [encode, encode, isName_all named, isName_all othersNamed, encodeMembers_map,
    encodeMembers_map, sorted]

/-- A value with the meaning of an interoperable value has its canonical text. -/
theorem interoperable_text {document : Value} (agreed : document.interoperable = true) :
    ∀ {value : Value}, value.WellFormed → value.denote = document.denote →
      encode value = encode document := by
  induction document using Value.induct with
  | none => exact fun _ meaning => by rw [Value.denote_null meaning]
  | bool flag => exact fun _ meaning => by rw [Value.denote_bool meaning]
  | int number =>
    intro value wellFormed meaning
    have safe : number.natAbs ≤ maxSafeInteger.natAbs := of_decide_eq_true agreed
    rw [encode_integer wellFormed safe meaning, encode, encodeInt, if_pos safe]
  | float => cases agreed
  | str text => exact fun _ meaning => by rw [Value.denote_str meaning]
  | list items each =>
    intro value wellFormed meaning
    rw [Value.interoperable, Value.interoperableItems_iff] at agreed
    exact list_text wellFormed meaning fun _ _ _ _ stated second member equal =>
      each second member (agreed second member) stated equal
  | tuple => cases agreed
  | dict members each =>
    intro value wellFormed meaning
    have allAgreed := (Value.interoperable_dict.mp agreed).2
    exact dict_text (Value.interoperable_wellFormed agreed)
      (fun member present => (allAgreed member present).1) wellFormed meaning
      fun _ _ _ _ firstStated second member equal =>
        each second member (allAgreed second member).2 firstStated equal
  | foreign => cases agreed

/-- A value with the meaning of an interoperable value has its canonical bytes. -/
theorem interoperable_bytes {document value : Value} (agreed : document.interoperable = true)
    (wellFormed : value.WellFormed) (meaning : value.JsonEq document) :
    canonicalizeBytes value = canonicalizeBytes document := by
  rw [canonicalizeBytes, canonicalizeBytes, canonicalize, canonicalize,
    interoperable_text agreed wellFormed meaning]

end Jcs

end TaxStamps
