import TaxStamps.Crypto.Floats
import TaxStamps.Crypto.Interoperable
import TaxStamps.Python.Json

/-!
# Representable values

A value is representable when the canonicalizer accepts it. Its floats have a
text of their own, so a JSON-equal value has the same text, unless an integer
stands in it where a float stood and the integer is beyond the safe range: the
canonicalizer refuses the one and accepts the other.
-/

namespace TaxStamps

namespace Value

mutual

/-- Every integer is in the safe range. -/
def safe : Value → Bool
  | .int value => decide (value.natAbs ≤ Jcs.maxSafeInteger.natAbs)
  | .list items => safeItems items
  | .tuple items => safeItems items
  | .dict members => safeMembers members
  | _ => true

/-- Every element is safe. -/
def safeItems : List Value → Bool
  | [] => true
  | item :: rest => safe item && safeItems rest

/-- Every value is safe. -/
def safeMembers : List (Key × Value) → Bool
  | [] => true
  | (_, value) :: rest => safe value && safeMembers rest

/-- Every dict has pairwise distinct keys, as Python's dicts have. -/
def distinct : Value → Bool
  | .list items => distinctItems items
  | .tuple items => distinctItems items
  | .dict members => decide (members.map Prod.fst).Nodup && distinctMembers members
  | _ => true

/-- The elements have distinct names throughout. -/
def distinctItems : List Value → Bool
  | [] => true
  | item :: rest => distinct item && distinctItems rest

/-- The values have distinct names throughout. -/
def distinctMembers : List (Key × Value) → Bool
  | [] => true
  | (_, value) :: rest => distinct value && distinctMembers rest

end

/-- Safety of the elements, one by one. -/
theorem safeItems_iff {items : List Value} :
    safeItems items = true ↔ ∀ item ∈ items, item.safe = true := by
  induction items with
  | nil => simp [safeItems]
  | cons item rest inductionHypothesis => simp [safeItems, inductionHypothesis]

/-- Safety of the values, one by one. -/
theorem safeMembers_iff {members : List (Key × Value)} :
    safeMembers members = true ↔ ∀ member ∈ members, member.2.safe = true := by
  induction members with
  | nil => simp [safeMembers]
  | cons member rest inductionHypothesis => simp [safeMembers, inductionHypothesis]

/-- Distinct names in the elements, one by one. -/
theorem distinctItems_iff {items : List Value} :
    distinctItems items = true ↔ ∀ item ∈ items, item.distinct = true := by
  induction items with
  | nil => simp [distinctItems]
  | cons item rest inductionHypothesis => simp [distinctItems, inductionHypothesis]

/-- Distinct names in the values, one by one. -/
theorem distinctMembers_iff {members : List (Key × Value)} :
    distinctMembers members = true ↔ ∀ member ∈ members, member.2.distinct = true := by
  induction members with
  | nil => simp [distinctMembers]
  | cons member rest inductionHypothesis => simp [distinctMembers, inductionHypothesis]

end Value

namespace Jcs

/-- The canonicalizer accepts the value, and UTF-8 carries its text. -/
def Canonical (value : Value) : Prop := ∃ text, encode value = .ok text ∧ text.all encodable = true

/-- A text with scalar values holds no lone surrogate. -/
theorem mapM_carried {text : PyStr} {chars : List Char} (mapped : text.mapM char? = some chars) :
    text.all encodable = true := by
  rw [mapM_char mapped, List.all_map, List.all_eq_true]
  exact fun _ _ => rfl

/-- A representable value is one with canonical bytes. -/
theorem canonical_iff {value : Value} : Canonical value ↔ ∃ bytes, canonicalizeBytes value = .ok bytes := by
  constructor
  · rintro ⟨text, encoded, carried⟩
    obtain ⟨chars, mapped⟩ := mapM_encodable carried
    exact ⟨chars.flatMap String.utf8EncodeChar, by
      simp only [canonicalizeBytes, canonicalize, encoded, Result.ok_bind, utf8, mapped]⟩
  · rintro ⟨bytes, canonical⟩
    rw [canonicalizeBytes, Result.bind_ok] at canonical
    obtain ⟨text, encoded, written⟩ := canonical
    refine ⟨text, encoded, ?_⟩
    rw [utf8] at written
    split at written
    case _ chars mapped => exact mapM_carried mapped
    case _ => cases written

/-- If a written string can be encoded, so can the text. -/
theorem escapeString_carried {text : PyStr} (carried : (escapeString text).all encodable = true) :
    text.all encodable = true := by
  rw [escapeString, List.all_cons, List.all_append, List.all_flatMap] at carried
  simp only [Bool.and_eq_true] at carried
  rw [List.all_eq_true] at carried ⊢
  intro code member
  cases code with
  | scalar char => rfl
  | lone offset =>
    have kept : escapeCode (.lone offset) = [.lone offset] := by
      have high : 0xD800 ≤ (Code.lone offset).ord := Nat.le_add_right _ _
      unfold escapeCode
      split <;> first | omega | skip
      rw [if_neg (by omega)]
    have stated := carried.2.1 _ member
    rw [kept] at stated
    exact (Bool.and_eq_true _ _ ▸ stated).1

/-- If a joined text can be encoded, so can each text. -/
theorem join_carried {texts : List PyStr} (carried : (PyStr.join (py ",") texts).all encodable = true) :
    ∀ text ∈ texts, text.all encodable = true := by
  cases texts with
  | nil => exact fun _ absurdity => by cases absurdity
  | cons first rest =>
    rw [join_comma, List.all_append, Bool.and_eq_true, List.all_flatMap] at carried
    intro text member
    rcases List.mem_cons.mp member with rfl | later
    · exact carried.1
    · have stated := List.all_eq_true.mp carried.2 text later
      rw [List.all_cons, Bool.and_eq_true] at stated
      exact stated.2

/-- The items of a representable array. -/
theorem Canonical.items {items : List Value} (canonical : Canonical (.list items)) :
    ∀ item ∈ items, Canonical item := by
  obtain ⟨text, encoded, carried⟩ := canonical
  obtain ⟨rfl, each⟩ := encodeList_ok encoded
  rw [List.all_cons, List.all_append, Bool.and_eq_true, Bool.and_eq_true] at carried
  exact fun item member => ⟨_, each item member,
    join_carried carried.2.1 _ (List.mem_map_of_mem member)⟩

/-- The members of a representable object. -/
theorem Canonical.members {members : List (Key × Value)} (canonical : Canonical (.dict members)) :
    ∀ member ∈ members, encodableKey member.1 = true ∧ Canonical member.2 := by
  obtain ⟨text, encoded, carried⟩ := canonical
  have named : members.all (fun member => isName member.1) = true := by
    rw [encode] at encoded
    split at encoded
    case isTrue all => exact all
    case isFalse => cases encoded
  obtain ⟨rfl, each⟩ := encodeDict_ok encoded
  rw [List.all_cons, List.all_append, Bool.and_eq_true, Bool.and_eq_true] at carried
  intro member present
  have written := join_carried carried.2.1 (memberText member)
    (List.mem_map_of_mem ((sortMembers_perm members).mem_iff.mpr present))
  rw [memberText, List.all_append, List.all_cons, Bool.and_eq_true, Bool.and_eq_true] at written
  refine ⟨?_, _, each member present, written.2.2⟩
  have name := List.all_eq_true.mp named member present
  cases key : member.1 with
  | str text =>
    rw [key] at written
    exact escapeString_carried written.1
  | other tag =>
    rw [key] at name
    cases name

/-- An integer with a canonical form is safe. -/
theorem int_bounded {number : Int} (canonical : Canonical (.int number)) :
    number.natAbs ≤ maxSafeInteger.natAbs := by
  obtain ⟨text, encoded, _⟩ := canonical
  rw [encode, encodeInt] at encoded
  by_contra beyond
  rw [if_neg beyond] at encoded
  split at encoded <;> cases encoded

/-- The integers of a representable value are in the safe range. -/
theorem canonical_safe {value : Value} (canonical : Canonical value) (stated : value.WellFormed) :
    value.safe = true := by
  induction value using Value.induct with
  | int number => exact decide_eq_true (int_bounded canonical)
  | list items each =>
    exact Value.safeItems_iff.mpr fun item member => each item member (canonical.items item member)
      (Value.wellFormedItems_iff.mp stated item member)
  | dict members each =>
    exact Value.safeMembers_iff.mpr fun member present => each member present
      (canonical.members member present).2 (Value.wellFormedMembers_iff.mp stated.2 member present).2
  | tuple => exact absurd stated id
  | _ => rfl

/-- A float that is accepted has one text with every value of its number, as
long as no integer beyond the safe range stands for it. -/
theorem float_text {number : PyFloat} {text : PyStr} (encoded : encodeFloat number = .ok text)
    {value : Value} (wellFormed : value.WellFormed) (safe : value.safe = true)
    (meaning : value.denote = (Value.float number).denote) : encode value = encode (.float number) := by
  obtain ⟨stated, found, _⟩ := encodeFloat_number encoded
  have numbered : (Value.float number).denote = .num stated := by simp only [Value.denote, found]
  rw [numbered] at meaning
  cases value with
  | int integer =>
    have bounded : integer.natAbs ≤ maxSafeInteger.natAbs := of_decide_eq_true safe
    have floated : (Value.float number).WellFormed := trivial
    rw [encode_integer wellFormed bounded rfl, encode_integer floated bounded (numbered.trans meaning.symm)]
  | float other =>
    have same : other.number? = some stated := by
      rw [Value.denote] at meaning
      split at meaning
      case _ held kept => rw [kept, Json.num.inj meaning]
      case _ => cases meaning
    rw [encode, encode, encodeFloat_unique same found]
  | _ => simp [Value.denote] at meaning

/-- A value with the meaning of a representable one has its canonical text, as
long as its integers are in the safe range. -/
theorem canonical_text {document : Value} (canonical : Canonical document) (stated : document.WellFormed) :
    ∀ {value : Value}, value.WellFormed → value.safe = true → value.denote = document.denote →
      encode value = encode document := by
  induction document using Value.induct with
  | none => exact fun _ _ meaning => by rw [Value.denote_null meaning]
  | bool flag => exact fun _ _ meaning => by rw [Value.denote_bool meaning]
  | int number =>
    intro value wellFormed _ meaning
    have bounded := int_bounded canonical
    rw [encode_integer wellFormed bounded meaning, encode_integer stated bounded rfl]
  | float number =>
    intro value wellFormed safe meaning
    obtain ⟨text, encoded, _⟩ := canonical
    exact float_text encoded wellFormed safe meaning
  | str text => exact fun _ _ meaning => by rw [Value.denote_str meaning]
  | list items each =>
    intro value wellFormed safe meaning
    apply list_text wellFormed meaning
    rintro others rfl first firstMember firstStated second member equal
    exact each second member (canonical.items second member)
      (Value.wellFormedItems_iff.mp stated second member) firstStated
      (Value.safeItems_iff.mp safe first firstMember) equal
  | tuple => exact absurd stated id
  | dict members each =>
    intro value wellFormed safe meaning
    apply dict_text stated (fun member present => (canonical.members member present).1) wellFormed meaning
    rintro others rfl first firstMember firstStated second member equal
    exact each second member (canonical.members second member).2
      (Value.wellFormedMembers_iff.mp stated.2 second member).2 firstStated
      (Value.safeMembers_iff.mp safe first firstMember) equal
  | foreign => exact absurd stated id

/-- A text without lone surrogates has no surrogate pairs to join. -/
theorem joinSurrogates_carried {text : PyStr} (carried : text.all encodable = true) :
    text.joinSurrogates = text := by
  induction text with
  | nil => rfl
  | cons code rest inductionHypothesis =>
    rw [List.all_cons, Bool.and_eq_true] at carried
    cases code with
    | scalar char =>
      have kept : PyStr.joinSurrogates (.scalar char :: rest) =
          .scalar char :: PyStr.joinSurrogates rest := rfl
      rw [kept, inductionHypothesis carried.2]
    | lone offset => cases carried.1

/-- What the JSON text of a value gives back: a JSON value with the same
canonical text. -/
def Reparsed (value : Value) : Prop :=
  ∃ clean, value.reparse = .ok clean ∧ clean.WellFormed ∧ encode clean = encode value

/-- Reparsed elements are written as before. -/
theorem reparseItems_canonical {items : List Value} (each : ∀ item ∈ items, Reparsed item) :
    ∃ cleans, Value.reparseItems items = .ok cleans ∧ (Value.list cleans).WellFormed ∧
      encodeItems cleans = encodeItems items := by
  induction items with
  | nil => exact ⟨[], rfl, trivial, rfl⟩
  | cons item rest inductionHypothesis =>
    obtain ⟨clean, parsed, stated, text⟩ := each item List.mem_cons_self
    obtain ⟨cleans, others, othersStated, texts⟩ :=
      inductionHypothesis fun other member => each other (List.mem_cons_of_mem _ member)
    refine ⟨clean :: cleans, by simp only [Value.reparseItems, parsed, others, Result.ok_bind],
      ⟨stated, othersStated⟩, ?_⟩
    rw [encodeItems, encodeItems, text, texts]

/-- Reparsed members keep their names and are written as before. -/
theorem reparseMembers_canonical {members : List (Key × Value)}
    (encodes : ∀ member ∈ members, encodableKey member.1 = true)
    (each : ∀ member ∈ members, Reparsed member.2) :
    ∃ pairs, Value.reparseMembers members = .ok pairs ∧ Value.WellFormedMembers pairs ∧
      pairs.map (fun member => (member.1, encode member.2)) =
        members.map (fun member => (member.1, encode member.2)) := by
  induction members with
  | nil => exact ⟨[], rfl, trivial, rfl⟩
  | cons member rest inductionHypothesis =>
    obtain ⟨clean, parsed, stated, text⟩ := each member List.mem_cons_self
    obtain ⟨pairs, others, othersStated, texts⟩ := inductionHypothesis
      (fun other present => encodes other (List.mem_cons_of_mem _ present))
      (fun other present => each other (List.mem_cons_of_mem _ present))
    obtain ⟨key, value⟩ := member
    cases key with
    | other tag => cases encodes _ List.mem_cons_self
    | str name =>
      have carried : name.all encodable = true := encodes _ List.mem_cons_self
      refine ⟨(.str name, clean) :: pairs, ?_, ⟨⟨name, rfl⟩, stated, othersStated⟩, ?_⟩
      · simp only [Value.reparseMembers, joinSurrogates_carried carried, parsed, others, Result.ok_bind]
      · rw [List.map_cons, List.map_cons, texts, text]

/-- An object is written from its names and the texts of its values. -/
theorem encode_members {left right : List (Key × Value)}
    (same : left.map (fun member => (member.1, encode member.2)) =
      right.map (fun member => (member.1, encode member.2))) :
    encode (.dict left) = encode (.dict right) := by
  have keys := congrArg (List.map Prod.fst) same
  rw [keys_rendered, keys_rendered] at keys
  have names := congrArg (fun listed => listed.all isName) keys
  simp only [List.all_map] at names
  rw [encode, encode, encodeMembers_map, encodeMembers_map, same]
  simp only [Function.comp_def] at names
  rw [names]

/-- A representable value survives its JSON text. -/
theorem canonical_reparse {value : Value} (canonical : Canonical value) (distinct : value.distinct = true) :
    Reparsed value := by
  induction value using Value.induct with
  | none => exact ⟨_, rfl, trivial, rfl⟩
  | bool flag => exact ⟨_, rfl, trivial, rfl⟩
  | int number =>
    have bounded := int_bounded canonical
    have small : maxSafeInteger.natAbs < 10 ^ 16 := by decide
    have short := PyStr.lt_digitLimit (Nat.lt_of_le_of_lt bounded small) (by decide)
    refine ⟨.int number, ?_, trivial, rfl⟩
    rw [Value.reparse]
    exact if_pos short
  | float number => exact ⟨_, rfl, trivial, rfl⟩
  | str text =>
    obtain ⟨_, encoded, carried⟩ := canonical
    rw [encode] at encoded
    rw [← Except.ok.inj encoded] at carried
    refine ⟨.str text, ?_, trivial, rfl⟩
    rw [Value.reparse, joinSurrogates_carried (escapeString_carried carried)]
  | list items each =>
    rw [Value.distinct, Value.distinctItems_iff] at distinct
    obtain ⟨cleans, parsed, stated, texts⟩ := reparseItems_canonical fun item member =>
      each item member (canonical.items item member) (distinct item member)
    exact ⟨.list cleans, by simp only [Value.reparse, parsed, Result.ok_bind], stated, by
      rw [encode, encode, texts]⟩
  | tuple items each =>
    rw [Value.distinct, Value.distinctItems_iff] at distinct
    have listed : Canonical (.list items) := by
      obtain ⟨text, encoded, carried⟩ := canonical
      have same : encode (.tuple items) = encode (.list items) := by simp only [encode]
      exact ⟨text, same.symm.trans encoded, carried⟩
    obtain ⟨cleans, parsed, stated, texts⟩ := reparseItems_canonical fun item member =>
      each item member (listed.items item member) (distinct item member)
    exact ⟨.list cleans, by simp only [Value.reparse, parsed, Result.ok_bind], stated, by
      rw [encode, encode, texts]⟩
  | dict members each =>
    rw [Value.distinct, Bool.and_eq_true, decide_eq_true_iff, Value.distinctMembers_iff] at distinct
    obtain ⟨pairs, parsed, stated, texts⟩ := reparseMembers_canonical
      (fun member present => (canonical.members member present).1) fun member present =>
        each member present (canonical.members member present).2 (distinct.2 member present)
    have keys := congrArg (List.map Prod.fst) texts
    rw [keys_rendered, keys_rendered] at keys
    have fresh : (pairs.map Prod.fst).Nodup := keys ▸ distinct.1
    refine ⟨.dict pairs, ?_, ⟨fresh, stated⟩, encode_members texts⟩
    simp only [Value.reparse, parsed, Result.ok_bind, Value.ofPairs_distinct fresh]
  | foreign typeName =>
    obtain ⟨_, encoded, _⟩ := canonical
    cases encoded

end Jcs

end TaxStamps
