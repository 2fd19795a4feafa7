import TaxStamps.Crypto.Interoperable

/-!
# Plain documents

Every document the service signs is plain: interoperable, and its strings are
those that PostgreSQL stores. Its canonical text is that of every JSON-equal
value. This is what makes a signature survive the JSONB column, which keeps the
JSON value and not its spelling.
-/

namespace TaxStamps

/-- A key as the service's documents use it. -/
def Jcs.storableKey : Key → Bool
  | .str name => name.all Code.storable
  | .other _ => false

namespace Value

mutual

/-- A plain document. -/
def plain : Value → Bool
  | .none => true
  | .bool _ => true
  | .int value => decide (value.natAbs ≤ Jcs.maxSafeInteger.natAbs)
  | .float _ => false
  | .str value => value.all Code.storable
  | .list items => plainItems items
  | .tuple _ => false
  | .dict members => decide (members.map Prod.fst).Nodup && plainMembers members
  | .foreign _ => false

/-- Every element is plain. -/
def plainItems : List Value → Bool
  | [] => true
  | item :: rest => plain item && plainItems rest

/-- Every member has a storable name and a plain value. -/
def plainMembers : List (Key × Value) → Bool
  | [] => true
  | (key, value) :: rest => Jcs.storableKey key && plain value && plainMembers rest

end

/-- Plainness of the elements, one by one. -/
theorem plainItems_iff {items : List Value} :
    plainItems items = true ↔ ∀ item ∈ items, item.plain = true := by
  induction items with
  | nil => simp [plainItems]
  | cons item rest inductionHypothesis => simp [plainItems, inductionHypothesis]

/-- Plainness of the members, one by one. -/
theorem plainMembers_iff {members : List (Key × Value)} :
    plainMembers members = true ↔
      ∀ member ∈ members, Jcs.storableKey member.1 = true ∧ member.2.plain = true := by
  induction members with
  | nil => simp [plainMembers]
  | cons member rest inductionHypothesis =>
    obtain ⟨key, value⟩ := member
    simp [plainMembers, inductionHypothesis, and_assoc]

/-- A plain object. -/
theorem plain_dict {members : List (Key × Value)} :
    (Value.dict members).plain = true ↔ (members.map Prod.fst).Nodup ∧
      ∀ member ∈ members, Jcs.storableKey member.1 = true ∧ member.2.plain = true := by
  rw [plain, Bool.and_eq_true, decide_eq_true_iff, plainMembers_iff]

/-- A character that PostgreSQL stores is one that UTF-8 carries. -/
theorem storable_encodable {code : Code} (storable : code.storable = true) :
    Jcs.encodable code = true := by
  cases code with
  | scalar char => rfl
  | lone offset => cases storable

/-- A text that a column stores can be encoded. -/
theorem storable_text {text : PyStr} (storable : text.all Code.storable = true) :
    text.all Jcs.encodable = true := by
  rw [List.all_eq_true] at storable ⊢
  exact fun code member => storable_encodable (storable code member)

/-- A plain document is interoperable. -/
theorem plain_interoperable {document : Value} (plain : document.plain = true) :
    document.interoperable = true := by
  induction document using Value.induct with
  | str text => exact storable_text plain
  | list items each =>
    rw [Value.plain, plainItems_iff] at plain
    rw [interoperable, interoperableItems_iff]
    exact fun item member => each item member (plain item member)
  | dict members each =>
    obtain ⟨distinct, allPlain⟩ := plain_dict.mp plain
    refine interoperable_dict.mpr ⟨distinct, fun member present => ⟨?_, ?_⟩⟩
    · have storable := (allPlain member present).1
      cases named : member.1 with
      | str name =>
        rw [named] at storable
        exact storable_text storable
      | other tag =>
        rw [named] at storable
        cases storable
    · exact each member present (allPlain member present).2
  | float => cases plain
  | tuple => cases plain
  | foreign => cases plain
  | _ => exact plain

/-- A plain document has distinct names at every depth. -/
theorem plain_wellFormed {document : Value} (plain : document.plain = true) :
    document.WellFormed := interoperable_wellFormed (plain_interoperable plain)

/-- A new plain member keeps an object plain. -/
theorem plain_append {members : List (Key × Value)} (plain : (Value.dict members).plain = true)
    {name : Key} {value : Value} (absent : lookup name members = Option.none)
    (named : Jcs.storableKey name = true) (valued : value.plain = true) :
    (Value.dict (members ++ [(name, value)])).plain = true := by
  obtain ⟨distinct, each⟩ := plain_dict.mp plain
  refine plain_dict.mpr ⟨?_, ?_⟩
  · rw [List.map_append, List.nodup_append]
    refine ⟨distinct, List.nodup_singleton _, ?_⟩
    intro stated member other single same
    rw [List.map_singleton, List.mem_singleton] at single
    obtain ⟨⟨known, old⟩, present, rfl⟩ := List.mem_map.mp member
    have found := (lookup_mem distinct).mpr present
    have renamed : known = name := same.trans single
    rw [renamed, absent] at found
    cases found
  · intro member present
    rcases List.mem_append.mp present with old | new
    · exact each member old
    · rw [List.mem_singleton.mp new]
      exact ⟨named, valued⟩

end Value

namespace Jcs

/-- A plain document has canonical bytes. -/
theorem plain_canonicalizes {document : Value} (plain : document.plain = true) :
    ∃ bytes, canonicalizeBytes document = .ok bytes :=
  interoperable_canonicalizes (Value.plain_interoperable plain)

/-- A value with the meaning of a plain document has its canonical bytes. -/
theorem plain_bytes {document value : Value} (plain : document.plain = true)
    (wellFormed : value.WellFormed) (meaning : value.JsonEq document) :
    canonicalizeBytes value = canonicalizeBytes document :=
  interoperable_bytes (Value.plain_interoperable plain) wellFormed meaning

end Jcs

end TaxStamps
