import TaxStamps.Python.Value

/-!
# Members of objects

Adding, setting and removing members, what it does to lookups, and when two
objects are one JSON value.
-/

namespace TaxStamps

namespace Value

/-- Objects are JSON-equal when every name means the same. -/
theorem dict_jsonEq {left right : List (Key × Value)} :
    (Value.dict left).JsonEq (.dict right) ↔ ∀ name,
      (lookup (.str name) left).map denote = (lookup (.str name) right).map denote := by
  refine ⟨fun same name => lookup_meaning same name, fun same => ?_⟩
  rw [JsonEq, denote, denote]
  congr 1
  funext name
  rw [denoteMembers_lookup, denoteMembers_lookup, same]

/-- JSON-equal objects stay equal when one name is removed from both. -/
theorem without_jsonEq {left right : List (Key × Value)}
    (same : (Value.dict left).JsonEq (.dict right)) (removed : PyStr) :
    (Value.dict (without removed left)).JsonEq (.dict (without removed right)) := by
  rw [dict_jsonEq] at same ⊢
  intro name
  by_cases equal : name = removed
  · subst equal
    rw [lookup_without_same, lookup_without_same]
  · have different : Key.str name ≠ .str removed := fun keys => equal (Key.str.inj keys)
    rw [lookup_without_other different, lookup_without_other different, same]

/-- Objects that agree without a name and on that name are JSON-equal. -/
theorem jsonEq_of_without {left right : List (Key × Value)} {removed : PyStr}
    (rest : (Value.dict (without removed left)).JsonEq (.dict (without removed right)))
    (named : (lookup (.str removed) left).map denote = (lookup (.str removed) right).map denote) :
    (Value.dict left).JsonEq (.dict right) := by
  rw [dict_jsonEq] at rest ⊢
  intro name
  by_cases equal : name = removed
  · rw [equal, named]
  · have different : Key.str name ≠ .str removed := fun keys => equal (Key.str.inj keys)
    rw [← lookup_without_other different left, ← lookup_without_other different right, rest]

/-- A member is looked up in the first list, then in the second. -/
theorem lookup_append (key : Key) (left right : List (Key × Value)) :
    lookup key (left ++ right) = (lookup key left).or (lookup key right) := by
  induction left with
  | nil => rfl
  | cons member rest inductionHypothesis =>
    obtain ⟨name, value⟩ := member
    by_cases same : name = key
    · simp [lookup, same]
    · simp [lookup, same, inductionHypothesis]

/-- A name is missing exactly when no member has it. -/
theorem lookup_none {key : Key} {members : List (Key × Value)} :
    lookup key members = Option.none ↔ ∀ member ∈ members, member.1 ≠ key := by
  induction members with
  | nil => simp [lookup]
  | cons member rest inductionHypothesis =>
    by_cases same : member.1 = key
    · simp [lookup, same]
    · simp [lookup, same, inductionHypothesis]

/-- Removing the member that was added last. -/
theorem without_append {members : List (Key × Value)} {name : PyStr}
    (absent : lookup (.str name) members = Option.none) (value : Value) :
    without name (members ++ [(.str name, value)]) = members := by
  have kept : without name members = members := by
    rw [without, List.filter_eq_self]
    exact fun member present => decide_eq_true (lookup_none.mp absent member present)
  rw [without, List.filter_append, ← without, kept]
  simp

/-- A dict is well formed when its keys are distinct texts and its values are well formed. -/
theorem wellFormed_dict {members : List (Key × Value)} :
    (Value.dict members).WellFormed ↔ (members.map Prod.fst).Nodup ∧
      ∀ member ∈ members, (∃ name, member.1 = .str name) ∧ member.2.WellFormed := by
  rw [WellFormed, wellFormedMembers_iff]

/-- Leaving out a name keeps a dict well formed. -/
theorem wellFormed_without {members : List (Key × Value)}
    (wellFormed : (Value.dict members).WellFormed) (name : PyStr) :
    (Value.dict (without name members)).WellFormed := by
  obtain ⟨distinct, each⟩ := wellFormed_dict.mp wellFormed
  exact wellFormed_dict.mpr ⟨distinct.sublist ((List.filter_sublist).map Prod.fst),
    fun member present => each member (List.mem_of_mem_filter present)⟩

/-- A looked-up value of a well-formed dict is well formed. -/
theorem wellFormed_lookup {members : List (Key × Value)}
    (wellFormed : (Value.dict members).WellFormed) {key : Key} {value : Value}
    (found : lookup key members = some value) : value.WellFormed := by
  obtain ⟨distinct, each⟩ := wellFormed_dict.mp wellFormed
  exact (each _ ((lookup_mem distinct).mp found)).2

/-- A member of an object that is JSON-equal to one that has the member. -/
theorem lookup_stored {left right : List (Key × Value)}
    (same : (Value.dict left).JsonEq (.dict right)) {name : PyStr} {value : Value}
    (found : lookup (.str name) right = some value) :
    ∃ stored, lookup (.str name) left = some stored ∧ stored.JsonEq value := by
  have meanings := lookup_meaning same name
  rw [found, Option.map_some] at meanings
  exact Option.map_eq_some_iff.mp meanings

/-- A text in a dict is the same text in every dict that is JSON-equal to it. -/
theorem lookup_stored_text {left right : List (Key × Value)}
    (same : (Value.dict left).JsonEq (.dict right)) {name text : PyStr}
    (found : lookup (.str name) right = some (.str text)) :
    lookup (.str name) left = some (.str text) := by
  obtain ⟨stored, present, equal⟩ := lookup_stored same found
  rw [present, denote_str equal]

/-- A member is set: it takes the place of a member with its key. -/
def setMember (members : List (Key × Value)) (member : Key × Value) : List (Key × Value) :=
  if members.any (fun other => decide (other.1 = member.1)) then
    members.map (fun other => if other.1 = member.1 then member else other)
  else members ++ [member]

/-- The dict of a list of pairs. -/
def ofPairs (pairs : List (Key × Value)) : List (Key × Value) := pairs.foldl setMember []

/-- What a key looks up once a member is set. -/
theorem lookup_setMember (key : Key) (members : List (Key × Value)) (member : Key × Value) :
    lookup key (setMember members member) = if member.1 = key then some member.2 else lookup key members := by
  have replaced : ∀ rest : List (Key × Value),
      lookup key (rest.map (fun other => if other.1 = member.1 then member else other)) =
        if member.1 = key then (lookup key rest).map (fun _ => member.2) else lookup key rest := by
    intro rest
    induction rest with
    | nil => simp [lookup]
    | cons head tail inductionHypothesis =>
      by_cases target : member.1 = key <;> by_cases found : head.1 = member.1 <;>
        simp_all [lookup]
  rw [setMember]
  split
  case isTrue present =>
    rw [replaced]
    split
    case isTrue target =>
      obtain ⟨other, held, same⟩ := List.any_eq_true.mp present
      cases stored : lookup key members with
      | none => exact absurd ((of_decide_eq_true same).trans target) (lookup_none.mp stored other held)
      | some => rfl
    case isFalse => rfl
  case isFalse absent =>
    rw [lookup_append, lookup, lookup]
    split
    case isTrue target =>
      have missing : lookup key members = Option.none := by
        refine lookup_none.mpr fun other held same => absent ?_
        exact List.any_eq_true.mpr ⟨other, held, decide_eq_true (same.trans target.symm)⟩
      rw [missing, Option.none_or]
    case isFalse => rw [Option.or_none]

/-- Setting a member keeps the order of the names, a new name coming last. -/
theorem setMember_keys (members : List (Key × Value)) (member : Key × Value) :
    (setMember members member).map Prod.fst =
      if members.any (fun other => decide (other.1 = member.1)) then members.map Prod.fst
      else members.map Prod.fst ++ [member.1] := by
  rw [setMember]
  split
  · rw [List.map_map]
    refine List.map_congr_left fun other _ => ?_
    by_cases same : other.1 = member.1 <;> simp [same]
  · rw [List.map_append]
    rfl

/-- What is listed after setting a member was listed before or is the member. -/
theorem mem_setMember {members : List (Key × Value)} {member other : Key × Value}
    (listed : other ∈ setMember members member) : other ∈ members ∨ other = member := by
  rw [setMember] at listed
  split at listed
  · obtain ⟨old, held, same⟩ := List.mem_map.mp listed
    split at same
    · exact Or.inr same.symm
    · exact Or.inl (same ▸ held)
  · rcases List.mem_append.mp listed with held | new
    · exact Or.inl held
    · exact Or.inr (List.mem_singleton.mp new)

/-- Setting the member that was added last. -/
theorem setMember_last {members : List (Key × Value)} {key : Key}
    (absent : lookup key members = Option.none) (old value : Value) :
    setMember (members ++ [(key, old)]) (key, value) = members ++ [(key, value)] := by
  have present : (members ++ [(key, old)]).any (fun other => decide (other.1 = key)) = true := by simp
  have kept : members.map (fun other => if other.1 = key then (key, value) else other) = members := by
    refine (List.map_congr_left fun member held => ?_).trans (List.map_id members)
    exact if_neg (lookup_none.mp absent member held)
  rw [setMember, if_pos present, List.map_append, kept]
  simp

/-- Setting a member of an object. -/
theorem wellFormed_setMember {members : List (Key × Value)} (stated : (Value.dict members).WellFormed)
    {name : PyStr} {value : Value} (valueStated : value.WellFormed) :
    (Value.dict (setMember members (.str name, value))).WellFormed := by
  obtain ⟨distinct, each⟩ := stated
  rw [wellFormedMembers_iff] at each
  refine ⟨?_, wellFormedMembers_iff.mpr fun member listed => ?_⟩
  · rw [setMember_keys]
    split
    case isTrue => exact distinct
    case isFalse absent =>
      refine List.nodup_append.mpr ⟨distinct, List.pairwise_singleton _ _, ?_⟩
      rintro old listed new single rfl
      obtain ⟨member, held, same⟩ := List.mem_map.mp listed
      refine absent (List.any_eq_true.mpr ⟨member, held, decide_eq_true ?_⟩)
      rw [same, List.mem_singleton.mp single]
  · rcases mem_setMember listed with held | rfl
    · exact each member held
    · exact ⟨⟨name, rfl⟩, valueStated⟩

/-- Pairs with distinct keys are the members they make. -/
theorem ofPairs_distinct {pairs : List (Key × Value)} (distinct : (pairs.map Prod.fst).Nodup) :
    ofPairs pairs = pairs := by
  have extends_ : ∀ (rest members : List (Key × Value)), ((members ++ rest).map Prod.fst).Nodup →
      rest.foldl setMember members = members ++ rest := by
    intro rest
    induction rest with
    | nil => exact fun members _ => (List.append_nil members).symm
    | cons member rest inductionHypothesis =>
      intro members nodup
      have fresh : members.any (fun other => decide (other.1 = member.1)) = false := by
        rw [List.any_eq_false]
        intro other present
        rw [List.map_append, List.nodup_append] at nodup
        rw [decide_eq_true_iff]
        exact nodup.2.2 other.1 (List.mem_map_of_mem present) member.1 (by simp)
      rw [List.foldl_cons, setMember, fresh]
      simp only [Bool.false_eq_true, if_false]
      rw [inductionHypothesis (members ++ [member]) (by simpa using nodup), List.append_assoc,
        List.singleton_append]
  exact extends_ pairs [] distinct

end Value

end TaxStamps
