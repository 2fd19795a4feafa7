import TaxStamps.Crypto.Representable

/-!
# What the canonicalizer refuses

The canonicalizer walks a value in one order: the items of a list one after the
other, and of an object first all keys and then the members in the order of their
keys. The first obstacle on this walk decides which exception leaves it. Only
when there is none does UTF-8 look at the text.
-/

namespace TaxStamps

namespace Value

/-- A part of a value, at any depth. -/
inductive Occurs (part : Value) : Value → Prop
  | here : Occurs part part
  | item {items : List Value} {item : Value} (member : item ∈ items) (inside : Occurs part item) :
    Occurs part (.list items)
  | entry {items : List Value} {item : Value} (member : item ∈ items) (inside : Occurs part item) :
    Occurs part (.tuple items)
  | field {members : List (Key × Value)} {member : Key × Value} (listed : member ∈ members)
    (inside : Occurs part member.2) : Occurs part (.dict members)

/-- A number without JSON notation, an object with a key that is no string, a
foreign object. -/
def refused : Value → Bool
  | .int value => decide (Jcs.maxSafeInteger.natAbs < value.natAbs)
  | .float .nan => true
  | .float (.infinity _) => true
  | .dict members => !members.all (fun member => Jcs.isName member.1)
  | .foreign _ => true
  | _ => false

/-- UTF-8 carries the string, or the keys of the object. -/
def carried : Value → Bool
  | .str value => value.all Jcs.encodable
  | .dict members => members.all (fun member => (Jcs.keyName member.1).all Jcs.encodable)
  | _ => true

/-- The value contains something that JSON or UTF-8 cannot represent. -/
def Unrepresentable (value : Value) : Prop :=
  ∃ part, Occurs part value ∧ (part.refused = true ∨ part.carried = false)

/-- Something holds of every part of a list when it holds of the list and of
every part of its items. -/
theorem parts_list {items : List Value} {holds : Value → Prop} :
    (∀ part, Occurs part (.list items) → holds part) ↔
      holds (.list items) ∧ ∀ item ∈ items, ∀ part, Occurs part item → holds part := by
  constructor
  · exact fun all => ⟨all _ .here, fun item member part inside => all part (.item member inside)⟩
  · rintro ⟨here, each⟩ part inside
    cases inside with
    | here => exact here
    | item member inside => exact each _ member part inside

/-- The parts of a tuple are itself and those of its elements. -/
theorem parts_tuple {items : List Value} {holds : Value → Prop} :
    (∀ part, Occurs part (.tuple items) → holds part) ↔
      holds (.tuple items) ∧ ∀ item ∈ items, ∀ part, Occurs part item → holds part := by
  constructor
  · exact fun all => ⟨all _ .here, fun item member part inside => all part (.entry member inside)⟩
  · rintro ⟨here, each⟩ part inside
    cases inside with
    | here => exact here
    | entry member inside => exact each _ member part inside

/-- The parts of an object are itself and those of its values. -/
theorem parts_dict {members : List (Key × Value)} {holds : Value → Prop} :
    (∀ part, Occurs part (.dict members) → holds part) ↔
      holds (.dict members) ∧ ∀ member ∈ members, ∀ part, Occurs part member.2 → holds part := by
  constructor
  · exact fun all => ⟨all _ .here, fun member listed part inside => all part (.field listed inside)⟩
  · rintro ⟨here, each⟩ part inside
    cases inside with
    | here => exact here
    | field listed inside => exact each _ listed part inside

end Value

namespace Jcs

open Value (Occurs Unrepresentable parts_list parts_tuple parts_dict)

/-- Why the walk stops. -/
inductive Obstacle
  | number | foreign | longInteger | key
deriving DecidableEq

/-- What the canonicalizer reports in its own exception. -/
def Obstacle.documented : Obstacle → Bool
  | .number => true
  | .foreign => true
  | .longInteger => false
  | .key => false

/-- The exception of an obstacle. -/
def Obstacle.Raised (obstacle : Obstacle) (problem : PyError) : Prop :=
  match obstacle with
  | .number => ∃ message, problem = .canonicalizationError message
  | .foreign => ∃ message, problem = .canonicalizationError message
  | .longInteger => problem = .valueError
  | .key => problem = .attributeError

/-- The message about an integer quotes its decimal text. -/
def obstacleInt (value : Int) : Option Obstacle :=
  if value.natAbs ≤ maxSafeInteger.natAbs then none
  else if value.natAbs < PyStr.digitLimit then some .number else some .longInteger

/-- The obstacle of a float: it is not finite. -/
def obstacleFloat : PyFloat → Option Obstacle
  | .nan => some .number
  | .infinity _ => some .number
  | .finite _ _ => none

mutual

/-- The first obstacle on the walk. The sort reads the keys of an object before
its members are visited. -/
def obstacle? : Value → Option Obstacle
  | .none => none
  | .bool _ => none
  | .str _ => none
  | .int value => obstacleInt value
  | .float value => obstacleFloat value
  | .list items => obstacleItems items
  | .tuple items => obstacleItems items
  | .dict members =>
    if members.all (fun member => isName member.1) then
      (sortMembers (obstacleMembers members)).findSome? Prod.snd
    else some .key
  | .foreign _ => some .foreign

/-- The first obstacle among the elements. -/
def obstacleItems : List Value → Option Obstacle
  | [] => none
  | item :: rest => (obstacle? item).or (obstacleItems rest)

/-- The obstacle of each member's value. -/
def obstacleMembers : List (Key × Value) → List (Key × Option Obstacle)
  | [] => []
  | (key, value) :: rest => (key, obstacle? value) :: obstacleMembers rest

end

/-- The first obstacle of the elements, as a search. -/
theorem obstacleItems_find (items : List Value) : obstacleItems items = items.findSome? obstacle? := by
  induction items with
  | nil => rfl
  | cons item rest inductionHypothesis =>
    rw [obstacleItems, inductionHypothesis, List.findSome?_cons]
    cases obstacle? item <;> rfl

/-- Each member is judged by itself. -/
theorem obstacleMembers_map (members : List (Key × Value)) :
    obstacleMembers members = members.map (fun member => (member.1, obstacle? member.2)) := by
  induction members with
  | nil => rfl
  | cons member rest inductionHypothesis => simp [obstacleMembers, inductionHypothesis]

/-- The first obstacle among the members of an object, in the order of the keys. -/
theorem obstacleMembers_find (members : List (Key × Value)) :
    (sortMembers (obstacleMembers members)).findSome? Prod.snd =
      (sortMembers members).findSome? (fun member => obstacle? member.2) := by
  rw [obstacleMembers_map, sortMembers_map, List.findSome?_map]
  rfl

/-- A result is an error exactly at an obstacle, and then the one it stands for. -/
inductive Explains {α : Type} : Option Obstacle → Result α → Prop
  | done (value : α) : Explains none (.ok value)
  | stopped {obstacle : Obstacle} {problem : PyError} (raised : obstacle.Raised problem) :
    Explains (some obstacle) (.error problem)

section Walk

variable {α β : Type} {found : Option Obstacle} {result : Result α}

/-- A step that cannot fail keeps the explanation. -/
theorem Explains.after (explains : Explains found result) (close : α → β) :
    Explains found (result >>= fun value => .ok (close value)) := by
  cases explains with
  | done value => exact .done (close value)
  | stopped raised => exact .stopped raised

/-- The first of two obstacles explains two computations in a row. -/
theorem Explains.or (explains : Explains found result) {later : Option Obstacle} {rest : Result β}
    (explainsRest : Explains later rest) {γ : Type} (close : α → β → γ) :
    Explains (found.or later) (result >>= fun value => rest >>= fun others => .ok (close value others)) := by
  cases explains with
  | done value => exact explainsRest.after (close value)
  | stopped raised => exact .stopped raised

/-- Elements are refused by the first of them with an obstacle. -/
theorem encodeItems_explained {items : List Value}
    (each : ∀ item ∈ items, Explains (obstacle? item) (encode item)) :
    Explains (obstacleItems items) (encodeItems items) := by
  induction items with
  | nil => exact .done []
  | cons item rest inductionHypothesis =>
    have others := inductionHypothesis fun other member => each other (List.mem_cons_of_mem _ member)
    exact (each item List.mem_cons_self).or others List.cons

/-- Members are refused by the first of them, in the given order, with an obstacle. -/
theorem renderMembers_explained {members : List (Key × Value)}
    (each : ∀ member ∈ members, Explains (obstacle? member.2) (encode member.2)) :
    Explains (members.findSome? (fun member => obstacle? member.2))
      (renderMembers (members.map (fun member => (member.1, encode member.2)))) := by
  induction members with
  | nil => exact .done []
  | cons member rest inductionHypothesis =>
    have others := inductionHypothesis fun other listed => each other (List.mem_cons_of_mem _ listed)
    have both := (each member List.mem_cons_self).or others
      fun value texts => (escapeString (keyName member.1) ++ .scalar ':' :: value) :: texts
    rw [List.findSome?_cons]
    cases found : obstacle? member.2 with
    | none => rwa [found] at both
    | some obstacle => rwa [found] at both

/-- An integer is refused exactly outside the safe range. -/
theorem encodeInt_explained (number : Int) : Explains (obstacleInt number) (encodeInt number) := by
  by_cases safe : number.natAbs ≤ maxSafeInteger.natAbs
  · rw [obstacleInt, encodeInt, if_pos safe, if_pos safe]
    exact .done _
  · rw [obstacleInt, encodeInt, if_neg safe, if_neg safe]
    rcases Nat.lt_or_ge number.natAbs PyStr.digitLimit with short | long
    · rw [if_pos short, if_pos short]
      exact .stopped ⟨_, rfl⟩
    · rw [if_neg (Nat.not_lt.mpr long), if_neg (Nat.not_lt.mpr long)]
      exact .stopped rfl

/-- A float is refused exactly when it is not finite. -/
theorem encodeFloat_explained (number : PyFloat) : Explains (obstacleFloat number) (encodeFloat number) := by
  cases number with
  | nan => exact .stopped ⟨_, rfl⟩
  | infinity negative => exact .stopped ⟨_, rfl⟩
  | finite negative rep =>
    rw [encodeFloat, obstacleFloat]
    split
    case _ => exact .done _
    case _ =>
      rw [numberToString]
      split
      case isTrue => exact .done _
      case isFalse => exact .done _

/-- The first obstacle explains the outcome of the encoder. -/
theorem encode_explained (value : Value) : Explains (obstacle? value) (encode value) := by
  induction value using Value.induct with
  | none => exact .done _
  | bool flag => cases flag <;> exact .done _
  | int number => exact encodeInt_explained number
  | float number => exact encodeFloat_explained number
  | str text => exact .done _
  | list items each => exact (encodeItems_explained each).after _
  | tuple items each => exact (encodeItems_explained each).after _
  | dict members each =>
    rw [obstacle?, encode]
    split
    case isTrue named =>
      rw [obstacleMembers_find, encodeMembers_map, sortMembers_map]
      refine (renderMembers_explained fun member listed => each member ?_).after _
      exact (sortMembers_perm members).mem_iff.mp listed
    case isFalse => exact .stopped rfl
  | foreign typeName => exact .stopped ⟨_, rfl⟩

/-- An integer without obstacle is one that is not refused. -/
theorem obstacleInt_none {number : Int} :
    obstacleInt number = none ↔ (Value.int number).refused = false := by
  rw [obstacleInt, Value.refused, decide_eq_false_iff_not, Nat.not_lt]
  by_cases safe : number.natAbs ≤ maxSafeInteger.natAbs
  · rw [if_pos safe]
    exact ⟨fun _ => safe, fun _ => rfl⟩
  · rw [if_neg safe]
    refine ⟨fun absurdity => ?_, fun bounded => absurd bounded safe⟩
    rcases Nat.lt_or_ge number.natAbs PyStr.digitLimit with short | long
    · rw [if_pos short] at absurdity
      cases absurdity
    · rw [if_neg (Nat.not_lt.mpr long)] at absurdity
      cases absurdity

/-- A float without obstacle is one that is not refused. -/
theorem obstacleFloat_none {number : PyFloat} :
    obstacleFloat number = none ↔ (Value.float number).refused = false := by
  cases number <;> simp [obstacleFloat, Value.refused]

/-- There is no obstacle exactly when no part is refused. -/
theorem obstacle_none {value : Value} :
    obstacle? value = none ↔ ∀ part, Occurs part value → part.refused = false := by
  induction value using Value.induct with
  | none => exact ⟨fun _ part inside => by cases inside; rfl, fun _ => rfl⟩
  | bool flag => exact ⟨fun _ part inside => by cases inside; rfl, fun _ => rfl⟩
  | int number =>
    rw [obstacle?, obstacleInt_none]
    exact ⟨fun here part inside => by cases inside; exact here, fun all => all _ .here⟩
  | float number =>
    rw [obstacle?, obstacleFloat_none]
    exact ⟨fun here part inside => by cases inside; exact here, fun all => all _ .here⟩
  | str text => exact ⟨fun _ part inside => by cases inside; rfl, fun _ => rfl⟩
  | list items each =>
    rw [parts_list, obstacle?, obstacleItems_find, List.findSome?_eq_none_iff]
    exact ⟨fun none_ => ⟨rfl, fun item member => (each item member).mp (none_ item member)⟩,
      fun all item member => (each item member).mpr (all.2 item member)⟩
  | tuple items each =>
    rw [parts_tuple, obstacle?, obstacleItems_find, List.findSome?_eq_none_iff]
    exact ⟨fun none_ => ⟨rfl, fun item member => (each item member).mp (none_ item member)⟩,
      fun all item member => (each item member).mpr (all.2 item member)⟩
  | dict members each =>
    rw [parts_dict, obstacle?, Value.refused]
    split
    case isTrue named =>
      have listed : ∀ member, member ∈ sortMembers members ↔ member ∈ members :=
        fun member => (sortMembers_perm members).mem_iff
      rw [obstacleMembers_find, List.findSome?_eq_none_iff, named]
      exact ⟨fun none_ => ⟨rfl, fun member here =>
          (each member here).mp (none_ member ((listed member).mpr here))⟩,
        fun all member here => (each member ((listed member).mp here)).mpr
          (all.2 member ((listed member).mp here))⟩
    case isFalse unnamed =>
      rw [Bool.not_eq_true] at unnamed
      rw [unnamed]
      exact ⟨(by rintro ⟨⟩), fun all => absurd all.1 (by decide)⟩
  | foreign typeName => exact ⟨(by rintro ⟨⟩), fun all => absurd (all _ .here) Bool.noConfusion⟩

end Walk

section Carried

/-- A lone surrogate has no scalar value. -/
theorem mapM_lone {text : PyStr} (surrogate : ¬ text.all encodable = true) : text.mapM char? = none := by
  cases mapped : text.mapM char? with
  | none => rfl
  | some chars => exact absurd (mapM_carried mapped) surrogate

/-- A written string can be encoded exactly when the text can. -/
theorem escapeString_all {text : PyStr} :
    (escapeString text).all encodable = true ↔ text.all encodable = true :=
  ⟨escapeString_carried, escapeString_encodable⟩

/-- A joined text can be encoded exactly when each text can. -/
theorem joined_all {texts : List PyStr} :
    (PyStr.join (py ",") texts).all encodable = true ↔ ∀ text ∈ texts, text.all encodable = true :=
  ⟨join_carried, join_all (by decide) texts⟩

/-- UTF-8 carries the text of an accepted value exactly when it carries every
string and every key in it. -/
theorem encode_carried {value : Value} {text : PyStr} (encoded : encode value = .ok text) :
    text.all encodable = true ↔ ∀ part, Occurs part value → part.carried = true := by
  induction value using Value.induct generalizing text with
  | none =>
    obtain rfl := Except.ok.inj encoded
    exact ⟨fun _ part inside => by cases inside; rfl, fun _ => rfl⟩
  | bool flag =>
    refine ⟨fun _ part inside => by cases inside; rfl, fun _ => ?_⟩
    cases flag <;> cases encoded <;> rfl
  | int number =>
    refine ⟨fun _ part inside => by cases inside; rfl, fun _ => ?_⟩
    exact number_encodable (encodeInt_number encoded).codes
  | float number =>
    refine ⟨fun _ part inside => by cases inside; rfl, fun _ => ?_⟩
    obtain ⟨_, _, stated⟩ := encodeFloat_number encoded
    exact number_encodable stated.codes
  | str string =>
    obtain rfl := Except.ok.inj encoded
    rw [escapeString_all]
    exact ⟨fun here part inside => by cases inside; exact here, fun all => all _ .here⟩
  | list items each =>
    obtain ⟨rfl, written⟩ := encodeList_ok encoded
    rw [parts_list, List.all_cons, List.all_append, Bool.and_eq_true, Bool.and_eq_true, joined_all]
    constructor
    · exact fun all => ⟨rfl, fun item member => (each item member (written item member)).mp
        (all.2.1 _ (List.mem_map_of_mem member))⟩
    · refine fun all => ⟨rfl, fun text listed => ?_, rfl⟩
      obtain ⟨item, member, rfl⟩ := List.mem_map.mp listed
      exact (each item member (written item member)).mpr (all.2 item member)
  | tuple items each =>
    obtain ⟨rfl, written⟩ := @encodeList_ok items text encoded
    rw [parts_tuple, List.all_cons, List.all_append, Bool.and_eq_true, Bool.and_eq_true, joined_all]
    constructor
    · exact fun all => ⟨rfl, fun item member => (each item member (written item member)).mp
        (all.2.1 _ (List.mem_map_of_mem member))⟩
    · refine fun all => ⟨rfl, fun text listed => ?_, rfl⟩
      obtain ⟨item, member, rfl⟩ := List.mem_map.mp listed
      exact (each item member (written item member)).mpr (all.2 item member)
  | dict members each =>
    obtain ⟨rfl, written⟩ := encodeDict_ok encoded
    rw [parts_dict, List.all_cons, List.all_append, Bool.and_eq_true, Bool.and_eq_true, joined_all,
      Value.carried]
    have member_all : ∀ member ∈ members, (memberText member).all encodable = true ↔
        (keyName member.1).all encodable = true ∧ ∀ part, Occurs part member.2 → part.carried = true := by
      intro member listed
      rw [memberText, List.all_append, List.all_cons, Bool.and_eq_true, Bool.and_eq_true, escapeString_all,
        each member listed (written member listed)]
      exact and_congr_right fun _ => ⟨fun both => both.2, fun all => ⟨rfl, all⟩⟩
    constructor
    · intro all
      have both : ∀ member ∈ members, _ := fun member listed => (member_all member listed).mp
        (all.2.1 _ (List.mem_map_of_mem ((sortMembers_perm members).mem_iff.mpr listed)))
      exact ⟨List.all_eq_true.mpr fun member listed => (both member listed).1,
        fun member listed => (both member listed).2⟩
    · refine fun all => ⟨rfl, fun text listed => ?_, rfl⟩
      obtain ⟨member, sorted, rfl⟩ := List.mem_map.mp listed
      have here := (sortMembers_perm members).mem_iff.mp sorted
      exact (member_all member here).mpr ⟨List.all_eq_true.mp all.1 member here, all.2 member here⟩
  | foreign typeName => cases encoded

end Carried

/-- The canonicalizer returns bytes or raises its own exception, and raises it
exactly for what JSON or UTF-8 cannot represent. -/
def FailsAsDocumented (value : Value) : Prop :=
  ((∃ bytes, canonicalizeBytes value = .ok bytes) ∨
    ∃ message, canonicalizeBytes value = .error (.canonicalizationError message)) ∧
  ((∃ message, canonicalizeBytes value = .error (.canonicalizationError message)) ↔
    value.Unrepresentable)

/-- The walk ends at an obstacle with an exception of its own, or finds none and
UTF-8 carries every string. -/
def Foreseen (value : Value) : Prop :=
  match obstacle? value with
  | some obstacle => obstacle.documented = true
  | none => ∀ part, Occurs part value → part.carried = true

/-- A `CanonicalizationError` is raised exactly for the documented obstacles. -/
theorem Obstacle.raised_documented {obstacle : Obstacle} {problem : PyError}
    (raised : obstacle.Raised problem) :
    (∃ message, problem = .canonicalizationError message) ↔ obstacle.documented = true := by
  cases obstacle with
  | number => exact ⟨fun _ => rfl, fun _ => raised⟩
  | foreign => exact ⟨fun _ => rfl, fun _ => raised⟩
  | longInteger =>
    rw [Raised] at raised
    subst raised
    exact ⟨(by rintro ⟨message, ⟨⟩⟩), (by rintro ⟨⟩)⟩
  | key =>
    rw [Raised] at raised
    subst raised
    exact ⟨(by rintro ⟨message, ⟨⟩⟩), (by rintro ⟨⟩)⟩

/-- Canonicalization fails as documented exactly when the first obstacle on the
walk is a documented one, or there is none and UTF-8 carries every string. -/
theorem failsAsDocumented_iff {value : Value} : FailsAsDocumented value ↔ Foreseen value := by
  have explained := encode_explained value
  rw [FailsAsDocumented, Foreseen, canonicalizeBytes, canonicalize]
  cases found : obstacle? value with
  | some obstacle =>
    rw [found] at explained
    obtain ⟨problem, encoded, raised⟩ : ∃ problem, encode value = .error problem ∧
        obstacle.Raised problem := by
      generalize encode value = result at explained
      cases explained with
      | stopped raised => exact ⟨_, rfl, raised⟩
    have refused : value.Unrepresentable := by
      by_contra representable
      have none_ : obstacle? value = none := obstacle_none.mpr fun part inside => by
        by_contra stated
        exact representable ⟨part, inside, Or.inl (Bool.not_eq_false _ ▸ stated)⟩
      rw [found] at none_
      cases none_
    rw [encoded, Result.error_bind]
    dsimp only
    rw [← Obstacle.raised_documented raised]
    simp only [reduceCtorEq, exists_false, false_or, Except.error.injEq, refused, iff_true, and_self]
  | none =>
    rw [found] at explained
    obtain ⟨text, encoded⟩ : ∃ text, encode value = .ok text := by
      generalize encode value = result at explained
      cases explained with
      | done text => exact ⟨text, rfl⟩
    have accepted := obstacle_none.mp found
    have carries := encode_carried encoded
    rw [encoded, Result.ok_bind]
    dsimp only
    rw [← carries]
    by_cases carried : text.all encodable = true
    · obtain ⟨chars, mapped⟩ := mapM_encodable carried
      have representable : ¬ value.Unrepresentable := by
        rintro ⟨part, inside, refused | lost⟩
        · rw [accepted part inside] at refused
          cases refused
        · rw [carries.mp carried part inside] at lost
          cases lost
      simp [utf8, mapped, representable, carried]
    · simp [utf8, mapM_lone carried, carried]

/-- The integer key 1 of an object meets the sort before the check of the keys. -/
theorem integerKey_escapes : ¬ FailsAsDocumented (.dict [(.other 0, .literal "a")]) ∧
    canonicalizeBytes (.dict [(.other 0, .literal "a")]) = .error .attributeError ∧
    (Value.dict [(.other 0, .literal "a")]).Unrepresentable := by
  have raised : canonicalizeBytes (.dict [(.other 0, .literal "a")]) = .error .attributeError := rfl
  refine ⟨?_, raised, _, .here, Or.inl rfl⟩
  rintro ⟨⟨bytes, absurdity⟩ | ⟨message, absurdity⟩, _⟩
  · cases raised.symm.trans absurdity
  · cases raised.symm.trans absurdity

end Jcs

end TaxStamps
