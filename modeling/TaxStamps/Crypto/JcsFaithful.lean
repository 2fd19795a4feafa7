import Mathlib.Tactic.IntervalCases
import TaxStamps.Crypto.JcsNumbers

/-!
# Canonical text determines the JSON value

Two well-formed values with one canonical text are the same JSON value. The
argument reads both texts from the left: what follows a value starts with a
separator or a closing bracket, so a number ends where its characters end, a
string ends at its closing quote, and a list or an object member by member.

The converse is shown where the service needs it: a value that denotes the same
JSON as a plain document has the document's canonical text.
-/

namespace TaxStamps.Jcs

section Strings

/-- The value of a hexadecimal digit. -/
def hexValue (code : Code) : Nat := (py "0123456789abcdef").idxOf code

/-- Reads one escaped character of a string. -/
def unescape : PyStr → Option (Code × PyStr)
  | [] => none
  | first :: rest =>
    if first = quote then none
    else if first = .scalar (Char.ofNat 92) then
      match rest with
      | .scalar 'u' :: _ :: _ :: high :: low :: tail =>
        some (.scalar (Char.ofNat (16 * hexValue high + hexValue low)), tail)
      | .scalar 'b' :: tail => some (.scalar (Char.ofNat 8), tail)
      | .scalar 'f' :: tail => some (.scalar (Char.ofNat 12), tail)
      | .scalar 'n' :: tail => some (.scalar (Char.ofNat 10), tail)
      | .scalar 'r' :: tail => some (.scalar (Char.ofNat 13), tail)
      | .scalar 't' :: tail => some (.scalar (Char.ofNat 9), tail)
      | other :: tail => some (other, tail)
      | [] => none
    else some (first, rest)

/-- A character below 128 is its own scalar. -/
theorem control_code {code : Code} (small : code.ord < 128) : code = .scalar (Char.ofNat code.ord) := by
  cases code with
  | scalar char => simp [Code.ord]
  | lone offset => simp [Code.ord] at small; omega

/-- An escaped character is read back, whatever follows it. -/
theorem unescape_escape (code : Code) (rest : PyStr) :
    unescape (escapeCode code ++ rest) = some (code, rest) := by
  by_cases control : code.ord < 32
  · have same : code = .scalar (Char.ofNat code.ord) := control_code (by omega)
    generalize code.ord = value at control same
    subst same
    interval_cases value <;> rfl
  · by_cases special : code.ord = 34 ∨ code.ord = 92
    · have same : code = .scalar (Char.ofNat code.ord) := control_code (by omega)
      rcases special with value | value <;>
      · rw [value] at same
        subst same
        rfl
    · have plain : escapeCode code = [code] := by
        unfold escapeCode
        split <;> first | omega | rfl | skip
        rw [if_neg control]
      have notQuote : code ≠ quote := by
        rintro rfl
        exact special (Or.inl rfl)
      have notEscape : code ≠ .scalar (Char.ofNat 92) := by
        rintro rfl
        exact special (Or.inr rfl)
      rw [plain]
      simp [unescape, notQuote, notEscape]

/-- The closing quote ends the characters of a string. -/
theorem unescape_quote (rest : PyStr) : unescape (quote :: rest) = none := by simp [unescape]

/-- A list of codes that are read back one by one ends where nothing is read. -/
theorem coded_unique {α : Type} {code : α → PyStr} {read : PyStr → Option (α × PyStr)} {close : Code}
    {valid : α → Prop} (reads : ∀ element, valid element → ∀ rest, read (code element ++ rest) =
      some (element, rest)) (closes : ∀ rest, read (close :: rest) = none) {left right : List α}
    (leftValid : ∀ element ∈ left, valid element) (rightValid : ∀ element ∈ right, valid element)
    {leftTail rightTail : PyStr}
    (same : left.flatMap code ++ close :: leftTail = right.flatMap code ++ close :: rightTail) :
    left = right ∧ leftTail = rightTail := by
  induction left generalizing right with
  | nil =>
    cases right with
    | nil => exact ⟨rfl, (List.cons.inj same).2⟩
    | cons other others =>
      have found := congrArg read same
      rw [List.flatMap_nil, List.nil_append, closes, List.flatMap_cons, List.append_assoc,
        reads other (rightValid other List.mem_cons_self)] at found
      cases found
  | cons first rest inductionHypothesis =>
    have found := congrArg read same
    rw [List.flatMap_cons, List.append_assoc, reads first (leftValid first List.mem_cons_self)] at found
    cases right with
    | nil =>
      rw [List.flatMap_nil, List.nil_append, closes] at found
      cases found
    | cons other others =>
      rw [List.flatMap_cons, List.append_assoc, reads other (rightValid other List.mem_cons_self),
        Option.some.injEq, Prod.mk.injEq] at found
      obtain ⟨rfl, tails⟩ := found
      obtain ⟨rfl, closed⟩ := inductionHypothesis
        (fun element member => leftValid element (List.mem_cons_of_mem _ member))
        (fun element member => rightValid element (List.mem_cons_of_mem _ member)) tails
      exact ⟨rfl, closed⟩

/-- A string ends at its closing quote. -/
theorem escape_unique {left right : PyStr} {leftTail rightTail : PyStr}
    (same : left.flatMap escapeCode ++ quote :: leftTail =
      right.flatMap escapeCode ++ quote :: rightTail) : left = right ∧ leftTail = rightTail :=
  @coded_unique _ _ _ _ (fun _ => True) (fun code _ => unescape_escape code) unescape_quote _ _
    (fun _ _ => trivial) (fun _ _ => trivial) _ _ same

/-- A string is read back from its escaped characters and the rest after them. -/
theorem escapeString_unique {left right leftTail rightTail : PyStr}
    (same : escapeString left ++ leftTail = escapeString right ++ rightTail) :
    left = right ∧ leftTail = rightTail := by
  simp only [escapeString, List.cons_append, List.append_assoc, List.nil_append,
    List.cons.injEq, true_and] at same
  exact escape_unique same

end Strings

section Reading

/-- What can follow a value: nothing, or a character no number contains. -/
def Delimited (tail : PyStr) : Prop := ∀ code rest, tail = code :: rest → numberCode code = false

/-- A number ends where its characters end. -/
theorem number_unique {left right leftTail rightTail : PyStr} (leftCodes : left.all numberCode = true)
    (rightCodes : right.all numberCode = true) (leftDelimited : Delimited leftTail)
    (rightDelimited : Delimited rightTail) (same : left ++ leftTail = right ++ rightTail) :
    left = right ∧ leftTail = rightTail := by
  have taken : ∀ {text tail : PyStr}, text.all numberCode = true → Delimited tail →
      (text ++ tail).takeWhile numberCode = text := by
    intro text tail codes delimited
    rw [List.takeWhile_append_of_pos (List.all_eq_true.mp codes)]
    cases tail with
    | nil => simp
    | cons code rest => simp [delimited code rest rfl]
  have equal : left = right := by
    rw [← taken leftCodes leftDelimited, same, taken rightCodes rightDelimited]
  subst equal
  exact ⟨rfl, List.append_cancel_left same⟩

/-- The first character tells what kind of value follows. -/
inductive Kind
  | null | true | false | number | string | array | object | other
deriving DecidableEq

/-- What kind of value starts with the character. -/
def kindOf (code : Code) : Kind :=
  if code = .scalar 'n' then .null
  else if code = .scalar 't' then .true
  else if code = .scalar 'f' then .false
  else if code = quote then .string
  else if code = .scalar '[' then .array
  else if code = .scalar '\x7b' then .object
  else if digitCode code || decide (code = .scalar '-') then .number
  else .other

/-- The kind of a value. -/
def kind : Value → Kind
  | .none => .null
  | .bool true => .true
  | .bool false => .false
  | .int _ => .number
  | .float _ => .number
  | .str _ => .string
  | .list _ => .array
  | .tuple _ => .array
  | .dict _ => .object
  | .foreign _ => .other

/-- Digits and the minus sign start numbers. -/
theorem number_kind {code : Code} (number : digitCode code = true ∨ code = .scalar '-') :
    kindOf code = .number := by
  rcases number with digit | rfl
  · have differs : ∀ char : Char, digitCode (.scalar char) = false → code ≠ .scalar char := by
      rintro char notDigit rfl
      rw [notDigit] at digit
      cases digit
    simp [kindOf, digit, differs 'n' rfl, differs 't' rfl, differs 'f' rfl,
      differs (Char.ofNat 34) rfl, differs '[' rfl, differs '\x7b' rfl, quote]
  · rfl

/-- An encoded value is announced by its first character. -/
theorem encode_kind {value : Value} {text : PyStr} (encoded : encode value = .ok text) :
    ∃ code rest, text = code :: rest ∧ kindOf code = kind value := by
  cases value with
  | none => exact ⟨_, _, (Except.ok.inj encoded).symm, rfl⟩
  | bool flag => cases flag <;> exact ⟨_, _, (Except.ok.inj encoded).symm, rfl⟩
  | int number =>
    obtain ⟨code, rest, split, number⟩ := (encodeInt_number encoded).head
    exact ⟨code, rest, split, number_kind number⟩
  | float number =>
    obtain ⟨_, _, stated⟩ := encodeFloat_number encoded
    obtain ⟨code, rest, split, number⟩ := stated.head
    exact ⟨code, rest, split, number_kind number⟩
  | str value => exact ⟨_, _, (Except.ok.inj encoded).symm, rfl⟩
  | list items =>
    rw [encode, Result.bind_ok] at encoded
    obtain ⟨texts, _, written⟩ := encoded
    exact ⟨_, _, (Except.ok.inj written).symm, rfl⟩
  | tuple items =>
    rw [encode, Result.bind_ok] at encoded
    obtain ⟨texts, _, written⟩ := encoded
    exact ⟨_, _, (Except.ok.inj written).symm, rfl⟩
  | dict members =>
    rw [encode] at encoded
    split at encoded
    · rw [Result.bind_ok] at encoded
      obtain ⟨texts, _, written⟩ := encoded
      exact ⟨_, _, (Except.ok.inj written).symm, rfl⟩
    · cases encoded
  | foreign typeName => cases encoded

/-- Texts separated by commas and closed by one character are read element by
element. -/
theorem separated_unique {α : Type} {text : α → PyStr} {agree : α → α → Prop} {close : Code}
    (closes : numberCode close = false) (separates : close ≠ .scalar ',') (left right : List α)
    (unique : ∀ first ∈ left, ∀ second ∈ right, ∀ leftTail rightTail, Delimited leftTail →
      Delimited rightTail → text first ++ leftTail = text second ++ rightTail →
      agree first second ∧ leftTail = rightTail)
    {leftTail rightTail : PyStr}
    (same : left.flatMap (fun element => .scalar ',' :: text element) ++ close :: leftTail =
      right.flatMap (fun element => .scalar ',' :: text element) ++ close :: rightTail) :
    List.Forall₂ agree left right ∧ leftTail = rightTail := by
  induction left generalizing right with
  | nil =>
    cases right with
    | nil => exact ⟨List.Forall₂.nil, (List.cons.inj same).2⟩
    | cons second others =>
      simp only [List.flatMap_nil, List.nil_append, List.flatMap_cons, List.cons_append,
        List.cons.injEq] at same
      exact absurd same.1 separates
  | cons first rest inductionHypothesis =>
    cases right with
    | nil =>
      simp only [List.flatMap_nil, List.nil_append, List.flatMap_cons, List.cons_append,
        List.cons.injEq] at same
      exact absurd same.1.symm separates
    | cons second others =>
      simp only [List.flatMap_cons, List.cons_append, List.append_assoc, List.cons.injEq,
        true_and] at same
      have delimited : ∀ (elements : List α) (tail : PyStr),
          Delimited (elements.flatMap (fun element => .scalar ',' :: text element) ++ close :: tail) := by
        intro elements tail code following split
        cases elements with
        | nil =>
          rw [← (List.cons.inj split).1]
          exact closes
        | cons element remaining =>
          simp only [List.flatMap_cons, List.cons_append, List.cons.injEq] at split
          rw [← split.1]
          rfl
      obtain ⟨agreed, tails⟩ := unique first List.mem_cons_self second List.mem_cons_self _ _
        (delimited rest leftTail) (delimited others rightTail) same
      obtain ⟨remaining, closed⟩ := inductionHypothesis others
        (fun one member other otherMember => unique one (List.mem_cons_of_mem _ member) other
          (List.mem_cons_of_mem _ otherMember)) tails
      exact ⟨List.Forall₂.cons agreed remaining, closed⟩

/-- The rest of a joined text is each text behind its separator. -/
theorem join_cons (separator first : PyStr) (rest : List PyStr) :
    PyStr.join separator (first :: rest) = first ++ rest.flatMap (fun text => separator ++ text) := by
  induction rest generalizing first with
  | nil => rw [PyStr.join, List.flatMap_nil, List.append_nil]
  | cons second others inductionHypothesis =>
    rw [PyStr.join, inductionHypothesis, List.flatMap_cons, List.append_assoc, List.append_assoc]
    intro absurdity
    cases absurdity

/-- Elements are joined by commas. -/
theorem join_comma (first : PyStr) (rest : List PyStr) :
    PyStr.join (py ",") (first :: rest) = first ++ rest.flatMap (fun text => .scalar ',' :: text) :=
  join_cons (py ",") first rest

/-- A joined list is read element by element, when no element starts like the
closing character. -/
theorem joined_unique {α : Type} {text : α → PyStr} {agree : α → α → Prop} {close : Code}
    (closes : numberCode close = false) (separates : close ≠ .scalar ',') (left right : List α)
    (starts : ∀ element, element ∈ left ∨ element ∈ right →
      ∃ code rest, text element = code :: rest ∧ code ≠ close)
    (unique : ∀ first ∈ left, ∀ second ∈ right, ∀ leftTail rightTail, Delimited leftTail →
      Delimited rightTail → text first ++ leftTail = text second ++ rightTail →
      agree first second ∧ leftTail = rightTail)
    {leftTail rightTail : PyStr}
    (same : PyStr.join (py ",") (left.map text) ++ close :: leftTail =
      PyStr.join (py ",") (right.map text) ++ close :: rightTail) :
    List.Forall₂ agree left right ∧ leftTail = rightTail := by
  have joined : ∀ first rest, PyStr.join (py ",") (List.map text (first :: rest)) =
      text first ++ rest.flatMap (fun element => .scalar ',' :: text element) := by
    intro first rest
    rw [List.map_cons, join_comma, List.flatMap_map]
  cases left with
  | nil =>
    cases right with
    | nil => exact ⟨List.Forall₂.nil, (List.cons.inj same).2⟩
    | cons second others =>
      obtain ⟨code, rest, split, differs⟩ := starts second (Or.inr List.mem_cons_self)
      rw [joined, split] at same
      exact absurd (List.cons.inj same).1.symm differs
  | cons first rest =>
    cases right with
    | nil =>
      obtain ⟨code, rest, split, differs⟩ := starts first (Or.inl List.mem_cons_self)
      rw [joined, split] at same
      exact absurd (List.cons.inj same).1 differs
    | cons second others =>
      refine separated_unique closes separates (first :: rest) (second :: others) unique ?_
      rw [joined, joined] at same
      simpa only [List.flatMap_cons, List.cons_append, List.append_assoc, List.cons.injEq,
        true_and] using same

end Reading

section Structure

/-- The text of a value that can be encoded. -/
def rendered (value : Value) : PyStr := (encode value).toOption.getD []

/-- The text of a value is what `encode` answers. -/
theorem encode_rendered {value : Value} {text : PyStr} (encoded : encode value = .ok text) :
    rendered value = text := by rw [rendered, encoded]; rfl

/-- Encoded elements are the texts of the elements. -/
theorem encodeItems_ok {items : List Value} {texts : List PyStr}
    (encoded : encodeItems items = .ok texts) :
    texts = items.map rendered ∧ ∀ item ∈ items, encode item = .ok (rendered item) := by
  induction items generalizing texts with
  | nil => exact ⟨(Except.ok.inj encoded).symm, fun _ member => by cases member⟩
  | cons item rest inductionHypothesis =>
    rw [encodeItems, Result.bind_ok] at encoded
    obtain ⟨text, itemText, encoded⟩ := encoded
    rw [Result.bind_ok] at encoded
    obtain ⟨remaining, restTexts, written⟩ := encoded
    obtain ⟨same, each⟩ := inductionHypothesis restTexts
    refine ⟨?_, ?_⟩
    · rw [← Except.ok.inj written, same, List.map_cons, encode_rendered itemText]
    · intro other member
      rcases List.mem_cons.mp member with rfl | later
      · rw [encode_rendered itemText, itemText]
      · exact each other later

/-- A member of an object as it is written. -/
def memberText (member : Key × Value) : PyStr :=
  escapeString (keyName member.1) ++ .scalar ':' :: rendered member.2

/-- Encoded members are the texts of the members. -/
theorem renderMembers_ok {members : List (Key × Value)} {texts : List PyStr}
    (encoded : renderMembers (members.map (fun member => (member.1, encode member.2))) = .ok texts) :
    texts = members.map memberText ∧
      ∀ member ∈ members, encode member.2 = .ok (rendered member.2) := by
  induction members generalizing texts with
  | nil => exact ⟨(Except.ok.inj encoded).symm, fun _ member => by cases member⟩
  | cons member rest inductionHypothesis =>
    rw [List.map_cons, renderMembers, Result.bind_ok] at encoded
    obtain ⟨text, valueText, encoded⟩ := encoded
    rw [Result.bind_ok] at encoded
    obtain ⟨remaining, restTexts, written⟩ := encoded
    obtain ⟨same, each⟩ := inductionHypothesis restTexts
    refine ⟨?_, ?_⟩
    · rw [← Except.ok.inj written, same, List.map_cons, memberText, encode_rendered valueText]
    · intro other present
      rcases List.mem_cons.mp present with rfl | later
      · rw [encode_rendered valueText, valueText]
      · exact each other later

/-- An encoded object lists its members in key order. -/
theorem encodeDict_ok {members : List (Key × Value)} {text : PyStr}
    (encoded : encode (.dict members) = .ok text) :
    text = .scalar '\x7b' :: (PyStr.join (py ",") ((sortMembers members).map memberText) ++ py "\x7d") ∧
      ∀ member ∈ members, encode member.2 = .ok (rendered member.2) := by
  rw [encode] at encoded
  split at encoded
  · rw [Result.bind_ok, encodeMembers_map, sortMembers_map] at encoded
    obtain ⟨texts, written, closed⟩ := encoded
    obtain ⟨rfl, each⟩ := renderMembers_ok written
    refine ⟨(Except.ok.inj closed).symm, fun member present => each member ?_⟩
    exact (sortMembers_perm members).mem_iff.mpr present
  · cases encoded

/-- The text of a list is that of its elements between brackets. -/
theorem encodeList_ok {items : List Value} {text : PyStr} (encoded : encode (.list items) = .ok text) :
    text = .scalar '[' :: (PyStr.join (py ",") (items.map rendered) ++ py "]") ∧
      ∀ item ∈ items, encode item = .ok (rendered item) := by
  rw [encode, Result.bind_ok] at encoded
  obtain ⟨texts, written, closed⟩ := encoded
  obtain ⟨rfl, each⟩ := encodeItems_ok written
  exact ⟨(Except.ok.inj closed).symm, each⟩

end Structure

section Objects

/-- Reordering the members of an object with distinct keys changes no lookup. -/
theorem lookup_perm {left right : List (Key × Value)} (distinct : (left.map Prod.fst).Nodup)
    (permuted : left.Perm right) (key : Key) : Value.lookup key left = Value.lookup key right := by
  have rightDistinct : (right.map Prod.fst).Nodup := (permuted.map Prod.fst).nodup_iff.mp distinct
  apply Option.ext
  intro value
  rw [Value.lookup_mem distinct, Value.lookup_mem rightDistinct, permuted.mem_iff]

/-- Members that agree pairwise on keys and meanings give one object. -/
theorem lookup_agree {left right : List (Key × Value)}
    (agree : List.Forall₂ (fun first second => first.1 = second.1 ∧
      first.2.denote = second.2.denote) left right) (key : Key) :
    (Value.lookup key left).map Value.denote = (Value.lookup key right).map Value.denote := by
  induction agree with
  | nil => rfl
  | @cons first second rest others pair _ inductionHypothesis =>
    obtain ⟨name, value⟩ := first
    obtain ⟨otherName, otherValue⟩ := second
    have names : name = otherName := pair.1
    have meanings : value.denote = otherValue.denote := pair.2
    subst names
    by_cases found : name = key
    · simp [Value.lookup, found, meanings]
    · simp [Value.lookup, found, inductionHypothesis]

/-- Lists whose elements mean the same have the same meanings. -/
theorem map_agree {α β : Type} {meaning : α → β} {left right : List α}
    (agree : List.Forall₂ (fun first second => meaning first = meaning second) left right) :
    left.map meaning = right.map meaning := by
  induction agree with
  | nil => rfl
  | cons equal _ inductionHypothesis => rw [List.map_cons, List.map_cons, equal, inductionHypothesis]

/-- Objects mean the same when their sorted members do, name by name. -/
theorem object_meaning {left right : List (Key × Value)} (leftDistinct : (left.map Prod.fst).Nodup)
    (rightDistinct : (right.map Prod.fst).Nodup)
    (agree : List.Forall₂ (fun first second => first.1 = second.1 ∧
      first.2.denote = second.2.denote) (sortMembers left) (sortMembers right)) :
    (Value.dict left).denote = (Value.dict right).denote := by
  simp only [Value.denote, Json.obj.injEq]
  funext name
  rw [Value.denoteMembers_lookup, Value.denoteMembers_lookup,
    lookup_perm leftDistinct (sortMembers_perm left).symm,
    lookup_perm rightDistinct (sortMembers_perm right).symm, lookup_agree agree]

end Objects

/-- The value can be read off its canonical text, whatever follows it. -/
def Readable (left : Value) : Prop :=
  left.WellFormed → ∀ (right : Value) (leftText rightText leftTail rightTail : PyStr),
    right.WellFormed → encode left = .ok leftText → encode right = .ok rightText →
    Delimited leftTail → Delimited rightTail → leftText ++ leftTail = rightText ++ rightTail →
    left.denote = right.denote ∧ leftTail = rightTail

/-- Equal texts are of values of one kind. -/
theorem kind_agree {left right : Value} {leftText rightText leftTail rightTail : PyStr}
    (leftEncoded : encode left = .ok leftText) (rightEncoded : encode right = .ok rightText)
    (same : leftText ++ leftTail = rightText ++ rightTail) : kind left = kind right := by
  obtain ⟨code, rest, rfl, leftKind⟩ := encode_kind leftEncoded
  obtain ⟨other, others, rfl, rightKind⟩ := encode_kind rightEncoded
  rw [← leftKind, ← rightKind, (List.cons.inj same).1]

/-- A number is read off its text. -/
theorem number_text {value : Value} {text : PyStr} (number : kind value = .number)
    (encoded : encode value = .ok text) :
    ∃ stated, value.denote = .num stated ∧ NumberText text stated := by
  cases value with
  | int integer => exact ⟨integer, rfl, encodeInt_number encoded⟩
  | float float =>
    obtain ⟨stated, finite, stands⟩ := encodeFloat_number encoded
    exact ⟨stated, by simp [Value.denote, finite], stands⟩
  | bool flag => cases flag <;> cases number
  | _ => cases number

/-- A number ends where no further character of a number follows. -/
theorem number_readable {left : Value} (number : kind left = .number) : Readable left := by
  intro _ right leftText rightText leftTail rightTail _ leftEncoded rightEncoded leftDelimited
    rightDelimited same
  have rightNumber : kind right = .number := (kind_agree leftEncoded rightEncoded same) ▸ number
  obtain ⟨leftValue, leftMeaning, leftStands⟩ := number_text number leftEncoded
  obtain ⟨rightValue, rightMeaning, rightStands⟩ := number_text rightNumber rightEncoded
  obtain ⟨rfl, tails⟩ := number_unique leftStands.codes rightStands.codes leftDelimited
    rightDelimited same
  refine ⟨?_, tails⟩
  rw [leftMeaning, rightMeaning, ← leftStands.value, ← rightStands.value]

/-- The literals of JSON. -/
def word : Kind → Option Value
  | .null => some .none
  | .true => some (.bool true)
  | .false => some (.bool false)
  | _ => none

/-- A value of a literal's kind is the literal. -/
theorem word_kind {value literal : Value} (stated : word (kind value) = some literal) :
    value = literal := by
  cases value with
  | none => exact Option.some.inj stated
  | bool flag => cases flag <;> exact Option.some.inj stated
  | _ => cases stated

/-- A literal is read by its own characters. -/
theorem word_readable {left : Value} (literal : word (kind left) = some left) : Readable left := by
  intro _ right leftText rightText leftTail rightTail _ leftEncoded rightEncoded _ _ same
  have kinds := kind_agree leftEncoded rightEncoded same
  have equal : right = left := word_kind (kinds ▸ literal)
  subst equal
  obtain rfl := Except.ok.inj (leftEncoded.symm.trans rightEncoded)
  exact ⟨rfl, List.append_cancel_left same⟩

/-- A string ends at its closing quote. -/
theorem string_readable (value : PyStr) : Readable (.str value) := by
  intro _ right leftText rightText leftTail rightTail _ leftEncoded rightEncoded _ _ same
  have kinds := kind_agree leftEncoded rightEncoded same
  cases right with
  | str other =>
    obtain rfl := Except.ok.inj leftEncoded
    obtain rfl := Except.ok.inj rightEncoded
    obtain ⟨rfl, tails⟩ := escapeString_unique same
    exact ⟨rfl, tails⟩
  | bool flag => cases flag <;> cases kinds
  | _ => cases kinds

/-- A value does not start like a closing bracket. -/
theorem rendered_starts {value : Value} (encoded : encode value = .ok (rendered value)) {close : Code}
    (closes : kindOf close = .other) :
    ∃ code rest, rendered value = code :: rest ∧ code ≠ close := by
  obtain ⟨code, rest, split, kinded⟩ := encode_kind encoded
  refine ⟨code, rest, split, ?_⟩
  rintro rfl
  have impossible : kind value = .other := kinded.symm.trans closes
  cases value with
  | foreign => cases encoded
  | bool flag => cases flag <;> cases impossible
  | _ => cases impossible

/-- A list is read element by element, since a comma or the bracket delimits each. -/
theorem list_readable {items : List Value} (each : ∀ item ∈ items, Readable item) :
    Readable (.list items) := by
  intro wellFormed right leftText rightText leftTail rightTail rightWellFormed leftEncoded
    rightEncoded _ _ same
  have kinds := kind_agree leftEncoded rightEncoded same
  have itemsWellFormed := Value.wellFormedItems_iff.mp wellFormed
  cases right with
  | list others =>
    have othersWellFormed := Value.wellFormedItems_iff.mp rightWellFormed
    obtain ⟨rfl, leftEach⟩ := encodeList_ok leftEncoded
    obtain ⟨rfl, rightEach⟩ := encodeList_ok rightEncoded
    simp only [List.cons_append, List.append_assoc, List.cons.injEq, true_and] at same
    have starts : ∀ element, element ∈ items ∨ element ∈ others →
        ∃ code rest, rendered element = code :: rest ∧ code ≠ .scalar ']' :=
      fun element member =>
        rendered_starts (member.elim (leftEach element) (rightEach element)) (by decide)
    have read : List.Forall₂ (fun first second => first.denote = second.denote) items others ∧
        leftTail = rightTail :=
      joined_unique (by decide) (by decide) items others starts
        (fun first member second otherMember leftRest rightRest leftEnds rightEnds equal =>
          each first member (itemsWellFormed first member) second _ _ _ _
            (othersWellFormed second otherMember) (leftEach first member)
            (rightEach second otherMember) leftEnds rightEnds equal) same
    refine ⟨?_, read.2⟩
    rw [Value.denote, Value.denote, Value.denoteItems_map, Value.denoteItems_map, map_agree read.1]
  | tuple => exact absurd rightWellFormed id
  | bool flag => cases flag <;> cases kinds
  | _ => cases kinds

/-- An object is read member by member, in the order of the sorted names. -/
theorem dict_readable {members : List (Key × Value)}
    (each : ∀ member ∈ members, Readable member.2) : Readable (.dict members) := by
  intro wellFormed right leftText rightText leftTail rightTail rightWellFormed leftEncoded
    rightEncoded _ _ same
  have kinds := kind_agree leftEncoded rightEncoded same
  obtain ⟨distinct, wellFormedEach⟩ := wellFormed
  rw [Value.wellFormedMembers_iff] at wellFormedEach
  cases right with
  | dict others =>
    obtain ⟨othersDistinct, othersWellFormed⟩ := rightWellFormed
    rw [Value.wellFormedMembers_iff] at othersWellFormed
    obtain ⟨rfl, leftEach⟩ := encodeDict_ok leftEncoded
    obtain ⟨rfl, rightEach⟩ := encodeDict_ok rightEncoded
    simp only [List.cons_append, List.append_assoc, List.cons.injEq, true_and] at same
    have starts : ∀ member : Key × Value, member ∈ sortMembers members ∨ member ∈ sortMembers others →
        ∃ code rest, memberText member = code :: rest ∧ code ≠ .scalar '\x7d' :=
      fun member _ => ⟨quote, _, rfl, by decide⟩
    have read : List.Forall₂ (fun first second => first.1 = second.1 ∧
        first.2.denote = second.2.denote) (sortMembers members) (sortMembers others) ∧
        leftTail = rightTail := by
      refine joined_unique (by decide) (by decide) _ _ starts ?_ same
      intro first member second otherMember leftRest rightRest leftEnds rightEnds equal
      have present := (sortMembers_perm members).mem_iff.mp member
      have otherPresent := (sortMembers_perm others).mem_iff.mp otherMember
      obtain ⟨⟨name, named⟩, firstWellFormed⟩ := wellFormedEach first present
      obtain ⟨⟨otherName, otherNamed⟩, secondWellFormed⟩ := othersWellFormed second otherPresent
      rw [memberText, memberText, List.append_assoc, List.append_assoc] at equal
      obtain ⟨names, values⟩ := escapeString_unique equal
      rw [named, otherNamed] at names
      obtain ⟨meanings, tails⟩ := each first present firstWellFormed second.2 _ _ _ _
        secondWellFormed (leftEach first present) (rightEach second otherPresent) leftEnds rightEnds
        (List.cons.inj values).2
      refine ⟨⟨?_, meanings⟩, tails⟩
      rw [named, otherNamed]
      exact congrArg Key.str names
    exact ⟨object_meaning distinct othersDistinct read.1, read.2⟩
  | bool flag => cases flag <;> cases kinds
  | _ => cases kinds

/-- Every well-formed value can be read off its canonical text. -/
theorem readable (value : Value) : Readable value := by
  induction value using Value.induct with
  | none => exact word_readable rfl
  | bool flag => cases flag <;> exact word_readable rfl
  | int number => exact number_readable rfl
  | float number => exact number_readable rfl
  | str text => exact string_readable text
  | list items each => exact list_readable each
  | tuple items _ => exact fun impossible => absurd impossible id
  | dict members each => exact dict_readable each
  | foreign typeName => exact fun impossible => absurd impossible id

/-- Values with one canonical text are one JSON value. -/
theorem canonicalize_faithful {left right : Value} (leftWellFormed : left.WellFormed)
    (rightWellFormed : right.WellFormed) {text : PyStr} (leftCanonical : canonicalize left = .ok text)
    (rightCanonical : canonicalize right = .ok text) : left.JsonEq right :=
  (readable left leftWellFormed right text text [] [] rightWellFormed leftCanonical rightCanonical
    (fun _ _ absurdity => by cases absurdity) (fun _ _ absurdity => by cases absurdity) rfl).1

section Utf8

/-- The scalar values of a text make up the text. -/
theorem mapM_char {text : PyStr} {chars : List Char} (mapped : text.mapM char? = some chars) :
    text = chars.map Code.scalar := by
  induction text generalizing chars with
  | nil =>
    cases mapped
    rfl
  | cons code rest inductionHypothesis =>
    rw [List.mapM_cons] at mapped
    cases code with
    | scalar char =>
      cases tail : rest.mapM char? with
      | none => simp [char?, tail] at mapped
      | some others =>
        have split : char :: others = chars := by simpa [char?, tail] using mapped
        rw [← split, inductionHypothesis tail, List.map_cons]
    | lone offset => simp [char?] at mapped

/-- UTF-8 separates strings. -/
theorem utf8_injective {left right : PyStr} {bytes : Bytes} (leftBytes : utf8 left = .ok bytes)
    (rightBytes : utf8 right = .ok bytes) : left = right := by
  rw [utf8] at leftBytes rightBytes
  split at leftBytes
  case _ leftChars leftMapped =>
    split at rightBytes
    case _ rightChars rightMapped =>
      have same : leftChars.flatMap String.utf8EncodeChar = rightChars.flatMap String.utf8EncodeChar :=
        (Except.ok.inj leftBytes).trans (Except.ok.inj rightBytes).symm
      have encoded : leftChars.utf8Encode = rightChars.utf8Encode := by
        simp only [List.utf8Encode, same]
      have decoded := congrArg ByteArray.utf8Decode? encoded
      rw [List.utf8Decode?_utf8Encode, List.utf8Decode?_utf8Encode] at decoded
      have chars : leftChars = rightChars := by simpa using decoded
      rw [mapM_char leftMapped, mapM_char rightMapped, chars]
    · cases rightBytes
  · cases leftBytes

/-- Values with one canonical byte string are one JSON value. -/
theorem canonicalizeBytes_faithful {left right : Value} (leftWellFormed : left.WellFormed)
    (rightWellFormed : right.WellFormed) {bytes : Bytes}
    (leftCanonical : canonicalizeBytes left = .ok bytes)
    (rightCanonical : canonicalizeBytes right = .ok bytes) : left.JsonEq right := by
  rw [canonicalizeBytes, Result.bind_ok] at leftCanonical rightCanonical
  obtain ⟨leftText, leftEncoded, leftBytes⟩ := leftCanonical
  obtain ⟨rightText, rightEncoded, rightBytes⟩ := rightCanonical
  obtain rfl := utf8_injective leftBytes rightBytes
  exact canonicalize_faithful leftWellFormed rightWellFormed leftEncoded rightEncoded

end Utf8

/-- UTF-8 can carry the code point. -/
def encodable (code : Code) : Bool := (char? code).isSome

/-- UTF-8 can carry a text without lone surrogates. -/
theorem scalar_encodable {text : PyStr} (scalar : text.all Code.isScalar = true) : text.all encodable = true := by
  rw [List.all_eq_true] at scalar ⊢
  intro code listed
  have single := scalar code listed
  cases code with
  | scalar char => rfl
  | lone offset => cases single

/-- A string key that UTF-8 can carry. -/
def encodableKey : Key → Bool
  | .str name => name.all encodable
  | .other _ => false

section Order

/-- Reads one code point of a UTF-16 sequence without lone surrogates. -/
def readUnits : List Nat → Option (Code × List Nat)
  | [] => none
  | high :: rest =>
    if 0xD800 ≤ high ∧ high < 0xDC00 then
      match rest with
      | low :: tail =>
        some (.scalar (Char.ofNat (0x10000 + (high - 0xD800) * 0x400 + (low - 0xDC00))), tail)
      | [] => none
    else some (.scalar (Char.ofNat high), rest)

/-- The units of a scalar value are read back as it. -/
theorem readUnits_scalar (char : Char) (rest : List Nat) :
    readUnits (utf16Units (.scalar char) ++ rest) = some (.scalar char, rest) := by
  have valid : char.toNat < 0xD800 ∨ (0xDFFF < char.toNat ∧ char.toNat < 0x110000) := char.valid
  rw [utf16Units]
  split
  · have single : ¬ (0xD800 ≤ char.toNat ∧ char.toNat < 0xDC00) := by omega
    simp [readUnits, single]
  · have high : 0xD800 ≤ 0xD800 + (char.toNat - 0x10000) / 0x400 ∧
        0xD800 + (char.toNat - 0x10000) / 0x400 < 0xDC00 := by omega
    have joined : 0x10000 + (0xD800 + (char.toNat - 0x10000) / 0x400 - 0xD800) * 0x400 +
        (0xDC00 + (char.toNat - 0x10000) % 0x400 - 0xDC00) = char.toNat := by omega
    simp only [List.cons_append, List.nil_append, readUnits, high, and_self, if_true, joined,
      Char.ofNat_toNat]

/-- Texts without lone surrogates are determined by their UTF-16 units. -/
theorem utf16Units_injective {left right : PyStr} (leftEncodes : left.all encodable = true)
    (rightEncodes : right.all encodable = true)
    (same : left.flatMap utf16Units = right.flatMap utf16Units) : left = right := by
  have scalar : ∀ code : Code, encodable code = true → ∃ char, code = .scalar char := by
    intro code encodes
    cases code with
    | scalar char => exact ⟨char, rfl⟩
    | lone offset => cases encodes
  induction left generalizing right with
  | nil =>
    cases right with
    | nil => rfl
    | cons code rest =>
      rw [List.all_cons, Bool.and_eq_true] at rightEncodes
      obtain ⟨char, rfl⟩ := scalar code rightEncodes.1
      have read := congrArg readUnits same
      rw [List.flatMap_cons, readUnits_scalar] at read
      cases read
  | cons code rest inductionHypothesis =>
    rw [List.all_cons, Bool.and_eq_true] at leftEncodes
    obtain ⟨char, rfl⟩ := scalar code leftEncodes.1
    cases right with
    | nil =>
      have read := congrArg readUnits same
      rw [List.flatMap_cons, readUnits_scalar] at read
      cases read
    | cons other others =>
      rw [List.all_cons, Bool.and_eq_true] at rightEncodes
      obtain ⟨otherChar, rfl⟩ := scalar other rightEncodes.1
      have read := congrArg readUnits same
      rw [List.flatMap_cons, List.flatMap_cons, readUnits_scalar, readUnits_scalar] at read
      obtain ⟨first, tails⟩ := Prod.mk.inj (Option.some.inj read)
      rw [first, inductionHypothesis leftEncodes.2 rightEncodes.2 tails]

/-- A sequence of units is determined by its bytes. -/
theorem bigEndian_injective {left right : List Nat}
    (same : left.flatMap (fun unit => [unit / 256, unit % 256]) =
      right.flatMap (fun unit => [unit / 256, unit % 256])) : left = right := by
  induction left generalizing right with
  | nil =>
    cases right with
    | nil => rfl
    | cons unit rest => cases same
  | cons unit rest inductionHypothesis =>
    cases right with
    | nil => cases same
    | cons other others =>
      simp only [List.flatMap_cons, List.cons_append, List.nil_append, List.cons.injEq] at same
      have units : unit = other := by omega
      rw [units, inductionHypothesis same.2.2]

/-- Keys without lone surrogates have distinct sort keys. -/
theorem utf16SortKey_injective {left right : PyStr} (leftEncodes : left.all encodable = true)
    (rightEncodes : right.all encodable = true)
    (same : utf16SortKey left = utf16SortKey right) : left = right :=
  utf16Units_injective leftEncodes rightEncodes (bigEndian_injective same)

/-- Any two sort keys are comparable. -/
instance {α : Type} : Std.Total (@memberLe α) :=
  ⟨fun left right => List.le_total (utf16SortKey (keyName left.1)) (utf16SortKey (keyName right.1))⟩

/-- The order of sort keys is transitive. -/
instance {α : Type} : IsTrans (Key × α) memberLe :=
  ⟨fun _ _ _ first second => List.le_trans first second⟩

/-- Sorted members are in the order of their sort keys. -/
theorem sortMembers_sorted {α : Type} (members : List (Key × α)) :
    (sortMembers members).Pairwise memberLe := List.pairwise_insertionSort _ _

/-- Objects with one member list up to order are sorted to one list. -/
theorem sortMembers_unique {α : Type} {left right : List (Key × α)} (permuted : left.Perm right)
    (distinct : (left.map Prod.fst).Nodup) (encodes : ∀ member ∈ left, encodableKey member.1 = true) :
    sortMembers left = sortMembers right := by
  have sorted : (sortMembers left).Perm (sortMembers right) :=
    (sortMembers_perm left).trans (permuted.trans (sortMembers_perm right).symm)
  refine List.Perm.eq_of_pairwise ?_ (sortMembers_sorted left) (sortMembers_sorted right) sorted
  intro first second firstMember secondMember below above
  have firstPresent := (sortMembers_perm left).mem_iff.mp firstMember
  have secondPresent := permuted.mem_iff.mpr ((sortMembers_perm right).mem_iff.mp secondMember)
  obtain ⟨firstKey, firstValue⟩ := first
  obtain ⟨secondKey, secondValue⟩ := second
  have firstEncodes := encodes _ firstPresent
  have secondEncodes := encodes _ secondPresent
  cases firstKey with
  | other tag => cases firstEncodes
  | str firstName =>
    cases secondKey with
    | other tag => cases secondEncodes
    | str secondName =>
      have names : firstName = secondName :=
        utf16SortKey_injective firstEncodes secondEncodes (List.le_antisymm below above)
      subst names
      exact List.inj_on_of_nodup_map distinct firstPresent secondPresent rfl

end Order

end TaxStamps.Jcs
