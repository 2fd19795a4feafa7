import TaxStamps.Crypto.Interoperable

/-!
# The canonical form

On interoperable values the canonicalizer is faithful: the bytes determine the
JSON value, the JSON value determines the bytes, and every object, at any depth,
is written with its members in ascending order of their UTF-16 code units.
-/

namespace TaxStamps.Jcs

/-- The UTF-16 code units of a text. -/
def utf16 (text : PyStr) : List Nat := text.flatMap utf16Units

/-- Two members in the order of RFC 8785, under different keys. -/
def Ascending {α : Type} (first second : Key × α) : Prop :=
  List.Lex (· < ·) (utf16 (keyName first.1)) (utf16 (keyName second.1))

/-- One member of an object: the quoted key, a colon, the text of the value. -/
def entryText (member : Key × Value) (text : PyStr) : PyStr :=
  escapeString (keyName member.1) ++ .scalar ':' :: text

/-- What a canonical text looks like. The members of an object stand in
ascending order of their keys, whatever order the value holds them in. -/
inductive Written : Value → PyStr → Prop
  | null : Written .none (py "null")
  | true : Written (.bool true) (py "true")
  | false : Written (.bool false) (py "false")
  | int (number : Int) : Written (.int number) (PyStr.decimalInt number)
  | str (text : PyStr) : Written (.str text) (escapeString text)
  | list {items : List Value} {texts : List PyStr} (each : List.Forall₂ Written items texts) :
    Written (.list items) (py "[" ++ (PyStr.join (py ",") texts ++ py "]"))
  | dict {members ordered : List (Key × Value)} {texts : List PyStr} (same : ordered.Perm members)
    (ascending : ordered.Pairwise Ascending)
    (each : List.Forall₂ (fun member text => Written member.2 text) ordered texts) :
    Written (.dict members) (py "\x7b" ++
      (PyStr.join (py ",") (List.zipWith entryText ordered texts) ++ py "\x7d"))

/-- Comparing big-endian bytes compares the code units. -/
theorem bigEndian_lex {left right : List Nat}
    (below : List.Lex (· < ·) (left.flatMap (fun unit => [unit / 256, unit % 256]))
      (right.flatMap (fun unit => [unit / 256, unit % 256]))) : List.Lex (· < ·) left right := by
  induction left generalizing right with
  | nil =>
    cases right with
    | nil => cases below
    | cons unit rest => exact List.Lex.nil
  | cons unit rest inductionHypothesis =>
    cases right with
    | nil => cases below
    | cons other others =>
      simp only [List.flatMap_cons, List.cons_append, List.nil_append, List.cons_lex_cons_iff] at below
      rcases below with high | ⟨high, low | ⟨low, later⟩⟩
      · exact List.Lex.rel (by omega)
      · exact List.Lex.rel (by omega)
      · obtain rfl : unit = other := by omega
        exact List.Lex.cons (inductionHypothesis later)

/-- Keys in sorting order that differ are in ascending order. -/
theorem ascending_of_le {α : Type} {first second : Key × α} (firstEncodes : encodableKey first.1 = true)
    (secondEncodes : encodableKey second.1 = true) (ordered : memberLe first second)
    (different : first.1 ≠ second.1) : Ascending first second := by
  obtain ⟨firstKey, firstValue⟩ := first
  obtain ⟨secondKey, secondValue⟩ := second
  cases firstKey with
  | other tag => cases firstEncodes
  | str firstName =>
    cases secondKey with
    | other tag => cases secondEncodes
    | str secondName =>
      apply bigEndian_lex
      by_contra above
      have names : firstName = secondName :=
        utf16SortKey_injective firstEncodes secondEncodes (List.le_antisymm ordered above)
      exact different (congrArg Key.str names)

/-- Distinct keys are sorted in strictly ascending order. -/
theorem sortMembers_ascending {α : Type} {members : List (Key × α)}
    (distinct : (members.map Prod.fst).Nodup)
    (encodes : ∀ member ∈ members, encodableKey member.1 = true) :
    (sortMembers members).Pairwise Ascending := by
  have keys : ((sortMembers members).map Prod.fst).Nodup :=
    ((sortMembers_perm members).map Prod.fst).nodup_iff.mpr distinct
  have apart : (sortMembers members).Pairwise (fun first second => first.1 ≠ second.1) :=
    List.pairwise_map.mp keys
  refine ((sortMembers_sorted members).and apart).imp_of_mem ?_
  intro first second firstMember secondMember ordered
  exact ascending_of_le (encodes first ((sortMembers_perm members).mem_iff.mp firstMember))
    (encodes second ((sortMembers_perm members).mem_iff.mp secondMember)) ordered.1 ordered.2

/-- Every element is written as its text. -/
theorem forall_rendered {items : List Value} (each : ∀ item ∈ items, Written item (rendered item)) :
    List.Forall₂ Written items (items.map rendered) := by
  rw [List.forall₂_map_right_iff, List.forall₂_same]
  exact each

/-- The canonicalizer writes the canonical form. -/
theorem encode_written {value : Value} (agreed : value.interoperable = true) {text : PyStr}
    (encoded : encode value = .ok text) : Written value text := by
  induction value using Value.induct generalizing text with
  | none =>
    cases encoded
    exact Written.null
  | bool flag => cases flag <;> cases encoded <;> constructor
  | int number =>
    rw [encode, encodeInt, if_pos (of_decide_eq_true agreed)] at encoded
    cases encoded
    exact Written.int number
  | float => cases agreed
  | str value =>
    cases encoded
    exact Written.str value
  | list items each =>
    rw [Value.interoperable, Value.interoperableItems_iff] at agreed
    obtain ⟨rfl, rendering⟩ := encodeList_ok encoded
    apply Written.list
    exact forall_rendered (fun item member => each item member (agreed item member) (rendering item member))
  | tuple => cases agreed
  | dict members each =>
    obtain ⟨distinct, allAgreed⟩ := Value.interoperable_dict.mp agreed
    obtain ⟨rfl, rendering⟩ := encodeDict_ok encoded
    have texts : (sortMembers members).map memberText =
        List.zipWith entryText (sortMembers members) ((sortMembers members).map (rendered ·.2)) := by
      rw [List.zipWith_map_right, List.zipWith_self]
      rfl
    rw [texts]
    refine Written.dict (sortMembers_perm members)
      (sortMembers_ascending distinct (fun member present => (allAgreed member present).1)) ?_
    rw [List.forall₂_map_right_iff, List.forall₂_same]
    intro member sorted
    have present := (sortMembers_perm members).mem_iff.mp sorted
    exact each member present (allAgreed member present).2 (rendering member present)
  | foreign => cases agreed

/-- Canonical bytes stand for exactly one JSON value, and every object in them
lists its members in ascending order. -/
theorem canonicalization_faithful {left right : Value} (leftAgreed : left.interoperable = true)
    (rightAgreed : right.interoperable = true) :
    (canonicalizeBytes left = canonicalizeBytes right ↔ left.JsonEq right) ∧
      ∃ text bytes, canonicalizeBytes left = .ok bytes ∧ utf8 text = .ok bytes ∧ Written left text := by
  have leftWellFormed := Value.interoperable_wellFormed leftAgreed
  have rightWellFormed := Value.interoperable_wellFormed rightAgreed
  obtain ⟨bytes, leftBytes⟩ := interoperable_canonicalizes leftAgreed
  refine ⟨⟨?_, ?_⟩, ?_⟩
  · intro same
    exact canonicalizeBytes_faithful leftWellFormed rightWellFormed leftBytes (same ▸ leftBytes)
  · intro equal
    exact interoperable_bytes rightAgreed leftWellFormed equal
  · have stated := leftBytes
    rw [canonicalizeBytes, Result.bind_ok] at stated
    obtain ⟨text, encoded, carried⟩ := stated
    exact ⟨text, bytes, leftBytes, carried, encode_written leftAgreed encoded⟩

/-- Member order and depth do not matter, and an astral key precedes U+FFFD. -/
theorem canonicalization_faithful_sample :
    (canonicalizeBytes (.dict [(.str [.scalar (Char.ofNat 0xFFFD)], .list [.int 1, .none]),
        (.str [.scalar (Char.ofNat 0x1F600)], .dict [])]) =
      canonicalizeBytes (.dict [(.str [.scalar (Char.ofNat 0x1F600)], .dict []),
        (.str [.scalar (Char.ofNat 0xFFFD)], .list [.int 1, .none])]) ↔
      (Value.dict [(.str [.scalar (Char.ofNat 0xFFFD)], .list [.int 1, .none]),
        (.str [.scalar (Char.ofNat 0x1F600)], .dict [])]).JsonEq
        (.dict [(.str [.scalar (Char.ofNat 0x1F600)], .dict []),
          (.str [.scalar (Char.ofNat 0xFFFD)], .list [.int 1, .none])])) :=
  (canonicalization_faithful (by decide) (by decide)).1

end TaxStamps.Jcs
