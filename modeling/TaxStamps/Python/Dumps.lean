import TaxStamps.Crypto.Jcs
import TaxStamps.Python.Repr

/-!
# The JSON text of a value

`json.dumps(value, sort_keys=True)` with its default separators and
`ensure_ascii`: a text of printable ASCII in which every other UTF-16 code unit
is an escape. A character outside the basic plane is written as its two
surrogates, so the text does not tell it from two characters that are those
surrogates.
-/

namespace TaxStamps

/-- A code unit in a JSON text: itself, a short escape, or `\uXXXX`. -/
def escapeUnit (unit : Nat) : PyStr :=
  match unit with
  | 34 => py "\\\""
  | 92 => py "\\\\"
  | 8 => py "\\b"
  | 12 => py "\\f"
  | 10 => py "\\n"
  | 13 => py "\\r"
  | 9 => py "\\t"
  | unit =>
    if 32 ≤ unit ∧ unit ≤ 126 then [.scalar (Char.ofNat unit)]
    else py "\\u" ++ [Jcs.hexDigit (unit / 4096), Jcs.hexDigit (unit / 256 % 16),
      Jcs.hexDigit (unit / 16 % 16), Jcs.hexDigit (unit % 16)]

/-- A string in a JSON text. -/
def jsonString (text : PyStr) : PyStr :=
  Jcs.quote :: ((text.flatMap Jcs.utf16Units).flatMap escapeUnit ++ [Jcs.quote])

/-- A float in a JSON text. -/
def PyFloat.jsonText : PyFloat → PyStr
  | .nan => py "NaN"
  | .infinity negative => (if negative then py "-" else []) ++ py "Infinity"
  | .finite negative rep => (if negative then py "-" else []) ++ rep.text

namespace Value

/-- Members are ordered by the code points of their keys. -/
def keyLe {α : Type} (left right : Key × α) : Prop :=
  ((Jcs.keyName left.1).map Code.ord).le ((Jcs.keyName right.1).map Code.ord)

/-- The order of members is decided on their names. -/
instance {α : Type} : DecidableRel (@keyLe α) := fun _ _ => List.decidableLE _ _

/-- `sorted(dct.items())`. -/
def sortByKey {α : Type} (members : List (Key × α)) : List (Key × α) := members.insertionSort keyLe

/-- The members of an object, each as `"key": value`. -/
def dumpedMembers : List (Key × Result PyStr) → Result (List PyStr)
  | [] => .ok []
  | (key, dumped) :: rest => do
    let value ← dumped
    let texts ← dumpedMembers rest
    .ok ((jsonString (Jcs.keyName key) ++ (py ": " ++ value)) :: texts)

mutual

/-- `json.dumps(value, sort_keys=True)`. Keys that are no strings are refused,
although `json.dumps` would spell out some of them. -/
def dumps : Value → Result PyStr
  | .none => .ok (py "null")
  | .bool true => .ok (py "true")
  | .bool false => .ok (py "false")
  | .int value => if value.natAbs < PyStr.digitLimit then .ok (PyStr.decimalInt value) else .error .valueError
  | .float value => .ok value.jsonText
  | .str value => .ok (jsonString value)
  | .list items => do
    let texts ← dumpsItems items
    .ok (py "[" ++ (PyStr.join (py ", ") texts ++ py "]"))
  | .tuple items => do
    let texts ← dumpsItems items
    .ok (py "[" ++ (PyStr.join (py ", ") texts ++ py "]"))
  | .dict members =>
    if members.all (fun member => Jcs.isName member.1) then do
      let texts ← dumpedMembers (sortByKey (dumpsMembers members))
      .ok (py "\x7b" ++ (PyStr.join (py ", ") texts ++ py "\x7d"))
    else .error .typeError
  | .foreign _ => .error .typeError

/-- The elements in turn, up to the first that cannot be written. -/
def dumpsItems : List Value → Result (List PyStr)
  | [] => .ok []
  | item :: rest => do
    let text ← dumps item
    let texts ← dumpsItems rest
    .ok (text :: texts)

/-- Every member with its text. -/
def dumpsMembers : List (Key × Value) → List (Key × Result PyStr)
  | [] => []
  | (key, value) :: rest => (key, dumps value) :: dumpsMembers rest

end

/-- Elements are written one by one. -/
theorem dumpsItems_ok {α : Type} {value : α → Value} {text : α → PyStr} {items : List α}
    (each : ∀ item ∈ items, dumps (value item) = .ok (text item)) :
    dumpsItems (items.map value) = .ok (items.map text) := by
  induction items with
  | nil => rfl
  | cons item rest inductionHypothesis =>
    rw [List.map_cons, dumpsItems, each item List.mem_cons_self,
      inductionHypothesis (fun other member => each other (List.mem_cons_of_mem _ member))]
    rfl

/-- A member in the text of an object. -/
def entryText (name : String) (text : PyStr) : PyStr := jsonString (py name) ++ (py ": " ++ text)

/-- Members whose values are written are written behind their names. -/
theorem dumpedMembers_ok (entries : List (String × PyStr)) :
    dumpedMembers (entries.map (fun entry => (key entry.1, .ok entry.2))) =
      .ok (entries.map (fun entry => entryText entry.1 entry.2)) := by
  induction entries with
  | nil => rfl
  | cons entry rest inductionHypothesis =>
    rw [List.map_cons, dumpedMembers, inductionHypothesis]
    rfl

/-- Each member is written by itself. -/
theorem dumpsMembers_map (members : List (Key × Value)) :
    dumpsMembers members = members.map (fun member => (member.1, dumps member.2)) := by
  induction members with
  | nil => rfl
  | cons member rest inductionHypothesis => rw [dumpsMembers, inductionHypothesis, List.map_cons]

/-- The text of a dict literal whose sorted members have texts. -/
theorem dumps_object {members : List (String × Value)} {entries : List (String × PyStr)}
    (sorted : sortByKey (members.map (fun member => (key member.1, dumps member.2))) =
      entries.map (fun entry => (key entry.1, .ok entry.2))) :
    dumps (object members) = .ok (py "\x7b" ++
      (PyStr.join (py ", ") (entries.map (fun entry => entryText entry.1 entry.2)) ++ py "\x7d")) := by
  have named : (members.map (fun member => (key member.1, member.2))).all
      (fun member => Jcs.isName member.1) = true := by
    rw [List.all_map, List.all_eq_true]
    exact fun _ _ => rfl
  rw [object, dumps, if_pos named, dumpsMembers_map, List.map_map]
  change (dumpedMembers (sortByKey (members.map (fun member => (key member.1, dumps member.2))))) >>= _ = _
  rw [sorted, dumpedMembers_ok]
  rfl

example : dumps (Value.object [("b", .list [.bool true, .none]), ("a", .str (py "x\n"))]) =
    .ok (py "\x7b\"a\": \"x\\n\", \"b\": [true, null]\x7d") := by decide

example : dumps (.str [.scalar (Char.ofNat 0x1F600)]) =
    dumps (.str [.lone ⟨0x3D, by decide⟩, .lone ⟨0x600, by decide⟩]) := by decide

end Value

end TaxStamps
