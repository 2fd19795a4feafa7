import TaxStamps.Python.Objects

/-!
# The JSON text of a value and back

`json.loads(json.dumps(value))`, which the service uses to take a value through
its JSON text. Floats come back as they went, a tuple comes back as a list, and
a pair of surrogates that was spelled as two characters comes back as the one
character it stands for.
-/

namespace TaxStamps

/-- A string whose surrogate pairs are joined, as a JSON text joins them. -/
def PyStr.joinSurrogates : PyStr → PyStr
  | .lone high :: .lone low :: rest =>
    if high.val < 0x400 ∧ 0x400 ≤ low.val then
      .scalar (Char.ofNat (0x10000 + high.val * 0x400 + (low.val - 0x400))) :: joinSurrogates rest
    else .lone high :: joinSurrogates (.lone low :: rest)
  | code :: rest => code :: joinSurrogates rest
  | [] => []

namespace Value

mutual

/-- `json.loads(json.dumps(value))`. The keys of a document are strings; the
keys of other types, some of which `json.dumps` would spell out, are refused. -/
def reparse : Value → Result Value
  | .none => .ok .none
  | .bool value => .ok (.bool value)
  | .int value => if value.natAbs < PyStr.digitLimit then .ok (.int value) else .error .valueError
  | .float value => .ok (.float value)
  | .str value => .ok (.str value.joinSurrogates)
  | .list items => do
    let items ← reparseItems items
    .ok (.list items)
  | .tuple items => do
    let items ← reparseItems items
    .ok (.list items)
  | .dict members => do
    let pairs ← reparseMembers members
    .ok (.dict (ofPairs pairs))
  | .foreign _ => .error .typeError

/-- The elements, each written and read again. -/
def reparseItems : List Value → Result (List Value)
  | [] => .ok []
  | item :: rest => do
    let item ← reparse item
    let rest ← reparseItems rest
    .ok (item :: rest)

/-- The members, each written and read again; a name that is no text cannot be. -/
def reparseMembers : List (Key × Value) → Result (List (Key × Value))
  | [] => .ok []
  | (.other _, _) :: _ => .error .typeError
  | (.str name, value) :: rest => do
    let value ← reparse value
    let rest ← reparseMembers rest
    .ok ((.str name.joinSurrogates, value) :: rest)

end

/-- The dict of pairs with string keys. -/
theorem ofPairs_wellFormed {pairs : List (Key × Value)} (stated : WellFormedMembers pairs) :
    (Value.dict (ofPairs pairs)).WellFormed := by
  have extends_ : ∀ members, (Value.dict members).WellFormed →
      (Value.dict (pairs.foldl setMember members)).WellFormed := by
    induction pairs with
    | nil => exact fun members held => held
    | cons pair rest inductionHypothesis =>
      obtain ⟨key, value⟩ := pair
      obtain ⟨⟨name, rfl⟩, valueStated, restStated⟩ := stated
      exact fun members held => inductionHypothesis restStated _ (wellFormed_setMember held valueStated)
  exact extends_ [] ⟨List.nodup_nil, trivial⟩

/-- Reparsed elements have distinct names if each does. -/
theorem reparseItems_wellFormed {items : List Value}
    (each : ∀ item ∈ items, ∀ clean, item.reparse = .ok clean → clean.WellFormed) {cleans : List Value}
    (parsed : reparseItems items = .ok cleans) : WellFormedItems cleans := by
  induction items generalizing cleans with
  | nil =>
    cases parsed
    trivial
  | cons item rest inductionHypothesis =>
    obtain ⟨first, here, parsed⟩ := Result.bind_ok.mp parsed
    obtain ⟨others, later, parsed⟩ := Result.bind_ok.mp parsed
    cases parsed
    exact ⟨each item List.mem_cons_self first here,
      inductionHypothesis (fun other member => each other (List.mem_cons_of_mem _ member)) later⟩

/-- Reparsed members are named by texts and have distinct names if each does. -/
theorem reparseMembers_wellFormed {members : List (Key × Value)}
    (each : ∀ member ∈ members, ∀ clean, member.2.reparse = .ok clean → clean.WellFormed)
    {pairs : List (Key × Value)} (parsed : reparseMembers members = .ok pairs) :
    WellFormedMembers pairs := by
  induction members generalizing pairs with
  | nil =>
    cases parsed
    trivial
  | cons member rest inductionHypothesis =>
    obtain ⟨key, value⟩ := member
    cases key with
    | other tag => cases parsed
    | str name =>
      obtain ⟨first, here, parsed⟩ := Result.bind_ok.mp parsed
      obtain ⟨others, later, parsed⟩ := Result.bind_ok.mp parsed
      cases parsed
      exact ⟨⟨_, rfl⟩, each _ List.mem_cons_self first here,
        inductionHypothesis (fun other held => each other (List.mem_cons_of_mem _ held)) later⟩

/-- A JSON text reads back as a JSON value. -/
theorem reparse_wellFormed {value clean : Value} (parsed : value.reparse = .ok clean) :
    clean.WellFormed := by
  induction value using Value.induct generalizing clean with
  | int number =>
    rw [reparse] at parsed
    split at parsed <;> cases parsed
    trivial
  | list items each =>
    obtain ⟨cleans, listed, parsed⟩ := Result.bind_ok.mp parsed
    cases parsed
    exact reparseItems_wellFormed (fun item member clean => each item member) listed
  | tuple items each =>
    obtain ⟨cleans, listed, parsed⟩ := Result.bind_ok.mp parsed
    cases parsed
    exact reparseItems_wellFormed (fun item member clean => each item member) listed
  | dict members each =>
    obtain ⟨pairs, listed, parsed⟩ := Result.bind_ok.mp parsed
    cases parsed
    exact ofPairs_wellFormed (reparseMembers_wellFormed (fun member held clean => each member held) listed)
  | foreign typeName => cases parsed
  | _ =>
    cases parsed
    trivial

example : reparse (.tuple [.str [.lone ⟨0x3D, by decide⟩, .lone ⟨0x600, by decide⟩]]) =
    .ok (.list [.str [.scalar (Char.ofNat 0x1F600)]]) := rfl

end Value

end TaxStamps
