import TaxStamps.Api.Pbac
import TaxStamps.Crypto.Recanonical
import TaxStamps.Library.Raises

/-!
# What a policy directory allows

An engine is loaded exactly from a directory in which every policy file states its
rules and no name occurs twice, and any defect of any file aborts the boot. The engine
allows a request exactly when a stated rule grants it, in whatever file and order, and
counts the requests that no rule grants.
-/

namespace TaxStamps.Pbac

open Auth

section Statements

/-- A pattern of a rule: everything, or one identifier. -/
def Pattern (text : PyStr) : Prop := text = star ∨ identifier text = true

/-- A member that lists strings. -/
def Lists (found : Option Value) (texts : List PyStr) : Prop := found = some (.list (texts.map Value.str))

/-- A member that lists strings, with its default. -/
def ListsOrAny (found : Option Value) (texts : List PyStr) : Prop :=
  (found = none ∧ texts = [star]) ∨ Lists found texts

/-- The object states the rule. -/
structure States (members : List (Key × Value)) (rule : Rule) : Prop where
  known : ∀ member ∈ members, Jcs.keyName member.1 ∈ allowedFields
  name : Value.lookup (key "name") members = some (.str rule.name)
  named : rule.name ≠ []
  roles : Lists (Value.lookup (key "roles") members) rule.roles
  staffed : rule.roles ≠ []
  resource : Value.lookup (key "resource") members = some (.str rule.resource)
  resourcePattern : Pattern rule.resource
  action : Value.lookup (key "action") members = some (.str rule.action)
  actionPattern : Pattern rule.action
  tenant : (Value.lookup (key "tenant") members = none ∧ rule.tenant = star) ∨
    Value.lookup (key "tenant") members = some (.str rule.tenant)
  tenanted : rule.tenant ≠ []
  clearance : ListsOrAny (Value.lookup (key "clearance") members) rule.clearance
  classification : ListsOrAny (Value.lookup (key "classification") members) rule.classification
  labels : ∀ label ∈ rule.classification, label ∈ classifications ∨ label = star

/-- The text of a file states the rules, in its order. -/
def FileStates (interpreter : Scanner.Interpreter) (file : PolicyFile) (rules : List Rule) : Prop :=
  ∃ text members policies, file.text = some text ∧
    Scanner.loads interpreter (.str text) = .ok (.dict members) ∧
    Value.lookup (key "version") members = some (.str (py "1.0")) ∧
    Value.lookup (key "policies") members = some (.list policies) ∧
    List.Forall₂ (fun raw rule => ∃ members, raw = .dict members ∧ States members rule) policies rules

/-- The rule grants the need to the identity. -/
structure Grants (rule : Rule) (identity : Identity) (need : Need) : Prop where
  role : star ∈ rule.roles ∨ ∃ role ∈ rule.roles, Value.str role ∈ identity.roles
  resource : rule.resource = star ∨ rule.resource = need.resource
  action : rule.action = star ∨ rule.action = need.action
  tenant : rule.tenant = star ∨ rule.tenant = identity.tenant
  clearance : star ∈ rule.clearance ∨ identity.clearance ∈ rule.clearance
  classification : star ∈ rule.classification ∨ need.classification ∈ rule.classification

end Statements

section Validation

variable {tables : Unicode} {path name : PyStr} {members : List (Key × Value)} {rule : Rule}
  {found : Option Value}

/-- A check succeeds exactly under its condition. -/
theorem check_ok {condition : Bool} {text : PyStr} {done : Unit} :
    check condition text = .ok done ↔ condition = true :=
  Result.checked_ok

/-- A looked-up member is the given text. -/
theorem isStr_iff {text : PyStr} : isStr text found = true ↔ found = some (.str text) := by
  rcases found with _ | value
  · simp [isStr]
  · cases value <;> simp [isStr]

/-- The texts of a list are all of its elements. -/
theorem stringItems_some {items : List Value} {texts : List PyStr} :
    stringItems items = some texts ↔ items = texts.map Value.str := by
  induction items generalizing texts with
  | nil => cases texts <;> simp [stringItems]
  | cons item rest inductionHypothesis =>
    cases item <;> cases texts <;> simp [stringItems, inductionHypothesis, and_comm]

/-- The texts of a value are the elements of a list. -/
theorem strings_some {value : Value} {texts : List PyStr} :
    strings? value = some texts ↔ value = .list (texts.map Value.str) := by
  cases value <;> simp [strings?, stringItems_some]

/-- No field is missing exactly when each is there. -/
theorem required_ok {fields : List PyStr} {done : Unit} :
    required tables path members fields = .ok done ↔
      ∀ field ∈ fields, (Value.lookup (.str field) members).isSome = true := by
  induction fields with
  | nil => simp [required]
  | cons field rest inductionHypothesis =>
    rw [required, Raises.bind_ok, List.forall_mem_cons]
    simp only [check_ok, inductionHypothesis]
    exact ⟨fun ⟨_, here, others⟩ => ⟨here, others⟩, fun ⟨here, others⟩ => ⟨(), here, others⟩⟩

/-- The name is accepted exactly as a text that is not empty. -/
theorem nameField_ok {text : PyStr} : nameField path found = .ok text ↔ found = some (.str text) ∧ text ≠ [] := by
  unfold nameField
  split
  case _ name =>
    cases name with
    | nil => simp
    | cons first rest =>
      simp only [List.isEmpty_cons, Bool.false_eq_true, if_false, Except.ok.injEq, Option.some.injEq,
        Value.str.injEq]
      constructor
      · rintro rfl
        exact ⟨rfl, List.cons_ne_nil _ _⟩
      · exact And.left
  case _ other =>
    constructor
    · rintro ⟨⟩
    · rintro ⟨same, _⟩
      exact absurd same (other text)

/-- The roles are accepted exactly as a list of texts, at least one. -/
theorem rolesField_ok {texts : List PyStr} :
    rolesField path name found = .ok texts ↔ Lists found texts ∧ texts ≠ [] := by
  have listed : Lists found texts ↔ found.bind strings? = some texts := by
    cases found <;> simp [Lists, strings_some]
  rw [listed, rolesField]
  split
  case _ role others same =>
    rw [same, Option.some.injEq, Except.ok.injEq]
    constructor
    · rintro rfl
      exact ⟨rfl, List.cons_ne_nil _ _⟩
    · exact And.left
  case _ other =>
    constructor
    · rintro ⟨⟩
    · rintro ⟨same, nonempty⟩
      cases texts with
      | nil => exact absurd rfl nonempty
      | cons role others => exact absurd same (other role others)

/-- An identifier is accepted exactly as a text of the pattern. -/
theorem identField_ok {text : PyStr} :
    identField tables path name found = .ok text ↔ found = some (.str text) ∧ Pattern text := by
  unfold identField
  split
  case _ stated =>
    rw [Option.some.injEq, Value.str.injEq]
    split
    case isTrue pattern =>
      rw [Except.ok.injEq]
      constructor
      · rintro rfl
        exact ⟨rfl, pattern⟩
      · exact And.left
    case isFalse unlike =>
      constructor
      · rintro ⟨⟩
      · rintro ⟨rfl, pattern⟩
        exact absurd pattern unlike
  case _ other =>
    constructor
    · rintro ⟨⟩
    · rintro ⟨same, _⟩
      exact absurd same (other text)

/-- The tenant is accepted exactly as a text that is not empty, the star standing for a missing
one. -/
theorem tenantField_ok {text : PyStr} : tenantField path name found = .ok text ↔
    ((found = none ∧ text = star) ∨ found = some (.str text)) ∧ text ≠ [] := by
  have starred : star ≠ [] := by decide
  unfold tenantField
  split
  case _ =>
    constructor
    · rintro ⟨⟩
      exact ⟨Or.inl ⟨rfl, rfl⟩, starred⟩
    · rintro ⟨⟨_, rfl⟩ | ⟨⟨⟩⟩, _⟩
      rfl
  case _ stated =>
    cases stated with
    | nil => simp
    | cons first rest => simp; rintro rfl; exact List.cons_ne_nil _ _
  case _ other =>
    constructor
    · rintro ⟨⟩
    · rintro ⟨⟨⟨⟩, _⟩ | same, _⟩
      exact absurd (Option.some.inj same) (other text)

/-- A list is accepted exactly as texts, or as the star if it is missing. -/
theorem listField_ok {field : String} {texts : List PyStr} :
    listField path name field found = .ok texts ↔ ListsOrAny found texts := by
  unfold listField ListsOrAny Lists
  split
  case _ => simp [eq_comm]
  case _ value =>
    split
    case _ stated same => simp [strings_some.mp same, List.map_inj_right]
    case _ unlike =>
      have other : value ≠ .list (texts.map Value.str) := by
        intro same
        rw [strings_some.mpr same] at unlike
        cases unlike
      simp [other]

/-- No label is unknown exactly when each is a classification or the star. -/
theorem unknownLabels_none {texts : List PyStr} :
    (unknownLabels texts).isEmpty = true ↔ ∀ label ∈ texts, label ∈ classifications ∨ label = star := by
  rw [unknownLabels, List.isEmpty_iff, List.filter_eq_nil_iff]
  simp only [List.mem_dedup, Bool.and_eq_true, decide_eq_true_eq, not_and_or, not_not]

/-- A raw rule is accepted exactly as the rule that it states. -/
theorem validateRule_ok {raw : Value} :
    validateRule tables path raw = .ok rule ↔ ∃ members, raw = .dict members ∧ States members rule := by
  unfold validateRule
  split
  case _ members =>
    simp only [Raises.bind_ok, check_ok, required_ok, nameField_ok, rolesField_ok, identField_ok,
      tenantField_ok, listField_ok, unknownLabels_none]
    constructor
    · rintro ⟨_, known, _, _, name, ⟨stated, named⟩, roles, ⟨listed, staffed⟩, resource, ⟨asked, pattern⟩, action,
        ⟨done, shape⟩, tenant, ⟨held, tenanted⟩, clearance, cleared, classification, classed, _, labels, made⟩
      obtain rfl := Except.ok.inj made
      refine ⟨members, rfl, ⟨?_, stated, named, listed, staffed, asked, pattern, done, shape, held, tenanted, cleared,
        classed, labels⟩⟩
      intro member present
      by_contra unknown
      rw [List.isEmpty_iff, List.filter_eq_nil_iff] at known
      exact known _ (List.mem_map_of_mem present) (decide_eq_true unknown)
    · rintro ⟨_, ⟨⟩, states⟩
      refine ⟨(), ?_, (), ?_, rule.name, ⟨states.name, states.named⟩, rule.roles, ⟨states.roles, states.staffed⟩,
        rule.resource, ⟨states.resource, states.resourcePattern⟩, rule.action, ⟨states.action, states.actionPattern⟩,
        rule.tenant, ⟨states.tenant, states.tenanted⟩, rule.clearance, states.clearance, rule.classification,
        states.classification, (), states.labels, rfl⟩
      · rw [List.isEmpty_iff, List.filter_eq_nil_iff]
        rintro _ listed
        obtain ⟨member, present, rfl⟩ := List.mem_map.mp listed
        simp [states.known member present]
      · have name := states.name
        have roles := states.roles
        have resource := states.resource
        have action := states.action
        simp only [Lists] at roles
        simp [name, roles, resource, action]
  case _ other =>
    constructor
    · rintro ⟨⟩
    · rintro ⟨members, rfl, _⟩
      exact absurd rfl (other members)

end Validation

section Loading

variable {interpreter : Scanner.Interpreter} {tables : Unicode} {path : PyStr} {loaded after : Loaded}

/-- The names are those of the rules, and no name occurs twice. -/
structure Consistent (loaded : Loaded) : Prop where
  names : loaded.names = (loaded.rules.map Rule.name).reverse
  distinct : (loaded.rules.map Rule.name).Nodup

/-- A rule can be added exactly under a new name. -/
theorem Consistent.add (consistent : Consistent loaded) {rule : Rule} :
    Consistent ⟨loaded.rules ++ [rule], rule.name :: loaded.names⟩ ↔ rule.name ∉ loaded.names := by
  have names : rule.name :: loaded.names = ((loaded.rules ++ [rule]).map Rule.name).reverse := by
    rw [List.map_append, List.reverse_append, consistent.names]
    rfl
  rw [consistent.names, List.mem_reverse]
  constructor
  · rintro ⟨_, distinct⟩ listed
    rw [List.map_append] at distinct
    exact (List.disjoint_of_nodup_append distinct) listed (List.mem_singleton.mpr rfl)
  · intro fresh
    refine ⟨consistent.names ▸ names, ?_⟩
    rw [List.map_append, List.map_singleton]
    exact List.nodup_append_comm.mp (List.nodup_cons.mpr ⟨fresh, consistent.distinct⟩)

/-- The rules determine the names. -/
theorem Consistent.unique (consistent : Consistent loaded) (later : Consistent after)
    (same : after.rules = loaded.rules) : after = loaded := by
  have names : after.names = loaded.names := by rw [later.names, consistent.names, same]
  cases after
  cases loaded
  cases same
  cases names
  rfl

/-- The names that were read stay distinct when fewer rules are read. -/
theorem Consistent.earlier {rules : List Rule} (consistent : Consistent after)
    (rules_eq : after.rules = loaded.rules ++ rules) : (loaded.rules.map Rule.name).Nodup := by
  have distinct := consistent.distinct
  rw [rules_eq, List.map_append] at distinct
  exact distinct.of_append_left

/-- The rules of a file are added, unless a name occurs twice. -/
theorem loadRules_ok {policies : List Value} (consistent : Consistent loaded) :
    loadRules tables path policies loaded = .ok after ↔ ∃ rules,
      List.Forall₂ (fun raw rule => ∃ members, raw = .dict members ∧ States members rule) policies rules ∧
      Consistent after ∧ after.rules = loaded.rules ++ rules := by
  induction policies generalizing loaded with
  | nil =>
    rw [loadRules]
    constructor
    · rintro ⟨⟩
      exact ⟨[], .nil, consistent, (List.append_nil _).symm⟩
    · rintro ⟨_, ⟨⟩, later, same⟩
      rw [List.append_nil] at same
      exact congrArg Except.ok (consistent.unique later same).symm
  | cons raw rest inductionHypothesis =>
    simp only [loadRules, Raises.bind_ok, check_ok, validateRule_ok, decide_eq_true_eq]
    constructor
    · rintro ⟨rule, stated, _, fresh, continued⟩
      obtain ⟨rules, others, later, same⟩ := (inductionHypothesis (consistent.add.mpr fresh)).mp continued
      exact ⟨rule :: rules, .cons stated others, later, by rw [same, List.append_assoc]; rfl⟩
    · rintro ⟨_, stated, later, same⟩
      cases stated with
      | @cons _ rule _ rules here others =>
        have split : after.rules = (loaded.rules ++ [rule]) ++ rules := by rw [same, List.append_assoc]; rfl
        have added : Consistent ⟨loaded.rules ++ [rule], rule.name :: loaded.names⟩ := by
          refine ⟨?_, @Consistent.earlier ⟨loaded.rules ++ [rule], []⟩ _ _ later split⟩
          rw [List.map_append, List.reverse_append, consistent.names]
          rfl
        exact ⟨rule, here, (), consistent.add.mp added,
          (inductionHypothesis added).mpr ⟨rules, others, later, split⟩⟩

/-- The policies are read exactly from a document of version 1.0 that lists them. -/
theorem policiesOf_ok {document : Value} {policies : List Value} :
    policiesOf path document = .ok policies ↔ ∃ members, document = .dict members ∧
      Value.lookup (key "version") members = some (.str (py "1.0")) ∧
      Value.lookup (key "policies") members = some (.list policies) := by
  unfold policiesOf
  split
  case _ members =>
    simp only [Raises.bind_ok, check_ok, isStr_iff, Value.dict.injEq]
    split
    case _ found same =>
      simp only [Except.ok.injEq]
      constructor
      · rintro ⟨_, version, rfl⟩
        exact ⟨members, rfl, version, same⟩
      · rintro ⟨_, rfl, version, found⟩
        exact ⟨(), version, Value.list.inj (Option.some.inj (same.symm.trans found))⟩
    case _ other =>
      constructor
      · rintro ⟨_, _, ⟨⟩⟩
      · rintro ⟨_, rfl, _, found⟩
        exact absurd found (other policies)
  case _ other =>
    constructor
    · rintro ⟨⟩
    · rintro ⟨members, rfl, _⟩
      exact absurd rfl (other members)

/-- A file is read exactly as UTF-8 text of a JSON value. -/
theorem readDocument_ok {file : PolicyFile} {document : Value} :
    readDocument interpreter file = .ok document ↔
      ∃ text, file.text = some text ∧ Scanner.loads interpreter (.str text) = .ok document := by
  unfold readDocument
  split
  case _ absent => simp [absent]
  case _ text present =>
    simp only [present, Option.some.injEq, exists_eq_left']
    split
    case _ parsed same => rw [same, Except.ok.injEq, Except.ok.injEq]
    case _ same => simp [same]

/-- A file adds exactly the rules that it states. -/
theorem readFile_ok {file : PolicyFile} (consistent : Consistent loaded) :
    (do
      let document ← readDocument interpreter file
      let policies ← policiesOf file.path document
      loadRules tables file.path policies loaded) = .ok after ↔
    ∃ rules, FileStates interpreter file rules ∧ Consistent after ∧ after.rules = loaded.rules ++ rules := by
  simp only [Raises.bind_ok, readDocument_ok, policiesOf_ok, loadRules_ok consistent, FileStates]
  constructor
  · rintro ⟨_, ⟨text, present, parsed⟩, policies, ⟨members, rfl, version, listed⟩, rules, stated, rest⟩
    exact ⟨rules, ⟨text, members, policies, present, parsed, version, listed, stated⟩, rest⟩
  · rintro ⟨rules, ⟨text, members, policies, present, parsed, version, listed, stated⟩, rest⟩
    exact ⟨_, ⟨text, present, parsed⟩, policies, ⟨members, rfl, version, listed⟩, rules, stated, rest⟩

/-- The rules of all files are added, in the order of the files. -/
theorem loadFiles_ok {files : List PolicyFile} (consistent : Consistent loaded) :
    loadFiles interpreter tables files loaded = .ok after ↔ ∃ stated,
      List.Forall₂ (FileStates interpreter) files stated ∧
      Consistent after ∧ after.rules = loaded.rules ++ stated.flatten := by
  induction files generalizing loaded with
  | nil =>
    rw [loadFiles]
    constructor
    · rintro ⟨⟩
      exact ⟨[], .nil, consistent, (List.append_nil _).symm⟩
    · rintro ⟨_, ⟨⟩, later, same⟩
      rw [List.flatten_nil, List.append_nil] at same
      exact congrArg Except.ok (consistent.unique later same).symm
  | cons file rest inductionHypothesis =>
    have unfolded : loadFiles interpreter tables (file :: rest) loaded = (do
        let document ← readDocument interpreter file
        let policies ← policiesOf file.path document
        loadRules tables file.path policies loaded) >>= loadFiles interpreter tables rest := by
      simp only [loadFiles, bind_assoc]
    rw [unfolded, Raises.bind_ok]
    constructor
    · rintro ⟨middle, read, continued⟩
      obtain ⟨rules, here, between, grown⟩ := (readFile_ok consistent).mp read
      obtain ⟨stated, others, later, same⟩ := (inductionHypothesis between).mp continued
      exact ⟨rules :: stated, .cons here others, later, by rw [same, grown, List.append_assoc]; rfl⟩
    · rintro ⟨_, stated, later, same⟩
      cases stated with
      | @cons _ rules _ stated here others =>
        have split : after.rules = (loaded.rules ++ rules) ++ stated.flatten := by
          rw [same, List.append_assoc]
          rfl
        have between : Consistent ⟨loaded.rules ++ rules, ((loaded.rules ++ rules).map Rule.name).reverse⟩ :=
          ⟨rfl, @Consistent.earlier ⟨loaded.rules ++ rules, []⟩ _ _ later split⟩
        exact ⟨_, (readFile_ok consistent).mpr ⟨rules, here, between, rfl⟩,
          (inductionHypothesis between).mpr ⟨stated, others, later, split⟩⟩

/-- An engine starts with the rules and without denials. -/
theorem ofRules_ok {rules : List Rule} {engine : PolicyEngine} :
    PolicyEngine.ofRules rules = .ok engine ↔ engine.rules = rules ∧ engine.deniedTotal = 0 := by
  unfold PolicyEngine.ofRules
  obtain ⟨held, present, denied⟩ := engine
  split
  case isTrue some => simp [eq_comm]
  case isFalse none =>
    constructor
    · rintro ⟨⟩
    · rintro ⟨same, _⟩
      exact absurd same (fun equal => none (equal ▸ present))

/-- The rules that a directory states: those of all its policy files by name. -/
structure Stated (interpreter : Scanner.Interpreter) (dir : PolicyDir) (rules : List Rule) : Prop where
  files : ∃ entries stated, dir.entries = some entries ∧
    List.Forall₂ (FileStates interpreter) (policyFiles entries) stated ∧ rules = stated.flatten
  distinct : (rules.map Rule.name).Nodup

/-- An engine is loaded exactly from a directory that states its rules. -/
theorem load_ok {dir : PolicyDir} {engine : PolicyEngine} :
    load interpreter tables dir = .ok engine ↔ Stated interpreter dir engine.rules ∧ engine.deniedTotal = 0 := by
  have empty : Consistent ⟨[], []⟩ := ⟨rfl, List.nodup_nil⟩
  unfold load
  split
  case _ absent =>
    constructor
    · rintro ⟨⟩
    · rintro ⟨⟨⟨entries, _, present, _⟩, _⟩, _⟩
      cases absent.symm.trans present
  case _ entries present =>
    simp only [Raises.bind_ok, check_ok, ofRules_ok, loadFiles_ok empty]
    constructor
    · rintro ⟨_, _, loaded, ⟨stated, files, consistent, same⟩, rules, denied⟩
      refine ⟨⟨⟨entries, stated, present, files, rules.trans same⟩, ?_⟩, denied⟩
      rw [rules]
      exact consistent.distinct
    · rintro ⟨⟨⟨listed, stated, found, files, rules⟩, distinct⟩, denied⟩
      obtain rfl := Option.some.inj (present.symm.trans found)
      refine ⟨(), ?_, ⟨engine.rules, (engine.rules.map Rule.name).reverse⟩,
        ⟨stated, files, ⟨rfl, distinct⟩, rules⟩, rfl, denied⟩
      -- a directory without policy files states no rule
      rw [Bool.not_eq_true', List.isEmpty_eq_false_iff]
      intro none
      rw [none] at files
      cases files
      exact engine.present rules

end Loading

section Decisions

variable {engine : PolicyEngine} {identity : Identity} {need : Need} {rule : Rule}

/-- A check that refuses, and the checks after it. -/
theorem refuses_iff {refused : Prop} [Decidable refused] {rest : Bool} :
    (if refused then false else rest) = true ↔ ¬ refused ∧ rest = true := by
  split <;> simp [*]

/-- A rule matches exactly what it grants. -/
theorem matchesNeed_iff : rule.matchesNeed identity need = true ↔ Grants rule identity need := by
  have shared : rule.roles.any (fun role => identity.roles.any (fun held => isStr role (some held))) = true ↔
      ∃ role ∈ rule.roles, Value.str role ∈ identity.roles := by
    simp only [List.any_eq_true, isStr_iff, Option.some.injEq, exists_eq_right]
  simp only [Rule.matchesNeed, refuses_iff, Bool.not_eq_true', ← Bool.not_eq_true, shared, not_and_or, not_not,
    and_true]
  constructor
  · rintro ⟨role, resource, action, tenant, clearance, classification⟩
    exact ⟨role, resource, action, tenant, clearance, classification⟩
  · rintro ⟨role, resource, action, tenant, clearance, classification⟩
    exact ⟨role, resource, action, tenant, clearance, classification⟩

/-- The engine's answer to one request. -/
theorem allow_iff : (engine.allow identity need).1 = true ↔ ∃ rule ∈ engine.rules, Grants rule identity need := by
  have granted : engine.rules.any (fun rule => rule.matchesNeed identity need) = true ↔
      ∃ rule ∈ engine.rules, Grants rule identity need := by
    simp only [List.any_eq_true, matchesNeed_iff]
  rw [← granted, PolicyEngine.allow]
  split
  case isTrue allowed => simp [allowed]
  case isFalse denied => simp [denied]

/-- A question leaves the rules. -/
theorem allow_rules : (engine.allow identity need).2.rules = engine.rules := by
  rw [PolicyEngine.allow]
  split
  case isTrue => rfl
  case isFalse => rfl

/-- A question counts its denial. -/
theorem allow_counts : (engine.allow identity need).2.deniedTotal =
    engine.deniedTotal + [(engine.allow identity need).1].count false := by
  rw [PolicyEngine.allow]
  split
  case isTrue => rfl
  case isFalse => rfl

/-- The answers to requests one after another, and the engine after them. -/
def answers (engine : PolicyEngine) : List (Identity × Need) → List Bool × PolicyEngine
  | [] => ([], engine)
  | (identity, need) :: rest =>
    let next := answers (engine.allow identity need).2 rest
    ((engine.allow identity need).1 :: next.1, next.2)

/-- Every answer is that of the rules, and the denials are counted. -/
theorem answers_exact (requests : List (Identity × Need)) :
    List.Forall₂ (fun request answer => answer = true ↔
      ∃ rule ∈ engine.rules, Grants rule request.1 request.2) requests (answers engine requests).1 ∧
    (answers engine requests).2.rules = engine.rules ∧
    (answers engine requests).2.deniedTotal = engine.deniedTotal + (answers engine requests).1.count false := by
  induction requests generalizing engine with
  | nil => exact ⟨.nil, rfl, rfl⟩
  | cons request rest inductionHypothesis =>
    obtain ⟨identity, need⟩ := request
    obtain ⟨exact_, rules, denied⟩ := @inductionHypothesis (engine.allow identity need).2
    rw [allow_rules] at exact_ rules
    refine ⟨.cons allow_iff exact_, rules, ?_⟩
    rw [allow_counts] at denied
    rw [answers, denied, Nat.add_assoc, ← List.count_append, List.singleton_append]

end Decisions

section Exact

variable {interpreter : Scanner.Interpreter} {tables : Unicode} {dir : PolicyDir}

/-- A rule that some policy file of the directory states. -/
def StatedIn (interpreter : Scanner.Interpreter) (dir : PolicyDir) (rule : Rule) : Prop :=
  ∃ entries, dir.entries = some entries ∧ ∃ file ∈ entries, isPolicyFile file = true ∧
    ∃ rules, FileStates interpreter file rules ∧ rule ∈ rules

/-- Members state one rule. -/
theorem States.unique {members : List (Key × Value)} {rule other : Rule} (states : States members rule)
    (again : States members other) : rule = other := by
  have read : ∀ {rule : Rule}, States members rule → validateRule .ascii [] (.dict members) = .ok rule :=
    fun states => validateRule_ok.mpr ⟨members, rfl, states⟩
  exact Except.ok.inj ((read states).symm.trans (read again))

/-- A file states one list of rules. -/
theorem FileStates.unique {file : PolicyFile} {rules others : List Rule} (states : FileStates interpreter file rules)
    (again : FileStates interpreter file others) : rules = others := by
  obtain ⟨text, members, policies, present, parsed, _, listed, stated⟩ := states
  obtain ⟨text', members', policies', present', parsed', _, listed', stated'⟩ := again
  obtain rfl := Option.some.inj (present.symm.trans present')
  obtain rfl := Value.dict.inj (Except.ok.inj (parsed.symm.trans parsed'))
  obtain rfl := Value.list.inj (Option.some.inj (listed.symm.trans listed'))
  refine List.right_unique_forall₂' ?_ stated stated'
  rintro raw rule other ⟨members, rfl, here⟩ ⟨_, ⟨⟩, there⟩
  exact here.unique there

/-- The policy files are the entries with the suffix. -/
theorem mem_policyFiles {entries : List PolicyFile} {file : PolicyFile} :
    file ∈ policyFiles entries ↔ file ∈ entries ∧ isPolicyFile file = true := by
  rw [policyFiles, List.mem_insertionSort, List.mem_filter]

/-- The rules of the directory are those of its policy files. -/
theorem Stated.mem_iff {rules : List Rule} (stated : Stated interpreter dir rules) {rule : Rule} :
    rule ∈ rules ↔ StatedIn interpreter dir rule := by
  obtain ⟨entries, files, present, each, rfl⟩ := stated.files
  rw [List.mem_flatten]
  constructor
  · rintro ⟨here, listed, member⟩
    obtain ⟨position, bound, rfl⟩ := List.mem_iff_getElem.mp listed
    have matching := each.get (i := position) (each.length_eq ▸ bound) bound
    have listed := mem_policyFiles.mp (List.get_mem (policyFiles entries) ⟨position, each.length_eq ▸ bound⟩)
    exact ⟨entries, present, _, listed.1, listed.2, _, matching, member⟩
  · rintro ⟨_, found, file, listed, policy, others, states, member⟩
    obtain rfl := Option.some.inj (present.symm.trans found)
    have sorted := mem_policyFiles.mpr ⟨listed, policy⟩
    obtain ⟨position, bound, rfl⟩ := List.mem_iff_getElem.mp sorted
    have matching := each.get (i := position) bound (each.length_eq ▸ bound)
    exact ⟨_, List.get_mem files ⟨position, each.length_eq ▸ bound⟩, matching.unique states ▸ member⟩

/-- The boot succeeds exactly when every policy file states its rules, no name occurs
twice, and there is a rule. Then the rules of the engine are those of the files in order, a
request is allowed exactly when some stated rule grants it, whatever came before, and the
denials are counted. -/
theorem policy_exact (interpreter : Scanner.Interpreter) (tables : Unicode) (dir : PolicyDir) :
    ((∃ engine, load interpreter tables dir = .ok engine) ↔
      ∃ rules, Stated interpreter dir rules ∧ rules ≠ []) ∧
    ∀ engine, load interpreter tables dir = .ok engine → Stated interpreter dir engine.rules ∧
      ∀ requests : List (Identity × Need),
        List.Forall₂ (fun request answer => answer = true ↔
          ∃ rule, StatedIn interpreter dir rule ∧ Grants rule request.1 request.2)
          requests (answers engine requests).1 ∧
        (answers engine requests).2.deniedTotal = (answers engine requests).1.count false := by
  constructor
  · constructor
    · rintro ⟨engine, loaded⟩
      exact ⟨engine.rules, (load_ok.mp loaded).1, engine.present⟩
    · rintro ⟨rules, stated, present⟩
      exact ⟨⟨rules, present, 0⟩, load_ok.mpr ⟨stated, rfl⟩⟩
  · intro engine loaded
    obtain ⟨stated, denied⟩ := load_ok.mp loaded
    refine ⟨stated, fun requests => ?_⟩
    obtain ⟨each, _, counted⟩ := @answers_exact engine requests
    rw [denied, Nat.zero_add] at counted
    refine ⟨each.imp ?_, counted⟩
    intro request answer same
    simp only [same, stated.mem_iff]

end Exact

section Shipped

/-- `policies/tax-stamps.policy.json`, line by line. -/
def shippedLines : List String :=
  ["\x7b",
    "  \"version\": \"1.0\",",
    "  \"policies\": [",
    "    \x7b",
    "      \"name\": \"excise-officer-submits-assessments\",",
    "      \"roles\": [\"excise-officer\", \"customs-officer\"],",
    "      \"resource\": \"assessment\",",
    "      \"action\": \"create\",",
    "      \"tenant\": \"*\",",
    "      \"clearance\": [\"*\"],",
    "      \"classification\": [\"INTERNAL\", \"CONFIDENTIAL\"]",
    "    \x7d,",
    "    \x7b",
    "      \"name\": \"excise-approver-approves-assessments\",",
    "      \"roles\": [\"excise-approver\"],",
    "      \"resource\": \"assessment\",",
    "      \"action\": \"approve\",",
    "      \"tenant\": \"*\",",
    "      \"clearance\": [\"*\"],",
    "      \"classification\": [\"INTERNAL\", \"CONFIDENTIAL\"]",
    "    \x7d,",
    "    \x7b",
    "      \"name\": \"excise-approver-creates-payment-intents\",",
    "      \"roles\": [\"excise-approver\", \"finance-officer\"],",
    "      \"resource\": \"payment\",",
    "      \"action\": \"create\",",
    "      \"tenant\": \"*\",",
    "      \"clearance\": [\"*\"],",
    "      \"classification\": [\"FIDUCIARY_SEGREGATED\", \"CONFIDENTIAL\"]",
    "    \x7d,",
    "    \x7b",
    "      \"name\": \"rail-callback-records-receipts\",",
    "      \"roles\": [\"finance-rail-callback\"],",
    "      \"resource\": \"payment\",",
    "      \"action\": \"settle\",",
    "      \"tenant\": \"*\",",
    "      \"clearance\": [\"*\"],",
    "      \"classification\": [\"FIDUCIARY_SEGREGATED\"]",
    "    \x7d,",
    "    \x7b",
    "      \"name\": \"excise-officer-issues-batches\",",
    "      \"roles\": [\"excise-officer\"],",
    "      \"resource\": \"batch\",",
    "      \"action\": \"issue\",",
    "      \"tenant\": \"*\",",
    "      \"clearance\": [\"*\"],",
    "      \"classification\": [\"CONFIDENTIAL\"]",
    "    \x7d,",
    "    \x7b",
    "      \"name\": \"quality-inspector-records-inspections\",",
    "      \"roles\": [\"quality-inspector\"],",
    "      \"resource\": \"batch\",",
    "      \"action\": \"inspect\",",
    "      \"tenant\": \"*\",",
    "      \"clearance\": [\"*\"],",
    "      \"classification\": [\"CONFIDENTIAL\"]",
    "    \x7d,",
    "    \x7b",
    "      \"name\": \"excise-officer-activates-batches\",",
    "      \"roles\": [\"excise-officer\", \"excise-approver\"],",
    "      \"resource\": \"batch\",",
    "      \"action\": \"activate\",",
    "      \"tenant\": \"*\",",
    "      \"clearance\": [\"*\"],",
    "      \"classification\": [\"CONFIDENTIAL\"]",
    "    \x7d,",
    "    \x7b",
    "      \"name\": \"excise-approver-voids-stamps\",",
    "      \"roles\": [\"excise-approver\"],",
    "      \"resource\": \"stamp\",",
    "      \"action\": \"void\",",
    "      \"tenant\": \"*\",",
    "      \"clearance\": [\"*\"],",
    "      \"classification\": [\"CONFIDENTIAL\"]",
    "    \x7d,",
    "    \x7b",
    "      \"name\": \"officers-read-stamps-and-batches\",",
    "      \"roles\": [\"excise-officer\", \"excise-approver\", \"quality-inspector\", \"finance-officer\", \"auditor\"],",
    "      \"resource\": \"*\",",
    "      \"action\": \"read\",",
    "      \"tenant\": \"*\",",
    "      \"clearance\": [\"*\"],",
    "      \"classification\": [\"*\"]",
    "    \x7d,",
    "    \x7b",
    "      \"name\": \"auditor-runs-ops-verification\",",
    "      \"roles\": [\"auditor\"],",
    "      \"resource\": \"ops\",",
    "      \"action\": \"read\",",
    "      \"tenant\": \"*\",",
    "      \"clearance\": [\"*\"],",
    "      \"classification\": [\"*\"]",
    "    \x7d",
    "  ]",
    "\x7d",
    ""]

/-- The policy file of the repository. -/
def shippedText : PyStr := PyStr.join [newline] (shippedLines.map py)

/-- The policy directory of the repository. -/
def shippedDir : PolicyDir :=
  ⟨py "policies", some [⟨py "tax-stamps.policy.json", py "policies/tax-stamps.policy.json", some shippedText⟩]⟩

/-- What the shipped file states. -/
def shippedRules : List Rule :=
  [⟨py "excise-officer-submits-assessments", [py "excise-officer", py "customs-officer"], py "assessment", py "create", py "*", [py "*"], [py "INTERNAL", py "CONFIDENTIAL"]⟩,
    ⟨py "excise-approver-approves-assessments", [py "excise-approver"], py "assessment", py "approve", py "*", [py "*"], [py "INTERNAL", py "CONFIDENTIAL"]⟩,
    ⟨py "excise-approver-creates-payment-intents", [py "excise-approver", py "finance-officer"], py "payment", py "create", py "*", [py "*"], [py "FIDUCIARY_SEGREGATED", py "CONFIDENTIAL"]⟩,
    ⟨py "rail-callback-records-receipts", [py "finance-rail-callback"], py "payment", py "settle", py "*", [py "*"], [py "FIDUCIARY_SEGREGATED"]⟩,
    ⟨py "excise-officer-issues-batches", [py "excise-officer"], py "batch", py "issue", py "*", [py "*"], [py "CONFIDENTIAL"]⟩,
    ⟨py "quality-inspector-records-inspections", [py "quality-inspector"], py "batch", py "inspect", py "*", [py "*"], [py "CONFIDENTIAL"]⟩,
    ⟨py "excise-officer-activates-batches", [py "excise-officer", py "excise-approver"], py "batch", py "activate", py "*", [py "*"], [py "CONFIDENTIAL"]⟩,
    ⟨py "excise-approver-voids-stamps", [py "excise-approver"], py "stamp", py "void", py "*", [py "*"], [py "CONFIDENTIAL"]⟩,
    ⟨py "officers-read-stamps-and-batches", [py "excise-officer", py "excise-approver", py "quality-inspector", py "finance-officer", py "auditor"], py "*", py "read", py "*", [py "*"], [py "*"]⟩,
    ⟨py "auditor-runs-ops-verification", [py "auditor"], py "ops", py "read", py "*", [py "*"], [py "*"]⟩]

/-- The shipped policy is loaded. -/
theorem shipped_loads : ∃ engine,
    load Jcs.sampleInterpreter .ascii shippedDir = .ok engine ∧ engine.rules = shippedRules := by
  have loaded : (load Jcs.sampleInterpreter .ascii shippedDir).toOption.map PolicyEngine.rules =
      some shippedRules := by decide +kernel
  generalize load Jcs.sampleInterpreter .ascii shippedDir = answer at loaded ⊢
  cases answer with
  | ok engine => exact ⟨engine, rfl, Option.some.inj loaded⟩
  | error problem => cases loaded

/-- The engine of the shipped directory. -/
theorem policy_exact_sample : ∃ engine : PolicyEngine, engine.rules = shippedRules ∧
    Stated Jcs.sampleInterpreter shippedDir engine.rules ∧ ∀ requests : List (Identity × Need),
      List.Forall₂ (fun request answer => answer = true ↔
        ∃ rule, StatedIn Jcs.sampleInterpreter shippedDir rule ∧ Grants rule request.1 request.2)
        requests (answers engine requests).1 ∧
      (answers engine requests).2.deniedTotal = (answers engine requests).1.count false := by
  obtain ⟨engine, loaded, rules⟩ := shipped_loads
  exact ⟨engine, rules, (policy_exact Jcs.sampleInterpreter .ascii shippedDir).2 engine loaded⟩

/-- The roles for which a shipped rule grants a need. -/
def shippedRoles (need : Need) : List PyStr :=
  (shippedRules.filter (fun rule =>
    decide (rule.resource = star ∨ rule.resource = need.resource) &&
    decide (rule.action = star ∨ rule.action = need.action) &&
    decide (star ∈ rule.classification ∨ need.classification ∈ rule.classification))).flatMap Rule.roles

/-- The shipped rules ask for a role and nothing else of an identity. -/
theorem shipped_grants {identity : Identity} {need : Need} :
    (∃ rule ∈ shippedRules, Grants rule identity need) ↔
      ∃ role ∈ shippedRoles need, Value.str role ∈ identity.roles := by
  have anybody : ∀ rule ∈ shippedRules, rule.tenant = star ∧ star ∈ rule.clearance ∧ star ∉ rule.roles := by
    decide +kernel
  constructor
  · rintro ⟨rule, listed, grants⟩
    rcases grants.role with absurdity | ⟨role, member, held⟩
    · exact absurd absurdity (anybody rule listed).2.2
    · refine ⟨role, List.mem_flatMap.mpr ⟨rule, List.mem_filter.mpr ⟨listed, ?_⟩, member⟩, held⟩
      simp only [grants.resource, grants.action, grants.classification, decide_true, Bool.and_self]
  · rintro ⟨role, member, held⟩
    obtain ⟨rule, kept, staffed⟩ := List.mem_flatMap.mp member
    obtain ⟨listed, fits⟩ := List.mem_filter.mp kept
    simp only [Bool.and_eq_true, decide_eq_true_eq] at fits
    obtain ⟨⟨resource, action⟩, classification⟩ := fits
    obtain ⟨tenant, clearance, _⟩ := anybody rule listed
    exact ⟨rule, listed, Or.inr ⟨role, staffed, held⟩, resource, action, Or.inl tenant, Or.inl clearance,
      classification⟩

end Shipped

end TaxStamps.Pbac
