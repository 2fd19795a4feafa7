import Mathlib.Data.List.Dedup
import Mathlib.Data.List.Sort
import TaxStamps.Api.Auth
import TaxStamps.Python.Dumps

/-!
# The policy engine

`pbac.py` and `require_policy` of `deps.py`. A directory of policy files is read at
boot; any defect of it aborts the boot. A request is allowed when some rule matches
it, and counted as denied otherwise.

What `read_text` makes of a file is given. The text of a JSON error is left out of
the message that quotes it.
-/

namespace TaxStamps.Pbac

open Auth

/-- `PolicyError`. -/
structure PolicyError where
  text : PyStr
deriving DecidableEq

/-- `raise PolicyError(text)` unless the condition holds. -/
def check (condition : Bool) (text : PyStr) : Except PolicyError Unit :=
  if condition then .ok () else .error ⟨text⟩

/-- `_CLASSIFICATIONS`. -/
def classifications : List PyStr :=
  [py "PUBLIC", py "INTERNAL", py "CONFIDENTIAL", py "RESTRICTED", py "FIDUCIARY_SEGREGATED"]

/-- `_ALLOWED_FIELDS`. -/
def allowedFields : List PyStr :=
  [py "name", py "roles", py "resource", py "action", py "tenant", py "clearance", py "classification"]

/-- `[a-z0-9]`. -/
def identHead : Code → Bool
  | .scalar char => decide (97 ≤ char.toNat ∧ char.toNat ≤ 122) || decide (48 ≤ char.toNat ∧ char.toNat ≤ 57)
  | .lone _ => false

/-- `[a-z0-9._:-]`. -/
def identTail (code : Code) : Bool :=
  identHead code || decide (code ∈ [Code.scalar '.', .scalar '_', .scalar ':', .scalar '-'])

/-- The end of a line. -/
def newline : Code := .scalar (Char.ofNat 10)

/-- What `$` leaves to the rest of a pattern: it also matches before a final newline. -/
def beforeEnd (text : PyStr) : PyStr := if text.getLast? = some newline then text.dropLast else text

/-- `_IDENT_RE.match`. -/
def identifier (text : PyStr) : Bool :=
  match beforeEnd text with
  | [] => false
  | first :: rest => identHead first && rest.all identTail && decide (rest.length ≤ 127)

/-- `Rule`; its sets are lists of their members. -/
structure Rule where
  name : PyStr
  roles : List PyStr
  resource : PyStr
  action : PyStr
  tenant : PyStr
  clearance : List PyStr
  classification : List PyStr
deriving DecidableEq

/-- What a request needs. -/
structure Need where
  resource : PyStr
  action : PyStr
  classification : PyStr
deriving DecidableEq

/-- What a rule writes for anything. -/
def star : PyStr := py "*"

/-- `Rule.matches`. -/
def Rule.matchesNeed (rule : Rule) (identity : Identity) (need : Need) : Bool :=
  if star ∉ rule.roles ∧
      !rule.roles.any (fun role => identity.roles.any (fun held => isStr role (some held))) then false
  else if rule.resource ≠ star ∧ rule.resource ≠ need.resource then false
  else if rule.action ≠ star ∧ rule.action ≠ need.action then false
  else if rule.tenant ≠ star ∧ rule.tenant ≠ identity.tenant then false
  else if star ∉ rule.clearance ∧ identity.clearance ∉ rule.clearance then false
  else if star ∉ rule.classification ∧ need.classification ∉ rule.classification then false
  else true

section Validation

/-- `sorted` of strings. -/
def sorted (texts : List PyStr) : List PyStr :=
  (Value.sortByKey (texts.map (fun text => (Key.str text, ())))).map (fun member => Jcs.keyName member.1)

/-- `{texts}` of a list of strings in a message. -/
def listing (tables : Unicode) (texts : List PyStr) : PyStr := Value.repr tables (.list (texts.map Value.str))

/-- The strings, where every item is one. -/
def stringItems : List Value → Option (List PyStr)
  | [] => some []
  | .str text :: rest => (stringItems rest).map (fun others => text :: others)
  | _ :: _ => none

/-- The strings of a list of strings. -/
def strings? : Value → Option (List PyStr)
  | .list items => stringItems items
  | _ => none

/-- `if req not in raw: ...` for each required field. -/
def required (tables : Unicode) (path : PyStr) (members : List (Key × Value)) :
    List PyStr → Except PolicyError Unit
  | [] => .ok ()
  | field :: rest => do
    check (Value.lookup (.str field) members).isSome
      (path ++ py ": rule missing required field " ++ tables.repr field)
    required tables path members rest

/-- The name of a rule is a text that is not empty. -/
def nameField (path : PyStr) : Option Value → Except PolicyError PyStr
  | some (.str name) =>
    if name.isEmpty then .error ⟨path ++ py ": rule name must be a non-empty string"⟩ else .ok name
  | _ => .error ⟨path ++ py ": rule name must be a non-empty string"⟩

/-- The beginning of a message about a named rule. -/
def about (path name : PyStr) : PyStr := path ++ py " rule " ++ name

/-- The roles of a rule are texts, at least one. -/
def rolesField (path name : PyStr) (found : Option Value) : Except PolicyError (List PyStr) :=
  match found.bind strings? with
  | some (role :: others) => .ok (role :: others)
  | _ => .error ⟨about path name ++ py ": roles must be a non-empty string list"⟩

/-- A resource or an action is the star or an identifier. -/
def identField (tables : Unicode) (path name : PyStr) (found : Option Value) : Except PolicyError PyStr :=
  match found with
  | some (.str text) =>
    if text = star ∨ identifier text = true then .ok text
    else .error ⟨about path name ++ py ": malformed identifier " ++ tables.repr text⟩
  | other => .error ⟨about path name ++ py ": malformed identifier " ++ Value.repr tables (other.getD .none)⟩

/-- The tenant of a rule is a text that is not empty, the star if it is missing. -/
def tenantField (path name : PyStr) : Option Value → Except PolicyError PyStr
  | none => .ok star
  | some (.str tenant) =>
    if tenant.isEmpty then .error ⟨about path name ++ py ": tenant must be a non-empty string or '*'"⟩
    else .ok tenant
  | some _ => .error ⟨about path name ++ py ": tenant must be a non-empty string or '*'"⟩

/-- A field that lists strings, `["*"]` by default. -/
def listField (path name : PyStr) (field : String) : Option Value → Except PolicyError (List PyStr)
  | none => .ok [star]
  | some value =>
    match strings? value with
    | some texts => .ok texts
    | none => .error ⟨about path name ++ py (": " ++ field ++ " must be a string list")⟩

/-- `set(classification) - _CLASSIFICATIONS - {"*"}`. -/
def unknownLabels (classification : List PyStr) : List PyStr :=
  classification.dedup.filter (fun label => decide (label ∉ classifications) && decide (label ≠ star))

/-- `_validate_rule`. -/
def validateRule (tables : Unicode) (path : PyStr) (raw : Value) : Except PolicyError Rule :=
  match raw with
  | .dict members => do
    let unknown := (members.map (fun member => Jcs.keyName member.1)).filter
      (fun field => decide (field ∉ allowedFields))
    check unknown.isEmpty (path ++ py ": unknown rule fields " ++ listing tables (sorted unknown))
    required tables path members [py "name", py "roles", py "resource", py "action"]
    let name ← nameField path (Value.lookup (key "name") members)
    let roles ← rolesField path name (Value.lookup (key "roles") members)
    let resource ← identField tables path name (Value.lookup (key "resource") members)
    let action ← identField tables path name (Value.lookup (key "action") members)
    let tenant ← tenantField path name (Value.lookup (key "tenant") members)
    let clearance ← listField path name "clearance" (Value.lookup (key "clearance") members)
    let classification ← listField path name "classification" (Value.lookup (key "classification") members)
    let bad := unknownLabels classification
    check bad.isEmpty (about path name ++ py ": unknown classification labels " ++ listing tables (sorted bad))
    .ok { name := name
          roles := roles
          resource := resource
          action := action
          tenant := tenant
          clearance := clearance
          classification := classification }
  | _ => .error ⟨path ++ py ": rule is not an object"⟩

end Validation

section Loading

/-- An entry of the policy directory: its name, its path as it is printed, and what
`read_text("utf-8")` returns unless it raises. -/
structure PolicyFile where
  name : PyStr
  path : PyStr
  text : Option PyStr

/-- The policy directory, with no entries where there is no directory. -/
structure PolicyDir where
  path : PyStr
  entries : Option (List PolicyFile)

/-- The rules that were read and the set of their names. -/
structure Loaded where
  rules : List Rule
  names : List PyStr

/-- `PolicyEngine`, which holds a rule at least. -/
structure PolicyEngine where
  rules : List Rule
  present : rules ≠ []
  deniedTotal : Nat

/-- `PolicyEngine(rules)`. -/
def PolicyEngine.ofRules (rules : List Rule) : Except PolicyError PolicyEngine :=
  if present : rules ≠ [] then .ok ⟨rules, present, 0⟩ else .error ⟨py "no policy rules loaded"⟩

/-- The loop over the rules of a file. -/
def loadRules (tables : Unicode) (path : PyStr) : List Value → Loaded → Except PolicyError Loaded
  | [], loaded => .ok loaded
  | raw :: rest, loaded => do
    let rule ← validateRule tables path raw
    check (decide (rule.name ∉ loaded.names))
      (path ++ py ": duplicate rule name " ++ tables.repr rule.name)
    loadRules tables path rest ⟨loaded.rules ++ [rule], rule.name :: loaded.names⟩

variable (interpreter : Scanner.Interpreter) (tables : Unicode)

/-- `json.loads(f.read_text("utf-8"))`. -/
def readDocument (file : PolicyFile) : Except PolicyError Value :=
  match file.text with
  | none => .error ⟨file.path ++ py ": malformed JSON: "⟩
  | some text =>
    match Scanner.loads interpreter (.str text) with
    | .ok document => .ok document
    | .error _ => .error ⟨file.path ++ py ": malformed JSON: "⟩

/-- The raw rules of a document. -/
def policiesOf (path : PyStr) : Value → Except PolicyError (List Value)
  | .dict members => do
    check (isStr (py "1.0") (Value.lookup (key "version") members)) (path ++ py ": version must be \"1.0\"")
    match Value.lookup (key "policies") members with
    | some (.list policies) => .ok policies
    | _ => .error ⟨path ++ py ": policies must be an array"⟩
  | _ => .error ⟨path ++ py ": version must be \"1.0\""⟩

/-- The loop over the files. -/
def loadFiles : List PolicyFile → Loaded → Except PolicyError Loaded
  | [], loaded => .ok loaded
  | file :: rest, loaded => do
    let document ← readDocument interpreter file
    let policies ← policiesOf file.path document
    let loaded ← loadRules tables file.path policies loaded
    loadFiles rest loaded

/-- `*.policy.json`. -/
def isPolicyFile (file : PolicyFile) : Bool := (py ".policy.json").isSuffixOf file.name

/-- Paths of one directory are ordered by the code points of their names. -/
def before (left right : PolicyFile) : Prop :=
  (left.name.map Code.ord).le (right.name.map Code.ord)

/-- The order of file names is decided. -/
instance : DecidableRel before := fun _ _ => List.decidableLE _ _

/-- `sorted(d.glob("*.policy.json"))`. -/
def policyFiles (entries : List PolicyFile) : List PolicyFile :=
  (entries.filter isPolicyFile).insertionSort before

/-- `PolicyEngine.load`. -/
def load (dir : PolicyDir) : Except PolicyError PolicyEngine :=
  match dir.entries with
  | none => .error ⟨py "policy directory " ++ dir.path ++ py " does not exist"⟩
  | some entries => do
    let files := policyFiles entries
    check (!files.isEmpty) (py "policy directory " ++ dir.path ++ py " contains no *.policy.json files")
    let loaded ← loadFiles interpreter tables files ⟨[], []⟩
    PolicyEngine.ofRules loaded.rules

end Loading

/-- `allow`, and the engine after it. -/
def PolicyEngine.allow (engine : PolicyEngine) (identity : Identity) (need : Need) : Bool × PolicyEngine :=
  if engine.rules.any (fun rule => rule.matchesNeed identity need) then (true, engine)
  else (false, { engine with deniedTotal := engine.deniedTotal + 1 })

/-- `require_policy`: the answer 403 of a request that is denied, and the engine. -/
def requirePolicy (engine : PolicyEngine) (identity : Identity) (need : Need) : Result Unit × PolicyEngine :=
  if (engine.allow identity need).1 then (.ok (), (engine.allow identity need).2)
  else (.error (.httpException 403 (py "pbac-denied")), (engine.allow identity need).2)

end TaxStamps.Pbac
