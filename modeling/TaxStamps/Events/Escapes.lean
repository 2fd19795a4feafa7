import TaxStamps.Events.Applied
import TaxStamps.Events.Unsigned

/-!
# Exceptions that escape

The consumer catches a `ValueError` and a `KeyError`; anything else ends it. An
escaping computation is followed through its steps: a sequence escapes where a
step does after the steps before it succeeded. The canonicalizer and the
signature check let nothing escape on JSON values.
-/

namespace TaxStamps.Consumer

open Envelope

/-- The computation raises an exception that the consumer does not catch. -/
def Escapes {α : Type} (result : Result α) : Prop :=
  ∃ problem, result = .error problem ∧ caught problem = false

section Steps

variable {α β : Type}

/-- A value is no exception. -/
@[simp] theorem escapes_ok {value : α} : ¬ Escapes (.ok value : Result α) := by
  rintro ⟨problem, raised, _⟩
  cases raised

/-- An exception escapes unless it is caught. -/
@[simp] theorem escapes_error {problem : PyError} :
    Escapes (.error problem : Result α) ↔ caught problem = false := by
  constructor
  · rintro ⟨other, raised, escaping⟩
    cases raised
    exact escaping
  · exact fun escaping => ⟨problem, rfl, escaping⟩

/-- A sequence escapes in its first step, or after it. -/
theorem escapes_bind {first : Result α} {next : α → Result β} :
    Escapes (first >>= next) ↔ Escapes first ∨ ∃ value, first = .ok value ∧ Escapes (next value) := by
  cases first <;> simp

/-- Statements in sequence raise only what is caught if each does. -/
theorem contained_bind {first : Result α} {next : α → Result β} (here : ¬ Escapes first)
    (later : ∀ value, ¬ Escapes (next value)) : ¬ Escapes (first >>= next) := by
  rw [escapes_bind]
  rintro (raised | ⟨value, _, raised⟩)
  · exact here raised
  · exact later value raised

/-- Past a step that lets nothing escape. -/
theorem escapes_after {first : Result α} {next : α → Result β} (contained : ¬ Escapes first) :
    Escapes (first >>= next) ↔ ∃ value, first = .ok value ∧ Escapes (next value) := by
  rw [escapes_bind, or_iff_right contained]

/-- A failed requirement raises its exception. -/
@[simp] theorem escapes_require {condition : Bool} {problem : PyError} :
    Escapes (Result.require condition problem) ↔ condition = false ∧ caught problem = false := by
  cases condition <;> simp [Result.require]

/-- Past a check whose failure is caught. -/
theorem escapes_guard {condition : Bool} {problem : PyError} {next : Unit → Result α}
    (handled : caught problem = true) :
    Escapes (Result.require condition problem >>= next) ↔ condition = true ∧ Escapes (next ()) := by
  cases condition <;> simp [Result.require, handled]

/-- A refused row escapes. -/
@[simp] theorem escapes_constrain {table : String} {accepted : Bool} :
    Escapes (Db.constrain table accepted) ↔ accepted = false := by
  simp [Db.constrain, caught]

end Steps

section Canonicalizer

/-- Refused integers are caught. -/
theorem encodeInt_contained (value : Int) : ¬ Escapes (Jcs.encodeInt value) := by
  rw [Jcs.encodeInt]
  split
  · exact escapes_ok
  · split <;> simp [caught]

/-- Refused floats are caught. -/
theorem encodeFloat_contained (value : PyFloat) : ¬ Escapes (Jcs.encodeFloat value) := by
  rw [Jcs.encodeFloat]
  split
  · exact escapes_ok
  · cases value with
    | finite negative rep =>
      rw [Jcs.numberToString]
      split <;> exact escapes_ok
    | _ => simp [Jcs.numberToString, caught]

/-- What refuses an element is caught if it is for each of them. -/
theorem encodeItems_contained {items : List Value} (each : ∀ item ∈ items, ¬ Escapes (Jcs.encode item)) :
    ¬ Escapes (Jcs.encodeItems items) := by
  induction items with
  | nil => exact escapes_ok
  | cons item rest inductionHypothesis =>
    rw [Jcs.encodeItems]
    apply contained_bind (each item List.mem_cons_self)
    intro text
    apply contained_bind _ (fun texts => escapes_ok)
    exact inductionHypothesis (fun other member => each other (List.mem_cons_of_mem _ member))

/-- What refuses a member is caught if it is for each of them. -/
theorem renderMembers_contained {members : List (Key × Result PyStr)}
    (each : ∀ member ∈ members, ¬ Escapes member.2) : ¬ Escapes (Jcs.renderMembers members) := by
  induction members with
  | nil => exact escapes_ok
  | cons member rest inductionHypothesis =>
    obtain ⟨name, rendered⟩ := member
    rw [Jcs.renderMembers]
    apply contained_bind (each _ List.mem_cons_self)
    intro text
    apply contained_bind _ (fun texts => escapes_ok)
    exact inductionHypothesis (fun other held => each other (List.mem_cons_of_mem _ held))

/-- The canonicalizer refuses a JSON value only by a `ValueError`. -/
theorem encode_contained {value : Value} (stated : value.WellFormed) : ¬ Escapes (Jcs.encode value) := by
  induction value using Value.induct with
  | bool flag => cases flag <;> exact escapes_ok
  | int number => exact encodeInt_contained number
  | float number => exact encodeFloat_contained number
  | list items each =>
    rw [Jcs.encode]
    apply contained_bind _ (fun texts => escapes_ok)
    exact encodeItems_contained
      (fun item member => each item member (Value.wellFormedItems_iff.mp stated item member))
  | tuple => exact absurd stated id
  | dict members each =>
    obtain ⟨_, known⟩ := Value.wellFormed_dict.mp stated
    have named : members.all (fun member => Jcs.isName member.1) = true := by
      rw [List.all_eq_true]
      intro member held
      obtain ⟨name, same⟩ := (known member held).1
      rw [same]
      rfl
    rw [Jcs.encode, if_pos named]
    apply contained_bind _ (fun texts => escapes_ok)
    apply renderMembers_contained
    intro member listed
    rw [(Jcs.sortMembers_perm _).mem_iff, Jcs.encodeMembers_map, List.mem_map] at listed
    obtain ⟨old, held, rfl⟩ := listed
    exact each old held (known old held).2
  | foreign => exact absurd stated id
  | _ => exact escapes_ok

/-- A JSON value that cannot be canonicalized raises what is caught. -/
theorem canonicalizeBytes_contained {value : Value} (stated : value.WellFormed) :
    ¬ Escapes (Jcs.canonicalizeBytes value) := by
  rw [Jcs.canonicalizeBytes]
  apply contained_bind (encode_contained stated)
  intro text
  rw [Jcs.utf8]
  split <;> simp [caught]

/-- Reparsing elements raises what is caught if it does for each of them. -/
theorem reparseItems_contained {items : List Value} (each : ∀ item ∈ items, ¬ Escapes item.reparse) :
    ¬ Escapes (Value.reparseItems items) := by
  induction items with
  | nil => exact escapes_ok
  | cons item rest inductionHypothesis =>
    rw [Value.reparseItems]
    apply contained_bind (each item List.mem_cons_self)
    intro clean
    apply contained_bind _ (fun cleans => escapes_ok)
    exact inductionHypothesis (fun other member => each other (List.mem_cons_of_mem _ member))

/-- Reparsing members with text names raises what is caught if it does for each value. -/
theorem reparseMembers_contained {members : List (Key × Value)}
    (each : ∀ member ∈ members, (∃ name, member.1 = .str name) ∧ ¬ Escapes member.2.reparse) :
    ¬ Escapes (Value.reparseMembers members) := by
  induction members with
  | nil => exact escapes_ok
  | cons member rest inductionHypothesis =>
    obtain ⟨key, value⟩ := member
    obtain ⟨⟨name, rfl⟩, here⟩ := each _ List.mem_cons_self
    rw [Value.reparseMembers]
    apply contained_bind here
    intro clean
    apply contained_bind _ (fun pairs => escapes_ok)
    exact inductionHypothesis (fun other held => each other (List.mem_cons_of_mem _ held))

/-- A JSON value has a JSON text, or an integer too long for one. -/
theorem reparse_contained {value : Value} (stated : value.WellFormed) : ¬ Escapes value.reparse := by
  induction value using Value.induct with
  | int number =>
    rw [Value.reparse]
    split <;> simp [caught]
  | list items each =>
    rw [Value.reparse]
    apply contained_bind _ (fun cleans => escapes_ok)
    exact reparseItems_contained
      (fun item member => each item member (Value.wellFormedItems_iff.mp stated item member))
  | tuple => exact absurd stated id
  | dict members each =>
    obtain ⟨_, known⟩ := Value.wellFormed_dict.mp stated
    rw [Value.reparse]
    apply contained_bind _ (fun pairs => escapes_ok)
    exact reparseMembers_contained
      (fun member held => ⟨(known member held).1, each member held (known member held).2⟩)
  | foreign => exact absurd stated id
  | _ => exact escapes_ok

/-- The hash of a JSON payload fails only by a `ValueError`. -/
theorem chainHash_contained {env : Env} {prevHash eventType createdIso : PyStr} {payload : Value}
    (stated : payload.WellFormed) :
    ¬ Escapes (Audit.chainHash env prevHash eventType payload createdIso) := by
  rw [Audit.chainHash]
  apply contained_bind (canonicalizeBytes_contained (Audit.body_wellFormed stated))
  intro bytes
  apply contained_bind _ (fun link => escapes_ok)
  rw [PyStr.ascii]
  split <;> simp [caught]

end Canonicalizer

section Signature

variable {loads : Loads} {directory : KeyDirectory}

/-- A text that is no base64 raises what is caught. -/
theorem b64uDecode_contained (data : PyStr) : ¬ Escapes (b64uDecode data) := by
  rw [b64uDecode]
  split
  · simp [caught]
  · split <;> simp [caught]

/-- A header without a key identifier raises what is caught. -/
theorem headerKid_contained (header : Option Value) : ¬ Escapes (headerKid header) := by
  unfold headerKid
  repeat' split
  all_goals simp [caught]

/-- An unknown key raises what is caught. -/
theorem resolve_contained (name : PyStr) : ¬ Escapes (resolve directory name) := by
  rw [resolve]
  split <;> simp [caught]

/-- A signature that does not verify raises what is caught. -/
theorem jwsVerify_contained (jws : PyStr) (expected : Bytes) :
    ¬ Escapes (jwsVerify loads directory jws expected) := by
  unfold jwsVerify
  split
  · apply contained_bind (by simp [caught])
    intro _
    apply contained_bind (b64uDecode_contained _)
    intro header
    apply contained_bind (headerKid_contained _)
    intro name
    apply contained_bind (resolve_contained name)
    intro check
    apply contained_bind (b64uDecode_contained _)
    intro payload
    apply contained_bind (by simp [caught])
    intro _
    apply contained_bind (b64uDecode_contained _)
    intro signature
    exact contained_bind (by simp [caught]) (fun _ => escapes_ok)
  · simp [caught]

/-- Wrapping an exception keeps it caught. -/
theorem asEnvelopeError_contained {α : Type} {result : Result α} (contained : ¬ Escapes result) :
    ¬ Escapes (asEnvelopeError result) := by
  cases result with
  | ok value => exact escapes_ok
  | error problem => cases problem <;> first | exact contained | simp [asEnvelopeError, caught]

/-- The signature check of a JSON value lets nothing escape. -/
theorem checkSignature_contained {envelope provenance : List (Key × Value)}
    (stated : (withoutSignature envelope provenance).WellFormed) :
    ¬ Escapes (checkSignature loads directory envelope provenance) := by
  rw [checkSignature]
  split
  · split
    · apply contained_bind (canonicalizeBytes_contained stated)
      intro expected
      split
      · exact contained_bind (asEnvelopeError_contained (jwsVerify_contained _ _)) (fun _ => escapes_ok)
      · simp [caught]
    · simp [caught]
  · simp [caught]

/-- The checks that come before the provenance of an envelope is read. -/
structure Shaped (envelope : List (Key × Value)) : Prop where
  version : isText (py "1.0") (Value.lookup (key "envelopeVersion") envelope) = true
  typed : ∃ eventType, eventTypeOf envelope = .ok eventType ∧ ∃ resource,
    resourceOf envelope = .ok resource ∧ (knownResource eventType).all
      (fun known => namesResource known (Value.lookup (key "@type") resource)) = true

/-- The provenance is present and no object. -/
def Misplaced (envelope : List (Key × Value)) : Prop :=
  ∃ value, Value.lookup (key "provenance") envelope = some value ∧ ∀ members, value ≠ .dict members

/-- The refusal of a malformed envelope is caught. -/
theorem malformed_contained {α : Type} (detail : String) : ¬ Escapes (malformed detail : Result α) := by
  simp [malformed, caught]

/-- A missing event type is caught. -/
theorem eventTypeOf_contained (envelope : List (Key × Value)) : ¬ Escapes (eventTypeOf envelope) := by
  unfold eventTypeOf
  repeat' split
  all_goals first | exact escapes_ok | exact malformed_contained _

/-- A missing resource is caught. -/
theorem resourceOf_contained (envelope : List (Key × Value)) : ¬ Escapes (resourceOf envelope) := by
  unfold resourceOf
  repeat' split
  all_goals first | exact escapes_ok | exact malformed_contained _

/-- Reading the provenance escapes exactly when it is there and no object. -/
theorem escapes_provenanceOf {envelope : List (Key × Value)} :
    Escapes (provenanceOf envelope) ↔ Misplaced envelope := by
  unfold provenanceOf Misplaced
  cases Value.lookup (key "provenance") envelope with
  | none => simp
  | some value => cases value <;> simp [caught]

/-- Leaving out the signature keeps an envelope well formed. -/
theorem withoutSignature_stated {envelope provenance : List (Key × Value)}
    (stated : (Value.dict envelope).WellFormed) (found : provenanceOf envelope = .ok provenance) :
    (withoutSignature envelope provenance).WellFormed := by
  unfold provenanceOf at found
  split at found <;> cases found
  · exact Value.wellFormed_setMember stated ⟨List.nodup_nil, trivial⟩
  case _ has => exact withoutSignature_wellFormed stated has

/-- A JSON value that is checked escapes only through its provenance. -/
theorem escapes_verifyEnvelope {envelope : Value} (stated : envelope.WellFormed) :
    Escapes (verifyEnvelope loads directory none true envelope) ↔
      ∃ members, envelope = .dict members ∧ Shaped members ∧ Misplaced members := by
  cases envelope with
  | dict members =>
    rw [verifyEnvelope, escapes_guard rfl, escapes_after (eventTypeOf_contained members)]
    have checked : ∀ provenance resource, provenanceOf members = .ok provenance →
        ¬ Escapes (checkSignature loads directory members provenance >>= fun _ =>
          (.ok (Value.dict resource) : Result Value)) := fun provenance resource found =>
      contained_bind (checkSignature_contained (withoutSignature_stated stated found)) (fun _ => escapes_ok)
    constructor
    · rintro ⟨version, eventType, typed, later⟩
      rw [escapes_guard rfl, escapes_after (resourceOf_contained members)] at later
      obtain ⟨_, resource, found, later⟩ := later
      rw [escapes_guard rfl, escapes_bind, escapes_provenanceOf] at later
      obtain ⟨named, misplaced | ⟨provenance, held, raised⟩⟩ := later
      · exact ⟨members, rfl, ⟨version, eventType, typed, resource, found, named⟩, misplaced⟩
      · exact absurd raised (checked provenance resource held)
    · rintro ⟨_, ⟨⟩, shaped, misplaced⟩
      obtain ⟨eventType, typed, resource, found, named⟩ := shaped.typed
      refine ⟨shaped.version, eventType, typed, ?_⟩
      rw [escapes_guard rfl, escapes_after (resourceOf_contained members)]
      refine ⟨rfl, resource, found, ?_⟩
      rw [escapes_guard rfl, escapes_bind, escapes_provenanceOf]
      exact ⟨named, Or.inl misplaced⟩
  | _ => simp [verifyEnvelope, malformed_contained]

end Signature

end TaxStamps.Consumer
