import TaxStamps.Crypto.Representable
import TaxStamps.Effects.Flow
import TaxStamps.Events.Consumer

/-!
# What a delivery writes

An event that is applied adds its declaration with the lines it carries, its
identifier to the processed events, and an audit event that names it. Every
other delivery that succeeds writes nothing.
-/

namespace TaxStamps.Consumer

open Envelope

variable {env : Env} {loads : Loads} {directory : KeyDirectory} {occasion : Occasion} {auditId : Nat}
  {envelope resource : List (Key × Value)} {eventId : Value} {intake later : Intake}

/-- The identifier that a stored audit event of a declaration carries. -/
def carried (event : AuditEvent) : Option Value :=
  if event.eventType = py "declaration.received" then
    Value.lookup (key "eventId") (membersOf event.payload)
  else none

/-- A member of an object as it reads back from the JSON text. -/
theorem reparseMembers_lookup {members pairs : List (Key × Value)}
    (encodes : ∀ member ∈ members, Jcs.encodableKey member.1 = true)
    (parsed : Value.reparseMembers members = .ok pairs) :
    pairs.map Prod.fst = members.map Prod.fst ∧ ∀ name value, Value.lookup name members = some value →
      ∃ clean, value.reparse = .ok clean ∧ Value.lookup name pairs = some clean := by
  induction members generalizing pairs with
  | nil =>
    cases parsed
    exact ⟨rfl, fun _ _ absent => by cases absent⟩
  | cons member rest inductionHypothesis =>
    obtain ⟨name, value⟩ := member
    cases name with
    | other tag => cases parsed
    | str name =>
      have carries : name.joinSurrogates = name :=
        Jcs.joinSurrogates_carried (encodes _ List.mem_cons_self)
      obtain ⟨clean, here, parsed⟩ := Result.bind_ok.mp parsed
      obtain ⟨others, later, parsed⟩ := Result.bind_ok.mp parsed
      cases parsed
      obtain ⟨keys, kept⟩ := inductionHypothesis
        (fun other held => encodes other (List.mem_cons_of_mem _ held)) later
      rw [carries]
      refine ⟨by rw [List.map_cons, List.map_cons, keys], fun sought stored found => ?_⟩
      by_cases same : Key.str name = sought
      · rw [Value.lookup, if_pos same] at found
        rw [Value.lookup, if_pos same, ← Option.some.inj found]
        exact ⟨clean, here, rfl⟩
      · rw [Value.lookup, if_neg same] at found
        rw [Value.lookup, if_neg same]
        exact kept sought stored found

/-- The names of the payload that the consumer audits. -/
def receivedKeys : List Key := [key "declarationRef", key "eventId", key "producer"]

/-- The payload names the event as it reads back from its JSON text. -/
theorem received_reparsed {declarationRef text : PyStr} {producer clean : Value}
    (storable : textColumn text = true)
    (parsed : (received declarationRef (.str text) producer).reparse = .ok clean) :
    Value.lookup (key "eventId") (membersOf clean) = some (.str text) := by
  have encodes : ∀ name ∈ receivedKeys, Jcs.encodableKey name = true := by decide
  have apart : receivedKeys.Nodup := by decide
  obtain ⟨pairs, members, parsed⟩ := Result.bind_ok.mp parsed
  cases parsed
  obtain ⟨keys, kept⟩ := reparseMembers_lookup
    (fun member held => encodes member.1 (List.mem_map_of_mem held)) members
  obtain ⟨stored, reparsed, found⟩ := kept (key "eventId") (.str text) rfl
  cases reparsed
  rw [Jcs.joinSurrogates_carried (Value.storable_text storable)] at found
  have distinct : (pairs.map Prod.fst).Nodup := keys ▸ apart
  rw [membersOf, Value.ofPairs_distinct distinct]
  exact found

/-- The audit event of a declaration carries the identifier of its event. -/
theorem carried_of_append {rows : List AuditEvent} {prevHash declarationRef text : PyStr}
    {producer : Value} {event : AuditEvent} (storable : textColumn text = true)
    (appended : Audit.append env occasion.time (py "declaration.received")
      (received declarationRef (.str text) producer) prevHash auditId rows = .ok event) :
    carried event = some (.str text) := by
  obtain ⟨clean, parsed, appended⟩ := Result.bind_ok.mp appended
  obtain ⟨hash, _, appended⟩ := Result.bind_ok.mp appended
  obtain ⟨_, _, appended⟩ := Result.bind_ok.mp appended
  obtain ⟨stored, column, appended⟩ := Result.bind_ok.mp appended
  cases appended
  obtain ⟨meaning, _⟩ := env.jsonb_restores _ _ (Value.reparse_wellFormed parsed) (Db.jsonbColumn_ok column)
  have named := received_reparsed storable parsed
  cases clean with
  | dict members =>
    obtain ⟨stated, rfl, _⟩ := Value.denote_obj meaning
    exact Value.lookup_stored_text meaning named
  | _ => cases named

/-- The lines of a declaration that is added. -/
theorem addLines_rows {db after : Db} {declarationId : Nat} {items : List LineItem}
    (added : Api.addLines declarationId items db = .ok after) :
    after = { db with declarationLines := db.declarationLines ++ items.map (Api.lineRow declarationId) } := by
  induction items generalizing db with
  | nil =>
    cases added
    simp
  | cons item rest inductionHypothesis =>
    obtain ⟨middle, inserted, added⟩ := Result.bind_ok.mp added
    obtain rfl := inductionHypothesis added
    obtain rfl := Db.insertDeclarationLine_ok inserted
    simp

/-- The resource of a verified envelope is the one it carries. -/
theorem verifyEnvelope_resource {expected : Option PyStr} {required : Bool} {envelope resource : Value}
    (accepted : verifyEnvelope loads directory expected required envelope = .ok resource) :
    ∃ members, resourceOf (membersOf envelope) = .ok members ∧ resource = .dict members := by
  cases envelope with
  | dict envelope =>
    obtain ⟨_, _, accepted⟩ := Result.bind_ok.mp accepted
    obtain ⟨_, _, accepted⟩ := Result.bind_ok.mp accepted
    obtain ⟨_, _, accepted⟩ := Result.bind_ok.mp accepted
    obtain ⟨members, found, accepted⟩ := Result.bind_ok.mp accepted
    obtain ⟨_, _, accepted⟩ := Result.bind_ok.mp accepted
    obtain ⟨_, _, accepted⟩ := Result.bind_ok.mp accepted
    refine ⟨members, found, ?_⟩
    cases required with
    | true =>
      obtain ⟨_, _, accepted⟩ := Result.bind_ok.mp accepted
      exact (Except.ok.inj accepted).symm
    | false => exact (Except.ok.inj accepted).symm
  | _ => cases accepted

/-- What an applied event adds to the tables. -/
structure Recorded (intake later : Intake) (eventId : PyStr) (lines : List LineItem) : Prop where
  requested : ∃ occasion event, Api.applyDeclaration occasion event intake.db = .ok later.db
  unprocessed : ∀ row ∈ intake.processedEvents, row.eventId ≠ eventId
  added : ∃ (declaration : Declaration) (eventType : PyStr) (event : AuditEvent),
    declaration.sourceEventId = eventId ∧ carried event = some (.str eventId) ∧
    later =
      { db :=
          { intake.db with
            declarations := intake.db.declarations ++ [declaration]
            declarationLines := intake.db.declarationLines ++
              lines.map (Api.lineRow intake.db.declarations.length) }
        processedEvents := intake.processedEvents ++ [⟨eventId, eventType⟩]
        auditEvents := intake.auditEvents ++ [event] }

/-- A flushed event is recorded, with the audit event it was given. -/
theorem flush_ok {document : Value} {text eventType declarationRef consigneeTin consigneeName : PyStr}
    {lines : List LineItem} {event : AuditEvent} (present : lines ≠ [])
    (names : carried event = some (.str text))
    (flushed : flush env occasion document text eventType declarationRef consigneeTin consigneeName lines
      event intake = .ok later) : Recorded intake later text lines := by
  obtain ⟨_, _, flushed⟩ := Result.bind_ok.mp flushed
  obtain ⟨db, declared, flushed⟩ := Result.bind_ok.mp flushed
  obtain ⟨rows, inserted, flushed⟩ := Result.bind_ok.mp flushed
  cases flushed
  obtain ⟨middle, first, added⟩ := Result.bind_ok.mp declared
  obtain rfl := Db.insertDeclaration_ok first
  obtain rfl := addLines_rows added
  obtain ⟨_, accepted, inserted⟩ := Result.bind_ok.mp inserted
  cases inserted
  rw [Db.constrain, Result.require_ok, Bool.and_eq_true, List.all_eq_true] at accepted
  constructor
  case requested =>
    exact ⟨occasion, ⟨text, declarationRef, consigneeTin, consigneeName, lines, present⟩, declared⟩
  case unprocessed => exact fun row member => of_decide_eq_true (accepted.2 row member)
  case added => exact ⟨_, eventType, event, rfl, names, rfl⟩

/-- An event that is asked for has no identifier or a storable text. -/
theorem processed_ok {seen : Bool} (asked : processed eventId intake = .ok seen) :
    eventId = .none ∧ seen = false ∨ ∃ text, eventId = .str text ∧ textColumn text = true ∧
      seen = intake.processedEvents.any (fun row => decide (row.eventId = text)) := by
  cases eventId with
  | none =>
    cases asked
    exact Or.inl ⟨rfl, rfl⟩
  | str text =>
    obtain ⟨_, storable, asked⟩ := Result.bind_ok.mp asked
    cases asked
    exact Or.inr ⟨text, rfl, Result.require_ok.mp storable, rfl⟩
  | _ => cases asked

/-- A resource whose entries are read has a line. -/
theorem lineItems_present {rows : List Value} {lines : List LineItem}
    (listed : lineItemsOf resource = .ok rows) (readable : readLines env.unicode rows = .ok lines) :
    lines ≠ [] := by
  obtain ⟨stated, _, listed⟩ := Result.bind_ok.mp listed
  split at listed
  case h_1 first rest =>
    cases listed
    obtain ⟨line, _, readable⟩ := Result.bind_ok.mp readable
    obtain ⟨others, _, readable⟩ := Result.bind_ok.mp readable
    cases readable
    exact List.cons_ne_nil _ _
  case h_2 => cases listed

/-- A delivery that succeeds records its event or has nothing to do. -/
theorem apply_ok {disposition : Disposition}
    (applied : apply env occasion auditId envelope resource intake = .ok (disposition, later)) :
    ∃ eventId rows, subscript envelope "eventId" = .ok eventId ∧ lineItemsOf resource = .ok rows ∧
      (disposition = .duplicate ∧ later = intake ∨
        disposition = .applied ∧ ∃ text lines, eventId = .str text ∧
          readLines env.unicode rows = .ok lines ∧ Recorded intake later text lines) := by
  obtain ⟨eventId, named, applied⟩ := Result.bind_ok.mp applied
  obtain ⟨rows, listed, applied⟩ := Result.bind_ok.mp applied
  obtain ⟨seen, asked, applied⟩ := Result.bind_ok.mp applied
  refine ⟨eventId, rows, named, listed, ?_⟩
  cases seen with
  | true =>
    cases applied
    exact Or.inl ⟨rfl, rfl⟩
  | false =>
    obtain ⟨stored, recorded, applied⟩ := Result.bind_ok.mp applied
    cases applied
    obtain ⟨declarationRef, _, recorded⟩ := Result.bind_ok.mp recorded
    obtain ⟨consigneeTin, _, recorded⟩ := Result.bind_ok.mp recorded
    obtain ⟨lines, readable, recorded⟩ := Result.bind_ok.mp recorded
    obtain ⟨eventType, _, recorded⟩ := Result.bind_ok.mp recorded
    obtain ⟨event, appended, recorded⟩ := Result.bind_ok.mp recorded
    obtain ⟨text, column, recorded⟩ := Result.bind_ok.mp recorded
    obtain ⟨_, _, flushed⟩ := Result.bind_ok.mp recorded
    rcases processed_ok asked with ⟨rfl, _⟩ | ⟨other, rfl, storable, _⟩
    · cases column
    · cases column
      exact Or.inr ⟨rfl, text, lines, rfl, readable, flush_ok (lineItems_present listed readable)
        (carried_of_append storable appended) flushed⟩

end TaxStamps.Consumer
