import TaxStamps.Invariants.Published

/-!
# What the tables accept

When the writes of a scan succeed. An attempt is accepted when its texts fit,
an event when it is a plain document, and a flag as long as the next version of
its list fits the version column.
-/

namespace TaxStamps

variable {env : Env} {occasion : Occasion} {db : Db}

section Documents

/-- A plain document without a proof can be signed. -/
theorem issueProof_accepts {document : List (Key × Value)} {verificationMethod created : PyStr}
    (unsigned : Value.lookup (key "proof") document = none) (plain : (Value.dict document).plain = true)
    (methodStorable : verificationMethod.all Code.storable = true)
    (createdStorable : created.all Code.storable = true) :
    ∃ signed, Vc.issueProof env document verificationMethod created = .ok signed := by
  obtain ⟨optionBytes, options⟩ :=
    Jcs.plain_canonicalizes (Vc.options_plain methodStorable createdStorable)
  obtain ⟨documentBytes, body⟩ := Jcs.plain_canonicalizes plain
  rw [Vc.issueProof, unsigned, Vc.hashData, options, body]
  exact ⟨_, rfl⟩

/-- A database stores a plain document. -/
theorem jsonbColumn_accepts {document : Value} (plain : document.plain = true) (table : String) :
    ∃ stored, Db.jsonbColumn env table document = .ok stored := by
  obtain ⟨stored, kept⟩ := env.jsonb_accepts document plain
  exact ⟨stored, by rw [Db.jsonbColumn, kept]⟩

end Documents

namespace Outbox

variable {event : EventType} {resource : List (Key × Value)}
  {principalId principalRole correlationId : PyStr}

/-- The texts of an event can be stored, and its topic fits. -/
theorem event_storable (event : EventType) : event.name.all Code.storable = true ∧
    event.resource.all Code.storable = true ∧ event.classification.all Code.storable = true ∧
    PyStr.fits 128 event.topic = true := by
  cases event <;> decide

/-- A resource stays plain with its type. -/
theorem withType_plain (plain : (Value.dict resource).plain = true) :
    (Value.dict (withType event resource)).plain = true := by
  unfold withType
  split
  · exact plain
  case isFalse untyped =>
    rw [Bool.not_eq_true, Option.isSome_eq_false_iff, Option.isNone_iff_eq_none] at untyped
    have prefixStorable :
        (py "type.googleapis.com/blueeconomy.contracts.v1.").all Code.storable = true := by decide
    apply Value.plain_append plain untyped
    · decide
    · simp only [Value.plain, List.all_append, (event_storable event).2.1, prefixStorable, Bool.and_true]

/-- An envelope around a plain resource and a plain provenance is plain. -/
theorem envelope_plain {time : Datetime} {row : Nat} {members : List (Key × Value)}
    (plain : (Value.dict resource).plain = true) (correlation : correlationId.all Code.storable = true)
    (provenancePlain : (Value.dict members).plain = true) :
    (Value.dict (envelopeBody env time row event resource correlationId ++
      [(key "provenance", .dict members)])).plain = true := by
  have identifier : ∀ label use row, (py label).all Code.storable = true →
      (py label ++ env.uuid use row).all Code.storable = true := by
    intro label use row storable
    rw [List.all_append, storable, env.uuid_storable, Bool.and_true]
  have eventId := identifier "evt-" (py "event") row (by decide)
  have bundleId := identifier "bdl-" (py "bundle") row (by decide)
  have entryId := identifier "urn:uuid:" (py "entry") row (by decide)
  have correlated : (orElse correlationId (py "evt-" ++ env.uuid (py "event") row)).all
      Code.storable = true := by
    unfold orElse
    split
    · exact eventId
    · exact correlation
  have typed : (Value.dict (withType event resource)).plain = true := withType_plain plain
  obtain ⟨name, _, classification, _⟩ := event_storable event
  simp only [envelopeBody, Value.plain, Value.plainItems, Value.plainMembers, Value.literal,
    List.cons_append, List.nil_append, List.map_cons, List.map_nil, eventId, bundleId, entryId, name,
    classification, correlated, Datetime.isoSeconds_storable, Bool.and_true] at typed provenancePlain ⊢
  simp only [typed, provenancePlain]
  decide

/-- A provenance of storable texts is plain. -/
theorem provenance_plain (principal : principalId.all Code.storable = true)
    (role : principalRole.all Code.storable = true) :
    (Value.dict (provenance principalId principalRole)).plain = true := by
  simp only [provenance, Value.plain, Value.plainMembers, List.map_cons, List.map_nil, principal, role,
    List.all_nil, Bool.and_true]
  decide

/-- A signature can be stored. -/
theorem jwsSign_storable (payload : Bytes) : (jwsSign env payload).all Code.storable = true := by
  have clean : ∀ data, (Base64.unpadded data).all Code.storable = true := fun data =>
    List.all_eq_true.mpr (fun code member => (Base64.unpadded_clean data code member).2.2.1)
  have dot : (py ".").all Code.storable = true := by decide
  simp only [jwsSign, signatureInput, List.all_append, clean, dot, Bool.and_true]

/-- An event about a plain resource is stored. -/
theorem enqueue_accepts (plain : (Value.dict resource).plain = true)
    (principal : principalId.all Code.storable = true) (role : principalRole.all Code.storable = true)
    (correlation : correlationId.all Code.storable = true)
    (keyed : PyStr.fits 128 (messageKey resource) = true) :
    ∃ after, enqueue env occasion event resource principalId principalRole correlationId db = .ok after := by
  have proven := provenance_plain principal role
  have enveloped : ∀ {members}, (Value.dict members).plain = true →
      (Value.dict (envelopeBody env occasion.time db.outboxMessages.length event resource correlationId ++
        [(key "provenance", .dict members)])).plain = true := envelope_plain plain correlation
  obtain ⟨payload, canonical⟩ := Jcs.plain_canonicalizes (enveloped proven)
  have signature : (Value.dict (provenance principalId principalRole ++
      [(key "signature", .str (jwsSign env payload))])).plain = true :=
    Value.plain_append proven rfl (by decide) (jwsSign_storable payload)
  have column : ∃ stored, Db.jsonbColumn env "outbox_messages" _ = .ok stored :=
    jsonbColumn_accepts (enveloped signature) "outbox_messages"
  obtain ⟨stored, kept⟩ := column
  simp only [enqueue, signed, unsigned, canonical, Result.ok_bind, Db.insertOutboxMessage, kept,
    Db.constrain, Result.require, (event_storable event).2.2.2, keyed, Bool.and_true, if_true]
  exact ⟨_, rfl⟩

end Outbox

namespace StatusLists

variable {purpose : PyStr} {marked : Nat → Prop}

/-- The current list of a purpose can be read. -/
theorem Tracks.readable (tracks : Tracks env purpose db.statusListSnapshots marked) :
    ∃ list, currentList env purpose db = .ok list := by
  unfold currentList
  rw [tracks.numbered.latest]
  split
  case _ => exact ⟨_, rfl⟩
  case _ row last =>
    obtain ⟨list, parsed, _⟩ := tracks.shown.published row last
    rw [parsed]
    exact ⟨list, rfl⟩

/-- A list of any content can be signed. -/
theorem build_accepts (known : purpose ∈ purposes) (now : Datetime) (list : StatusList) :
    ∃ signed, StatusList.build env now (listCredentialId env.settings purpose) purpose list
        (verificationMethod env.settings) = .ok signed ∧ (Value.dict signed).plain = true := by
  have method : (verificationMethod env.settings).isEmpty = false := by
    have nonempty : kid ≠ [] := by decide
    rw [List.isEmpty_eq_false_iff]
    exact List.append_ne_nil_of_right_ne_nil _ nonempty
  have storable := verificationMethod_storable env.settings
  have created := Datetime.isoSeconds_storable now
  have plain : (Value.dict (StatusList.document env (listCredentialId env.settings purpose) purpose
      (Datetime.isoSeconds now) list)).plain = true :=
    StatusList.document_plain env list (listCredentialId_storable env.settings (purpose_storable known))
      (purpose_storable known) created
  obtain ⟨signed, issued⟩ := issueProof_accepts (StatusList.document_unsigned env _ purpose _ list) plain
    storable created
  refine ⟨signed, ?_, Vc.signed_plain issued plain storable created⟩
  rw [StatusList.build, if_pos known, method]
  exact issued

/-- A list of any content can be published as long as the next version fits its column. -/
theorem publish_iff (numbered : Numbered (rowsOf purpose db.statusListSnapshots)) (known : purpose ∈ purposes)
    (list : StatusList) : (∃ after, publish env occasion purpose (nextVersion purpose db) list db = .ok after) ↔
      nextVersion purpose db ≤ 2147483647 := by
  obtain ⟨signed, built, plain⟩ := @build_accepts env _ known occasion.time list
  obtain ⟨stored, kept⟩ := @jsonbColumn_accepts env _ plain "status_list_snapshots"
  have next := numbered.next
  have fresh : db.statusListSnapshots.all (fun other => !(decide (other.purpose = purpose) &&
      decide (other.version = nextVersion purpose db))) = true := by
    rw [List.all_eq_true]
    intro other member
    by_cases same : other.purpose = purpose
    · have listed : other ∈ rowsOf purpose db.statusListSnapshots :=
        List.mem_filter.mpr ⟨member, decide_eq_true same⟩
      have below := numbered.bounded listed
      simp only [same, Bool.not_eq_true', Bool.and_eq_false_iff, decide_eq_false_iff_not]
      omega
    · simp [same]
  have short : PyStr.fits 16 purpose = true := by
    have each : ∀ purpose ∈ purposes, PyStr.fits 16 purpose = true := by decide
    exact each purpose known
  have column : integerColumn (nextVersion purpose db) = true ↔ nextVersion purpose db ≤ 2147483647 := by
    rw [integerColumn, decide_eq_true_iff]
    omega
  simp only [publish, Result.ok_bind, built, Db.insertStatusListSnapshot, kept, Db.constrain, short,
    Bool.true_and, fresh, Bool.and_true]
  rw [← column]
  cases integerColumn (nextVersion purpose db) <;> simp [Result.require]

/-- A flag can be set as long as the next version fits its column. -/
theorem setFlag_iff (tracks : Tracks env purpose db.statusListSnapshots marked)
    (known : purpose ∈ purposes) {index : Nat} (bounded : index < defaultListSizeBits) :
    (∃ after, setFlag env occasion purpose index db = .ok after) ↔
      nextVersion purpose db ≤ 2147483647 := by
  obtain ⟨list, current⟩ := tracks.readable
  have standard := (tracks.current current).1
  have marked : list.set index true = .ok (list.write index true) :=
    StatusList.set_natural (by omega) true
  simp only [setFlag, known, decide_true, Result.require, if_true, Result.ok_bind, current, marked]
  exact publish_iff tracks.numbered known (list.write index true)

end StatusLists

end TaxStamps
