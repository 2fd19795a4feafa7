import TaxStamps.Invariants.Accepts
import TaxStamps.Invariants.Credentials
import TaxStamps.Invariants.Mirror

/-!
# Which credentials can be walked

A presented credential is an arbitrary JSON object. The offline check reads its
status entries and its subject without asking for their types, and an entry's
index is looked up in the published list of its purpose. The walk succeeds
exactly for the shapes that are spelled out here.
-/

namespace TaxStamps.Attempts

open Api Verify

variable {env : Env} {db : Db}

section Lists

/-- A list was published for the purpose. -/
def Listed (db : Db) (purpose : PyStr) : Prop := ∃ row ∈ db.statusListSnapshots, row.purpose = purpose

/-- The lists that are loaded for some purposes. -/
structure Loaded (db : Db) (requested : List PyStr) (lists : Lists) : Prop where
  found : ∀ purpose list, lists.lookup purpose = some list →
    purpose ∈ requested ∧ Listed db purpose ∧ list.sizeBits = defaultListSizeBits
  missing : ∀ purpose ∈ requested, lists.lookup purpose = none → ¬ Listed db purpose

/-- A purpose without a snapshot is not listed. -/
theorem latest_none {purpose : PyStr} {marked : Nat → Prop}
    (tracks : StatusLists.Tracks env purpose db.statusListSnapshots marked)
    (none : StatusLists.latest purpose db = none) : ¬ Listed db purpose := by
  rw [tracks.numbered.latest, List.getLast?_eq_none_iff] at none
  rintro ⟨row, member, same⟩
  have listed : row ∈ StatusLists.rowsOf purpose db.statusListSnapshots :=
    List.mem_filter.mpr ⟨member, decide_eq_true same⟩
  rw [none] at listed
  cases listed

/-- A purpose with a snapshot is listed. -/
theorem latest_listed {purpose : PyStr} {marked : Nat → Prop} {row : StatusListSnapshot}
    (tracks : StatusLists.Tracks env purpose db.statusListSnapshots marked)
    (latest : StatusLists.latest purpose db = some row) : Listed db purpose := by
  rw [tracks.numbered.latest] at latest
  obtain ⟨member, same⟩ := List.mem_filter.mp (List.mem_of_getLast? latest)
  exact ⟨row, member, of_decide_eq_true same⟩

/-- The published lists can be loaded. -/
theorem loadLists_ok (valid : Mirror.Valid env db.stamps db.verifications db.statusListSnapshots)
    (requested : List PyStr) : ∃ lists, loadLists env db requested = .ok lists ∧
      Loaded db requested lists := by
  induction requested with
  | nil => exact ⟨[], rfl, fun _ _ absent => (nomatch absent), fun _ absent => (nomatch absent)⟩
  | cons purpose rest inductionHypothesis =>
    obtain ⟨others, loaded, spec⟩ := inductionHypothesis
    obtain ⟨marked, tracks, _⟩ := valid.tracked purpose
    rw [loadLists, StatusLists.currentCredential]
    cases latest : StatusLists.latest purpose db with
    | none =>
      refine ⟨others, loaded, ?_, ?_⟩
      · intro other list found
        obtain ⟨requested, published, standard⟩ := spec.found other list found
        exact ⟨List.mem_cons_of_mem _ requested, published, standard⟩
      · intro other requested missing
        rcases List.mem_cons.mp requested with rfl | later
        · exact latest_none tracks latest
        · exact spec.missing other later missing
    | some row =>
      have last := latest
      rw [tracks.numbered.latest] at last
      obtain ⟨list, parsed, standard, _⟩ := tracks.shown.published row last
      simp only [Option.map_some, parsed, loaded, Result.ok_bind]
      refine ⟨_, rfl, ?_, ?_⟩
      · intro other found lookup
        rw [List.lookup_cons] at lookup
        split at lookup
        case _ same =>
          obtain rfl : other = purpose := eq_of_beq same
          cases lookup
          exact ⟨List.mem_cons_self, latest_listed tracks latest, standard⟩
        case _ =>
          obtain ⟨requested, published, standard⟩ := spec.found other found lookup
          exact ⟨List.mem_cons_of_mem _ requested, published, standard⟩
      · intro other requested missing
        rw [List.lookup_cons] at missing
        split at missing
        case _ => cases missing
        case _ different =>
          rcases List.mem_cons.mp requested with rfl | later
          · simp at different
          · exact spec.missing other later missing

end Lists

section Entries

/-- A value that a dictionary can look up. -/
def hashable : Option Value → Bool
  | some (.list _) => false
  | some (.dict _) => false
  | _ => true

/-- A status entry that can be read: an object with an integer as its index,
which lies within the list when its purpose has one. -/
def ReadableEntry (env : Env) (db : Db) (entry : Value) : Prop :=
  ∃ members index, entry = .dict members ∧
    hashable (Value.lookup (key "statusPurpose") members) = true ∧
    intOf env.unicode ((Value.lookup (key "statusListIndex") members).getD (Value.literal "0")) =
      .ok index ∧
    ∀ purpose, Value.lookup (key "statusPurpose") members = some (.str purpose) → Listed db purpose →
      0 ≤ index ∧ index < defaultListSizeBits

/-- What one entry contributes to the failures. -/
def entryFlags (env : Env) (lists : Lists) (entry : Value) : Result (List PyStr) := do
  let purpose ← entry.get? (py "statusPurpose")
  let stated ← entry.get? (py "statusListIndex")
  let index ← intOf env.unicode (stated.getD (Value.literal "0"))
  let list ← listFor lists purpose
  match list with
  | none => .ok []
  | some list => do
    let set ← list.get index
    .ok (if set then [py "status-flagged:" ++ purposeText purpose] else [])

/-- The flags of the first entry come first. -/
theorem flagged_cons (lists : Lists) (entry : Value) (rest : List Value) :
    flagged env lists (entry :: rest) = entryFlags env lists entry >>= fun here =>
      flagged env lists rest >>= fun others => .ok (here ++ others) := by
  rw [flagged, entryFlags]
  simp only [bind_assoc]
  congr
  funext purpose
  congr
  funext stated
  congr
  funext index
  congr
  funext list
  cases list <;> simp

variable {lists : Lists}

/-- A bit is read exactly within the range. -/
theorem get_iff {list : StatusList} {index : Int} :
    (∃ set, list.get index = .ok set) ↔ 0 ≤ index ∧ index < list.sizeBits := by
  unfold StatusList.get StatusList.checkIndex
  split
  case isTrue bounded => exact ⟨fun _ => bounded, fun _ => ⟨_, rfl⟩⟩
  case isFalse beyond =>
    constructor
    · rintro ⟨_, impossible⟩
      cases impossible
    · exact fun bounded => absurd bounded beyond

/-- The list that a purpose names. -/
def namedList (lists : Lists) : Option Value → Option StatusList
  | some (.str purpose) => lists.lookup purpose
  | _ => none

/-- The list of an entry is found exactly under a hashable purpose. -/
theorem listFor_iff {purpose : Option Value} {found : Option StatusList} :
    listFor lists purpose = .ok found ↔ hashable purpose = true ∧ namedList lists purpose = found := by
  cases purpose with
  | none => simp [listFor, hashable, namedList]
  | some value => cases value <;> simp [listFor, hashable, namedList]

/-- A named list is one that was loaded. -/
theorem namedList_some {purpose : Option Value} {list : StatusList}
    (found : namedList lists purpose = some list) :
    ∃ text, purpose = some (.str text) ∧ lists.lookup text = some list := by
  unfold namedList at found
  split at found
  case _ text => exact ⟨text, rfl, found⟩
  case _ => cases found

/-- The flags of an entry are read exactly with an index that `int()` takes and a bit that can be
read. -/
theorem entryFlags_dict {members : List (Key × Value)} {flags : List PyStr} :
    entryFlags env lists (.dict members) = .ok flags ↔ ∃ index found,
      intOf env.unicode ((Value.lookup (key "statusListIndex") members).getD (Value.literal "0")) =
        .ok index ∧
      listFor lists (Value.lookup (key "statusPurpose") members) = .ok found ∧
      (match found with
        | none => .ok []
        | some list => do
          let set ← list.get index
          .ok (if set then
            [py "status-flagged:" ++ purposeText (Value.lookup (key "statusPurpose") members)] else [])) =
        (.ok flags : Result (List PyStr)) := by
  simp only [entryFlags, Value.get?, Result.ok_bind, Result.bind_ok, exists_and_left]

/-- One entry is read exactly when it has such a shape. -/
theorem entryFlags_iff (loaded : Loaded db purposes lists)
    (known : ∀ purpose, Listed db purpose → purpose ∈ purposes) {entry : Value} :
    (∃ flags, entryFlags env lists entry = .ok flags) ↔ ReadableEntry env db entry := by
  constructor
  · rintro ⟨flags, read⟩
    cases entry with
    | dict members =>
      obtain ⟨index, found, parsed, searched, read⟩ := entryFlags_dict.mp read
      obtain ⟨searchable, rfl⟩ := listFor_iff.mp searched
      refine ⟨members, index, rfl, searchable, parsed, ?_⟩
      intro purpose named listed
      rw [named, namedList] at read
      cases lookup : lists.lookup purpose with
      | none => exact absurd listed (loaded.missing purpose (known purpose listed) lookup)
      | some list =>
        rw [lookup] at read
        obtain ⟨set, inside, _⟩ := Result.bind_ok.mp read
        rw [← (loaded.found purpose list lookup).2.2]
        exact get_iff.mp ⟨set, inside⟩
    | _ => cases read
  · rintro ⟨members, index, rfl, searchable, parsed, bounded⟩
    have searched := (@listFor_iff lists _ _).mpr ⟨searchable, rfl⟩
    cases found : namedList lists (Value.lookup (key "statusPurpose") members) with
    | none =>
      rw [found] at searched
      exact ⟨[], entryFlags_dict.mpr ⟨index, none, parsed, searched, rfl⟩⟩
    | some list =>
      rw [found] at searched
      obtain ⟨purpose, named, lookup⟩ := namedList_some found
      obtain ⟨_, listed, standard⟩ := loaded.found purpose list lookup
      obtain ⟨set, inside⟩ := get_iff.mpr (standard.symm ▸ bounded purpose named listed)
      refine ⟨if set then
        [py "status-flagged:" ++ purposeText (Value.lookup (key "statusPurpose") members)] else [],
        entryFlags_dict.mpr ⟨index, some list, parsed, searched, ?_⟩⟩
      simp only [inside, Result.ok_bind]

/-- The entries are read one by one. -/
theorem flagged_iff (loaded : Loaded db purposes lists)
    (known : ∀ purpose, Listed db purpose → purpose ∈ purposes) {entries : List Value} :
    (∃ flags, flagged env lists entries = .ok flags) ↔
      ∀ entry ∈ entries, ReadableEntry env db entry := by
  induction entries with
  | nil => simp [flagged]
  | cons entry rest inductionHypothesis =>
    rw [List.forall_mem_cons, ← inductionHypothesis, ← entryFlags_iff loaded known, flagged_cons]
    constructor
    · rintro ⟨flags, read⟩
      obtain ⟨here, first, read⟩ := Result.bind_ok.mp read
      obtain ⟨others, remaining, _⟩ := Result.bind_ok.mp read
      exact ⟨⟨here, first⟩, ⟨others, remaining⟩⟩
    · rintro ⟨⟨here, first⟩, ⟨others, remaining⟩⟩
      exact ⟨here ++ others, by rw [first, remaining]; rfl⟩

/-- The flags of an entry can be stored. -/
theorem entryFlags_storable (loaded : Loaded db purposes lists) {entry : Value} {flags : List PyStr}
    (read : entryFlags env lists entry = .ok flags) :
    ∀ flag ∈ flags, flag.all Code.storable = true := by
  cases entry with
  | dict members =>
    obtain ⟨index, found, _, searched, read⟩ := entryFlags_dict.mp read
    obtain ⟨_, rfl⟩ := listFor_iff.mp searched
    cases found : namedList lists (Value.lookup (key "statusPurpose") members) with
    | none =>
      rw [found] at read
      cases read
      simp
    | some list =>
      rw [found] at read
      obtain ⟨purpose, named, lookup⟩ := namedList_some found
      obtain ⟨set, _, read⟩ := Result.bind_ok.mp read
      cases read
      have storable := StatusLists.purpose_storable (loaded.found purpose list lookup).1
      have label : (py "status-flagged:").all Code.storable = true := by decide
      intro flag member
      split at member
      · rw [List.mem_singleton.mp member, named, purposeText, List.all_append, label, storable]
        rfl
      · cases member
  | _ => cases read

/-- The flags of the entries can be stored. -/
theorem flagged_storable (loaded : Loaded db purposes lists) {entries : List Value}
    {flags : List PyStr} (read : flagged env lists entries = .ok flags) :
    ∀ flag ∈ flags, flag.all Code.storable = true := by
  induction entries generalizing flags with
  | nil =>
    cases read
    simp
  | cons entry rest inductionHypothesis =>
    rw [flagged_cons] at read
    obtain ⟨here, first, read⟩ := Result.bind_ok.mp read
    obtain ⟨others, remaining, read⟩ := Result.bind_ok.mp read
    cases read
    intro flag member
    rcases List.mem_append.mp member with early | late
    · exact entryFlags_storable loaded first flag early
    · exact inductionHypothesis remaining flag late

end Entries

section Credential

/-- The status entries that can be read: none, one object, or a sequence of
readable entries; a text has none when it is empty. -/
def ReadableStatuses (env : Env) (db : Db) : Option Value → Prop
  | none => True
  | some (.dict members) => ReadableEntry env db (.dict members)
  | some (.list items) => ∀ item ∈ items, ReadableEntry env db item
  | some (.tuple items) => ∀ item ∈ items, ReadableEntry env db item
  | some (.str text) => text = []
  | some _ => False

/-- A subject that can be read: none or an object. -/
def ReadableSubject (credential : List (Key × Value)) : Prop :=
  ∀ subject, Value.lookup (key "credentialSubject") credential = some subject →
    ∃ members, subject = .dict members

/-- A credential whose status entries can be read. -/
def Readable (env : Env) (db : Db) (credential : List (Key × Value)) : Prop :=
  ReadableStatuses env db (Value.lookup (key "credentialStatus") credential)

variable {lists : Lists} {credential : List (Key × Value)}

/-- A proof that is not accepted is refused with a reason. -/
theorem verifyProof_refuses {problem : PyError} (refused : Vc.verifyProof env credential = .error problem) :
    ∃ reason, problem = .vcError reason ∧ reason.all Code.storable = true := by
  unfold Vc.verifyProof at refused
  split at refused
  case _ proof _ =>
    split at refused
    · exact ⟨_, (Except.error.inj refused).symm, by decide⟩
    split at refused
    · exact ⟨_, (Except.error.inj refused).symm, by decide⟩
    split at refused
    · exact ⟨_, (Except.error.inj refused).symm, by decide⟩
    split at refused
    · exact ⟨_, (Except.error.inj refused).symm, by decide⟩
    case _ text _ =>
      cases read : Vc.b58Number text 0 with
      | none =>
        rw [Vc.base58btcDecode, read] at refused
        exact ⟨_, (Except.error.inj refused).symm, by decide⟩
      | some number =>
        rw [Vc.base58btcDecode_number read, Result.ok_bind] at refused
        split at refused
        · exact ⟨_, (Except.error.inj refused).symm, by decide⟩
        · split at refused
          · cases refused
          · exact ⟨_, (Except.error.inj refused).symm, by decide⟩
  case _ => exact ⟨_, (Except.error.inj refused).symm, by decide⟩

/-- The proof contributes reasons, never an exception. -/
theorem offline_reasons (credential : List (Key × Value)) (lists : Lists) : ∃ reasons,
    (∀ reason ∈ reasons, reason.all Code.storable = true) ∧
    verifyCredentialOffline env credential lists =
      (entriesOf ((Value.lookup (key "credentialStatus") credential).getD (.list [])) >>= fun entries =>
        flagged env lists entries >>= fun flags => .ok (reasons ++ flags)) := by
  unfold verifyCredentialOffline
  cases outcome : Vc.verifyProof env credential with
  | ok _ => exact ⟨[], by simp, rfl⟩
  | error problem =>
    obtain ⟨reason, rfl, storable⟩ := verifyProof_refuses outcome
    exact ⟨[reason], by simpa using storable, rfl⟩

/-- The status entries are walked exactly when they are readable. -/
theorem entriesOf_iff (loaded : Loaded db purposes lists)
    (known : ∀ purpose, Listed db purpose → purpose ∈ purposes) :
    (∃ entries flags, entriesOf
        ((Value.lookup (key "credentialStatus") credential).getD (.list [])) = .ok entries ∧
      flagged env lists entries = .ok flags) ↔ Readable env db credential := by
  have each : ∀ entries : List Value, (∃ found flags, (.ok entries : Result (List Value)) = .ok found ∧
      flagged env lists found = .ok flags) ↔ ∀ entry ∈ entries, ReadableEntry env db entry := by
    intro entries
    rw [← flagged_iff loaded known]
    constructor
    · rintro ⟨_, flags, same, read⟩
      cases same
      exact ⟨flags, read⟩
    · rintro ⟨flags, read⟩
      exact ⟨entries, flags, rfl, read⟩
  unfold Readable
  cases Value.lookup (key "credentialStatus") credential with
  | none =>
    refine (each []).trans ?_
    simp [ReadableStatuses]
  | some value =>
    cases value with
    | dict members =>
      refine (each [.dict members]).trans ?_
      simp [ReadableStatuses]
    | list items => exact each items
    | tuple items => exact each items
    | str text =>
      refine (each (text.map (fun code => .str [code]))).trans ?_
      rw [ReadableStatuses]
      constructor
      · intro readable
        cases text with
        | nil => rfl
        | cons code rest =>
          obtain ⟨_, _, impossible, _⟩ := readable (.str [code]) (by simp)
          cases impossible
      · rintro rfl
        simp
    | _ => simp [ReadableStatuses, entriesOf]

/-- The offline check answers exactly for a readable credential. -/
theorem verifyCredentialOffline_iff (loaded : Loaded db purposes lists)
    (known : ∀ purpose, Listed db purpose → purpose ∈ purposes) :
    (∃ failures, verifyCredentialOffline env credential lists = .ok failures) ↔
      Readable env db credential := by
  obtain ⟨reasons, _, offline⟩ := @offline_reasons env credential lists
  rw [← entriesOf_iff loaded known, offline]
  constructor
  · rintro ⟨failures, checked⟩
    obtain ⟨entries, found, checked⟩ := Result.bind_ok.mp checked
    obtain ⟨flags, read, _⟩ := Result.bind_ok.mp checked
    exact ⟨entries, flags, found, read⟩
  · rintro ⟨entries, flags, found, read⟩
    exact ⟨reasons ++ flags, by rw [found, Result.ok_bind, read]; rfl⟩

/-- The failures of the check can be stored. -/
theorem verifyCredentialOffline_storable (loaded : Loaded db purposes lists) {failures : List PyStr}
    (checked : verifyCredentialOffline env credential lists = .ok failures) :
    ∀ failure ∈ failures, failure.all Code.storable = true := by
  obtain ⟨reasons, storable, offline⟩ := @offline_reasons env credential lists
  rw [offline] at checked
  obtain ⟨entries, _, checked⟩ := Result.bind_ok.mp checked
  obtain ⟨flags, read, checked⟩ := Result.bind_ok.mp checked
  cases checked
  intro failure member
  rcases List.mem_append.mp member with reason | flag
  · exact storable failure reason
  · exact flagged_storable loaded read failure flag

/-- The serial of a credential is read exactly from a readable subject. -/
theorem subjectSerial_iff :
    (∃ serial, subjectSerial credential = .ok serial) ↔ ReadableSubject credential := by
  unfold subjectSerial ReadableSubject
  cases Value.lookup (key "credentialSubject") credential with
  | none => simp [Value.get?]
  | some subject => cases subject <;> simp [Value.get?]

variable {serial : PyStr} {presented : Option (List (Key × Value))}

/-- The credential of a scan is checked exactly when it can be walked. -/
theorem credentialFailures_iff (loaded : Loaded db purposes lists)
    (known : ∀ purpose, Listed db purpose → purpose ∈ purposes) :
    (∃ failures, credentialFailures env presented serial lists = .ok failures) ↔
      ∀ credential, presented = some credential →
        Readable env db credential ∧ ReadableSubject credential := by
  cases presented with
  | none => simp [credentialFailures]
  | some credential =>
    simp only [Option.some.injEq, forall_eq']
    rw [← verifyCredentialOffline_iff loaded known, ← subjectSerial_iff, credentialFailures]
    constructor
    · rintro ⟨failures, checked⟩
      obtain ⟨reasons, offline, checked⟩ := Result.bind_ok.mp checked
      obtain ⟨stated, subject, _⟩ := Result.bind_ok.mp checked
      exact ⟨⟨reasons, offline⟩, ⟨stated, subject⟩⟩
    · rintro ⟨⟨reasons, offline⟩, ⟨stated, subject⟩⟩
      rw [offline, subject]
      simp only [Result.ok_bind]
      split <;> exact ⟨_, rfl⟩

/-- The failures of a presented credential can be stored. -/
theorem credentialFailures_storable (loaded : Loaded db purposes lists) {failures : List PyStr}
    (checked : credentialFailures env presented serial lists = .ok failures) :
    ∀ failure ∈ failures, failure.all Code.storable = true := by
  cases presented with
  | none =>
    cases checked
    decide
  | some credential =>
    obtain ⟨reasons, offline, checked⟩ := Result.bind_ok.mp checked
    obtain ⟨stated, _, checked⟩ := Result.bind_ok.mp checked
    have storable := verifyCredentialOffline_storable loaded offline
    have mismatch : (py "credential-serial-mismatch").all Code.storable = true := by decide
    have extended : ∀ failure ∈ reasons ++ [py "credential-serial-mismatch"],
        failure.all Code.storable = true := by
      intro failure member
      rcases List.mem_append.mp member with reason | last
      · exact storable failure reason
      · exact List.mem_singleton.mp last ▸ mismatch
    split at checked
    · cases checked
      split
      · exact storable
      · exact extended
    · cases checked
      exact extended

/-- Joined storable texts are storable. -/
theorem join_storable {separator : PyStr} (separates : separator.all Code.storable = true)
    {texts : List PyStr} (each : ∀ text ∈ texts, text.all Code.storable = true) :
    (PyStr.join separator texts).all Code.storable = true := by
  induction texts with
  | nil => rfl
  | cons text rest inductionHypothesis =>
    have first := each text List.mem_cons_self
    have others := inductionHypothesis (fun other member => each other (List.mem_cons_of_mem _ member))
    cases rest with
    | nil => exact first
    | cons next remaining =>
      rw [PyStr.join, List.all_append, List.all_append, first, separates, others]
      · rfl
      · simp

end Credential

end TaxStamps.Attempts
