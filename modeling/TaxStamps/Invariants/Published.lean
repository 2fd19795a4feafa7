import TaxStamps.Invariants.Stamps

/-!
# Published status lists

The snapshots of a purpose are numbered from one without gaps, so the newest is
the last. Its list, parsed back from the JSONB column, shows a set of marked
indexes; publishing a flag marks one more index and nothing else.
-/

namespace TaxStamps.StatusLists

variable {env : Env} {db : Db}

section Storable

/-- Stripping slashes keeps a text storable. -/
theorem rstripSlash_storable {text : PyStr} (storable : text.all Code.storable = true) :
    (rstripSlash text).all Code.storable = true := by
  rw [List.all_eq_true] at storable ⊢
  intro code member
  rw [rstripSlash, List.mem_reverse] at member
  exact storable code (List.mem_reverse.mp ((List.dropWhile_sublist _).subset member))

/-- The identifier of a list can be stored. -/
theorem listCredentialId_storable (settings : Settings) {purpose : PyStr}
    (storable : purpose.all Code.storable = true) :
    (listCredentialId settings purpose).all Code.storable = true := by
  have base : (if (rstripSlash settings.statusListBaseUrl).isEmpty then py "urn:blueeconomy:taxstamps"
      else rstripSlash settings.statusListBaseUrl).all Code.storable = true := by
    split
    · decide
    · exact rstripSlash_storable settings.statusListBaseUrl_storable
  have middle : (py "/status-list/").all Code.storable = true := by decide
  simp only [listCredentialId, List.all_append, base, middle, storable, Bool.and_true]

/-- The verification method can be stored. -/
theorem verificationMethod_storable (settings : Settings) :
    (verificationMethod settings).all Code.storable = true := by
  have separator : (py "#ed25519-").all Code.storable = true := by decide
  have keyId : kid.all Code.storable = true := by decide
  simp only [verificationMethod, List.all_append, settings.issuerDid_storable, separator, keyId,
    Bool.and_true]

/-- The purposes can be stored. -/
theorem purpose_storable {purpose : PyStr} (known : purpose ∈ purposes) :
    purpose.all Code.storable = true := by
  have each : ∀ purpose ∈ purposes, purpose.all Code.storable = true := by decide
  exact each purpose known

end Storable

section Rows

/-- The snapshots of a purpose, in a table of snapshots. -/
def rowsOf (purpose : PyStr) (snapshots : List StatusListSnapshot) : List StatusListSnapshot :=
  snapshots.filter (fun row => decide (row.purpose = purpose))

/-- A snapshot of the purpose is its last row. -/
theorem rowsOf_same {purpose : PyStr} {row : StatusListSnapshot} (same : row.purpose = purpose)
    (snapshots : List StatusListSnapshot) :
    rowsOf purpose (snapshots ++ [row]) = rowsOf purpose snapshots ++ [row] := by
  simp [rowsOf, same]

/-- A snapshot of another purpose is no row of it. -/
theorem rowsOf_other {purpose : PyStr} {row : StatusListSnapshot} (other : row.purpose ≠ purpose)
    (snapshots : List StatusListSnapshot) :
    rowsOf purpose (snapshots ++ [row]) = rowsOf purpose snapshots := by
  simp [rowsOf, other]

/-- A row with a greater version than all before it is the newest. -/
theorem newest_append {rows : List StatusListSnapshot} {row : StatusListSnapshot}
    (greater : ∀ other ∈ rows, other.version < row.version) : newest (rows ++ [row]) = some row := by
  induction rows with
  | nil => rfl
  | cons first rest inductionHypothesis =>
    have later : newest (rest ++ [row]) = some row :=
      inductionHypothesis (fun other member => greater other (List.mem_cons_of_mem _ member))
    rw [List.cons_append, newest, later]
    exact if_pos (greater first List.mem_cons_self)

/-- Versions 1, 2, ... in the order of publication. -/
def Numbered (rows : List StatusListSnapshot) : Prop :=
  rows.map StatusListSnapshot.version = (List.range rows.length).map (fun position : Nat => (position : Int) + 1)

/-- A version is no greater than the number of rows. -/
theorem Numbered.bounded {rows : List StatusListSnapshot} (numbered : Numbered rows)
    {row : StatusListSnapshot} (member : row ∈ rows) : row.version ≤ rows.length := by
  have listed : row.version ∈ rows.map StatusListSnapshot.version := List.mem_map_of_mem member
  rw [numbered] at listed
  obtain ⟨position, bounded, same⟩ := List.mem_map.mp listed
  have := List.mem_range.mp bounded
  omega

/-- A further row is numbered when its version is the next. -/
theorem numbered_append {rows : List StatusListSnapshot} {row : StatusListSnapshot} :
    Numbered (rows ++ [row]) ↔ Numbered rows ∧ row.version = rows.length + 1 := by
  rw [Numbered, Numbered, List.map_append, List.length_append, List.length_singleton,
    List.range_succ, List.map_append]
  constructor
  · intro same
    obtain ⟨front, back⟩ := List.append_inj' same rfl
    exact ⟨front, by simpa using back⟩
  · rintro ⟨front, back⟩
    rw [front]
    simp [back]

/-- The newest of numbered snapshots is the last, and its version is their number. -/
theorem Numbered.newest {rows : List StatusListSnapshot} (numbered : Numbered rows) :
    newest rows = rows.getLast? ∧ ∀ row, rows.getLast? = some row → row.version = rows.length := by
  rcases List.eq_nil_or_concat rows with rfl | ⟨front, row, rfl⟩
  · constructor
    · rfl
    · intro row absent
      cases absent
  · rw [List.concat_eq_append] at numbered ⊢
    obtain ⟨earlier, version⟩ := numbered_append.mp numbered
    constructor
    · rw [List.getLast?_append_of_ne_nil _ (List.cons_ne_nil _ _), List.getLast?_singleton]
      apply newest_append
      intro other member
      have bounded := earlier.bounded member
      omega
    · intro last found
      rw [List.getLast?_append_of_ne_nil _ (List.cons_ne_nil _ _), List.getLast?_singleton] at found
      obtain rfl := Option.some.inj found
      simp [version]

/-- The latest snapshot is the last row. -/
theorem Numbered.latest {purpose : PyStr}
    (numbered : Numbered (rowsOf purpose db.statusListSnapshots)) :
    latest purpose db = (rowsOf purpose db.statusListSnapshots).getLast? := numbered.newest.1

/-- The next version continues the numbering. -/
theorem Numbered.next {purpose : PyStr}
    (numbered : Numbered (rowsOf purpose db.statusListSnapshots)) :
    nextVersion purpose db = (rowsOf purpose db.statusListSnapshots).length + 1 := by
  unfold nextVersion
  rw [numbered.latest]
  split
  case _ absent =>
    rw [List.getLast?_eq_none_iff] at absent
    simp [absent]
  case _ row found => rw [numbered.newest.2 row found]

end Rows

section Shown

/-- The last snapshot of a purpose parses to a list in which exactly the marked
indexes are set. Without a snapshot nothing is marked. -/
structure Shows (env : Env) (purpose : PyStr) (rows : List StatusListSnapshot) (marked : Nat → Prop) :
    Prop where
  unpublished : rows = [] → ∀ index < defaultListSizeBits, ¬ marked index
  published : ∀ row, rows.getLast? = some row → ∃ list,
    StatusList.parse env row.credential = .ok (purpose, list) ∧ list.sizeBits = defaultListSizeBits ∧
    ∀ index < defaultListSizeBits, list.bit index = true ↔ marked index

/-- What is shown depends on the marks alone. -/
theorem Shows.congr {purpose : PyStr} {rows : List StatusListSnapshot} {marked other : Nat → Prop}
    (shows : Shows env purpose rows marked) (same : ∀ index, other index ↔ marked index) :
    Shows env purpose rows other := by
  constructor
  · intro empty index bounded
    rw [same]
    exact shows.unpublished empty index bounded
  · intro row last
    obtain ⟨list, parsed, standard, bits⟩ := shows.published row last
    refine ⟨list, parsed, standard, ?_⟩
    intro index bounded
    rw [bits index bounded, same]

/-- A purpose whose snapshots are numbered and show the marked indexes. -/
structure Tracks (env : Env) (purpose : PyStr) (snapshots : List StatusListSnapshot)
    (marked : Nat → Prop) : Prop where
  numbered : Numbered (rowsOf purpose snapshots)
  shown : Shows env purpose (rowsOf purpose snapshots) marked

/-- The current list is the list that is shown. -/
theorem Tracks.current {purpose : PyStr} {marked : Nat → Prop} {list : StatusList}
    (tracks : Tracks env purpose db.statusListSnapshots marked)
    (current : currentList env purpose db = .ok list) :
    list.sizeBits = defaultListSizeBits ∧
      ∀ index < defaultListSizeBits, list.bit index = true ↔ marked index := by
  unfold currentList at current
  rw [tracks.numbered.latest] at current
  split at current
  case _ absent =>
    cases current
    rw [List.getLast?_eq_none_iff] at absent
    refine ⟨rfl, ?_⟩
    intro index bounded
    simp [tracks.shown.unpublished absent index bounded]
  case _ row last =>
    obtain ⟨shown, parsed, standard, bits⟩ := tracks.shown.published row last
    rw [parsed] at current
    cases current
    exact ⟨standard, bits⟩

/-- A list of the standard size that was published is parsed back. -/
theorem Published.parsed {purpose : PyStr} {version : Int} {list : StatusList}
    {row : StatusListSnapshot} (published : Published env db purpose version list row)
    (standard : list.sizeBits = defaultListSizeBits) :
    StatusList.parse env row.credential = .ok (purpose, list) := by
  obtain ⟨now, signed, built, stored⟩ := published.credential
  have known : purpose ∈ purposes := by
    by_contra unknown
    simp [StatusList.build, unknown] at built
  have issued := built
  unfold StatusList.build at issued
  rw [if_pos known] at issued
  split at issued
  · cases issued
  · have wellFormed := Value.plain_wellFormed (Vc.signed_plain issued
      (StatusList.document_plain env list (listCredentialId_storable env.settings
        (purpose_storable known)) (purpose_storable known) (Datetime.isoSeconds_storable now))
      (verificationMethod_storable env.settings) (Datetime.isoSeconds_storable now))
    exact StatusList.parse_stored env built standard (env.jsonb_restores _ _ wellFormed stored).1

/-- Publishing a flag marks its index and nothing else. -/
theorem Tracks.flag {purpose : PyStr} {marked : Nat → Prop} {list : StatusList} {index : Nat}
    {row : StatusListSnapshot} (tracks : Tracks env purpose db.statusListSnapshots marked)
    (current : currentList env purpose db = .ok list) (bounded : index < list.sizeBits)
    (published : Published env db purpose (nextVersion purpose db) (list.write index true) row) :
    Tracks env purpose (db.statusListSnapshots ++ [row]) (fun other => other = index ∨ marked other) := by
  obtain ⟨standard, bits⟩ := tracks.current current
  have sized : (list.write index true).sizeBits = defaultListSizeBits := standard
  constructor
  · rw [rowsOf_same published.ofPurpose, numbered_append]
    exact ⟨tracks.numbered, published.numbered.trans tracks.numbered.next⟩
  · rw [rowsOf_same published.ofPurpose]
    constructor
    · intro empty
      simp at empty
    · intro last found
      rw [List.getLast?_append_of_ne_nil _ (List.cons_ne_nil _ _), List.getLast?_singleton] at found
      obtain rfl := Option.some.inj found
      refine ⟨list.write index true, published.parsed sized, sized, ?_⟩
      intro other inside
      rw [StatusList.bit_write list bounded other]
      by_cases same : other = index
      · simp [same]
      · simp [same, bits other inside]

/-- A snapshot of another purpose changes nothing. -/
theorem Tracks.frame {purpose : PyStr} {marked : Nat → Prop} {snapshots : List StatusListSnapshot}
    {row : StatusListSnapshot} (tracks : Tracks env purpose snapshots marked)
    (other : row.purpose ≠ purpose) : Tracks env purpose (snapshots ++ [row]) marked := by
  constructor
  · rw [rowsOf_other other]
    exact tracks.numbered
  · rw [rowsOf_other other]
    exact tracks.shown

/-- What is tracked depends on the marks alone. -/
theorem Tracks.congr {purpose : PyStr} {snapshots : List StatusListSnapshot} {marked other : Nat → Prop}
    (tracks : Tracks env purpose snapshots marked) (same : ∀ index, other index ↔ marked index) :
    Tracks env purpose snapshots other := ⟨tracks.numbered, tracks.shown.congr same⟩

end Shown

end TaxStamps.StatusLists
