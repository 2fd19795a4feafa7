import TaxStamps.Invariants.Mirror
import TaxStamps.Invariants.Accepts
import TaxStamps.Library.Sessions

/-!
# Concurrent flags

A transaction that sets a flag copies the latest list of its purpose, and asks for
the latest version in a second statement. Another transaction may publish a list in
between: the key of the table then rejects nothing, and the copy, published under the
later version, lacks the other flag. A version that follows the copied list keeps
every flag.
-/

namespace TaxStamps.Flags

open StatusLists Mirror

/-- A call of `set_flag`. -/
structure Flag where
  occasion : Occasion
  purpose : PyStr
  index : Nat

/-- The snapshots, and the flags that were committed with the versions that published
them. -/
structure Ledger where
  snapshots : List StatusListSnapshot
  flagged : List (Flag × Int)

/-- The tables as the statements of `set_flag` see them. -/
def Ledger.db (ledger : Ledger) : Db := { Db.empty with statusListSnapshots := ledger.snapshots }

/-- Between the statements of `set_flag`, and until the end of its transaction. -/
inductive Stage
  | called (flag : Flag)
  /-- It has its copy with the new bit. The copied list is followed by this version. -/
  | copied (flag : Flag) (list : StatusList) (follows : Int)
  | numbered (flag : Flag) (list : StatusList) (follows version : Int)
  | inserted (flag : Flag) (row : StatusListSnapshot)

/-- The row becomes visible. -/
def Ledger.commit (ledger : Ledger) (flag : Flag) (row : StatusListSnapshot) : Ledger :=
  ⟨ledger.snapshots ++ [row], ledger.flagged ++ [(flag, row.version)]⟩

/-- The statements of a session. The insertion is checked against the rows that are
committed, once no open transaction has inserted its key. -/
inductive Acts (env : Env) (ledger : Ledger) : Stage → Ledger → Option Stage → Prop
  | copy {flag : Flag} {list marked : StatusList} (known : flag.purpose ∈ purposes)
      (current : currentList env flag.purpose ledger.db = .ok list)
      (set : list.set flag.index true = .ok marked) :
      Acts env ledger (.called flag) ledger
        (some (.copied flag marked (nextVersion flag.purpose ledger.db)))
  | number {flag : Flag} {list : StatusList} {follows : Int} :
      Acts env ledger (.copied flag list follows) ledger
        (some (.numbered flag list follows (nextVersion flag.purpose ledger.db)))
  | insert {flag : Flag} {list : StatusList} {follows version : Int} {row : StatusListSnapshot} {after : Db}
      (published : publish env flag.occasion flag.purpose version list ledger.db = .ok after)
      (stored : after.statusListSnapshots = ledger.snapshots ++ [row]) :
      Acts env ledger (.numbered flag list follows version) ledger (some (.inserted flag row))
  | commit {flag : Flag} {row : StatusListSnapshot} :
      Acts env ledger (.inserted flag row) (ledger.commit flag row) none

/-- An inserted row holds its key. -/
def holdsKey : Stage → PyStr × Int → Prop
  | .inserted _ row, lock => lock = (row.purpose, row.version)
  | _, _ => False

/-- Any number of calls. -/
def protocol (env : Env) : Sessions.Protocol Ledger Stage (PyStr × Int) where
  begins stage := ∃ flag, stage = .called flag
  acts := Acts env
  holds := holdsKey

/-- The version that a session is given follows the list that it copied. -/
def Follows (ledger : Ledger) : Stage → Prop
  | .copied flag _ follows => nextVersion flag.purpose ledger.db = follows
  | _ => True

/-- The snapshot shows the bit of an index. -/
def Shown (env : Env) (row : StatusListSnapshot) (index : Nat) : Prop :=
  ∃ list, StatusList.parse env row.credential = .ok (row.purpose, list) ∧ list.get index = .ok true

variable {env : Env} {db : Db} {ledger later : Ledger} {flag : Flag} {row : StatusListSnapshot}
  {list : StatusList} {before : PyStr → Nat → Prop} {purpose : PyStr} {index : Nat}

section Lists

/-- The bits of a list with one more bit. -/
theorem get_write (bounded : index < list.sizeBits) {other : Nat}
    (set : other = index ∨ list.get other = .ok true) : (list.write index true).get other = .ok true := by
  rcases set with rfl | shown
  · have inside : other < (list.write other true).sizeBits := bounded
    rw [StatusList.get_natural inside, StatusList.bit_write list bounded]
    simp
  · have inside : other < list.sizeBits := by
      by_contra beyond
      have outside : ¬ ((0 : Int) ≤ other ∧ (other : Int) < list.sizeBits) := by omega
      rw [StatusList.get, StatusList.checkIndex, if_neg outside] at shown
      cases shown
    rw [StatusList.get_natural inside] at shown
    have same : other < (list.write index true).sizeBits := inside
    rw [StatusList.get_natural same, StatusList.bit_write list bounded,
      Except.ok.inj shown, Bool.or_true]

end Lists

section Owed

/-- The bits that a list of the purpose must have: those published at the start, and
those of the committed flags. -/
def Owed (before : PyStr → Nat → Prop) (ledger : Ledger) (purpose : PyStr) (index : Nat) : Prop :=
  before purpose index ∨ ∃ flag version, (flag, version) ∈ ledger.flagged ∧
    flag.purpose = purpose ∧ flag.index = index

/-- A list of the usual size with the owed bits. -/
structure Covers (before : PyStr → Nat → Prop) (ledger : Ledger) (purpose : PyStr) (list : StatusList) :
    Prop where
  standard : list.sizeBits = defaultListSizeBits
  owed : ∀ index, Owed before ledger purpose index → list.get index = .ok true

/-- A flag is shown by its own version and by all later ones. -/
structure Kept (env : Env) (ledger : Ledger) (flag : Flag) (version : Int) : Prop where
  stored : version < nextVersion flag.purpose ledger.db
  shown : ∀ row ∈ ledger.snapshots, row.purpose = flag.purpose → version ≤ row.version →
    Shown env row flag.index

/-- Versions count from one, the current lists have the owed bits, and flags are kept. -/
structure Good (env : Env) (before : PyStr → Nat → Prop) (ledger : Ledger) : Prop where
  numbered : ∀ purpose, Numbered (rowsOf purpose ledger.snapshots)
  current : ∀ purpose, ∃ list, currentList env purpose ledger.db = .ok list ∧ Covers before ledger purpose list
  kept : ∀ flag version, (flag, version) ∈ ledger.flagged → Kept env ledger flag version

/-- The next version of a purpose is one more than its snapshots. -/
theorem Good.next (good : Good env before ledger) (purpose : PyStr) :
    nextVersion purpose ledger.db = (rowsOf purpose ledger.snapshots).length + 1 :=
  @Numbered.next ledger.db purpose (good.numbered purpose)

/-- What a session knows. Its copy has its own bit and, unless a version was published
since, all owed bits. -/
structure Copy (before : PyStr → Nat → Prop) (ledger : Ledger) (flag : Flag) (list : StatusList)
    (follows : Int) : Prop where
  standard : list.sizeBits = defaultListSizeBits
  own : list.get flag.index = .ok true
  positive : 0 < follows
  past : follows ≤ nextVersion flag.purpose ledger.db
  owed : nextVersion flag.purpose ledger.db = follows → Covers before ledger flag.purpose list

/-- A row that is about to be committed. -/
structure Pending (env : Env) (before : PyStr → Nat → Prop) (ledger : Ledger) (flag : Flag)
    (row : StatusListSnapshot) (list : StatusList) : Prop where
  purpose : row.purpose = flag.purpose
  version : row.version = nextVersion flag.purpose ledger.db
  parsed : StatusList.parse env row.credential = .ok (row.purpose, list)
  own : list.get flag.index = .ok true
  owed : Covers before ledger flag.purpose list

/-- What a transaction knows after each of its statements. -/
def Sound (env : Env) (before : PyStr → Nat → Prop) (ledger : Ledger) : Stage → Prop
  | .called _ => True
  | .copied flag list follows => Copy before ledger flag list follows
  | .numbered flag list follows version => version = follows ∧ Copy before ledger flag list follows
  | .inserted flag row => ∃ list, Pending env before ledger flag row list

end Owed

section Commit

/-- A snapshot of another purpose leaves the latest one. -/
theorem latest_other (other : row.purpose ≠ purpose) :
    latest purpose (ledger.commit flag row).db = latest purpose ledger.db :=
  congrArg newest (rowsOf_other other ledger.snapshots)

/-- A snapshot of another purpose leaves the next version. -/
theorem nextVersion_other (other : row.purpose ≠ purpose) :
    nextVersion purpose (ledger.commit flag row).db = nextVersion purpose ledger.db := by
  rw [nextVersion, latest_other other, nextVersion]

/-- A snapshot of another purpose leaves the current list. -/
theorem currentList_other (other : row.purpose ≠ purpose) :
    currentList env purpose (ledger.commit flag row).db = currentList env purpose ledger.db := by
  rw [currentList, latest_other other, currentList]

/-- Only the purpose of a flag owes it. -/
theorem owed_commit : Owed before (ledger.commit flag row) purpose index ↔
    Owed before ledger purpose index ∨ (flag.purpose = purpose ∧ flag.index = index) := by
  simp only [Owed, Ledger.commit, List.mem_append, List.mem_singleton, Prod.mk.injEq, or_and_right,
    exists_or, or_assoc]
  simp

/-- A flag of another purpose owes a list nothing. -/
theorem Covers.other (covers : Covers before ledger purpose list) (other : flag.purpose ≠ purpose) :
    Covers before (ledger.commit flag row) purpose list := by
  refine ⟨covers.standard, fun index owed => ?_⟩
  rcases owed_commit.mp owed with old | ⟨same, _⟩
  · exact covers.owed index old
  · exact absurd same other

variable (good : Good env before ledger) (pending : Pending env before ledger flag row list)

include good pending

/-- The committed row is the newest of its purpose. -/
theorem Pending.latest : latest flag.purpose (ledger.commit flag row).db = some row := by
  have next := pending.version.trans (good.next flag.purpose)
  have rows : ofPurpose flag.purpose (ledger.commit flag row).db =
      rowsOf flag.purpose ledger.snapshots ++ [row] := rowsOf_same pending.purpose ledger.snapshots
  rw [StatusLists.latest, rows]
  apply newest_append
  intro other member
  have bounded := (good.numbered flag.purpose).bounded member
  have number : row.version = (rowsOf flag.purpose ledger.snapshots).length + 1 := next
  omega

/-- The committed row takes the next version of its purpose. -/
theorem Pending.next : nextVersion flag.purpose (ledger.commit flag row).db =
    nextVersion flag.purpose ledger.db + 1 := by
  rw [nextVersion, pending.latest good]
  exact congrArg (· + 1) pending.version

/-- A commit numbers on, has all owed bits in its list, and keeps the earlier flags. -/
theorem Pending.keeps : Good env before (ledger.commit flag row) := by
  have covers : Covers before (ledger.commit flag row) flag.purpose list := by
    refine ⟨pending.owed.standard, fun index owed => ?_⟩
    rcases owed_commit.mp owed with old | ⟨_, rfl⟩
    · exact pending.owed.owed index old
    · exact pending.own
  constructor
  case numbered =>
    intro purpose
    by_cases same : row.purpose = purpose
    · subst same
      have number : row.version = (rowsOf row.purpose ledger.snapshots).length + 1 := by
        rw [pending.version, ← pending.purpose]
        exact good.next row.purpose
      rw [Ledger.commit, rowsOf_same rfl, numbered_append]
      exact ⟨good.numbered row.purpose, number⟩
    · rw [Ledger.commit, rowsOf_other same]
      exact good.numbered purpose
  case current =>
    intro purpose
    by_cases same : row.purpose = purpose
    · rw [pending.purpose] at same
      subst same
      refine ⟨list, ?_, covers⟩
      rw [currentList, pending.latest good]
      simp only [pending.parsed, Result.ok_bind]
    · obtain ⟨shown, current, owed⟩ := good.current purpose
      rw [currentList_other same]
      exact ⟨shown, current, owed.other (fun equal => same (pending.purpose.trans equal))⟩
  case kept =>
    intro earlier version member
    rcases List.mem_append.mp member with old | new
    · have kept := good.kept earlier version old
      constructor
      · by_cases same : row.purpose = earlier.purpose
        · have stored := kept.stored
          rw [← same, pending.purpose] at stored ⊢
          rw [pending.next good]
          omega
        · rw [nextVersion_other same]
          exact kept.stored
      · intro shown listed same since
        rcases List.mem_append.mp listed with present | added
        · exact kept.shown shown present same since
        · obtain rfl := List.mem_singleton.mp added
          exact ⟨list, pending.parsed, pending.owed.owed earlier.index
            (Or.inr ⟨earlier, version, old, same.symm.trans pending.purpose, rfl⟩)⟩
    · obtain ⟨rfl, rfl⟩ := Prod.mk.inj (List.mem_singleton.mp new)
      constructor
      · rw [pending.next good, pending.version]
        omega
      · intro shown listed same since
        rcases List.mem_append.mp listed with present | added
        · have bounded := (good.numbered earlier.purpose).bounded
            (List.mem_filter.mpr ⟨present, decide_eq_true same⟩)
          rw [pending.version, good.next] at since
          omega
        · obtain rfl := List.mem_singleton.mp added
          exact ⟨list, pending.parsed, pending.own⟩

omit pending in
/-- What other sessions know survives a commit. -/
theorem Pending.copy {other : Flag} {copied : StatusList} {follows : Int}
    (pending : Pending env before ledger flag row list) (copy : Copy before ledger other copied follows) :
    Copy before (ledger.commit flag row) other copied follows := by
  by_cases same : row.purpose = other.purpose
  · have next : nextVersion other.purpose (ledger.commit flag row).db =
        nextVersion other.purpose ledger.db + 1 := by
      rw [← same, pending.purpose]
      exact pending.next good
    have past := copy.past
    exact ⟨copy.standard, copy.own, copy.positive, by omega, fun absurdity => by omega⟩
  · refine ⟨copy.standard, copy.own, copy.positive, ?_, fun follows => ?_⟩
    · rw [nextVersion_other same]
      exact copy.past
    · rw [nextVersion_other same] at follows
      exact (copy.owed follows).other (fun equal => same (pending.purpose.trans equal))

end Commit

section Statements

/-- A copy of the current list. -/
theorem copied (good : Good env before ledger) {marked : StatusList}
    (current : currentList env flag.purpose ledger.db = .ok list)
    (set : list.set flag.index true = .ok marked) :
    Copy before ledger flag marked (nextVersion flag.purpose ledger.db) := by
  obtain ⟨bounded, rfl⟩ := StatusList.set_ok set
  obtain ⟨_, same, covers⟩ := good.current flag.purpose
  obtain rfl := Except.ok.inj (current.symm.trans same)
  constructor
  · exact covers.standard
  · exact get_write bounded (Or.inl rfl)
  · rw [good.next]
    omega
  · exact Int.le_refl _
  · exact fun _ => ⟨covers.standard, fun index owed => get_write bounded (Or.inr (covers.owed index owed))⟩

/-- An inserted row continues the numbering, since the earlier versions are taken. -/
theorem inserted (good : Good env before ledger) {follows : Int} {after : Db}
    (copy : Copy before ledger flag list follows)
    (published : publish env flag.occasion flag.purpose follows list ledger.db = .ok after)
    (stored : after.statusListSnapshots = ledger.snapshots ++ [row]) :
    ∃ list, Pending env before ledger flag row list := by
  obtain ⟨new, accepted, rfl⟩ := publish_ok published
  obtain rfl : new = row := List.singleton_inj.mp (List.append_cancel_left stored)
  have current : nextVersion flag.purpose ledger.db = follows := by
    have past := copy.past
    have positive := copy.positive
    by_contra later
    rw [good.next] at past later
    have taken : follows ∈ (rowsOf flag.purpose ledger.snapshots).map StatusListSnapshot.version := by
      rw [good.numbered flag.purpose, List.mem_map]
      exact ⟨(follows - 1).toNat, List.mem_range.mpr (by omega), by omega⟩
    obtain ⟨other, listed, same⟩ := List.mem_map.mp taken
    obtain ⟨member, ofPurpose⟩ := List.mem_filter.mp listed
    exact accepted.unique other member (of_decide_eq_true ofPurpose) same
  have parsed := accepted.parsed copy.standard
  rw [← accepted.ofPurpose] at parsed
  exact ⟨list, accepted.ofPurpose, accepted.numbered.trans current.symm, parsed, copy.own, copy.owed current⟩

/-- With versions that follow the copied lists, every statement keeps the flags. -/
theorem rule (env : Env) (before : PyStr → Nat → Prop) :
    Sessions.Rule ((protocol env).allowing Follows) (Good env before) (Sound env before) := by
  constructor
  case begins =>
    rintro ledger stage _ ⟨flag, rfl⟩
    trivial
  case acts =>
    rintro ledger stage later next good sound ⟨acts, follows⟩
    cases acts with
    | copy known current set =>
      refine ⟨good, ?_⟩
      rintro _ ⟨⟩
      exact copied good current set
    | number =>
      refine ⟨good, ?_⟩
      rintro _ ⟨⟩
      exact ⟨follows, sound⟩
    | insert published stored =>
      refine ⟨good, ?_⟩
      rintro _ ⟨⟩
      obtain ⟨rfl, copy⟩ := sound
      exact inserted good copy published stored
    | commit =>
      obtain ⟨list, pending⟩ := sound
      exact ⟨pending.keeps good, fun _ absurdity => by cases absurdity⟩
  case stable =>
    rintro ledger stage later next other good sound ⟨acts, _⟩ otherSound apart
    cases acts with
    | copy => exact otherSound
    | number => exact otherSound
    | insert => exact otherSound
    | @commit flag row =>
      obtain ⟨list, pending⟩ := sound
      cases other with
      | called => trivial
      | copied => exact pending.copy good otherSound
      | numbered => exact ⟨otherSound.1, pending.copy good otherSound.2⟩
      | inserted rival held =>
        obtain ⟨shown, waiting⟩ := otherSound
        -- two open rows of one purpose would have one key
        have different : row.purpose ≠ rival.purpose := by
          intro same
          have number : row.version = held.version := by
            rw [pending.version, waiting.version, ← same, pending.purpose]
          have purposes : row.purpose = held.purpose := same.trans waiting.purpose.symm
          exact apart (row.purpose, row.version) rfl (by rw [purposes, number]; rfl)
        refine ⟨shown, waiting.purpose, ?_, waiting.parsed, waiting.own, ?_⟩
        · rw [nextVersion_other different]
          exact waiting.version
        · exact waiting.owed.other (fun equal => different (pending.purpose.trans equal))

end Statements

section Runs

variable {world : Sessions.World Ledger Stage}

/-- In the service's own runs the lists are numbered and can be read. -/
theorem good_reachable (reached : Api.Reachable env db) :
    Good env (PublishedBit env db) ⟨db.statusListSnapshots, []⟩ := by
  have mirrored := Mirror.valid reached
  constructor
  case numbered =>
    intro purpose
    obtain ⟨marked, tracks, _⟩ := mirrored.tracked purpose
    exact tracks.numbered
  case current =>
    intro purpose
    obtain ⟨marked, tracks, _⟩ := mirrored.tracked purpose
    obtain ⟨list, current⟩ := tracks.readable
    obtain ⟨standard, bits⟩ := tracks.current current
    refine ⟨list, current, standard, fun index owed => ?_⟩
    rcases owed with published | ⟨_, _, absent, _⟩
    · have bounded := published.bounded tracks
      rw [StatusList.get_natural (by omega)]
      exact congrArg Except.ok ((bits index bounded).mpr ((publishedBit_iff tracks bounded).mp published))
    · cases absent
  case kept =>
    intro _ _ absent
    cases absent

/-- When each version follows the list that was copied, no flag is lost: a committed flag
is shown by every snapshot of its purpose from its own version on, and the current lists
can be read and have all bits that were published before. -/
theorem flags_kept (reached : Api.Reachable env db)
    (run : Sessions.Reachable ((protocol env).allowing Follows) ⟨db.statusListSnapshots, []⟩ world) :
    (∀ flag version, (flag, version) ∈ world.shared.flagged → ∀ row ∈ world.shared.snapshots,
      row.purpose = flag.purpose → version ≤ row.version → Shown env row flag.index) ∧
    ∀ purpose, ∃ list, currentList env purpose world.shared.db = .ok list ∧
      ∀ index, PublishedBit env db purpose index → list.get index = .ok true := by
  have good := ((rule env (PublishedBit env db)).reachable (good_reachable reached) run).1
  constructor
  · exact fun flag version member => (good.kept flag version member).shown
  · intro purpose
    obtain ⟨list, current, covers⟩ := good.current purpose
    exact ⟨list, current, fun index published => covers.owed index (Or.inl published)⟩

end Runs

section Sample

/-- Two calls that flag different stamps. -/
def first : Flag := ⟨Api.Sample.occasion, py "void", 0⟩

/-- A second flag of the same purpose. -/
def second : Flag := ⟨Api.Sample.occasion, py "void", 1⟩

/-- Nothing is published. -/
def blank : Ledger := ⟨[], []⟩

/-- A call copies the list of a purpose without snapshots. -/
theorem copies (env : Env) (flag : Flag) (known : flag.purpose ∈ purposes)
    (bounded : flag.index < defaultListSizeBits) :
    Acts env blank (.called flag) blank
      (some (.copied flag (StatusList.empty.write flag.index true) 1)) :=
  .copy known rfl (StatusList.set_natural bounded true)

/-- A row of a list under the first version. -/
structure Early (purpose : PyStr) (row : StatusListSnapshot) : Prop where
  purpose : row.purpose = purpose
  version : row.version = 1

/-- A list of a purpose without snapshots is published under the first version. -/
theorem publishes {ledger : Ledger} {flag : Flag} (none_ : rowsOf flag.purpose ledger.snapshots = [])
    (known : flag.purpose ∈ purposes) (list : StatusList) : ∃ row, Early flag.purpose row ∧
      publish .sample flag.occasion flag.purpose 1 list ledger.db =
        .ok { ledger.db with statusListSnapshots := ledger.snapshots ++ [row] } := by
  have first : nextVersion flag.purpose ledger.db = 1 := by
    have unpublished : latest flag.purpose ledger.db = none := congrArg newest none_
    rw [nextVersion, unpublished]
  have numbered : Numbered (rowsOf flag.purpose ledger.db.statusListSnapshots) := by
    have rows : rowsOf flag.purpose ledger.db.statusListSnapshots = [] := none_
    rw [rows]
    rfl
  obtain ⟨after, published⟩ := (@publish_iff .sample flag.occasion ledger.db flag.purpose numbered known
    list).mpr (by rw [first]; decide)
  obtain ⟨row, accepted, rfl⟩ := publish_ok published
  rw [first] at published accepted
  exact ⟨row, ⟨accepted.ofPurpose, accepted.numbered⟩, published⟩

/-- A call by itself where nothing is published. -/
theorem blank_alone {flag : Flag} (known : flag.purpose ∈ purposes) (bounded : flag.index < defaultListSizeBits) :
    ∃ row, Early flag.purpose row ∧
      Sessions.Alone ((protocol .sample).allowing Follows) blank (.called flag) (blank.commit flag row) := by
  obtain ⟨row, early, published⟩ := @publishes blank flag rfl known (StatusList.empty.write flag.index true)
  exact ⟨row, early, .next ⟨copies .sample flag known bounded, trivial⟩
    (.next ⟨.number, rfl⟩ (.next ⟨.insert published rfl, trivial⟩ (.last ⟨.commit, trivial⟩)))⟩

/-- The first call goes on, with the copy that it made before. -/
theorem first_resumes (early : Early (py "void") row) : ∃ late,
    StatusList.parse .sample late.credential = .ok (py "void", StatusList.empty.write first.index true) ∧
    late.purpose = py "void" ∧ late.version = 2 ∧
    Sessions.Alone (protocol .sample) (blank.commit second row)
      (.copied first (StatusList.empty.write first.index true) 1)
      ((blank.commit second row).commit first late) := by
  have rows : rowsOf (py "void") (blank.commit second row).snapshots = [row] := rowsOf_same early.purpose []
  have next : nextVersion first.purpose (blank.commit second row).db = 2 := by
    have newest : latest first.purpose (blank.commit second row).db = some row := congrArg newest rows
    rw [nextVersion, newest]
    exact congrArg (· + 1) early.version
  have numbered : Numbered (rowsOf (py "void") (blank.commit second row).snapshots) := by
    rw [rows, Numbered, List.map_singleton, early.version]
    rfl
  obtain ⟨after, published⟩ := (@publish_iff .sample first.occasion (blank.commit second row).db first.purpose
    numbered (by decide) (StatusList.empty.write first.index true)).mpr (by rw [next]; decide)
  obtain ⟨late, accepted, rfl⟩ := publish_ok published
  exact ⟨late, accepted.parsed rfl, accepted.ofPurpose, accepted.numbered.trans next,
    .next .number (.next (.insert published rfl) (.last .commit))⟩

/-- The first call copies, the second is committed, and the first publishes its copy
under the later version. -/
theorem flag_lost : ¬ ∀ (env : Env) (db : Db) (world : Sessions.World Ledger Stage), Api.Reachable env db →
    Sessions.Reachable (protocol env) ⟨db.statusListSnapshots, []⟩ world →
    ∀ flag version, (flag, version) ∈ world.shared.flagged → ∀ row ∈ world.shared.snapshots,
      row.purpose = flag.purpose → version ≤ row.version → Shown env row flag.index := by
  intro claimed
  obtain ⟨row, early, overtakes⟩ := @blank_alone second (by decide) (by decide)
  obtain ⟨late, parsed, purpose, version, resumes⟩ := first_resumes early
  have waits : Sessions.Runs (protocol .sample) blank (.called first) blank _ :=
    .next (copies .sample first (by decide) (by decide)) .here
  have reached : Sessions.Reachable (protocol .sample) blank _ :=
    Sessions.interleaved ⟨first, rfl⟩ waits (fun _ => not_false) ⟨second, rfl⟩ overtakes.forget resumes
  have shown := claimed .sample .empty _ .refl reached second row.version
    (List.mem_append_left _ (List.mem_singleton.mpr rfl)) late
    (List.mem_append_right _ (List.mem_singleton.mpr rfl)) purpose
    (by rw [early.version, version]; decide)
  obtain ⟨list, same, set⟩ := shown
  obtain rfl := (Prod.mk.inj (Except.ok.inj (parsed.symm.trans same))).2
  have unset : (StatusList.empty.write first.index true).get second.index = .ok false := by
    rw [StatusList.get_natural (by decide), StatusList.bit_write _ (by decide), StatusList.bit_empty]
    rfl
  cases unset.symm.trans set

/-- A call for another list. -/
def third : Flag := ⟨Api.Sample.occasion, py "suspect", 1⟩

/-- The first call copies, the third is committed, and the first publishes its copy, which
nothing was published after. Both flags are shown. -/
theorem flags_kept_sample : ∃ (row late : StatusListSnapshot),
    Sessions.Reachable ((protocol .sample).allowing Follows) blank
      (Sessions.World.start ((blank.commit third row).commit first late)) ∧
    Shown .sample row third.index ∧ Shown .sample late first.index := by
  obtain ⟨row, early, overtakes⟩ := @blank_alone third (by decide) (by decide)
  have apart : row.purpose ≠ first.purpose := by
    rw [early.purpose]
    decide
  obtain ⟨late, own, published⟩ := @publishes (blank.commit third row) first (rowsOf_other apart [])
    (by decide) (StatusList.empty.write first.index true)
  have waits : Sessions.Runs ((protocol .sample).allowing Follows) blank (.called first) blank _ :=
    .next ⟨copies .sample first (by decide) (by decide), trivial⟩ .here
  have version : nextVersion first.purpose (blank.commit third row).db = 1 := nextVersion_other apart
  have numbers := @Acts.number .sample (blank.commit third row) first
    (StatusList.empty.write first.index true) 1
  rw [version] at numbers
  have resumes : Sessions.Alone ((protocol .sample).allowing Follows) (blank.commit third row)
      (.copied first (StatusList.empty.write first.index true) 1)
      ((blank.commit third row).commit first late) :=
    .next ⟨numbers, version⟩ (.next ⟨.insert published rfl, trivial⟩ (.last ⟨.commit, trivial⟩))
  have reached : Sessions.Reachable ((protocol .sample).allowing Follows) blank _ :=
    Sessions.interleaved ⟨first, rfl⟩ waits (fun _ => not_false) ⟨third, rfl⟩ overtakes resumes
  have kept := (flags_kept .refl reached).1
  have listed : (third, row.version) ∈ ((blank.commit third row).commit first late).flagged :=
    List.mem_append_left _ (List.mem_singleton.mpr rfl)
  exact ⟨row, late, reached,
    kept third row.version listed row (List.mem_append_left _ (List.mem_singleton.mpr rfl)) early.purpose le_rfl,
    kept first late.version (List.mem_append_right _ (List.mem_singleton.mpr rfl)) late
      (List.mem_append_right _ (List.mem_singleton.mpr rfl)) own.purpose le_rfl⟩

end Sample

end TaxStamps.Flags
