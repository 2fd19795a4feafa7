import TaxStamps.Invariants.Gate
import TaxStamps.Invariants.Velocity
import TaxStamps.Library.Sessions

/-!
# Concurrent scans, voids and activations

A scan or a void locks the row of its stamp and reads it afresh; an activation locks
the rows that it updates, one after another. Each reads the other tables at its own
time, so a commit is computed from the locked row and some state of everything else.
It writes the row and adds its attempt; a session may be aborted instead.
-/

namespace TaxStamps.FirstScan

open Lifecycle Relation

/-- The stamps, and the attempts recorded for them. -/
structure Register where
  stamps : List Stamp
  attempts : List Verification

/-- What is committed in a state of the database. -/
def Register.ofDb (db : Db) : Register := ⟨db.stamps, db.verifications⟩

/-- A scan of a serial and a void of one. -/
inductive Call
  | scan (occasion : Occasion) (scan : Verify.Scan) (serial : PyStr)
  | void (occasion : Occasion) (serial reason subject : PyStr)

/-- A transaction between its statements. -/
inductive Stage
  | called (call : Call)
  /-- It has the lock of a stamp, and the row as it is stored. -/
  | locked (call : Call) (stampId : Nat) (stamp : Stamp)
  /-- It has the locks of the rows that its update reached. -/
  | activating (batchId : Nat) (time : Datetime) (rows : List Nat)

/-- The call asks for this stamp. -/
def Names (env : Env) (stamp : Stamp) : Call → Prop
  | .scan _ _ serial => ∃ parts,
    Serials.parseSerial env.unicode (Serials.normalize env.unicode serial) = .ok parts ∧
      parts.serial = stamp.serial
  | .void _ serial _ _ => Serials.normalize env.unicode serial = stamp.serial

/-- What a call does with the locked row, in a state of the other tables. -/
def Decides (env : Env) (stampId : Nat) (stamp : Stamp) (view after : Db) : Call → Prop
  | .scan occasion scan serial => ∃ parts result,
    Serials.parseSerial env.unicode (Serials.normalize env.unicode serial) = .ok parts ∧
      Verify.verifyLocked env occasion scan parts.serial stampId stamp view = .ok (result, after)
  | .void occasion _ reason subject =>
    Verify.voidLocked env occasion reason subject stampId stamp view = .ok after

/-- The row and the attempts that a session commits. -/
def Register.commit (register : Register) (stampId : Nat) (view after : Db) : Register where
  stamps := match after.stamps[stampId]? with
    | some row => register.stamps.set stampId row
    | none => register.stamps
  attempts := register.attempts ++ after.verifications.drop view.verifications.length

/-- The rows that an activation commits. -/
def Register.activate (register : Register) (time : Datetime) (rows : List Nat) : Register :=
  { register with
    stamps := register.stamps.mapIdx (fun id stamp =>
      if id ∈ rows then { stamp with status := .active, activatedAt := some time } else stamp) }

/-- The statements of a session. -/
inductive Acts (env : Env) (register : Register) : Stage → Register → Option Stage → Prop
  | refuse {occasion : Occasion} {scan : Verify.Scan} {serial : PyStr} {row : Verification}
      (unmatched : row.stampId = none) (refused : row.outcome = .malformedSerial ∨ row.outcome = .unknownSerial) :
      Acts env register (.called (.scan occasion scan serial))
        { register with attempts := register.attempts ++ [row] } none
  | lock {call : Call} {stampId : Nat} {stamp : Stamp} (stored : register.stamps[stampId]? = some stamp)
      (named : Names env stamp call) :
      Acts env register (.called call) register (some (.locked call stampId stamp))
  | commit {call : Call} {stampId : Nat} {stamp : Stamp} {view after : Db}
      (current : view.stamps[stampId]? = some stamp) (decides : Decides env stampId stamp view after call) :
      Acts env register (.locked call stampId stamp) (register.commit stampId view after) none
  | reach {batchId : Nat} {time : Datetime} {rows : List Nat} {stampId : Nat} {stamp : Stamp}
      (stored : register.stamps[stampId]? = some stamp) (matching : Issuance.activates batchId stamp = true) :
      Acts env register (.activating batchId time rows) register
        (some (.activating batchId time (stampId :: rows)))
  | activate {batchId : Nat} {time : Datetime} {rows : List Nat} :
      Acts env register (.activating batchId time rows) (register.activate time rows) none

/-- A session starts with a call, or with the update of an activation. -/
inductive Begins : Stage → Prop
  | called (call : Call) : Begins (.called call)
  | activating (batchId : Nat) (time : Datetime) : Begins (.activating batchId time [])

/-- A scan or a void holds its stamp from the lock on, an activation the stamps that it
updates. -/
def holdsRow : Stage → Nat → Prop
  | .called _, _ => False
  | .locked _ stampId _, lock => lock = stampId
  | .activating _ _ rows, lock => lock ∈ rows

/-- Any number of scans, voids and activations. -/
def protocol (env : Env) : Sessions.Protocol Register Stage Nat where
  begins := Begins
  acts := Acts env
  holds := holdsRow

variable {env : Env} {db : Db} {register later : Register} {stampId : Nat} {stamp row : Stamp}

section Records

/-- The valid attempts of a stamp. -/
def winners (stampId : Nat) (attempts : List Verification) : List Verification :=
  attempts.filter (fun row => decide (row.stampId = some stampId ∧ row.outcome = .valid))

/-- The first scan of the stamp is this attempt. -/
structure Wins (attempt : Verification) (stamp : Stamp) : Prop where
  time : stamp.firstScanAt = some attempt.verifiedAt
  verifier : stamp.firstScanVerifier = attempt.verifierId
  lat : stamp.firstScanLatMicros = attempt.latMicros
  long : stamp.firstScanLongMicros = attempt.longMicros

/-- A stamp without a first scan has no valid attempt; one with a first scan has that
attempt and no other. -/
def Recorded (stampId : Nat) (stamp : Stamp) (attempts : List Verification) : Prop :=
  (stamp.firstScanAt = none ∧ winners stampId attempts = []) ∨
    ∃ attempt, winners stampId attempts = [attempt] ∧ Wins attempt stamp

/-- Stamps and attempts that fit together. -/
structure Good (register : Register) : Prop where
  shaped : ∀ stamp ∈ register.stamps, Shaped stamp
  recorded : ∀ (stampId : Nat) (stamp : Stamp), register.stamps[stampId]? = some stamp →
    Recorded stampId stamp register.attempts
  known : ∀ attempt ∈ register.attempts, attempt.outcome = .valid →
    ∃ stampId < register.stamps.length, attempt.stampId = some stampId

/-- A further attempt wins after the earlier ones. -/
theorem winners_append (stampId : Nat) (attempts : List Verification) (attempt : Verification) :
    winners stampId (attempts ++ [attempt]) = winners stampId attempts ++ winners stampId [attempt] :=
  List.filter_append ..

/-- An attempt at another stamp, or one that is not valid, does not win. -/
theorem winners_other {attempt : Verification} (other : attempt.stampId ≠ some stampId ∨ attempt.outcome ≠ .valid) :
    winners stampId [attempt] = [] := by
  rcases other with elsewhere | invalid
  · simp [winners, elsewhere]
  · simp [winners, invalid]

/-- The first scan is recorded as before. -/
structure SameScan (old row : Stamp) : Prop where
  time : row.firstScanAt = old.firstScanAt
  verifier : row.firstScanVerifier = old.firstScanVerifier
  lat : row.firstScanLatMicros = old.firstScanLatMicros
  long : row.firstScanLongMicros = old.firstScanLongMicros

/-- A row with the same first scan fits the same attempts. -/
theorem Recorded.same {attempts : List Verification} (recorded : Recorded stampId stamp attempts)
    (same : SameScan stamp row) : Recorded stampId row attempts := by
  rcases recorded with ⟨unscanned, none⟩ | ⟨attempt, one, wins⟩
  · exact Or.inl ⟨same.time.trans unscanned, none⟩
  · exact Or.inr ⟨attempt, one, same.time.trans wins.time, same.verifier.trans wins.verifier,
      same.lat.trans wins.lat, same.long.trans wins.long⟩

/-- A touched stamp is shaped as before, and a later version of itself. -/
theorem shaped_touched (shaped : Shaped stamp) (touched : Touched stamp row) :
    Shaped row ∧ LaterStamp stamp row := by
  rcases touched with rfl | moves
  · exact ⟨shaped, LaterStamp.refl row⟩
  · exact moves.later shaped

/-- The turn of a stamp: it keeps its first scan and no valid attempt is added, or the
one attempt that is added is its first scan. -/
inductive Turn (stampId : Nat) (stamp : Stamp) : Stamp → List Verification → Prop
  | keeps {row : Stamp} {extra : List Verification} (touched : Touched stamp row) (same : SameScan stamp row)
      (invalid : ∀ attempt ∈ extra, attempt.outcome ≠ .valid) : Turn stampId stamp row extra
  | wins {row : Stamp} {attempt : Verification} (moves : Moves stamp row) (unscanned : stamp.firstScanAt = none)
      (subject : attempt.stampId = some stampId) (valid : attempt.outcome = .valid) (wins : Wins attempt row) :
      Turn stampId stamp row [attempt]

/-- A turn touches its stamp. -/
theorem Turn.touched {extra : List Verification} (turn : Turn stampId stamp row extra) : Touched stamp row := by
  cases turn with
  | keeps touched => exact touched
  | wins moves => exact Or.inr moves

/-- Rows of stamps that are touched and keep their first scans. -/
theorem Good.carry (good : Good register) {stamps : List Stamp} (length : stamps.length = register.stamps.length)
    (carried : ∀ (id : Nat) (row : Stamp), stamps[id]? = some row →
      ∃ old, register.stamps[id]? = some old ∧ Touched old row ∧ SameScan old row) :
    Good ⟨stamps, register.attempts⟩ := by
  constructor
  · intro row member
    obtain ⟨id, stored⟩ := List.mem_iff_getElem?.mp member
    obtain ⟨old, present, touched, _⟩ := carried id row stored
    exact (shaped_touched (good.shaped old (List.mem_of_getElem? present)) touched).1
  · intro id row stored
    obtain ⟨old, present, _, same⟩ := carried id row stored
    exact (good.recorded id old present).same same
  · intro attempt member valid
    rw [length]
    exact good.known attempt member valid

/-- Attempts that are not valid change nothing. -/
theorem Good.attempt (good : Good register) {extra : List Verification}
    (invalid : ∀ attempt ∈ extra, attempt.outcome ≠ .valid) :
    Good ⟨register.stamps, register.attempts ++ extra⟩ := by
  have unchanged : ∀ id, winners id (register.attempts ++ extra) = winners id register.attempts := by
    intro id
    have none : winners id extra = [] := by
      rw [winners, List.filter_eq_nil_iff]
      intro attempt member counted
      exact invalid attempt member (of_decide_eq_true counted).2
    rw [winners, List.filter_append]
    exact (congrArg (winners id register.attempts ++ ·) none).trans (List.append_nil _)
  constructor
  · exact good.shaped
  · intro id row stored
    have recorded := good.recorded id row stored
    rwa [Recorded, ← unchanged id] at recorded
  · intro attempt member valid
    rcases List.mem_append.mp member with old | new
    · exact good.known attempt old valid
    · exact absurd valid (invalid attempt new)

/-- Fresh stamps have no attempts. -/
theorem Good.issue (good : Good register) {new : List Stamp} (fresh : ∀ row ∈ new, FreshRow row) :
    Good ⟨register.stamps ++ new, register.attempts⟩ := by
  constructor
  · intro row member
    rcases List.mem_append.mp member with old | added
    · exact good.shaped row old
    · exact (fresh row added).shaped
  · intro id row stored
    rcases Rows.stored_append_cases stored with old | ⟨beyond, added⟩
    · exact good.recorded id row old
    · refine Or.inl ⟨(fresh row (List.mem_of_getElem? added)).unscanned, ?_⟩
      rw [winners, List.filter_eq_nil_iff]
      intro attempt member counted
      obtain ⟨subject, valid⟩ := of_decide_eq_true counted
      obtain ⟨known, bound, named⟩ := good.known attempt member valid
      obtain rfl := Option.some.inj (named.symm.trans subject)
      exact absurd bound (Nat.not_lt.mpr beyond)
  · intro attempt member valid
    obtain ⟨id, bound, named⟩ := good.known attempt member valid
    exact ⟨id, by rw [List.length_append]; exact Nat.lt_add_right _ bound, named⟩

/-- One stamp takes its turn. -/
theorem Good.turn (good : Good register) (stored : register.stamps[stampId]? = some stamp)
    {extra : List Verification} (turn : Turn stampId stamp row extra) :
    Good ⟨register.stamps.set stampId row, register.attempts ++ extra⟩ := by
  have bound := (List.getElem?_eq_some_iff.mp stored).1
  have current : (register.stamps.set stampId row)[stampId]? = some row := List.getElem?_set_self bound
  cases turn with
  | keeps touched same invalid =>
    have carried : Good ⟨register.stamps.set stampId row, register.attempts⟩ := by
      refine good.carry List.length_set ?_
      intro id held present
      by_cases here : id = stampId
      · subst here
        obtain rfl := Option.some.inj (current.symm.trans present)
        exact ⟨stamp, stored, touched, same⟩
      · rw [List.getElem?_set_ne (Ne.symm here)] at present
        exact ⟨held, present, Touched.refl held, rfl, rfl, rfl, rfl⟩
    exact carried.attempt invalid
  | @wins attempt moves unscanned subject valid wins =>
    have shaped := (moves.later (good.shaped stamp (List.mem_of_getElem? stored))).1
    constructor
    · intro held member
      rcases List.mem_or_eq_of_mem_set member with old | rfl
      · exact good.shaped held old
      · exact shaped
    · intro id held present
      rw [Recorded, winners_append]
      by_cases here : id = stampId
      · subst here
        obtain rfl := Option.some.inj (current.symm.trans present)
        have before : winners id register.attempts = [] := by
          rcases good.recorded id stamp stored with ⟨_, none⟩ | ⟨earlier, _, won⟩
          · exact none
          · rw [won.time] at unscanned
            cases unscanned
        refine Or.inr ⟨attempt, ?_, wins⟩
        rw [before]
        simp [winners, subject, valid]
      · rw [List.getElem?_set_ne (Ne.symm here)] at present
        have other : attempt.stampId ≠ some id := by
          rw [subject]
          exact fun same => here (Option.some.inj same).symm
        rw [winners_other (Or.inl other), List.append_nil]
        exact good.recorded id held present
    · intro held member isValid
      rw [List.length_set]
      rcases List.mem_append.mp member with old | new
      · exact good.known held old isValid
      · rw [List.mem_singleton.mp new]
        exact ⟨stampId, bound, subject⟩

end Records

section Turns

variable {occasion : Occasion} {scan : Verify.Scan} {serial : PyStr} {outcome : Outcome} {view after : Db}

/-- The row and the attempts after a call. -/
structure Turned (stampId : Nat) (stamp : Stamp) (view after : Db) (row : Stamp) (extra : List Verification) :
    Prop where
  stamps : after.stamps = view.stamps.set stampId row
  attempts : after.verifications = view.verifications ++ extra
  turn : Turn stampId stamp row extra

/-- A stored row can be set again. -/
theorem set_stored {stamps : List Stamp} (stored : stamps[stampId]? = some stamp) :
    stamps = stamps.set stampId stamp := by
  obtain ⟨bound, rfl⟩ := List.getElem?_eq_some_iff.mp stored
  exact (List.set_getElem_self bound).symm

/-- A scan of the locked stamp turns it. -/
theorem scanned_turned (current : view.stamps[stampId]? = some stamp)
    (scanned : Verify.Scanned env occasion scan serial stampId stamp view outcome after) :
    ∃ row extra, Turned stampId stamp view after row extra := by
  cases scanned with
  | answered detail plain =>
    refine ⟨stamp, _, set_stored current, rfl, .keeps (Touched.refl stamp) ⟨rfl, rfl, rfl, rfl⟩ ?_⟩
    intro attempt member
    rw [List.mem_singleton.mp member]
    rintro rfl
    exact plain
  | suspected live scanned =>
    refine ⟨_, _, Rows.modify_stored current, rfl,
      .keeps (Or.inr (.suspects scanned live.notVoid)) ⟨rfl, rfl, rfl, rfl⟩ ?_⟩
    intro attempt member
    rw [List.mem_singleton.mp member]
    simp [Verify.attempt]
  | consumes live active unscanned =>
    exact ⟨_, _, Rows.modify_stored current, rfl,
      .wins (.consumes _ _ active unscanned) unscanned rfl rfl ⟨rfl, rfl, rfl, rfl⟩⟩

/-- A void of the locked stamp turns it. -/
theorem voided_turned (current : view.stamps[stampId]? = some stamp)
    (voided : Verify.Voided env stampId stamp view after) :
    ∃ row extra, Turned stampId stamp view after row extra := by
  cases voided with
  | already =>
    exact ⟨stamp, [], set_stored current, (List.append_nil _).symm,
      .keeps (Touched.refl stamp) ⟨rfl, rfl, rfl, rfl⟩ (fun _ absent => absurd absent List.not_mem_nil)⟩
  | voids open_ =>
    exact ⟨_, [], Rows.modify_stored current, (List.append_nil _).symm,
      .keeps (Or.inr (.voids open_)) ⟨rfl, rfl, rfl, rfl⟩ (fun _ absent => absurd absent List.not_mem_nil)⟩

/-- Whatever a locked call decides turns its stamp. -/
theorem decides_turned {call : Call} (current : view.stamps[stampId]? = some stamp)
    (decides : Decides env stampId stamp view after call) :
    ∃ row extra, Turned stampId stamp view after row extra := by
  cases call with
  | scan occasion scan serial =>
    obtain ⟨parts, result, _, verified⟩ := decides
    exact scanned_turned current (Verify.verifyLocked_ok verified)
  | void occasion serial reason subject => exact voided_turned current (Verify.voidLocked_ok decides)

/-- A commit sets the row and appends the attempts. -/
theorem Turned.commit {extra : List Verification} (turned : Turned stampId stamp view after row extra)
    (current : view.stamps[stampId]? = some stamp) (register : Register) :
    register.commit stampId view after = ⟨register.stamps.set stampId row, register.attempts ++ extra⟩ := by
  have bound := (List.getElem?_eq_some_iff.mp current).1
  have stored : after.stamps[stampId]? = some row := by
    rw [turned.stamps, List.getElem?_set_self bound]
  rw [Register.commit, stored, turned.attempts, List.drop_left]

end Turns

section Sessions

/-- What a session knows: the rows that it locked are as it read them. -/
def Knows (register : Register) : Stage → Prop
  | .called _ => True
  | .locked _ stampId stamp => register.stamps[stampId]? = some stamp
  | .activating batchId _ rows => ∀ id ∈ rows, ∃ stamp, register.stamps[id]? = some stamp ∧
    Issuance.activates batchId stamp = true

/-- What a statement leaves: data that fit together, later versions of all stamps, and
the rows without its lock as they were. -/
structure Keeps (stage : Stage) (before after : Register) : Prop where
  good : Good after
  carried : Growth.Carried LaterStamp before.stamps after.stamps
  attempts : before.attempts <+: after.attempts
  others : ∀ id, ¬ holdsRow stage id → after.stamps[id]? = before.stamps[id]?

/-- Nothing done keeps everything. -/
theorem Keeps.refl {stage : Stage} (good : Good register) : Keeps stage register register :=
  ⟨good, Growth.Carried.refl LaterStamp.refl _, List.prefix_refl _, fun _ _ => rfl⟩

/-- The commit of a scan or a void keeps the data fitting together. -/
theorem commit_keeps {call : Call} {view after : Db} (good : Good register)
    (stored : register.stamps[stampId]? = some stamp) (current : view.stamps[stampId]? = some stamp)
    (decides : Decides env stampId stamp view after call) :
    Keeps (.locked call stampId stamp) register (register.commit stampId view after) := by
  obtain ⟨row, extra, turned⟩ := decides_turned current decides
  rw [turned.commit current register]
  refine ⟨good.turn stored turned.turn, ?_, List.prefix_append _ _, ?_⟩
  · intro id old present
    by_cases here : id = stampId
    · subst here
      obtain rfl := Option.some.inj (stored.symm.trans present)
      have bound := (List.getElem?_eq_some_iff.mp stored).1
      exact ⟨row, List.getElem?_set_self bound,
        (shaped_touched (good.shaped stamp (List.mem_of_getElem? stored)) turned.turn.touched).2⟩
    · exact ⟨old, (List.getElem?_set_ne (Ne.symm here)).trans present, LaterStamp.refl old⟩
  · exact fun id free => List.getElem?_set_ne (fun same => free same.symm)

/-- A row of an activation. -/
theorem activate_stored {time : Datetime} {rows : List Nat} {id : Nat} (register : Register) :
    (register.activate time rows).stamps[id]? = (register.stamps[id]?).map (fun stamp =>
      if id ∈ rows then { stamp with status := .active, activatedAt := some time } else stamp) :=
  List.getElem?_mapIdx

/-- Activation records no first scan. -/
theorem sameScan_activate {reached : Prop} [Decidable reached] {old : Stamp} (time : Datetime) : SameScan old
    (if reached then { old with status := .active, activatedAt := some time } else old) := by
  split
  case isTrue => exact ⟨rfl, rfl, rfl, rfl⟩
  case isFalse => exact ⟨rfl, rfl, rfl, rfl⟩

/-- The commit of an activation keeps the data fitting together. -/
theorem activate_keeps {batchId : Nat} {time : Datetime} {rows : List Nat} (good : Good register)
    (knows : Knows register (.activating batchId time rows)) :
    Keeps (.activating batchId time rows) register (register.activate time rows) := by
  have touched : ∀ (id : Nat) (old : Stamp), register.stamps[id]? = some old →
      Touched old (if id ∈ rows then { old with status := .active, activatedAt := some time } else old) := by
    intro id old present
    refine Touched.activate time ?_
    intro reached
    obtain ⟨stamp, stored, matching⟩ := knows id reached
    obtain rfl := Option.some.inj (stored.symm.trans present)
    exact activates_issued matching
  refine ⟨good.carry List.length_mapIdx ?_, ?_, List.prefix_refl _, ?_⟩
  · intro id row present
    obtain ⟨old, stored, rfl⟩ := Option.map_eq_some_iff.mp ((activate_stored register).symm.trans present)
    exact ⟨old, stored, touched id old stored, sameScan_activate time⟩
  · intro id old present
    refine ⟨_, ?_, (shaped_touched (good.shaped old (List.mem_of_getElem? present)) (touched id old present)).2⟩
    rw [activate_stored, present, Option.map_some]
  · intro id free
    have unreached : id ∉ rows := free
    rw [activate_stored]
    simp only [unreached, if_false, Option.map_id']

/-- Every statement keeps the data fitting together. -/
theorem acts_keeps {stage : Stage} {next : Option Stage} (good : Good register) (knows : Knows register stage)
    (acts : Acts env register stage later next) : Keeps stage register later := by
  cases acts with
  | refuse unmatched refused =>
    refine ⟨good.attempt ?_, Growth.Carried.refl LaterStamp.refl _, List.prefix_append _ _, fun _ _ => rfl⟩
    intro attempt member
    rw [List.mem_singleton.mp member]
    rcases refused with same | same <;> simp [same]
  | lock => exact Keeps.refl good
  | commit current decides => exact commit_keeps good knows current decides
  | reach => exact Keeps.refl good
  | activate => exact activate_keeps good knows

/-- Every statement keeps stamps and attempts together, and the locks keep what the
sessions know. -/
theorem rule (env : Env) : Sessions.Rule (protocol env) Good Knows := by
  constructor
  case begins =>
    rintro register stage _ begins
    cases begins with
    | called => trivial
    | activating => exact fun _ absent => absurd absent List.not_mem_nil
  case acts =>
    rintro register stage later next good knows acts
    refine ⟨(acts_keeps good knows acts).good, ?_⟩
    rintro following rfl
    cases acts with
    | lock stored => exact stored
    | reach stored matching =>
      intro id member
      rcases List.mem_cons.mp member with rfl | old
      · exact ⟨_, stored, matching⟩
      · exact knows id old
  case stable =>
    rintro register stage later next other good knows acts otherKnows apart
    have others := (acts_keeps good knows acts).others
    cases other with
    | called => trivial
    | locked call id row => exact (others id (fun held => apart id held rfl)).trans otherKnows
    | activating batchId time rows =>
      intro id member
      obtain ⟨row, stored, matching⟩ := otherKnows id member
      exact ⟨row, (others id (fun held => apart id held member)).trans stored, matching⟩

end Sessions

section Runs

variable {world after : Sessions.World Register Stage}

/-- In the service's own runs stamps and attempts fit together. -/
theorem good_reachable (reached : Api.Reachable env db) : Good (.ofDb db) := by
  refine reached.invariant (fun state => Good (.ofDb state)) ?_ ?_
  · constructor
    · exact fun _ absent => absurd absent List.not_mem_nil
    · exact fun _ _ absent => by cases absent
    · exact fun _ absent => absurd absent List.not_mem_nil
  · intro before after known effect
    cases effect with
    | issued _ chunked ran =>
      obtain ⟨occasion, chunking⟩ := ran
      cases chunked with
      | past => exact known
      | exhausted => exact known
      | issues _ _ _ _ issued => exact known.issue (chunk_fresh chunking rfl issued)
    | activated =>
      refine known.carry (List.length_map _) ?_
      intro id row stored
      obtain ⟨old, present, rfl⟩ := Rows.Pointwise.origin (Rows.pointwise_map _ before.stamps) stored
      exact ⟨old, present, Touched.activate _ activates_issued, sameScan_activate _⟩
    | attempted unmatched refused =>
      refine known.attempt ?_
      intro attempt member
      rw [List.mem_singleton.mp member]
      rcases refused with same | same <;> simp [same]
    | scanned stored scanned =>
      obtain ⟨row, extra, turned⟩ := scanned_turned stored scanned
      rw [Register.ofDb, turned.stamps, turned.attempts]
      exact known.turn stored turned.turn
    | voided stored voided =>
      obtain ⟨row, extra, turned⟩ := voided_turned stored voided
      rw [Register.ofDb, turned.stamps, turned.attempts]
      exact known.turn stored turned.turn
    | _ => exact known

end Runs

section Sample

open Api Verify

variable {occasion : Occasion} {serial : PyStr}

/-- A second device of the field force. -/
def rival : Verifier := ⟨py "device-2", by decide, by decide +kernel⟩

end Sample

end TaxStamps.FirstScan
