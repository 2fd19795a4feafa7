import Mathlib.Data.List.Nodup
import TaxStamps.Library.Sessions

/-!
# Requests under an idempotency key

A request presents a key or none. Its transaction looks for a record under the
key, and answers from it if there is one: with the stored response when the
digest of the body is the recorded one, with a conflict otherwise. If there is
none it reads, takes the writers' lock, writes, inserts a record under its key
and commits.

The lookup happens before the lock, so two requests with one key may both find
nothing; what keeps the second from committing is that the table of records
refuses a key it has. The answers given so far are kept as a history, in which a
request remembers how many there were when it began.
-/

namespace Idempotency

open Sessions

variable {σ α κ η ρ π : Type}

/-- What a service does with a request: its key, the digest of its body, what it
reads and writes, and the response as the table of records keeps it. -/
structure Service (σ α κ η ρ π : Type) where
  key : α → Option κ
  digest : α → η
  plan : α → σ → Option π
  write : α → π → σ → Option (ρ × σ)
  keep : α → ρ → Option ρ

/-- What a commit leaves under its key: the digest of its request and its response. -/
structure Record (κ η ρ : Type) where
  key : κ
  digest : η
  response : ρ

/-- How a request is answered. -/
inductive Outcome (κ η ρ : Type)
  /-- The request took effect and left a record under its key. -/
  | committed (response : ρ) (record : Option (Record κ η ρ))
  | replayed (response : ρ)
  | conflict

/-- A request that was answered; `started` counts the answers before it began. -/
structure Finished (α κ η ρ : Type) where
  request : α
  started : Nat
  outcome : Outcome κ η ρ

/-- The record that the answer left. -/
def Outcome.record? : Outcome κ η ρ → Option (Record κ η ρ)
  | .committed _ record => record
  | _ => none

/-- The answer is that of a commit. -/
def Outcome.isCommitted : Outcome κ η ρ → Bool
  | .committed _ _ => true
  | _ => false

/-- The record that a committed request left. -/
def Finished.record? (finished : Finished α κ η ρ) : Option (Record κ η ρ) := finished.outcome.record?

/-- What is committed, and the answers so far. -/
structure Shared (σ α κ η ρ : Type) where
  data : σ
  records : List (Record κ η ρ)
  finished : List (Finished α κ η ρ)

/-- No request was answered. -/
def Shared.start (data : σ) : Shared σ α κ η ρ := ⟨data, [], []⟩

/-- A request is answered without effects. -/
def Shared.answer (shared : Shared σ α κ η ρ) (finished : Finished α κ η ρ) : Shared σ α κ η ρ :=
  { shared with finished := shared.finished ++ [finished] }

/-- The transaction of a request. -/
inductive Session (σ α κ η ρ π : Type)
  | incoming (request : α)
  | started (request : α) (since : Nat)
  /-- It has found no record under its key. -/
  | absent (request : α) (since : Nat)
  | planned (request : α) (since : Nat) (plan : π)
  /-- Its writes are visible to itself only. -/
  | written (request : α) (since : Nat) (response : ρ) (data : σ)
  | recorded (request : α) (since : Nat) (response : ρ) (record : Option (Record κ η ρ)) (data : σ)

/-- The request of a session. -/
def Session.request : Session σ α κ η ρ π → α
  | .incoming request | .started request _ | .absent request _ | .planned request _ _
  | .written request _ _ _ | .recorded request _ _ _ _ => request

/-- The number of answers when the request began. -/
def Session.since : Session σ α κ η ρ π → Option Nat
  | .incoming _ => none
  | .started _ since | .absent _ since | .planned _ since _
  | .written _ since _ _ | .recorded _ since _ _ _ => some since

/-- The record that a request inserts with its response: none without a key. -/
def Service.recordOf (service : Service σ α κ η ρ π) (request : α) (response : ρ) :
    Option (Option (Record κ η ρ)) :=
  match service.key request with
  | none => some none
  | some key => (service.keep request response).map (fun stored =>
      some ⟨key, service.digest request, stored⟩)

variable {service : Service σ α κ η ρ π}

/-- The statements of a request. -/
inductive Acts (service : Service σ α κ η ρ π) (shared : Shared σ α κ η ρ) :
    Session σ α κ η ρ π → Shared σ α κ η ρ → Option (Session σ α κ η ρ π) → Prop
  | start {request : α} :
      Acts service shared (.incoming request) shared (some (.started request shared.finished.length))
  | replay {request : α} {since : Nat} {record : Record κ η ρ}
      (presented : service.key request = some record.key) (stored : record ∈ shared.records)
      (same : record.digest = service.digest request) :
      Acts service shared (.started request since)
        (shared.answer ⟨request, since, .replayed record.response⟩) none
  | conflict {request : α} {since : Nat} {record : Record κ η ρ}
      (presented : service.key request = some record.key) (stored : record ∈ shared.records)
      (differs : record.digest ≠ service.digest request) :
      Acts service shared (.started request since) (shared.answer ⟨request, since, .conflict⟩) none
  | pass {request : α} {since : Nat}
      (absent : ∀ record ∈ shared.records, service.key request ≠ some record.key) :
      Acts service shared (.started request since) shared (some (.absent request since))
  | plan {request : α} {since : Nat} {plan : π} (planned : service.plan request shared.data = some plan) :
      Acts service shared (.absent request since) shared (some (.planned request since plan))
  | write {request : α} {since : Nat} {plan : π} {response : ρ} {data : σ}
      (written : service.write request plan shared.data = some (response, data)) :
      Acts service shared (.planned request since plan) shared (some (.written request since response data))
  | insert {request : α} {since : Nat} {response : ρ} {data : σ} {record : Option (Record κ η ρ)}
      (recorded : service.recordOf request response = some record)
      (primary : ∀ new, record = some new → ∀ other ∈ shared.records, other.key ≠ new.key) :
      Acts service shared (.written request since response data) shared
        (some (.recorded request since response record data))
  | commit {request : α} {since : Nat} {response : ρ} {data : σ} {record : Option (Record κ η ρ)} :
      Acts service shared (.recorded request since response record data)
        { data := data
          records := shared.records ++ record.toList
          finished := shared.finished ++ [⟨request, since, .committed response record⟩] } none

/-- The writers' lock, from the first write to the commit. -/
def holdsLock : Session σ α κ η ρ π → Unit → Prop
  | .written .., _ => True
  | .recorded .., _ => True
  | _, _ => False

/-- Any number of concurrent requests. -/
def protocol (service : Service σ α κ η ρ π) :
    Protocol (Shared σ α κ η ρ) (Session σ α κ η ρ π) Unit where
  begins session := ∃ request, session = .incoming request
  acts := Acts service
  holds := holdsLock

section Invariant

variable {shared later : Shared σ α κ η ρ} {session : Session σ α κ η ρ π}
  {next : Option (Session σ α κ η ρ π)}

/-- What a request is to be told when a record of its key is there. -/
def Service.Answers (service : Service σ α κ η ρ π) (record : Record κ η ρ) (request : α)
    (outcome : Outcome κ η ρ) : Prop :=
  (record.digest = service.digest request → outcome = .replayed record.response) ∧
    (record.digest ≠ service.digest request → outcome = .conflict)

/-- One of the first answers left the record. -/
def Left (finished : List (Finished α κ η ρ)) (since : Nat) (record : Record κ η ρ) : Prop :=
  ∃ (position : Nat) (first : Finished α κ η ρ), position < since ∧ finished[position]? = some first ∧
    first.record? = some record

/-- The records are those of the committed requests, under distinct keys, and a
request that began after one of its key was answered from it. -/
structure Good (service : Service σ α κ η ρ π) (shared : Shared σ α κ η ρ) : Prop where
  distinct : (shared.records.map Record.key).Nodup
  stored : shared.records = shared.finished.filterMap Finished.record?
  faithful : ∀ finished ∈ shared.finished, ∀ response record, finished.outcome = .committed response record →
    service.recordOf finished.request response = some record
  started : ∀ (position : Nat) (finished : Finished α κ η ρ), shared.finished[position]? = some finished →
    finished.started ≤ position
  answered : ∀ finished ∈ shared.finished, ∀ record, Left shared.finished finished.started record →
    service.key finished.request = some record.key → service.Answers record finished.request finished.outcome

/-- No record of the request's key was there when it began. -/
def Unclaimed (service : Service σ α κ η ρ π) (shared : Shared σ α κ η ρ) (request : α) (since : Nat) :
    Prop :=
  since ≤ shared.finished.length ∧
    ∀ record, Left shared.finished since record → service.key request ≠ some record.key

/-- What a request has found, and what its lock keeps true. -/
def Sound (service : Service σ α κ η ρ π) (shared : Shared σ α κ η ρ) : Session σ α κ η ρ π → Prop
  | .incoming _ => True
  | .started _ since => since ≤ shared.finished.length
  | .absent request since => Unclaimed service shared request since
  | .planned request since _ => Unclaimed service shared request since
  | .written request since _ _ => Unclaimed service shared request since
  | .recorded request since response record _ => Unclaimed service shared request since ∧
      service.recordOf request response = some record ∧
      ∀ new, record = some new → ∀ other ∈ shared.records, other.key ≠ new.key

/-- Later answers change nothing about the first ones. -/
theorem left_append {finished : List (Finished α κ η ρ)} {since : Nat} {record : Record κ η ρ}
    (bounded : since ≤ finished.length) (more : List (Finished α κ η ρ)) :
    Left (finished ++ more) since record ↔ Left finished since record := by
  refine exists_congr fun position => exists_congr fun first => and_congr_right fun early => ?_
  rw [List.getElem?_append_left (Nat.lt_of_lt_of_le early bounded)]

/-- A record that a finished request left is stored. -/
theorem Good.left_stored (good : Good service shared) {since : Nat} {record : Record κ η ρ}
    (left : Left shared.finished since record) : record ∈ shared.records := by
  obtain ⟨position, first, _, stored, recorded⟩ := left
  rw [good.stored, List.mem_filterMap]
  exact ⟨first, List.mem_of_getElem? stored, recorded⟩

/-- Records of one key are one record. -/
theorem Good.unique (good : Good service shared) {left right : Record κ η ρ} (leftStored : left ∈ shared.records)
    (rightStored : right ∈ shared.records) (same : left.key = right.key) : left = right :=
  List.inj_on_of_nodup_map good.distinct leftStored rightStored same

/-- A record that a committed request left carries its key and its digest. -/
theorem recordOf_some {request : α} {response : ρ} {record : Record κ η ρ}
    (recorded : service.recordOf request response = some (some record)) :
    service.key request = some record.key ∧ record.digest = service.digest request ∧
      service.keep request response = some record.response := by
  rw [Service.recordOf] at recorded
  split at recorded
  case _ => cases recorded
  case _ key presented =>
    obtain ⟨stored, kept, same⟩ := Option.map_eq_some_iff.mp recorded
    cases same
    exact ⟨presented, rfl, kept⟩

/-- One more answer, with the records it leaves. -/
theorem Good.answer (good : Good service shared) {data : σ} {finished : Finished α κ η ρ}
    (bounded : finished.started ≤ shared.finished.length)
    (fresh : ∀ new, finished.record? = some new → ∀ other ∈ shared.records, other.key ≠ new.key)
    (faithful : ∀ response record, finished.outcome = .committed response record →
      service.recordOf finished.request response = some record)
    (answered : ∀ record, Left shared.finished finished.started record →
      service.key finished.request = some record.key →
        service.Answers record finished.request finished.outcome) :
    Good service ⟨data, shared.records ++ finished.record?.toList, shared.finished ++ [finished]⟩ := by
  have startedBound : ∀ other ∈ shared.finished, other.started ≤ shared.finished.length := by
    intro other member
    obtain ⟨position, inside, rfl⟩ := List.getElem_of_mem member
    exact Nat.le_trans (good.started position _ (List.getElem?_eq_getElem inside)) (Nat.le_of_lt inside)
  constructor
  case distinct =>
    rw [List.map_append, List.nodup_append]
    refine ⟨good.distinct, ?_, ?_⟩
    · cases finished.record? <;> simp
    · intro key known other new same
      obtain ⟨record, stored, rfl⟩ := List.mem_map.mp known
      obtain ⟨added, member, rfl⟩ := List.mem_map.mp new
      exact fresh added (Option.mem_toList.mp member) record stored same
  case stored =>
    rw [List.filterMap_append, ← good.stored]
    cases recorded : finished.record? <;> simp [recorded]
  case faithful =>
    intro other member
    rcases List.mem_append.mp member with earlier | last
    · exact good.faithful other earlier
    · exact List.mem_singleton.mp last ▸ faithful
  case started =>
    intro position other stored
    rw [List.getElem?_append] at stored
    split at stored
    case isTrue inside => exact good.started position other stored
    case isFalse beyond =>
      obtain ⟨_, same⟩ := List.getElem?_eq_some_iff.mp stored
      obtain rfl : finished = other := by simpa using same
      omega
  case answered =>
    intro other member record left
    rcases List.mem_append.mp member with earlier | last
    · exact good.answered other earlier record ((left_append (startedBound other earlier) _).mp left)
    · obtain rfl := List.mem_singleton.mp last
      exact answered record ((left_append bounded _).mp left)

/-- An answer without effects leaves no record. -/
theorem Good.effectless (good : Good service shared) {finished : Finished α κ η ρ}
    (bounded : finished.started ≤ shared.finished.length) (silent : finished.outcome.isCommitted = false)
    (answered : ∀ record, record ∈ shared.records → service.key finished.request = some record.key →
      service.Answers record finished.request finished.outcome) :
    Good service (shared.answer finished) := by
  have unrecorded : finished.record? = none := by
    rw [Finished.record?]
    cases outcome : finished.outcome with
    | committed => rw [outcome] at silent; cases silent
    | _ => rfl
  have kept : Good service
      ⟨shared.data, shared.records ++ finished.record?.toList, shared.finished ++ [finished]⟩ := by
    apply good.answer bounded
    · intro new recorded
      rw [unrecorded] at recorded
      cases recorded
    · intro response record outcome
      rw [outcome] at silent
      cases silent
    · exact fun record left => answered record (good.left_stored left)
  rwa [unrecorded, Option.toList_none, List.append_nil] at kept

/-- The only record of a request's key tells it the answer. -/
theorem Good.only (good : Good service shared) {request : α} {record other : Record κ η ρ}
    (presented : service.key request = some record.key) (stored : record ∈ shared.records)
    (otherStored : other ∈ shared.records) (same : service.key request = some other.key) : other = record :=
  good.unique otherStored stored (Option.some.inj (same.symm.trans presented))

/-- The history only grows. -/
theorem acts_finished (acts : Acts service shared session later next) :
    ∃ more, later.finished = shared.finished ++ more := by
  cases acts with
  | replay => exact ⟨_, rfl⟩
  | conflict => exact ⟨_, rfl⟩
  | commit => exact ⟨_, rfl⟩
  | _ => exact ⟨[], (List.append_nil _).symm⟩

/-- Only a commit writes. -/
theorem acts_writes (acts : Acts service shared session later next) :
    (later.data = shared.data ∧ later.records = shared.records) ∨
      holdsLock session () ∧ ∃ finished, later.finished = shared.finished ++ [finished] ∧
        finished.outcome.isCommitted = true := by
  cases acts with
  | commit => exact Or.inr ⟨trivial, _, rfl, rfl⟩
  | _ => exact Or.inl ⟨rfl, rfl⟩

/-- A key that was unclaimed when a request started still is, as far as that time is concerned. -/
theorem Unclaimed.grow {request : α} {since : Nat} (unclaimed : Unclaimed service shared request since)
    (grows : ∃ more, later.finished = shared.finished ++ more) : Unclaimed service later request since := by
  obtain ⟨more, grown⟩ := grows
  rw [Unclaimed, grown]
  refine ⟨Nat.le_trans unclaimed.1 (by rw [List.length_append]; omega), fun record left => ?_⟩
  exact unclaimed.2 record ((left_append unclaimed.1 more).mp left)

/-- A statement of a request keeps what the request has found. -/
theorem acts_sound (good : Good service shared) (sound : Sound service shared session)
    (acts : Acts service shared session later next) :
    Good service later ∧ ∀ following, next = some following → Sound service later following := by
  cases acts with
  | start =>
    refine ⟨good, ?_⟩
    rintro following ⟨⟩
    exact Nat.le_refl _
  | @replay request since record presented stored same =>
    refine ⟨good.effectless sound rfl fun other otherStored otherPresented => ?_,
      fun _ absurdity => by cases absurdity⟩
    obtain rfl := good.only presented stored otherStored otherPresented
    exact ⟨fun _ => rfl, fun differs => absurd same differs⟩
  | @conflict request since record presented stored differs =>
    refine ⟨good.effectless sound rfl fun other otherStored otherPresented => ?_,
      fun _ absurdity => by cases absurdity⟩
    obtain rfl := good.only presented stored otherStored otherPresented
    exact ⟨fun same => absurd same differs, fun _ => rfl⟩
  | pass absent =>
    refine ⟨good, ?_⟩
    rintro following ⟨⟩
    exact ⟨sound, fun record left => absent record (good.left_stored left)⟩
  | plan =>
    refine ⟨good, ?_⟩
    rintro following ⟨⟩
    exact sound
  | write =>
    refine ⟨good, ?_⟩
    rintro following ⟨⟩
    exact sound
  | insert recorded primary =>
    refine ⟨good, ?_⟩
    rintro following ⟨⟩
    exact ⟨sound, recorded, primary⟩
  | @commit request since response data record =>
    obtain ⟨unclaimed, recorded, primary⟩ := sound
    refine ⟨@Good.answer _ _ _ _ _ _ _ _ good data ⟨request, since, .committed response record⟩ ?_ ?_ ?_ ?_,
      fun _ absurdity => by cases absurdity⟩
    · exact unclaimed.1
    · exact primary
    · rintro _ _ ⟨⟩
      exact recorded
    · exact fun other left presented => absurd presented (unclaimed.2 other left)

/-- What a request has found survives the statements of the others. -/
theorem sound_stable {other : Session σ α κ η ρ π} (acts : Acts service shared session later next)
    (sound : Sound service shared other)
    (apart : ∀ lock, holdsLock session lock → ¬ holdsLock other lock) : Sound service later other := by
  have grows := acts_finished acts
  cases other with
  | incoming request => trivial
  | started request since =>
    obtain ⟨more, grown⟩ := grows
    rw [Sound, grown, List.length_append]
    exact Nat.le_trans sound (Nat.le_add_right ..)
  | recorded request since response record data =>
    obtain ⟨unclaimed, recorded, primary⟩ := sound
    refine ⟨unclaimed.grow grows, recorded, ?_⟩
    rcases acts_writes acts with ⟨_, same⟩ | ⟨locked, _⟩
    · rw [same]
      exact primary
    · exact absurd trivial (apart () locked)
  | _ => exact Unclaimed.grow sound grows

/-- Every statement keeps the tables good and each session's findings sound. -/
theorem rule (service : Service σ α κ η ρ π) : Rule (protocol service) (Good service) (Sound service) where
  begins _ begins := by
    obtain ⟨request, rfl⟩ := begins
    trivial
  acts good sound acts := acts_sound good sound acts
  stable _ _ acts other apart := sound_stable acts other apart

/-- Tables without records are good. -/
theorem good_start (data : σ) : Good service (Shared.start data) := by
  constructor
  · exact List.nodup_nil
  · rfl
  · exact fun _ absent => by cases absent
  · exact fun _ _ absent => by cases absent
  · exact fun _ absent => by cases absent

end Invariant

section Results

variable {data : σ} {world after : World (Shared σ α κ η ρ) (Session σ α κ η ρ π)}

/-- The answers and the open requests of an interleaving are sound. -/
theorem kept (reached : Reachable (protocol service) (Shared.start data) world) :
    Kept (Good service) (Sound service) world := (rule service).reachable (good_start data) reached

/-- The request presented the key and was committed. -/
def Service.commits [DecidableEq κ] (service : Service σ α κ η ρ π) (key : κ)
    (finished : Finished α κ η ρ) : Bool :=
  finished.outcome.isCommitted && decide (service.key finished.request = some key)

/-- A commit under a key is a record of the key. -/
theorem commits_record [DecidableEq κ] {key : κ} {finished : Finished α κ η ρ}
    (faithful : ∀ response record, finished.outcome = .committed response record →
      service.recordOf finished.request response = some record) :
    service.commits key finished = finished.record?.any (fun record => decide (record.key = key)) := by
  cases outcome : finished.outcome with
  | committed response record =>
    have recorded := faithful response record outcome
    rw [Service.commits, Finished.record?, outcome, Outcome.isCommitted, Outcome.record?, Bool.true_and]
    cases record with
    | none =>
      rw [Service.recordOf] at recorded
      split at recorded
      case _ keyless => rw [keyless]; rfl
      case _ => simp at recorded
    | some record =>
      rw [(recordOf_some recorded).1, Option.any_some]
      simp
  | replayed => simp [Service.commits, Finished.record?, Outcome.isCommitted, Outcome.record?, outcome]
  | conflict => simp [Service.commits, Finished.record?, Outcome.isCommitted, Outcome.record?, outcome]

/-- At most one request commits under a key. -/
theorem Good.once [DecidableEq κ] {shared : Shared σ α κ η ρ} (good : Good service shared) (key : κ) :
    shared.finished.countP (service.commits key) ≤ 1 := by
  have counted : shared.finished.countP (service.commits key) =
      (shared.records.map Record.key).count key := by
    rw [List.count, List.countP_map, good.stored, List.countP_filterMap]
    apply List.countP_congr
    intro finished member
    rw [commits_record (good.faithful finished member)]
    cases finished.record? <;> simp
  rw [counted]
  exact List.nodup_iff_count_le_one.mp good.distinct key

/-- A committed request that presented a key left its record. -/
theorem Good.left {shared : Shared σ α κ η ρ} (good : Good service shared) {position since : Nat}
    {first : Finished α κ η ρ} {key : κ} (stored : shared.finished[position]? = some first)
    (before : position < since) (committed : first.outcome.isCommitted = true)
    (presented : service.key first.request = some key) :
    ∃ record response, Left shared.finished since record ∧ record.key = key ∧
      record.digest = service.digest first.request ∧ first.outcome = .committed response (some record) ∧
      service.keep first.request response = some record.response := by
  cases outcome : first.outcome with
  | committed response record =>
    have recorded := good.faithful first (List.mem_of_getElem? stored) response record outcome
    cases record with
    | none =>
      rw [Service.recordOf, presented] at recorded
      simp at recorded
    | some record =>
      obtain ⟨same, digest, kept⟩ := recordOf_some recorded
      refine ⟨record, response, ⟨position, first, before, stored, ?_⟩,
        Option.some.inj (same.symm.trans presented), digest, rfl, kept⟩
      rw [Finished.record?, outcome]
      rfl
  | replayed => rw [outcome] at committed; cases committed
  | conflict => rw [outcome] at committed; cases committed

/-- A statement, a beginning or an abort writes nothing, unless it commits. -/
theorem step_writes (step : Step (protocol service) world after) :
    (after.shared.data = world.shared.data ∧ after.shared.records = world.shared.records) ∨
      ∃ finished, after.shared.finished = world.shared.finished ++ [finished] ∧
        finished.outcome.isCommitted = true := by
  cases step with
  | begin => exact Or.inl ⟨rfl, rfl⟩
  | act _ _ _ _ _ acts => exact (acts_writes acts).imp_right And.right
  | abort => exact Or.inl ⟨rfl, rfl⟩

/-- An open request that began after a commit under its key is at its lookup, and
the lookup answers it. -/
theorem Sound.answerable {shared : Shared σ α κ η ρ} {session : Session σ α κ η ρ π} {request : α}
    {since : Nat} (good : Good service shared) (sound : Sound service shared session)
    {record : Record κ η ρ} (left : Left shared.finished since record)
    (presented : service.key request = some record.key) (own : session.request = request)
    (began : session.since = some since) :
    session = .started request since ∧ ∃ outcome, service.Answers record request outcome ∧
      Acts service shared session (shared.answer ⟨request, since, outcome⟩) none := by
  have unclaimed : ¬ Unclaimed service shared request since :=
    fun unclaimed => unclaimed.2 record left presented
  have stored := good.left_stored left
  cases session with
  | incoming request => cases began
  | started asked origin =>
    cases own
    cases began
    refine ⟨rfl, ?_⟩
    by_cases same : record.digest = service.digest asked
    · exact ⟨_, ⟨fun _ => rfl, fun differs => absurd same differs⟩, .replay presented stored same⟩
    · exact ⟨_, ⟨fun other => absurd other same, fun _ => rfl⟩, .conflict presented stored same⟩
  | recorded =>
    cases own
    cases began
    exact absurd sound.1 unclaimed
  | _ =>
    cases own
    cases began
    exact absurd sound unclaimed

end Results

end Idempotency
