import TaxStamps.Events.OutboxPublisher
import TaxStamps.Library.Rows

/-!
# The outbox loses nothing

A mark is committed only after the broker acknowledged the message, and a record
is sent only from a committed row, whatever fails and whoever crashes. Without
failures a message that was sent is marked before its lock is released, so
nobody sends it again.
-/

namespace TaxStamps.Publisher

open Sessions

variable {failing : Prop} {shared : Shared} {world after : World Shared Session}
  {rows later : List OutboxMessage} {marks : List Message}

section Rows

/-- A row is stored unchanged, but for its marks, which are not taken back. -/
structure Stays (row later : OutboxMessage) : Prop where
  topic : later.topic = row.topic
  key : later.key = row.key
  envelope : later.envelope = row.envelope
  createdAt : later.createdAt = row.createdAt
  published : row.publishedAt ≠ none → later.publishedAt ≠ none

/-- An unchanged row stays. -/
theorem Stays.refl (row : OutboxMessage) : Stays row row := ⟨rfl, rfl, rfl, rfl, id⟩

/-- A row that stays twice stays. -/
theorem Stays.trans {first second third : OutboxMessage} (earlier : Stays first second)
    (rest : Stays second third) : Stays first third := by
  constructor
  · exact rest.topic.trans earlier.topic
  · exact rest.key.trans earlier.key
  · exact rest.envelope.trans earlier.envelope
  · exact rest.createdAt.trans earlier.createdAt
  · exact fun published => rest.published (earlier.published published)

/-- Every row is kept. -/
def Keeps (rows later : List OutboxMessage) : Prop :=
  ∀ (id : Nat) (row : OutboxMessage), rows[id]? = some row →
    ∃ kept, later[id]? = some kept ∧ Stays row kept

/-- Unchanged rows are kept. -/
theorem Keeps.refl (rows : List OutboxMessage) : Keeps rows rows :=
  fun _ row stored => ⟨row, stored, .refl row⟩

/-- Rows that are kept twice are kept. -/
theorem Keeps.trans {last : List OutboxMessage} (earlier : Keeps rows later) (rest : Keeps later last) :
    Keeps rows last := by
  intro id row stored
  obtain ⟨middle, held, stays⟩ := earlier id row stored
  obtain ⟨final, kept, remains⟩ := rest id middle held
  exact ⟨final, kept, stays.trans remains⟩

/-- Appending keeps the rows. -/
theorem keeps_append (rows messages : List OutboxMessage) : Keeps rows (rows ++ messages) :=
  fun _ row stored => ⟨row, Rows.stored_append messages stored, .refl row⟩

/-- Writing a mark changes the row of its message alone. -/
theorem getElem_writeMark (rows : List OutboxMessage) (message : Message) (id : Nat) :
    (writeMark rows message)[id]? = rows[id]?.map (fun row => if message.1 = id then
      { row with publishedAt := message.2.publishedAt, attempts := message.2.attempts } else row) := by
  rw [writeMark, List.getElem?_modify]
  by_cases same : message.1 = id <;> simp [same]

/-- Writing the mark of a published message keeps every row. -/
theorem keeps_writeMark {message : Message} (published : message.2.publishedAt ≠ none) :
    Keeps rows (writeMark rows message) := by
  intro id row stored
  rw [getElem_writeMark, stored]
  refine ⟨_, rfl, ?_⟩
  dsimp only
  split
  · exact ⟨rfl, rfl, rfl, rfl, fun _ => published⟩
  · exact .refl row

/-- Writing marks keeps the rows. -/
theorem keeps_marks (published : ∀ message ∈ marks, message.2.publishedAt ≠ none) :
    Keeps rows (marks.foldl writeMark rows) := by
  induction marks generalizing rows with
  | nil => exact .refl rows
  | cons message rest inductionHypothesis =>
    obtain ⟨here, others⟩ := List.forall_mem_cons.mp published
    exact (keeps_writeMark here).trans (inductionHypothesis others)

/-- A row that is published after the marks was so before, or is marked. -/
theorem published_origin {id : Nat} {row : OutboxMessage}
    (stored : (marks.foldl writeMark rows)[id]? = some row) (published : row.publishedAt ≠ none) :
    id ∈ marks.map Prod.fst ∨ ∃ old, rows[id]? = some old ∧ old.publishedAt ≠ none := by
  induction marks generalizing rows with
  | nil => exact Or.inr ⟨row, stored, published⟩
  | cons message rest inductionHypothesis =>
    rw [List.map_cons, List.mem_cons, or_assoc]
    rcases inductionHypothesis stored with listed | ⟨old, held, published⟩
    · exact Or.inr (Or.inl listed)
    · rw [getElem_writeMark, Option.map_eq_some_iff] at held
      obtain ⟨first, present, rfl⟩ := held
      by_cases same : message.1 = id
      · exact Or.inl same.symm
      · rw [if_neg same] at published
        exact Or.inr (Or.inr ⟨first, present, published⟩)

/-- A marked row is published. -/
theorem published_marked (published : ∀ message ∈ marks, message.2.publishedAt ≠ none) {id : Nat}
    (listed : id ∈ marks.map Prod.fst) {row : OutboxMessage} (stored : rows[id]? = some row) :
    ∃ kept, (marks.foldl writeMark rows)[id]? = some kept ∧ kept.publishedAt ≠ none := by
  induction marks generalizing rows row with
  | nil => cases listed
  | cons message rest inductionHypothesis =>
    obtain ⟨here, others⟩ := List.forall_mem_cons.mp published
    have written := getElem_writeMark rows message id
    rw [stored, Option.map_some] at written
    rcases List.mem_cons.mp listed with same | later
    · rw [if_pos same.symm] at written
      obtain ⟨kept, held, stays⟩ := keeps_marks others id _ written
      exact ⟨kept, held, stays.published here⟩
    · exact inductionHypothesis others later written

/-- A selected message is stored, unpublished and not skipped. -/
theorem mem_selected {skips : Nat → Bool} {message : Message} (listed : message ∈ selected skips rows) :
    rows[message.1]? = some message.2 ∧ message.2.publishedAt = none := by
  have sorted := List.mem_of_mem_take listed
  rw [List.mem_insertionSort, List.mem_filter, identified, List.mem_map] at sorted
  obtain ⟨⟨found, present, rfl⟩, accepted⟩ := sorted
  rw [Bool.and_eq_true, Option.isNone_iff_eq_none] at accepted
  exact ⟨List.mk_mem_zipIdx_iff_getElem?.mp present, accepted.1⟩

/-- Selected messages have distinct identifiers. -/
theorem selected_nodup (skips : Nat → Bool) (rows : List OutboxMessage) :
    ((selected skips rows).map Prod.fst).Nodup := by
  have distinct : ((identified rows).map Prod.fst).Nodup := by
    rw [identified, List.map_map]
    exact (List.zipIdx_map_snd 0 rows) ▸ List.nodup_range'
  have kept := distinct.sublist ((List.filter_sublist (p := fun message =>
    message.2.publishedAt.isNone && !skips message.1)).map Prod.fst)
  have sorted := (((List.perm_insertionSort (fun left right : Message =>
    left.2.createdAt ≤ right.2.createdAt) _).map Prod.fst).nodup_iff).mpr kept
  exact sorted.sublist ((List.take_sublist batch _).map Prod.fst)

end Rows

section Safety

/-- Every published row is acknowledged, an acknowledged row was sent, and every
record is that of a row. -/
structure Good (shared : Shared) : Prop where
  sent : ∀ id ∈ shared.acknowledged, ∃ record ∈ shared.records, record.key = id
  published : ∀ (id : Nat) (row : OutboxMessage), shared.outboxMessages[id]? = some row →
    row.publishedAt ≠ none → id ∈ shared.acknowledged
  recorded : ∀ record ∈ shared.records, ∃ row, shared.outboxMessages[record.key]? = some row ∧
    record.topic = row.topic ∧ record.envelope = row.envelope

/-- What a session loaded is what is stored, and what it marked is acknowledged. -/
structure Sound (shared : Shared) (session : Session) : Prop where
  loaded : ∀ message ∈ session.unmarked, ∃ row, shared.outboxMessages[message.1]? = some row ∧
    Stays message.2 row
  stored : ∀ id ∈ session.delivered, id < shared.outboxMessages.length
  sent : ∀ id ∈ session.delivered, ∃ record ∈ shared.records, record.key = id
  marked : ∀ message ∈ session.marked, message.1 ∈ shared.acknowledged ∧ message.2.publishedAt ≠ none

/-- What a session relies on in the shared data is not taken back. -/
structure Grows (shared later : Shared) : Prop where
  kept : Keeps shared.outboxMessages later.outboxMessages
  acknowledged : ∀ id ∈ shared.acknowledged, id ∈ later.acknowledged
  records : ∀ record ∈ shared.records, record ∈ later.records

/-- No row is removed. -/
theorem Keeps.length (keeps : Keeps rows later) : rows.length ≤ later.length := by
  by_contra fewer
  obtain ⟨kept, held, _⟩ := keeps later.length _ (List.getElem?_eq_getElem (not_le.mp fewer))
  rw [List.getElem?_eq_none (Nat.le_refl _)] at held
  cases held

/-- What a session knows stays true while nothing it relies on is taken back. -/
theorem Sound.grow {later : Shared} {session : Session} (sound : Sound shared session)
    (grows : Grows shared later) : Sound later session := by
  constructor
  case loaded =>
    intro message listed
    obtain ⟨row, stored, stays⟩ := sound.loaded message listed
    obtain ⟨kept, held, remains⟩ := grows.kept _ row stored
    exact ⟨kept, held, stays.trans remains⟩
  case stored => exact fun id sent => Nat.lt_of_lt_of_le (sound.stored id sent) grows.kept.length
  case sent =>
    intro id sent
    obtain ⟨record, listed, same⟩ := sound.sent id sent
    exact ⟨record, grows.records record listed, same⟩
  case marked =>
    exact fun message listed => ⟨grows.acknowledged _ (sound.marked message listed).1,
      (sound.marked message listed).2⟩

/-- A statement takes nothing back. -/
theorem acts_grows {later : Shared} {session : Session} {next : Option Session}
    (sound : Sound shared session) (acts : Acts failing shared session later next) :
    Grows shared later := by
  cases acts with
  | store new => exact ⟨keeps_append _ _, fun _ listed => listed, fun _ listed => listed⟩
  | send => exact ⟨.refl _, fun _ listed => listed, fun _ listed => List.mem_append_left _ listed⟩
  | acknowledge now => exact ⟨.refl _, fun _ listed => List.mem_cons_of_mem _ listed, fun _ listed => listed⟩
  | commit =>
    exact ⟨keeps_marks fun message listed => (sound.marked message listed).2, fun _ listed => listed,
      fun _ listed => listed⟩
  | _ => exact ⟨.refl _, fun _ listed => listed, fun _ listed => listed⟩

/-- What a statement does to the shared data and its own session. -/
theorem acts_sound {later : Shared} {session : Session} {next : Option Session} (good : Good shared)
    (sound : Sound shared session) (acts : Acts failing shared session later next) :
    Good later ∧ ∀ following, next = some following → Sound later following := by
  have grows := acts_grows sound acts
  cases acts with
  | @store messages new =>
    refine ⟨⟨good.sent, fun id row stored published => ?_, fun record listed => ?_⟩,
      fun _ absurdity => by cases absurdity⟩
    · rcases Rows.stored_append_cases stored with old | ⟨_, added⟩
      · exact good.published id row old published
      · exact absurd (new row (List.mem_of_getElem? added)) published
    · obtain ⟨row, stored, same⟩ := good.recorded record listed
      exact ⟨row, Rows.stored_append messages stored, same⟩
  | select skips =>
    refine ⟨good, ?_⟩
    rintro _ ⟨⟩
    constructor
    case loaded =>
      intro message listed
      exact ⟨message.2, (mem_selected listed).1, .refl _⟩
    case stored => exact fun id absent => by cases absent
    case sent => exact fun id absent => by cases absent
    case marked => exact fun message absent => by cases absent
  | @send message pending marked =>
    obtain ⟨⟨row, stored, stays⟩, others⟩ := List.forall_mem_cons.mp sound.loaded
    refine ⟨⟨fun id listed => ?_, good.published, fun record listed => ?_⟩, ?_⟩
    · obtain ⟨record, held, same⟩ := good.sent id listed
      exact ⟨record, List.mem_append_left _ held, same⟩
    · rcases List.mem_append.mp listed with old | new
      · exact good.recorded record old
      · rw [List.mem_singleton.mp new]
        exact ⟨row, stored, stays.topic.symm, stays.envelope.symm⟩
    · rintro _ ⟨⟩
      constructor
      case loaded => exact sound.loaded
      case stored =>
        intro id sent
        rcases List.mem_cons.mp sent with rfl | earlier
        · exact (List.getElem?_eq_some_iff.mp stored).1
        · exact sound.stored id earlier
      case sent =>
        intro id sent
        rcases List.mem_cons.mp sent with rfl | earlier
        · exact ⟨recordOf message, List.mem_append_right _ List.mem_cons_self, rfl⟩
        · obtain ⟨record, held, same⟩ := sound.sent id earlier
          exact ⟨record, List.mem_append_left _ held, same⟩
      case marked => exact sound.marked
  | @acknowledge message pending marked now =>
    have grown := sound.grow grows
    refine ⟨⟨List.forall_mem_cons.mpr ⟨grown.sent message.1 List.mem_cons_self, good.sent⟩,
      fun id row stored published => List.mem_cons_of_mem _ (good.published id row stored published),
      good.recorded⟩, ?_⟩
    rintro _ ⟨⟩
    have delivered : ∀ id ∈ (Session.sending pending (marked ++ [mark now message])).delivered,
        id ∈ (Session.awaiting message pending marked).delivered := by
      intro id sent
      rw [Session.delivered, List.map_append, List.mem_append] at sent
      rcases sent with earlier | new
      · exact List.mem_cons_of_mem _ earlier
      · rw [List.mem_singleton.mp new]
        exact List.mem_cons_self
    constructor
    case loaded => exact (List.forall_mem_cons.mp grown.loaded).2
    case stored => exact fun id sent => grown.stored id (delivered id sent)
    case sent => exact fun id sent => grown.sent id (delivered id sent)
    case marked =>
      intro other listed
      rcases List.mem_append.mp listed with earlier | new
      · exact grown.marked other earlier
      · rw [List.mem_singleton.mp new]
        exact ⟨List.mem_cons_self, Option.some_ne_none now⟩
  | @commit marked =>
    refine ⟨⟨good.sent, fun id row stored published => ?_, fun record listed => ?_⟩,
      fun _ absurdity => by cases absurdity⟩
    · rcases published_origin stored published with here | ⟨old, held, before⟩
      · obtain ⟨message, listed, rfl⟩ := List.mem_map.mp here
        exact (sound.marked message listed).1
      · exact good.published id old held before
    · obtain ⟨row, stored, topic, envelope⟩ := good.recorded record listed
      obtain ⟨kept, held, stays⟩ := grows.kept record.key row stored
      exact ⟨kept, held, topic.trans stays.topic.symm, envelope.trans stays.envelope.symm⟩
  | refuse => exact ⟨good, fun _ absurdity => by cases absurdity⟩
  | lose => exact ⟨good, fun _ absurdity => by cases absurdity⟩

/-- Every statement keeps the shared data good and each session's knowledge sound. -/
theorem rule (failing : Prop) : Sessions.Rule (protocol failing) Good Sound where
  begins good begins := by
    rcases begins with rfl | ⟨messages, rfl⟩ <;> constructor <;> intro _ absent <;> cases absent
  acts good sound acts := acts_sound good sound acts
  stable _ sound acts other _ := other.grow (acts_grows sound acts)

/-- An empty outbox is good. -/
theorem good_empty : Good .empty := by
  constructor
  · exact fun id absent => by cases absent
  · exact fun id row absent => by cases absent
  · exact fun record absent => by cases absent

/-- The data and the sessions of a reachable world are sound. -/
theorem kept (reached : Reachable (protocol failing) .empty world) : Kept Good Sound world :=
  (rule failing).reachable good_empty reached

/-- Committed rows are kept from there on. -/
theorem rows_kept (reached : Reachable (protocol failing) .empty world)
    (steps : Relation.ReflTransGen (Step (protocol failing)) world after) :
    Keeps world.shared.outboxMessages after.shared.outboxMessages := by
  induction steps with
  | refl => exact .refl _
  | @tail middle last earlier step inductionHypothesis =>
    have sound := (kept (Relation.ReflTransGen.trans reached earlier)).2
    refine inductionHypothesis.trans ?_
    cases step with
    | begin => exact .refl _
    | act id state shared next running acts => exact (acts_grows (sound id state running) acts).kept
    | abort => exact .refl _

end Safety

section Once

/-- How often a row was sent. -/
def sent (id : Nat) (shared : Shared) : Nat :=
  shared.records.countP (fun record => decide (record.key = id))

/-- The row is marked as published. -/
def Published (id : Nat) (shared : Shared) : Prop :=
  ∃ row, shared.outboxMessages[id]? = some row ∧ row.publishedAt ≠ none

/-- A session has sent the row and will mark it. -/
def Held (id : Nat) (world : World Shared Session) : Prop :=
  ∃ holder session, world.sessions holder = some session ∧ id ∈ session.delivered

/-- What was sent was sent once, and is marked or in the hands of a session that
will mark it; what a session is to send, nobody sent. -/
structure Accounted (world : World Shared Session) : Prop where
  once : ∀ id, sent id world.shared = 0 ∨
    sent id world.shared = 1 ∧ (Published id world.shared ∨ Held id world)
  pending : ∀ holder session, world.sessions holder = some session →
    ∀ message ∈ session.pending, sent message.1 world.shared = 0
  distinct : ∀ holder session, world.sessions holder = some session →
    (session.pending.map Prod.fst).Nodup

variable {own : Nat} {state : Session} {later : Shared} {next : Option Session}

/-- After a session moved, a running session is the moved one or one that ran before. -/
theorem session_cases {holder : Nat} {session : Session}
    (runs : (world.move later own next).sessions holder = some session) :
    holder = own ∧ next = some session ∨ holder ≠ own ∧ world.sessions holder = some session := by
  by_cases same : holder = own
  · subst same
    rw [World.move_self] at runs
    exact Or.inl ⟨rfl, runs⟩
  · rw [World.move_other _ _ _ same] at runs
    exact Or.inr ⟨same, runs⟩

/-- A row is held by the session that moves, or still by another one. -/
theorem Held.move {id : Nat} (held : Held id world) (running : ∀ session, world.sessions own = some session →
    session = state) : id ∈ state.delivered ∨ Held id (world.move later own next) := by
  obtain ⟨holder, session, runs, member⟩ := held
  by_cases same : holder = own
  · subst same
    exact Or.inl (running session runs ▸ member)
  · exact Or.inr ⟨holder, session, by rw [World.move_other _ _ _ same, runs], member⟩

/-- A move of a session keeps the account when it sends nothing, hands on what it
has sent or marks it, and is to send only what nobody sent. -/
theorem Accounted.move (accounted : Accounted world)
    (running : ∀ session, world.sessions own = some session → session = state)
    (silent : later.records = world.shared.records)
    (published : ∀ id, Published id world.shared → Published id later)
    (handed : ∀ id ∈ state.delivered,
      Published id later ∨ ∃ following, next = some following ∧ id ∈ following.delivered)
    (unsent : ∀ following, next = some following → (following.pending.map Prod.fst).Nodup ∧
      ∀ message ∈ following.pending, sent message.1 world.shared = 0) :
    Accounted (world.move later own next) := by
  have counts : ∀ id, sent id later = sent id world.shared := fun id => by rw [sent, silent, sent]
  constructor
  case once =>
    intro id
    change sent id later = 0 ∨ sent id later = 1 ∧ (Published id later ∨ _)
    rw [counts]
    refine (accounted.once id).imp_right fun ⟨one, place⟩ => ⟨one, ?_⟩
    rcases place with marked | held
    · exact Or.inl (published id marked)
    · rcases held.move running with own | other
      · refine (handed id own).imp_right ?_
        rintro ⟨following, rfl, member⟩
        exact ⟨_, following, World.move_self .., member⟩
      · exact Or.inr other
  case pending =>
    intro holder session runs message listed
    rw [World.move, counts]
    rcases session_cases runs with ⟨_, rfl⟩ | ⟨_, other⟩
    · exact (unsent session rfl).2 message listed
    · exact accounted.pending holder session other message listed
  case distinct =>
    intro holder session runs
    rcases session_cases runs with ⟨_, rfl⟩ | ⟨_, other⟩
    · exact (unsent session rfl).1
    · exact accounted.distinct holder session other

/-- A send of a row that nobody sent. -/
theorem Accounted.send (accounted : Accounted world) (exclusive : Exclusive (protocol failing) world)
    {message : Message} {pending marked : List Message}
    (running : world.sessions own = some (.sending (message :: pending) marked)) :
    Accounted (world.move { world.shared with records := world.shared.records ++ [recordOf message] } own
      (some (.awaiting message pending marked))) := by
  have counts : ∀ id, sent id { world.shared with records := world.shared.records ++ [recordOf message] } =
      sent id world.shared + if message.1 = id then 1 else 0 := by
    intro id
    rw [sent, List.countP_append, List.countP_singleton]
    by_cases same : message.1 = id <;> simp [sent, recordOf, same]
  have unsent := accounted.pending own _ running message List.mem_cons_self
  obtain ⟨apart, rest⟩ := List.nodup_cons.mp (accounted.distinct own _ running)
  have others : ∀ holder session, (world.move { world.shared with
      records := world.shared.records ++ [recordOf message] } own
      (some (.awaiting message pending marked))).sessions holder = some session →
      ∀ other ∈ session.pending, other.1 ≠ message.1 ∧ sent other.1 world.shared = 0 := by
    intro holder session runs other listed
    rcases session_cases runs with ⟨_, same⟩ | ⟨different, held⟩
    · cases same
      exact ⟨fun same => apart (same ▸ List.mem_map_of_mem listed),
        accounted.pending own _ running other (List.mem_cons_of_mem _ listed)⟩
    · refine ⟨fun same => ?_, accounted.pending holder session held other listed⟩
      exact exclusive own holder _ _ (Ne.symm different) running held message.1 (Or.inr List.mem_cons_self)
        (Or.inr (same ▸ List.mem_map_of_mem listed))
  constructor
  case once =>
    intro id
    change sent id { world.shared with records := _ } = 0 ∨ sent id { world.shared with records := _ } = 1 ∧
      (Published id world.shared ∨ _)
    rw [counts]
    by_cases same : message.1 = id
    · subst same
      rw [if_pos rfl, unsent]
      exact Or.inr ⟨rfl, Or.inr ⟨own, _, World.move_self .., List.mem_cons_self⟩⟩
    · rw [if_neg same, Nat.add_zero]
      refine (accounted.once id).imp_right fun ⟨one, place⟩ => ⟨one, place.imp_right fun held => ?_⟩
      rcases held.move (fun session runs => Option.some.inj (runs.symm.trans running)) with member | other
      · exact ⟨own, _, World.move_self .., List.mem_cons_of_mem _ member⟩
      · exact other
  case pending =>
    intro holder session runs other listed
    obtain ⟨different, unsent⟩ := others holder session runs other listed
    rw [World.move, counts, if_neg (Ne.symm different), unsent]
  case distinct =>
    intro holder session runs
    rcases session_cases runs with ⟨_, same⟩ | ⟨_, held⟩
    · cases same
      exact rest
    · exact accounted.distinct holder session held

/-- A step without a failure keeps the account. -/
theorem Accounted.step (accounted : Accounted world) (kept : Kept Good Sound world)
    (exclusive : Exclusive (protocol False) world) (steady : Steady (protocol False) world after) :
    Accounted after := by
  cases steady with
  | begin own state idle begins =>
    have nothing : state.delivered = [] ∧ state.pending = [] := by
      rcases begins with rfl | ⟨messages, rfl⟩ <;> exact ⟨rfl, rfl⟩
    have only : ∀ session, world.sessions own = some session → session = state := by
      intro session runs
      rw [idle] at runs
      cases runs
    refine accounted.move only rfl (fun id marked => marked) ?_ ?_
    · rw [nothing.1]
      exact fun id absent => by cases absent
    · rintro following ⟨⟩
      rw [nothing.2]
      exact ⟨List.nodup_nil, fun message absent => by cases absent⟩
  | act own state shared next running acts granted =>
    have only : ∀ session, world.sessions own = some session → session = state :=
      fun session runs => Option.some.inj (runs.symm.trans running)
    have grows := acts_grows (kept.2 own state running) acts
    have published : ∀ id, Published id world.shared → Published id shared := by
      rintro id ⟨row, stored, marked⟩
      obtain ⟨later, held, stays⟩ := grows.kept id row stored
      exact ⟨later, held, stays.published marked⟩
    cases acts with
    | store new =>
      exact accounted.move only rfl published (fun id absent => by cases absent)
        (fun following absurdity => by cases absurdity)
    | select skips =>
      refine accounted.move only rfl published (fun id absent => by cases absent) ?_
      rintro _ ⟨⟩
      refine ⟨selected_nodup skips _, fun message listed => ?_⟩
      obtain ⟨stored, unpublished⟩ := mem_selected listed
      rcases accounted.once message.1 with none | ⟨_, ⟨row, held, marked⟩ | ⟨holder, session, runs, member⟩⟩
      · exact none
      · rw [stored] at held
        exact absurd (Option.some.inj held ▸ unpublished) marked
      · have different : holder ≠ own := by
          rintro rfl
          rw [only session runs] at member
          cases member
        exact absurd (Or.inl member) (granted _ rfl message.1 (Or.inr (List.mem_map_of_mem listed)) holder
          session different runs)
    | send => exact accounted.send exclusive running
    | @acknowledge message pending marked now =>
      refine accounted.move only rfl published (fun id member => ?_) ?_
      · refine Or.inr ⟨_, rfl, ?_⟩
        rw [Session.delivered, List.map_append, List.mem_append]
        rcases List.mem_cons.mp member with rfl | earlier
        · exact Or.inr List.mem_cons_self
        · exact Or.inl earlier
      · rintro _ ⟨⟩
        have distinct := accounted.distinct own _ running
        have pending := accounted.pending own _ running
        exact ⟨distinct, pending⟩
    | commit =>
      refine accounted.move only rfl published (fun id member => Or.inl ?_)
        (fun following absurdity => by cases absurdity)
      have sound := kept.2 own _ running
      exact published_marked (fun message listed => (sound.marked message listed).2) member
        (List.getElem?_eq_getElem (sound.stored id member))
    | refuse fails => exact fails.elim
    | lose fails => exact fails.elim

/-- Without failures and crashes the account is kept. -/
theorem accounted_undisturbed (undisturbed : Undisturbed (protocol False) .empty world) :
    Accounted world := by
  induction undisturbed with
  | refl =>
    constructor
    · exact fun id => Or.inl rfl
    · exact fun _ _ absurdity => by cases absurdity
    · exact fun _ _ absurdity => by cases absurdity
  | tail earlier steady inductionHypothesis =>
    have reached := Undisturbed.reachable earlier
    exact inductionHypothesis.step (kept reached) reached.exclusive steady

end Once

/-- In every interleaving, a published row was acknowledged, a record is that of
a committed row, and committed rows stay; without failures and crashes a row is
sent at most once. -/
theorem publishing_loses_nothing :
    (∀ world : World Shared Session, Reachable (protocol True) .empty world →
      (∀ (id : Nat) (row : OutboxMessage), world.shared.outboxMessages[id]? = some row →
        row.publishedAt ≠ none → id ∈ world.shared.acknowledged ∧
          ∃ record ∈ world.shared.records, record.key = id) ∧
      (∀ record ∈ world.shared.records, ∃ row, world.shared.outboxMessages[record.key]? = some row ∧
        record.topic = row.topic ∧ record.envelope = row.envelope) ∧
      ∀ later, Relation.ReflTransGen (Step (protocol True)) world later →
        Keeps world.shared.outboxMessages later.shared.outboxMessages) ∧
    ∀ world : World Shared Session, Undisturbed (protocol False) .empty world →
      ∀ id, world.shared.records.countP (fun record => decide (record.key = id)) ≤ 1 := by
  constructor
  · intro world reached
    have good := (kept reached).1
    refine ⟨fun id row stored published => ?_, good.recorded, fun later steps => rows_kept reached steps⟩
    have acknowledged := good.published id row stored published
    exact ⟨acknowledged, good.sent id acknowledged⟩
  · intro world undisturbed id
    rcases (accounted_undisturbed undisturbed).once id with none | ⟨one, _⟩
    · exact (Nat.le_of_eq none).trans (Nat.zero_le 1)
    · exact Nat.le_of_eq one

section Sample

/-- A message that was not sent. -/
def sampleMessage (name : PyStr) : OutboxMessage := ⟨py "stamps.voided", name, .none, 0, none, 0⟩

/-- Two messages. -/
def sampleMessages : List OutboxMessage := [sampleMessage (py "NG-1"), sampleMessage (py "NG-2")]

/-- Two messages, the second published before the first. -/
def samplePublished : Shared :=
  { outboxMessages := sampleMessages.map (fun row => { row with publishedAt := some 1, attempts := 1 })
    records := [recordOf (0, sampleMessage (py "NG-1")), recordOf (1, sampleMessage (py "NG-2"))]
    acknowledged := [0, 1] }

/-- The sample messages were not sent. -/
theorem sample_new : ∀ row ∈ sampleMessages, row.publishedAt = none := by decide

/-- Sessions with different messages are not in each other's way. -/
theorem sample_apart {left right : Session}
    (disjoint : ∀ id ∈ left.delivered ++ left.pending.map Prod.fst,
      id ∉ right.delivered ++ right.pending.map Prod.fst) :
    Apart (protocol True) (some left) (some right) := by
  rintro _ _ ⟨⟩ ⟨⟩ id held other
  exact disjoint id (List.mem_append.mpr held) (List.mem_append.mpr other)

/-- The first of the messages. -/
def first : Message := (0, sampleMessage (py "NG-1"))

/-- The second of the messages. -/
def second : Message := (1, sampleMessage (py "NG-2"))

/-- Both messages are stored, and some have been sent, acknowledged and marked. -/
def halfway (records : List Record) (acknowledged : List Nat) (marks : List Message) : Shared :=
  ⟨marks.foldl writeMark sampleMessages, records, acknowledged⟩

/-- The first publisher has sent a message and waits for its acknowledgement. -/
theorem first_awaits : Relation.ReflTransGen (Step (protocol True)) (World.pair (halfway [] [] []) none none)
    (World.pair (halfway [recordOf first] [] []) (some (.awaiting first [] [])) none) :=
  .head (begin_left (Or.inl rfl) apart_over)
    (.head (act_left (.select (fun id => decide (id = 1))) apart_over) (.single (act_left .send apart_over)))

/-- Meanwhile the second publisher publishes the message that is not locked. -/
theorem second_publishes : Relation.ReflTransGen (Step (protocol True))
    (World.pair (halfway [recordOf first] [] []) (some (.awaiting first [] [])) none)
    (World.pair (halfway [recordOf first, recordOf second] [1] [mark 1 second])
      (some (.awaiting first [] [])) none) :=
  .head (begin_right (Or.inl rfl) (sample_apart (by decide)))
    (.head (act_right (.select (fun id => decide (id = 0))) (sample_apart (by decide)))
      (.head (act_right .send (sample_apart (by decide)))
        (.head (act_right (.acknowledge 1) (sample_apart (by decide)))
          (.single (act_right .commit (fun _ _ absurdity => by cases absurdity))))))

/-- Then the first publisher goes on. -/
theorem first_publishes : Relation.ReflTransGen (Step (protocol True))
    (World.pair (halfway [recordOf first, recordOf second] [1] [mark 1 second])
      (some (.awaiting first [] [])) none)
    (World.pair samplePublished none none) :=
  .head (act_left (.acknowledge 1) apart_over) (.single (act_left .commit apart_over))

/-- A publisher is between a message and its acknowledgement while another one publishes the
message that the first has not locked. -/
theorem sample_reached : Reachable (protocol True) .empty (World.start samplePublished) := by
  have storing : Alone (protocol True) .empty (.storing sampleMessages) (halfway [] [] []) :=
    .last (.store sample_new)
  have both := (first_awaits.trans second_publishes).trans first_publishes
  rw [World.pair_start, World.pair_start] at both
  exact (storing.reachable (Or.inr ⟨_, rfl⟩)).trans both

/-- The published messages were acknowledged and are on the broker. -/
theorem publishing_loses_nothing_sample :
    ∀ id < 2, id ∈ samplePublished.acknowledged ∧ ∃ record ∈ samplePublished.records, record.key = id := by
  intro id inside
  have published : ∃ row, samplePublished.outboxMessages[id]? = some row ∧ row.publishedAt = some 1 := by
    rcases id with _ | _ | id
    · exact ⟨_, rfl, rfl⟩
    · exact ⟨_, rfl, rfl⟩
    · omega
  obtain ⟨row, stored, marked⟩ := published
  exact (publishing_loses_nothing.1 _ sample_reached).1 id row stored
    (by rw [marked]; exact Option.some_ne_none 1)

end Sample

end TaxStamps.Publisher
