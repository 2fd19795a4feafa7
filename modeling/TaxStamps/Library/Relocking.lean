import TaxStamps.Library.Sessions

/-!
# Requests that read a row before they lock it

A request reads a row without a lock and may be done with it; otherwise it asks for
the row's lock, and when it has the lock it still has the copy that it read first.
What it commits is computed from the copy and from what is stored. It may go on from
the copy it has after a commit, without the lock.

A law says what a commit keeps when the lock was granted in time: while the copy was
still good enough for the request. In the interleavings in which every lock is granted
in time it is kept.
-/

namespace Relocking

open Sessions

variable {σ α ρ : Type}

/-- Where a request is. -/
inductive Stage (α ρ : Type)
  | called (call : α)
  /-- It has a copy of the row. -/
  | loaded (call : α) (copy : ρ)
  /-- It waits for the lock. -/
  | waiting (call : α) (copy : ρ)
  /-- It has the lock, and still its copy. -/
  | locked (call : α) (copy : ρ)

/-- The row, the requests that are answered without its lock, and the commits. -/
structure Service (σ α ρ : Type) where
  read : σ → Option ρ
  answered : σ → α → Prop
  commits : σ → α → ρ → σ → Option (α × ρ) → Prop

/-- A request that goes on has a copy. -/
def following (next : Option (α × ρ)) : Option (Stage α ρ) :=
  next.map (fun further => .loaded further.1 further.2)

variable {service : Service σ α ρ}

/-- The statements of a request. -/
inductive Acts (service : Service σ α ρ) (shared : σ) : Stage α ρ → σ → Option (Stage α ρ) → Prop
  | load {call : α} {row : ρ} (stored : service.read shared = some row) :
      Acts service shared (.called call) shared (some (.loaded call row))
  | leave {call : α} {copy : ρ} (answered : service.answered shared call) :
      Acts service shared (.loaded call copy) shared none
  | ask {call : α} {copy : ρ} (unanswered : ¬ service.answered shared call) :
      Acts service shared (.loaded call copy) shared (some (.waiting call copy))
  | lock {call : α} {copy row : ρ} (stored : service.read shared = some row) :
      Acts service shared (.waiting call copy) shared (some (.locked call copy))
  | commit {call : α} {copy : ρ} {later : σ} {next : Option (α × ρ)}
      (commits : service.commits shared call copy later next) :
      Acts service shared (.locked call copy) later (following next)

/-- The row is held between its lock and the commit. -/
def holdsRow : Stage α ρ → Unit → Prop
  | .locked _ _, _ => True
  | _, _ => False

/-- Any number of requests for one row. -/
def protocol (service : Service σ α ρ) : Protocol σ (Stage α ρ) Unit where
  begins stage := ∃ call, stage = .called call
  acts := Acts service
  holds := holdsRow

/-- The lock is granted in time. -/
def grantedIn (timely : σ → α → ρ → Prop) (shared : σ) : Stage α ρ → Prop
  | .waiting call copy => timely shared call copy
  | _ => True

/-- The interleavings of requests that get the lock in time. -/
def timed (service : Service σ α ρ) (timely : σ → α → ρ → Prop) : Protocol σ (Stage α ρ) Unit :=
  (protocol service).allowing (grantedIn timely)

/-- What a commit keeps: the data good, and the row alike to the copies of it. -/
structure Law (service : Service σ α ρ) (good : σ → Prop) (alike : ρ → ρ → Prop)
    (timely : σ → α → ρ → Prop) : Prop where
  refl : ∀ row, alike row row
  commits : ∀ {shared call copy row later next}, good shared → service.read shared = some row →
    alike copy row → timely shared call copy → service.commits shared call copy later next →
      good later ∧ ∃ stored, service.read later = some stored ∧
        (∀ other, alike other row → alike other stored) ∧
        ∀ call' copy', next = some (call', copy') → alike copy' stored

/-- The copy of a request is alike to the stored row. -/
def Copied (service : Service σ α ρ) (alike : ρ → ρ → Prop) (shared : σ) (copy : ρ) : Prop :=
  ∃ row, service.read shared = some row ∧ alike copy row

/-- What a request knows. -/
def Knows (service : Service σ α ρ) (alike : ρ → ρ → Prop) (timely : σ → α → ρ → Prop) (shared : σ) :
    Stage α ρ → Prop
  | .called _ => True
  | .loaded _ copy => Copied service alike shared copy
  | .waiting _ copy => Copied service alike shared copy
  | .locked call copy => Copied service alike shared copy ∧ timely shared call copy

section Laws

variable {good : σ → Prop} {alike : ρ → ρ → Prop} {timely : σ → α → ρ → Prop} {shared later : σ}
  {stage : Stage α ρ} {next : Option (Stage α ρ)}

/-- Only a request with the lock changes the data. -/
theorem acts_shared (acts : Acts service shared stage later next) : later = shared ∨ holdsRow stage () := by
  cases acts with
  | commit => exact Or.inr trivial
  | _ => exact Or.inl rfl

/-- A copy stays alike to the row. -/
theorem Law.copied (law : Law service good alike timely) (holds : good shared)
    (knows : Knows service alike timely shared stage) (acts : Acts service shared stage later next)
    {copy : ρ} (copied : Copied service alike shared copy) : Copied service alike later copy := by
  cases acts with
  | commit commits =>
    obtain ⟨⟨row, stored, own⟩, inTime⟩ := knows
    obtain ⟨held, present, same⟩ := copied
    obtain rfl := Option.some.inj (stored.symm.trans present)
    obtain ⟨_, kept, read, others, _⟩ := law.commits holds stored own inTime commits
    exact ⟨kept, read, others copy same⟩
  | _ => exact copied

/-- The statements of requests that get the lock in time keep the law. -/
theorem Law.rule (law : Law service good alike timely) :
    Rule (timed service timely) good (Knows service alike timely) := by
  constructor
  case begins =>
    rintro shared stage _ ⟨call, rfl⟩
    trivial
  case acts =>
    rintro shared stage later next holds knows ⟨acts, inTime⟩
    cases acts with
    | load stored =>
      refine ⟨holds, ?_⟩
      rintro further ⟨⟩
      exact ⟨_, stored, law.refl _⟩
    | leave => exact ⟨holds, fun _ absurdity => by cases absurdity⟩
    | ask =>
      refine ⟨holds, ?_⟩
      rintro further ⟨⟩
      exact knows
    | lock =>
      refine ⟨holds, ?_⟩
      rintro further ⟨⟩
      exact ⟨knows, inTime⟩
    | commit commits =>
      obtain ⟨⟨row, stored, own⟩, granted⟩ := knows
      obtain ⟨kept, held, read, _, goes⟩ := law.commits holds stored own granted commits
      refine ⟨kept, fun further on => ?_⟩
      obtain ⟨⟨call, copy⟩, continued, rfl⟩ := Option.map_eq_some_iff.mp on
      exact ⟨held, read, goes call copy continued⟩
  case stable =>
    rintro shared stage later next other holds knows ⟨acts, _⟩ otherKnows apart
    cases other with
    | called => trivial
    | loaded => exact law.copied holds knows acts otherKnows
    | waiting => exact law.copied holds knows acts otherKnows
    | locked =>
      rcases acts_shared acts with rfl | held
      · exact otherKnows
      · exact absurd trivial (apart () held)

variable {initial : σ} {world after : World σ (Stage α ρ)}

/-- The data are good in every interleaving. -/
theorem Law.reachable (law : Law service good alike timely) (initially : good initial)
    (run : Reachable (timed service timely) initial world) : good world.shared :=
  (law.rule.reachable initially run).1

/-- A step changes nothing or is the commit of a request that got the lock in time. -/
theorem Law.step (law : Law service good alike timely) (initially : good initial)
    (run : Reachable (timed service timely) initial world)
    (step : Step (timed service timely) world after) : after.shared = world.shared ∨
      ∃ call copy row next, service.read world.shared = some row ∧ alike copy row ∧
        timely world.shared call copy ∧ service.commits world.shared call copy after.shared next := by
  have known := (law.rule.reachable initially run).2
  cases step with
  | begin => exact Or.inl rfl
  | abort => exact Or.inl rfl
  | act id stage shared next running acts =>
    have knows := known id stage running
    cases acts.1 with
    | commit commits =>
      obtain ⟨⟨row, stored, own⟩, granted⟩ := knows
      exact Or.inr ⟨_, _, row, _, stored, own, granted, commits⟩
    | _ => exact Or.inl rfl

end Laws

section Runs

variable {timely : σ → α → ρ → Prop} {shared later final : σ} {call first second : α} {row held : ρ}

/-- A request by itself that commits once. -/
theorem alone (stored : service.read shared = some row) (unanswered : ¬ service.answered shared call)
    (inTime : timely shared call row) (commits : service.commits shared call row later none) :
    Alone (timed service timely) shared (.called call) later :=
  .next ⟨.load stored, trivial⟩ (.next ⟨.ask unanswered, trivial⟩
    (.next ⟨.lock stored, inTime⟩ (.last ⟨.commit commits, trivial⟩)))

/-- A request that waited while another committed gets the lock in time, and keeps its
older copy. -/
theorem outdated (stored : service.read shared = some row) (unanswered : ¬ service.answered shared first)
    (overtakes : Alone (timed service timely) shared (.called second) later)
    (present : service.read later = some held) (inTime : timely later first row) :
    Reachable (timed service timely) shared (World.single later (.locked first row)) := by
  have waits : Runs (timed service timely) shared (.called first) shared (.waiting first row) :=
    .next ⟨.load stored, trivial⟩ (.next ⟨.ask unanswered, trivial⟩ .here)
  have granted : Runs (timed service timely) later (.waiting first row) later (.locked first row) :=
    .next ⟨.lock present, inTime⟩ .here
  have paused : Reachable (timed service timely) shared (World.single later (.waiting first row)) :=
    waited ⟨first, rfl⟩ waits (fun _ => not_false) ⟨second, rfl⟩ overtakes
  exact Relation.ReflTransGen.trans paused granted.steps

/-- A request that has the lock commits. -/
theorem commitStep (timely : σ → α → ρ → Prop) {next : Option (α × ρ)} (commits : service.commits later first row final next) :
    Step (timed service timely) (World.single later (.locked first row))
      ((World.single later (.locked first row)).move final 0 (following next)) :=
  .act 0 _ final _ (World.move_self ..) ⟨.commit commits, trivial⟩ (single_granted _ _ _)

/-- A request that waited while another committed gets the lock in time, and commits. -/
theorem interleaved (stored : service.read shared = some row) (unanswered : ¬ service.answered shared first)
    (overtakes : Alone (timed service timely) shared (.called second) later)
    (present : service.read later = some held) (inTime : timely later first row)
    (commits : service.commits later first row final none) :
    Reachable (timed service timely) shared (World.start final) := by
  have finishes : Alone (timed service timely) later (.locked first row) final := .last ⟨.commit commits, trivial⟩
  exact Relation.ReflTransGen.trans (outdated stored unanswered overtakes present inTime) finishes.steps

/-- Every lock is granted when none has to be in time. -/
theorem untimed {stage : Stage α ρ} (alone : Alone (protocol service) shared stage later) :
    Alone (timed service fun _ _ _ => True) shared stage later := by
  have granted : ∀ (shared : σ) (stage : Stage α ρ), grantedIn (fun _ _ _ => True) shared stage := by
    intro shared stage
    cases stage <;> trivial
  induction alone with
  | last acts => exact .last ⟨acts, granted _ _⟩
  | next acts _ inductionHypothesis => exact .next ⟨acts, granted _ _⟩ inductionHypothesis

/-- A request that waits for the lock is overtaken, and commits by its older copy. -/
theorem overtaken (stored : service.read shared = some row) (unanswered : ¬ service.answered shared first)
    (overtakes : Alone (protocol service) shared (.called second) later)
    (present : service.read later = some held) (commits : service.commits later first row final none) :
    Reachable (protocol service) shared (World.start final) :=
  (interleaved stored unanswered (untimed overtakes) present trivial commits).forget

end Runs

end Relocking
