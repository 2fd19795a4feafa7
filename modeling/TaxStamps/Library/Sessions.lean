import Mathlib.Logic.Function.Basic
import Mathlib.Logic.Relation

/-!
# Sessions over shared data

Any number of sessions act on shared data, one statement at a time and in any
order. A statement sees what is committed when it runs; a commit is a statement
that changes the shared data; a session can be aborted at any point, and what it
had not committed is gone. An exclusive lock is granted only while no other
session holds it, and is held until the session gives it up.

What the sessions hold apart from the locks, and what the shared data are, is
left open. The rule at the end turns a per-statement argument into an invariant
of all interleavings: a session's own assertion has to survive the statements of
the others, with whom it shares no lock.
-/

namespace Sessions

open Relation

universe u v w
variable {σ : Type u} {τ : Type v} {κ : Type w}

/-- What a session can do: begin, and run its next statement, after which it may
be over. -/
structure Protocol (σ : Type u) (τ : Type v) (κ : Type w) where
  begins : τ → Prop
  acts : σ → τ → σ → Option τ → Prop
  holds : τ → κ → Prop

/-- The shared data and the sessions that are open. -/
structure World (σ : Type u) (τ : Type v) where
  shared : σ
  sessions : Nat → Option τ

/-- Nobody has begun. -/
def World.start (shared : σ) : World σ τ := ⟨shared, fun _ => none⟩

/-- The world after one session moved. -/
def World.move (world : World σ τ) (shared : σ) (id : Nat) (next : Option τ) : World σ τ :=
  ⟨shared, Function.update world.sessions id next⟩

variable {protocol : Protocol σ τ κ} {world after : World σ τ}

/-- The session that moves is in its next state. -/
@[simp] theorem World.move_self (world : World σ τ) (shared : σ) (id : Nat) (next : Option τ) :
    (world.move shared id next).sessions id = next := Function.update_self ..

/-- The other sessions stay in their states. -/
@[simp] theorem World.move_other (world : World σ τ) (shared : σ) {id other : Nat} (next : Option τ)
    (different : other ≠ id) : (world.move shared id next).sessions other = world.sessions other :=
  Function.update_of_ne different ..

/-- The locks that the session's next state holds are held by nobody else. -/
def Granted (protocol : Protocol σ τ κ) (world : World σ τ) (id : Nat) (next : Option τ) : Prop :=
  ∀ state, next = some state → ∀ lock, protocol.holds state lock →
    ∀ other session, other ≠ id → world.sessions other = some session → ¬ protocol.holds session lock

/-- One step of one session. -/
inductive Step (protocol : Protocol σ τ κ) (world : World σ τ) : World σ τ → Prop
  | begin (id : Nat) (state : τ) (idle : world.sessions id = none) (begins : protocol.begins state)
      (granted : Granted protocol world id (some state)) :
      Step protocol world (world.move world.shared id (some state))
  | act (id : Nat) (state : τ) (shared : σ) (next : Option τ) (running : world.sessions id = some state)
      (acts : protocol.acts world.shared state shared next) (granted : Granted protocol world id next) :
      Step protocol world (world.move shared id next)
  | abort (id : Nat) : Step protocol world (world.move world.shared id none)

/-- The interleavings from given shared data. -/
def Reachable (protocol : Protocol σ τ κ) (shared : σ) : World σ τ → Prop :=
  ReflTransGen (Step protocol) (World.start shared)

/-- One step in which no session is aborted. -/
inductive Steady (protocol : Protocol σ τ κ) (world : World σ τ) : World σ τ → Prop
  | begin (id : Nat) (state : τ) (idle : world.sessions id = none) (begins : protocol.begins state)
      (granted : Granted protocol world id (some state)) :
      Steady protocol world (world.move world.shared id (some state))
  | act (id : Nat) (state : τ) (shared : σ) (next : Option τ) (running : world.sessions id = some state)
      (acts : protocol.acts world.shared state shared next) (granted : Granted protocol world id next) :
      Steady protocol world (world.move shared id next)

/-- The interleavings in which no session is aborted. -/
def Undisturbed (protocol : Protocol σ τ κ) (shared : σ) : World σ τ → Prop :=
  ReflTransGen (Steady protocol) (World.start shared)

/-- A step without an abort is a step. -/
theorem Steady.step (steady : Steady protocol world after) : Step protocol world after := by
  cases steady with
  | begin id state idle begins granted => exact .begin id state idle begins granted
  | act id state shared next running acts granted => exact .act id state shared next running acts granted

/-- An undisturbed run is a run. -/
theorem Undisturbed.reachable {shared : σ} (undisturbed : Undisturbed protocol shared world) :
    Reachable protocol shared world := by
  induction undisturbed with
  | refl => exact .refl
  | tail _ steady inductionHypothesis => exact .tail inductionHypothesis steady.step

/-- Two sessions never hold one lock. -/
def Exclusive (protocol : Protocol σ τ κ) (world : World σ τ) : Prop :=
  ∀ first second left right, first ≠ second → world.sessions first = some left →
    world.sessions second = some right → ∀ lock, protocol.holds left lock → ¬ protocol.holds right lock

/-- A session that is granted its locks leaves every lock with at most one holder. -/
theorem Exclusive.move (exclusive : Exclusive protocol world) {shared : σ} {id : Nat} {next : Option τ}
    (granted : Granted protocol world id next) : Exclusive protocol (world.move shared id next) := by
  intro first second left right different leftRuns rightRuns lock
  by_cases leftMoves : first = id
  · subst leftMoves
    rw [World.move_self] at leftRuns
    rw [World.move_other _ _ _ (Ne.symm different)] at rightRuns
    exact fun held => granted left leftRuns lock held second right (Ne.symm different) rightRuns
  · rw [World.move_other _ _ _ leftMoves] at leftRuns
    by_cases rightMoves : second = id
    · subst rightMoves
      rw [World.move_self] at rightRuns
      exact fun held also => granted right rightRuns lock also first left leftMoves leftRuns held
    · rw [World.move_other _ _ _ rightMoves] at rightRuns
      exact exclusive first second left right different leftRuns rightRuns lock

/-- A step leaves every lock with at most one holder. -/
theorem Step.exclusive (step : Step protocol world after) (exclusive : Exclusive protocol world) :
    Exclusive protocol after := by
  cases step with
  | begin _ _ _ _ granted => exact exclusive.move granted
  | act _ _ _ _ _ _ granted => exact exclusive.move granted
  | abort => exact exclusive.move (fun _ absurdity => by cases absurdity)

/-- Locks are exclusive in every interleaving. -/
theorem Reachable.exclusive {shared : σ} (reached : Reachable protocol shared world) :
    Exclusive protocol world := by
  induction reached with
  | refl => exact fun _ _ _ _ _ absurdity => by cases absurdity
  | tail _ step inductionHypothesis => exact step.exclusive inductionHypothesis

/-- A session that runs by itself to its end. -/
inductive Alone (protocol : Protocol σ τ κ) : σ → τ → σ → Prop
  | last {shared later : σ} {state : τ} (acts : protocol.acts shared state later none) :
      Alone protocol shared state later
  | next {shared middle later : σ} {state following : τ}
      (acts : protocol.acts shared state middle (some following))
      (rest : Alone protocol middle following later) : Alone protocol shared state later

/-- The world of a single session. -/
def World.single (shared : σ) (state : τ) : World σ τ := (World.start shared).move shared 0 (some state)

/-- The state of a single session is overwritten by its move. -/
theorem World.single_move (shared later : σ) (state : τ) (next : Option τ) :
    (World.single shared state).move later 0 next = (World.start later).move later 0 next := by
  simp [single, move, start]

/-- A session that is over leaves the world as if it had not begun. -/
theorem World.start_move (shared : σ) :
    (World.start shared).move shared 0 none = (World.start shared : World σ τ) := by
  simp [move, start]

/-- Nobody else holds a lock. -/
theorem single_granted (shared : σ) (state : τ) (next : Option τ) :
    Granted protocol (World.single shared state) 0 next := by
  intro _ _ _ _ other session different runs
  rw [World.single, World.move_other _ _ _ different] at runs
  cases runs

/-- A session alone runs from its state to its end. -/
theorem Alone.steps {shared later : σ} {state : τ} (alone : Alone protocol shared state later) :
    ReflTransGen (Step protocol) (World.single shared state) (World.start later) := by
  induction alone with
  | @last shared later state acts =>
    have step : Step protocol (World.single shared state) _ :=
      .act 0 state later none (World.move_self ..) acts (single_granted shared state none)
    rw [World.single_move, World.start_move] at step
    exact .single step
  | @next shared middle later state following acts _ inductionHypothesis =>
    have step : Step protocol (World.single shared state) _ :=
      .act 0 state middle (some following) (World.move_self ..) acts
        (single_granted shared state (some following))
    rw [World.single_move] at step
    exact .head step inductionHypothesis

/-- A session that runs by itself is one of the interleavings. -/
theorem Alone.reachable {shared later : σ} {state : τ} (begins : protocol.begins state)
    (alone : Alone protocol shared state later) : Reachable protocol shared (World.start later) := by
  refine .head (.begin 0 state rfl begins ?_) alone.steps
  intro _ _ _ _ other session _ runs
  cases runs

/-- Interleavings follow one another when nobody is left in between. -/
theorem Reachable.trans {shared middle : σ} (earlier : Reachable protocol shared (World.start middle))
    (rest : Reachable protocol middle world) : Reachable protocol shared world :=
  Relation.ReflTransGen.trans earlier rest

section Pairs

/-- The world of two sessions, each of which may be over. -/
def World.pair (shared : σ) (left right : Option τ) : World σ τ where
  shared := shared
  sessions
    | 0 => left
    | 1 => right
    | _ => none

variable {shared later : σ} {state : τ} {left right next : Option τ}

/-- No lock of the one session is a lock of the other. -/
def Apart (protocol : Protocol σ τ κ) (left right : Option τ) : Prop :=
  ∀ first second, left = some first → right = some second →
    ∀ lock, protocol.holds first lock → ¬ protocol.holds second lock

/-- A session that is over holds no lock. -/
theorem apart_over : Apart protocol next none := fun _ _ _ absurdity => by cases absurdity

/-- Nobody has begun in the world of two sessions that are over. -/
theorem World.pair_start : World.pair shared none none = (World.start shared : World σ τ) := by
  rw [pair, start, World.mk.injEq]
  refine ⟨rfl, funext fun id => ?_⟩
  rcases id with _ | _ | id <;> rfl

/-- With the second session over, the first is alone. -/
theorem World.pair_single : World.pair shared (some state) none = World.single shared state := by
  rw [pair, single, move, start, World.mk.injEq]
  refine ⟨rfl, funext fun id => ?_⟩
  rcases id with _ | _ | id <;> rfl

/-- The first session moves, the second stays. -/
theorem World.pair_left : (World.pair shared left right).move later 0 next = World.pair later next right := by
  rw [move, pair, pair, World.mk.injEq]
  refine ⟨rfl, funext fun id => ?_⟩
  rcases id with _ | _ | id <;> rfl

/-- The second session moves, the first stays. -/
theorem World.pair_right : (World.pair shared left right).move later 1 next = World.pair later left next := by
  rw [move, pair, pair, World.mk.injEq]
  refine ⟨rfl, funext fun id => ?_⟩
  rcases id with _ | _ | id <;> rfl

/-- The first session is granted its locks if the second holds none of them. -/
theorem granted_left (apart : Apart protocol next right) :
    Granted protocol (World.pair shared left right) 0 next := by
  intro state same lock held other session different runs
  rcases other with _ | _ | other
  · exact absurd rfl different
  · exact apart state session same runs lock held
  · cases runs

/-- The second session is granted its locks if the first holds none of them. -/
theorem granted_right (apart : Apart protocol next left) :
    Granted protocol (World.pair shared left right) 1 next := by
  intro state same lock held other session different runs
  rcases other with _ | _ | other
  · exact apart state session same runs lock held
  · exact absurd rfl different
  · cases runs

/-- The first session begins beside the second. -/
theorem begin_left (begins : protocol.begins state) (apart : Apart protocol (some state) right) :
    Step protocol (World.pair shared none right) (World.pair shared (some state) right) := by
  have step : Step protocol (World.pair shared none right) _ := .begin 0 state rfl begins (granted_left apart)
  rwa [World.pair_left] at step

/-- The second session begins beside the first. -/
theorem begin_right (begins : protocol.begins state) (apart : Apart protocol (some state) left) :
    Step protocol (World.pair shared left none) (World.pair shared left (some state)) := by
  have step : Step protocol (World.pair shared left none) _ := .begin 1 state rfl begins (granted_right apart)
  rwa [World.pair_right] at step

/-- The first session runs a statement, after which its locks are not those of the second. -/
theorem act_left (acts : protocol.acts shared state later next) (apart : Apart protocol next right) :
    Step protocol (World.pair shared (some state) right) (World.pair later next right) := by
  have step : Step protocol (World.pair shared (some state) right) _ :=
    .act 0 state later next rfl acts (granted_left apart)
  rwa [World.pair_left] at step

/-- The second session runs a statement, after which its locks are not those of the first. -/
theorem act_right (acts : protocol.acts shared state later next) (apart : Apart protocol next left) :
    Step protocol (World.pair shared left (some state)) (World.pair later left next) := by
  have step : Step protocol (World.pair shared left (some state)) _ :=
    .act 1 state later next rfl acts (granted_right apart)
  rwa [World.pair_right] at step

end Pairs

section Overtaking

/-- A session that runs by itself from one state to another. -/
inductive Runs (protocol : Protocol σ τ κ) : σ → τ → σ → τ → Prop
  | here {shared : σ} {state : τ} : Runs protocol shared state shared state
  | next {shared middle later : σ} {state following last : τ}
      (acts : protocol.acts shared state middle (some following))
      (rest : Runs protocol middle following later last) : Runs protocol shared state later last

/-- A session alone runs from one of its states to another. -/
theorem Runs.steps {shared later : σ} {state last : τ} (runs : Runs protocol shared state later last) :
    ReflTransGen (Step protocol) (World.single shared state) (World.single later last) := by
  induction runs with
  | here => exact .refl
  | @next shared middle later state following last acts _ inductionHypothesis =>
    have step : Step protocol (World.single shared state) _ :=
      .act 0 state middle (some following) (World.move_self ..) acts
        (single_granted shared state (some following))
    rw [World.single_move] at step
    exact .head step inductionHypothesis

/-- A session that waits without a lock is in nobody's way. -/
theorem apart_waiting {paused : τ} (free : ∀ lock, ¬ protocol.holds paused lock) (next : Option τ) :
    Apart protocol next (some paused) := by
  rintro _ _ _ ⟨⟩ lock _
  exact free lock

/-- A session runs to its end beside one that waits without a lock. -/
theorem Alone.beside {shared later : σ} {paused state : τ} (free : ∀ lock, ¬ protocol.holds paused lock)
    (alone : Alone protocol shared state later) :
    ReflTransGen (Step protocol) (World.pair shared (some paused) (some state))
      (World.pair later (some paused) none) := by
  induction alone with
  | last acts => exact .single (act_right acts (apart_waiting free none))
  | next acts _ inductionHypothesis =>
    exact .head (act_right acts (apart_waiting free _)) inductionHypothesis

/-- A session without a lock waits while another session runs from its beginning
to its end. -/
theorem waited {shared middle later : σ} {first paused second : τ}
    (begins : protocol.begins first) (runs : Runs protocol shared first middle paused)
    (free : ∀ lock, ¬ protocol.holds paused lock) (other : protocol.begins second)
    (overtakes : Alone protocol middle second later) :
    Reachable protocol shared (World.single later paused) := by
  have begun : Step protocol (World.pair shared none none) (World.pair shared (some first) none) :=
    begin_left begins apart_over
  have joined : Step protocol (World.pair middle (some paused) none) _ :=
    begin_right other (apart_waiting free _)
  rw [World.pair_start, World.pair_single] at begun
  rw [World.pair_single] at joined
  have overtaken := overtakes.beside free
  rw [World.pair_single] at overtaken
  exact .head begun (runs.steps.trans (.head joined overtaken))

/-- A session without a lock waits while another session runs, and then goes on to its end. -/
theorem interleaved {shared middle later final : σ} {first paused second : τ}
    (begins : protocol.begins first) (runs : Runs protocol shared first middle paused)
    (free : ∀ lock, ¬ protocol.holds paused lock) (other : protocol.begins second)
    (overtakes : Alone protocol middle second later) (resumes : Alone protocol later paused final) :
    Reachable protocol shared (World.start final) :=
  Relation.ReflTransGen.trans (waited begins runs free other overtakes) resumes.steps

end Overtaking

section Allowing

/-- The protocol in which a session moves only where it is allowed to. -/
def Protocol.allowing (protocol : Protocol σ τ κ) (allowed : σ → τ → Prop) : Protocol σ τ κ where
  begins := protocol.begins
  acts shared state later next := protocol.acts shared state later next ∧ allowed shared state
  holds := protocol.holds

variable {allowed : σ → τ → Prop}

/-- A step of the restricted protocol is a step. -/
theorem Step.forget (step : Step (protocol.allowing allowed) world after) : Step protocol world after := by
  cases step with
  | begin id state idle begins granted => exact .begin id state idle begins granted
  | act id state shared next running acts granted => exact .act id state shared next running acts.1 granted
  | abort id => exact .abort id

/-- What is reached with the restriction is reached without it. -/
theorem Reachable.forget {shared : σ} (reached : Reachable (protocol.allowing allowed) shared world) :
    Reachable protocol shared world := by
  induction reached with
  | refl => exact .refl
  | tail _ step inductionHypothesis => exact .tail inductionHypothesis step.forget

/-- A session alone under the restricted protocol is one under the protocol. -/
theorem Alone.forget {shared later : σ} {state : τ}
    (alone : Alone (protocol.allowing allowed) shared state later) : Alone protocol shared state later := by
  induction alone with
  | last acts => exact .last acts.1
  | next acts _ inductionHypothesis => exact .next acts.1 inductionHypothesis

end Allowing

/-- An invariant of the shared data together with an assertion of each session. -/
structure Rule (protocol : Protocol σ τ κ) (good : σ → Prop) (sound : σ → τ → Prop) : Prop where
  begins : ∀ {shared state}, good shared → protocol.begins state → sound shared state
  acts : ∀ {shared state later next}, good shared → sound shared state →
    protocol.acts shared state later next →
      good later ∧ ∀ following, next = some following → sound later following
  /-- The assertion of another session, with which no lock is shared, survives. -/
  stable : ∀ {shared state later next other}, good shared → sound shared state →
    protocol.acts shared state later next → sound shared other →
    (∀ lock, protocol.holds state lock → ¬ protocol.holds other lock) → sound later other

/-- The invariant holds of the shared data, and the assertion of every session. -/
def Kept (good : σ → Prop) (sound : σ → τ → Prop) (world : World σ τ) : Prop :=
  good world.shared ∧ ∀ id state, world.sessions id = some state → sound world.shared state

/-- A step keeps what the rule keeps. -/
theorem Rule.step {good : σ → Prop} {sound : σ → τ → Prop} (rule : Rule protocol good sound)
    (exclusive : Exclusive protocol world) (kept : Kept good sound world)
    (step : Step protocol world after) : Kept good sound after := by
  obtain ⟨holds, assertions⟩ := kept
  cases step with
  | begin id state idle begins =>
    refine ⟨holds, fun other session runs => ?_⟩
    by_cases same : other = id
    · subst same
      rw [World.move_self] at runs
      exact Option.some.inj runs ▸ rule.begins holds begins
    · rw [World.move_other _ _ _ same] at runs
      exact assertions other session runs
  | act id state shared next running acts =>
    obtain ⟨good, own⟩ := rule.acts holds (assertions id state running) acts
    refine ⟨good, fun other session runs => ?_⟩
    by_cases same : other = id
    · subst same
      rw [World.move_self] at runs
      exact own session runs
    · rw [World.move_other _ _ _ same] at runs
      exact rule.stable holds (assertions id state running) acts (assertions other session runs)
        (exclusive id other state session (Ne.symm same) running runs)
  | abort id =>
    refine ⟨holds, fun other session runs => ?_⟩
    by_cases same : other = id
    · subst same
      rw [World.move_self] at runs
      cases runs
    · rw [World.move_other _ _ _ same] at runs
      exact assertions other session runs

/-- What every statement keeps holds in every interleaving. -/
theorem Rule.reachable {good : σ → Prop} {sound : σ → τ → Prop} (rule : Rule protocol good sound)
    {shared : σ} (initially : good shared) (reached : Reachable protocol shared world) :
    Kept good sound world := by
  induction reached with
  | refl => exact ⟨initially, fun _ _ absurdity => by cases absurdity⟩
  | tail earlier step inductionHypothesis =>
    exact rule.step (Reachable.exclusive earlier) inductionHypothesis step

end Sessions
