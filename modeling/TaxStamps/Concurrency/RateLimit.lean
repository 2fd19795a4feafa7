import TaxStamps.Api.FieldVerify
import TaxStamps.Crypto.JcsNumbers
import TaxStamps.Library.Transition

/-!
# The rate limit under concurrency

A call of `rate_limit` is one command or two, and commands of other calls come between
them. The counter of a window is there from its first `INCR` until ninety seconds after
the window began at the earliest, so the calls that Redis counts by then have counts of
their own.
-/

namespace TaxStamps.Rates

open Expiring.Commands Guard Relation

variable {Redis : Type} [Expiring.Commands PyStr Redis]

section Keys

/-- The key of a window. -/
def windowKey (bucket : PyStr) (window : Nat) : PyStr :=
  py "taxstamps:rl:" ++ bucket ++ py ":" ++ PyStr.decimal window

/-- The key of a call is that of its window. -/
theorem rateKey_window (bucket : PyStr) (clock : Nat) : rateKey bucket clock = windowKey bucket (clock / 60) := rfl

/-- Numbers have distinct decimal texts. -/
theorem decimal_injective {first second : Nat} (same : PyStr.decimal first = PyStr.decimal second) :
    first = second := by
  have numbers := congrArg Jcs.digitsNat same
  rwa [Jcs.digitsNat_decimal, Jcs.digitsNat_decimal] at numbers

/-- A text is split at its last mark. -/
theorem last_mark {α : Type} {mark : α} {left right first second : List α} (absent : mark ∉ first)
    (missing : mark ∉ second) (same : left ++ mark :: first = right ++ mark :: second) :
    left = right ∧ first = second := by
  rcases List.append_eq_append_iff.mp same with ⟨more, rfl, rest⟩ | ⟨more, rfl, rest⟩
  · cases more with
    | nil => exact ⟨(List.append_nil _).symm, (List.cons.inj rest).2⟩
    | cons head tail =>
      have later := (List.cons.inj rest).2
      exact absurd (later ▸ List.mem_append_right tail List.mem_cons_self) absent
  · cases more with
    | nil => exact ⟨List.append_nil _, (List.cons.inj rest).2.symm⟩
    | cons head tail =>
      have later := (List.cons.inj rest).2
      exact absurd (later ▸ List.mem_append_right tail List.mem_cons_self) missing

/-- No two windows share a key. -/
theorem windowKey_injective {bucket other : PyStr} {window second : Nat}
    (same : windowKey bucket window = windowKey other second) : bucket = other ∧ window = second := by
  have unmarked : ∀ number, Code.scalar ':' ∉ PyStr.decimal number := by
    intro number member
    have digit := List.all_eq_true.mp (Jcs.decimal_digits number) _ member
    exact absurd digit (by decide)
  have marked : ∀ (bucket : PyStr) (window : Nat), windowKey bucket window =
      (py "taxstamps:rl:" ++ bucket) ++ .scalar ':' :: PyStr.decimal window := by
    intro bucket window
    rw [windowKey, List.append_assoc]
    rfl
  rw [marked, marked] at same
  obtain ⟨buckets, windows⟩ := last_mark (unmarked window) (unmarked second) same
  exact ⟨List.append_cancel_left buckets, decimal_injective windows⟩

end Keys

section Calls

/-- A call has not been sent, has counted one and is to date the counter, or is over. -/
inductive State
  | begun
  | dating
  | ended (answer : Except Raised Unit)

/-- A call of `rate_limit`, and the count that Redis gave it. -/
structure Call where
  bucket : PyStr
  clock : Nat
  count : Option Nat
  state : State

/-- The key that the call counts under. -/
def Call.key (call : Call) : PyStr := rateKey call.bucket call.clock

/-- The `INCR` of a call. -/
def Call.ask (limit : Int) (call : Call) (incr : Command) (redis : Redis) : Redis × State :=
  match send incr (fun redis => increase redis incr.time call.key) redis with
  | (redis, .error problem) => (redis, .ended (.error problem))
  | (redis, .ok count) => (redis, if count = 1 then .dating else .ended (withinLimit limit count))

/-- Its `EXPIRE`. -/
def Call.date (limit : Int) (call : Call) (expire : Command) (redis : Redis) : Redis × State :=
  match send expire (fun redis => Expiring.Commands.expire redis expire.time call.key 90000) redis with
  | (redis, .error problem) => (redis, .ended (.error problem))
  | (redis, .ok _) => (redis, .ended (withinLimit limit 1))

/-- What Redis counts, if the command arrives. -/
def Call.given (call : Call) (incr : Command) (redis : Redis) : Option Nat :=
  if incr.arrives then some (increase redis incr.time call.key).2 else none

/-- The call after its `INCR`. -/
def Call.asked (limit : Int) (call : Call) (incr : Command) (redis : Redis) : Call :=
  { call with count := call.given incr redis, state := (call.ask limit incr redis).2 }

/-- The call after its `EXPIRE`. -/
def Call.dated (limit : Int) (call : Call) (expire : Command) (redis : Redis) : Call :=
  { call with state := (call.date limit expire redis).2 }

/-- A call is `rate_limit` if nothing comes between its commands. -/
theorem rateLimit_calls {limit : Int} {call : Call} {incr expire : Command} {redis : Redis} :
    (∃ answer, (call.ask limit incr redis).2 = .ended answer ∧
      rateLimit call.bucket limit call.clock incr expire redis = ((call.ask limit incr redis).1, answer)) ∨
    ((call.ask limit incr redis).2 = .dating ∧ ∃ answer,
      (call.date limit expire (call.ask limit incr redis).1).2 = .ended answer ∧
      rateLimit call.bucket limit call.clock incr expire redis =
        ((call.date limit expire (call.ask limit incr redis).1).1, answer)) := by
  unfold rateLimit Call.ask Call.date
  have key : rateKey call.bucket call.clock = call.key := rfl
  rw [key]
  rcases send incr (fun redis => increase redis incr.time call.key) redis with ⟨middle, problem | count⟩
  · exact Or.inl ⟨_, rfl, rfl⟩
  · by_cases first : count = 1
    · right
      simp only [first, if_true]
      rcases send expire (fun redis => Expiring.Commands.expire redis expire.time call.key 90000) middle with ⟨last, problem | done⟩
      · exact ⟨trivial, _, rfl, rfl⟩
      · exact ⟨trivial, _, rfl, rfl⟩
    · left
      simp only [first, if_false]
      exact ⟨_, rfl, rfl⟩

end Calls

/-- Redis with the time of its last command, and the calls. -/
structure Limiter (Redis : Type) where
  redis : Redis
  now : Nat
  calls : List Call

/-- Redis counts the call after its window began and within ninety seconds of that. -/
def Timely (call : Call) (time : Nat) : Prop :=
  60000 * (call.clock / 60) ≤ time ∧ time ≤ 60000 * (call.clock / 60) + 90000

/-- Redis's clock after a command. -/
def clockAfter (command : Command) (now : Nat) : Nat := if command.arrives then command.time else now

/-- The next command of any call, a new call, or what else writes other keys. -/
inductive Step (limit : Int) (limiter : Limiter Redis) : Limiter Redis → Prop
  | begin (bucket : PyStr) (clock : Nat) :
      Step limit limiter ⟨limiter.redis, limiter.now, limiter.calls ++ [⟨bucket, clock, none, .begun⟩]⟩
  | ask {left right : List Call} {call : Call} (listed : limiter.calls = left ++ call :: right)
      (begun : call.state = .begun) (incr : Command)
      (timely : incr.arrives = true → limiter.now ≤ incr.time ∧ Timely call incr.time) :
      Step limit limiter ⟨(call.ask limit incr limiter.redis).1, clockAfter incr limiter.now,
        left ++ call.asked limit incr limiter.redis :: right⟩
  | date {left right : List Call} {call : Call} (listed : limiter.calls = left ++ call :: right)
      (dating : call.state = .dating) (expire : Command)
      (later : expire.arrives = true → limiter.now ≤ expire.time) :
      Step limit limiter ⟨(call.date limit expire limiter.redis).1, clockAfter expire limiter.now,
        left ++ call.dated limit expire limiter.redis :: right⟩
  | other (redis : Redis) (untouched : ∀ bucket window,
      kept redis (windowKey bucket window) = kept limiter.redis (windowKey bucket window)) :
      Step limit limiter ⟨redis, limiter.now, limiter.calls⟩

/-- The interleavings from a store without counters. -/
def Reaches (limit : Int) (limiter : Limiter Redis) : Prop :=
  ∃ redis : Redis, (∀ bucket window, kept redis (windowKey bucket window) = none) ∧
    ReflTransGen (Step limit) ⟨redis, 0, []⟩ limiter

/-- The call counts in the window of the bucket. -/
def Call.within (bucket : PyStr) (window : Nat) (call : Call) : Bool :=
  decide (call.bucket = bucket) && decide (call.clock / 60 = window)

/-- What the call counted in the window. -/
def countIn (bucket : PyStr) (window : Nat) (call : Call) : Option Nat :=
  if call.within bucket window then call.count else none

/-- The counts of the calls of a window. -/
def countsIn (bucket : PyStr) (window : Nat) (calls : List Call) : List Nat := calls.filterMap (countIn bucket window)

/-- The call let its request through. -/
def Call.passed (call : Call) : Bool :=
  match call.state with
  | .ended (.ok ()) => true
  | _ => false

/-- How many calls of a window were let through. -/
def passes (bucket : PyStr) (window : Nat) (calls : List Call) : Nat :=
  calls.countP (fun call => call.within bucket window && call.passed)

section Counting

variable {bucket : PyStr} {window : Nat} {limit : Int} {call : Call} {redis : Redis} {left right : List Call}

/-- The counter of a window once it counted: it lives for ninety seconds from the window's
beginning on. -/
def Holds (redis : Redis) (bucket : PyStr) (window : Nat) : Nat → Prop
  | 0 => kept redis (windowKey bucket window) = none
  | count + 1 => ∃ entry, kept redis (windowKey bucket window) = some entry ∧ entry.count = count + 1 ∧
      ∀ deadline, entry.deadline = some deadline → 60000 * window + 90000 ≤ deadline

/-- What holds of a window depends on its key alone. -/
theorem Holds.congr {other : Redis} {count : Nat} (holds : Holds redis bucket window count)
    (same : kept other (windowKey bucket window) = kept redis (windowKey bucket window)) : Holds other bucket window count := by
  cases count with
  | zero => exact same.trans holds
  | succ count =>
    obtain ⟨entry, stored, counts⟩ := holds
    exact ⟨entry, same.trans stored, counts⟩

/-- Counting before the ninety seconds are over. -/
theorem Holds.increase {count time : Nat} (holds : Holds redis bucket window count)
    (early : time ≤ 60000 * window + 90000) :
    (increase redis time (windowKey bucket window)).2 = count + 1 ∧
      Holds (increase redis time (windowKey bucket window)).1 bucket window (count + 1) := by
  cases count with
  | zero =>
    have free : live redis time (windowKey bucket window) = none := by
      rw [live, holds]
      rfl
    obtain ⟨stored, answer⟩ := increase_free free
    exact ⟨answer, ⟨1, none⟩, stored, rfl, fun _ absurdity => by cases absurdity⟩
  | succ count =>
    obtain ⟨entry, stored, counts, dated⟩ := holds
    have alive : entry.alive time = true := by
      cases deadline : entry.deadline with
      | none => rw [Expiring.Entry.alive, deadline]; rfl
      | some last =>
        rw [Expiring.Entry.alive, deadline]
        exact decide_eq_true (le_trans early (dated last deadline))
    obtain ⟨counted, answer⟩ := increase_held (live_kept stored alive)
    rw [counts] at counted answer
    exact ⟨answer, ⟨count + 1 + 1, entry.deadline⟩, counted, rfl, dated⟩

/-- Dating it once the window began. -/
theorem Holds.expire {count time : Nat} (holds : Holds redis bucket window count)
    (late : 60000 * window ≤ time) :
    Holds (Expiring.Commands.expire redis time (windowKey bucket window) 90000).1 bucket window count := by
  rcases expire_cases redis time (windowKey bucket window) 90000 with gone | ⟨entry, stored, dated⟩
  · exact holds.congr gone
  · cases count with
    | zero => cases stored.symm.trans holds
    | succ count =>
      obtain ⟨held, present, counts, _⟩ := holds
      obtain rfl := Option.some.inj (stored.symm.trans present)
      refine ⟨_, dated, counts, ?_⟩
      rintro deadline ⟨⟩
      exact Nat.add_le_add_right late 90000

/-- A call outside a window has another key. -/
theorem key_apart {other : PyStr} {second : Nat} (apart : call.within other second = false) :
    windowKey other second ≠ call.key := by
  intro same
  obtain ⟨buckets, windows⟩ := windowKey_injective (same.trans (rateKey_window call.bucket call.clock))
  rw [Call.within, decide_eq_true buckets.symm, decide_eq_true windows.symm] at apart
  cases apart

/-- A call within a window has its key. -/
theorem key_within (within : call.within bucket window = true) : call.key = windowKey bucket window := by
  rw [Call.within, Bool.and_eq_true, decide_eq_true_eq, decide_eq_true_eq] at within
  obtain ⟨rfl, rfl⟩ := within
  rfl

/-- A call whose command does not arrive. -/
theorem ask_unsent {incr : Command} (unsent : incr.arrives = false) :
    call.ask limit incr redis = (redis, .ended (.error .redisUnavailable)) ∧ call.given incr redis = none := by
  have fate : incr.fate = .unsent := by simpa [Command.arrives] using unsent
  constructor
  · rw [Call.ask, send, fate]
  · rw [Call.given, unsent]
    rfl

/-- A call that Redis counts, whether or not it gets the answer. -/
theorem ask_counted {incr : Command} (arrives : incr.arrives = true) :
    (call.ask limit incr redis).1 = (increase redis incr.time call.key).1 ∧
      call.given incr redis = some (increase redis incr.time call.key).2 ∧
      ((call.ask limit incr redis).2 = .ended (.error .redisUnavailable) ∨
        (call.ask limit incr redis).2 = if (increase redis incr.time call.key).2 = 1 then .dating
          else .ended (withinLimit limit (increase redis incr.time call.key).2)) := by
  refine ⟨?_, by rw [Call.given, if_pos arrives], ?_⟩
  · unfold Call.ask send
    cases fate : incr.fate with
    | unsent => simp [Command.arrives, fate] at arrives
    | answered => rfl
    | unanswered => rfl
  · unfold Call.ask send
    cases fate : incr.fate with
    | unsent => simp [Command.arrives, fate] at arrives
    | answered => exact Or.inr rfl
    | unanswered => exact Or.inl rfl

/-- An `EXPIRE` leaves Redis or dates the call's counter, and the call is answered by an outage or
by the limit. -/
theorem date_cases {expire : Command} :
    ((call.date limit expire redis).1 = redis ∨
      expire.arrives = true ∧
        (call.date limit expire redis).1 = (Expiring.Commands.expire redis expire.time call.key 90000).1) ∧
    ((call.date limit expire redis).2 = .ended (.error .redisUnavailable) ∨
      (call.date limit expire redis).2 = .ended (withinLimit limit 1)) := by
  unfold Call.date send Command.arrives
  cases expire.fate with
  | answered => exact ⟨Or.inr ⟨rfl, rfl⟩, Or.inr rfl⟩
  | unsent => exact ⟨Or.inl rfl, Or.inl rfl⟩
  | unanswered => exact ⟨Or.inr ⟨rfl, rfl⟩, Or.inl rfl⟩

/-- What a call knows. -/
structure Knows (limit : Int) (now : Nat) (call : Call) : Prop where
  begun : call.state = .begun → call.count = none
  dating : call.state = .dating → call.count = some 1 ∧ 60000 * (call.clock / 60) ≤ now
  passed : call.state = .ended (.ok ()) → ∃ count, call.count = some count ∧ (count : Int) ≤ limit
  refused : call.state = .ended (.error rateExceeded) → ∃ count, call.count = some count ∧ limit < count

/-- What a call knows stays true later. -/
theorem Knows.later {now after : Nat} (knows : Knows limit now call) (later : now ≤ after) :
    Knows limit after call :=
  ⟨knows.begun, fun dating => ⟨(knows.dating dating).1, le_trans (knows.dating dating).2 later⟩, knows.passed,
    knows.refused⟩

/-- A call that the limit decides, or that is answered with an outage. -/
theorem knows_ended {now count : Nat} {answer : Except Raised Unit} (counted : call.count = some count)
    (state : call.state = .ended answer)
    (decided : answer = .error .redisUnavailable ∨ answer = withinLimit limit count) : Knows limit now call := by
  constructor
  · rw [state]
    intro absurdity
    cases absurdity
  · rw [state]
    intro absurdity
    cases absurdity
  · rw [state]
    rintro ⟨⟩
    refine ⟨count, counted, ?_⟩
    rcases decided with absurdity | decided
    · cases absurdity
    · rw [withinLimit] at decided
      split at decided
      · cases decided
      · omega
  · rw [state]
    rintro ⟨⟩
    refine ⟨count, counted, ?_⟩
    rcases decided with absurdity | decided
    · cases absurdity
    · rw [withinLimit] at decided
      split at decided
      · assumption
      · cases decided

/-- The counts of a window are the first numbers, each once. -/
structure Counted (limiter : Limiter Redis) (bucket : PyStr) (window : Nat) : Prop where
  holds : Holds limiter.redis bucket window (countsIn bucket window limiter.calls).length
  distinct : (countsIn bucket window limiter.calls).Nodup
  bounded : ∀ count ∈ countsIn bucket window limiter.calls,
    1 ≤ count ∧ count ≤ (countsIn bucket window limiter.calls).length

/-- Every window is counted, and every call knows where it stands. -/
structure Sound (limit : Int) (limiter : Limiter Redis) : Prop where
  counted : ∀ bucket window, Counted limiter bucket window
  known : ∀ call ∈ limiter.calls, Knows limit limiter.now call

/-- Counts of two lists of calls. -/
theorem countsIn_append (first second : List Call) :
    countsIn bucket window (first ++ second) = countsIn bucket window first ++ countsIn bucket window second :=
  List.filterMap_append

/-- A call with a count. -/
theorem countsIn_single : countsIn bucket window [call] = (countIn bucket window call).toList := by
  cases counted : countIn bucket window call with
  | none => rw [countsIn, List.filterMap_cons_none counted, List.filterMap_nil, Option.toList_none]
  | some count => rw [countsIn, List.filterMap_cons_some counted, List.filterMap_nil, Option.toList_some]

/-- A call that was not counted counts nowhere. -/
theorem countIn_fresh (fresh : call.count = none) : countIn bucket window call = none := by
  rw [countIn, fresh, ite_self]

/-- The count of a call in the middle of a list. -/
theorem countsIn_middle : countsIn bucket window (left ++ call :: right) =
    countsIn bucket window left ++
      ((countIn bucket window call).toList ++ countsIn bucket window right) := by
  rw [← List.singleton_append, countsIn_append, countsIn_append, countsIn_single]

/-- The clock does not run backwards. -/
theorem clockAfter_later {command : Command} {now : Nat} (later : command.arrives = true → now ≤ command.time) :
    now ≤ clockAfter command now := by
  rw [clockAfter]
  split
  case isTrue arrives => exact later arrives
  case isFalse => exact le_refl now

/-- The other calls keep what they know. -/
theorem known_middle {now after : Nat} {changed : Call} (later : now ≤ after)
    (known : ∀ other ∈ left ++ call :: right, Knows limit now other) (knows : Knows limit after changed) :
    ∀ other ∈ left ++ changed :: right, Knows limit after other := by
  intro other member
  rcases List.mem_append.mp member with before | here
  · exact (known other (List.mem_append_left _ before)).later later
  · rcases List.mem_cons.mp here with rfl | behind
    · exact knows
    · exact (known other (List.mem_append_right _ (List.mem_cons_of_mem _ behind))).later later

/-- Redis counts one more call of the window. -/
theorem Counted.more {now after : Nat} {redis later : Redis} {changed : Call}
    (counted : Counted ⟨redis, now, left ++ call :: right⟩ bucket window) (fresh : call.count = none)
    (within : changed.within bucket window = true)
    (count : changed.count = some ((countsIn bucket window (left ++ call :: right)).length + 1))
    (holds : Holds later bucket window ((countsIn bucket window (left ++ call :: right)).length + 1)) :
    Counted ⟨later, after, left ++ changed :: right⟩ bucket window := by
  have before : countsIn bucket window (left ++ call :: right) =
      countsIn bucket window left ++ countsIn bucket window right := by
    rw [countsIn_middle, countIn_fresh fresh]
    rfl
  have listed : (countsIn bucket window (left ++ changed :: right)).Perm
      (((countsIn bucket window (left ++ call :: right)).length + 1) :: countsIn bucket window (left ++ call :: right)) := by
    rw [countsIn_middle, countIn, within, if_pos rfl, count, before]
    exact List.perm_middle
  have size := listed.length_eq
  rw [List.length_cons] at size
  constructor
  · exact size ▸ holds
  · refine listed.nodup_iff.mpr (List.nodup_cons.mpr ⟨fun member => ?_, counted.distinct⟩)
    have last : _ ≤ (countsIn bucket window (left ++ call :: right)).length := (counted.bounded _ member).2
    omega
  · intro other member
    show 1 ≤ other ∧ other ≤ (countsIn bucket window (left ++ changed :: right)).length
    rw [size]
    rcases List.mem_cons.mp (listed.mem_iff.mp member) with rfl | old
    · omega
    · have bounds := counted.bounded other old
      exact ⟨bounds.1, le_trans bounds.2 (Nat.le_succ _)⟩

/-- A call of another window, or one that counts nothing new. -/
theorem Counted.same {now after : Nat} {redis later : Redis} {changed : Call}
    (counted : Counted ⟨redis, now, left ++ call :: right⟩ bucket window)
    (counts : countIn bucket window changed = countIn bucket window call)
    (holds : ∀ count, Holds redis bucket window count → Holds later bucket window count) :
    Counted ⟨later, after, left ++ changed :: right⟩ bucket window := by
  have listed : countsIn bucket window (left ++ changed :: right) = countsIn bucket window (left ++ call :: right) := by
    rw [countsIn_middle, countsIn_middle, counts]
  constructor
  · show Holds later bucket window (countsIn bucket window (left ++ changed :: right)).length
    rw [listed]
    exact holds _ counted.holds
  · show (countsIn bucket window (left ++ changed :: right)).Nodup
    rw [listed]
    exact counted.distinct
  · show ∀ count ∈ countsIn bucket window (left ++ changed :: right), _ ∧ _ ≤
      (countsIn bucket window (left ++ changed :: right)).length
    rw [listed]
    exact counted.bounded

/-- An `INCR` keeps the counts. -/
theorem Sound.ask {limiter : Limiter Redis} (sound : Sound limit limiter) (listed : limiter.calls = left ++ call :: right)
    (begun : call.state = .begun) {incr : Command}
    (timely : incr.arrives = true → limiter.now ≤ incr.time ∧ Timely call incr.time) :
    Sound limit ⟨(call.ask limit incr limiter.redis).1, clockAfter incr limiter.now,
      left ++ call.asked limit incr limiter.redis :: right⟩ := by
  obtain ⟨redis, now, calls⟩ := limiter
  dsimp only at listed timely ⊢
  subst listed
  have fresh := (sound.known call (List.mem_append_right _ List.mem_cons_self)).begun begun
  have later := clockAfter_later fun arrives => (timely arrives).1
  cases arrives : incr.arrives with
  | false =>
    obtain ⟨unasked, uncounted⟩ := @ask_unsent Redis _ limit call redis incr arrives
    constructor
    · intro bucket window
      rw [unasked]
      refine (sound.counted bucket window).same ?_ fun _ holds => holds
      rw [countIn_fresh fresh, countIn_fresh uncounted]
    · refine known_middle later sound.known ?_
      rw [Call.asked, unasked]
      exact ⟨fun absurdity => (by cases absurdity), fun absurdity => (by cases absurdity),
        fun absurdity => (by cases absurdity), fun absurdity => (by cases absurdity)⟩
  | true =>
    obtain ⟨written, given, answered⟩ := @ask_counted Redis _ limit call redis incr arrives
    obtain ⟨_, early⟩ := timely arrives
    constructor
    · intro bucket window
      rw [written]
      cases within : call.within bucket window with
      | true =>
        have key := key_within within
        have counted := sound.counted bucket window
        have early : incr.time ≤ 60000 * window + 90000 := by
          rw [Call.within, Bool.and_eq_true, decide_eq_true_eq, decide_eq_true_eq] at within
          rw [← within.2]
          exact early.2
        obtain ⟨count, holds⟩ := counted.holds.increase early
        rw [← key] at count holds
        exact counted.more fresh within (given.trans (congrArg some count)) holds
      | false =>
        refine (sound.counted bucket window).same ?_ fun _ holds => ?_
        · have changed : (call.asked limit incr redis).within bucket window = false := within
          rw [countIn, countIn, changed, within, if_neg Bool.false_ne_true, if_neg Bool.false_ne_true]
        · exact holds.congr (increase_other (key_apart within))
    · refine known_middle later sound.known ?_
      rcases answered with lost | decided
      · exact knows_ended given lost (Or.inl rfl)
      · split at decided
        case isTrue first =>
          have start : 60000 * (call.clock / 60) ≤ clockAfter incr now := by
            rw [clockAfter, if_pos arrives]
            exact early.1
          constructor
          · intro absurdity
            cases decided.symm.trans absurdity
          · exact fun _ => ⟨given.trans (congrArg some first), start⟩
          · intro absurdity
            cases decided.symm.trans absurdity
          · intro absurdity
            cases decided.symm.trans absurdity
        case isFalse => exact knows_ended given decided (Or.inr rfl)

/-- An `EXPIRE` keeps the counts. -/
theorem Sound.date {limiter : Limiter Redis} (sound : Sound limit limiter) (listed : limiter.calls = left ++ call :: right)
    (dating : call.state = .dating) {expire : Command}
    (later : expire.arrives = true → limiter.now ≤ expire.time) :
    Sound limit ⟨(call.date limit expire limiter.redis).1, clockAfter expire limiter.now,
      left ++ call.dated limit expire limiter.redis :: right⟩ := by
  obtain ⟨redis, now, calls⟩ := limiter
  dsimp only at listed later ⊢
  subst listed
  obtain ⟨first, start⟩ := (sound.known call (List.mem_append_right _ List.mem_cons_self)).dating dating
  obtain ⟨writes, answered⟩ := @date_cases Redis _ limit call redis expire
  constructor
  · intro bucket window
    refine (sound.counted bucket window).same rfl fun count holds => ?_
    rcases writes with unwritten | ⟨arrives, written⟩
    · rw [unwritten]
      exact holds
    · rw [written]
      cases within : call.within bucket window with
      | true =>
        have late : 60000 * window ≤ expire.time := by
          rw [Call.within, Bool.and_eq_true, decide_eq_true_eq, decide_eq_true_eq] at within
          rw [← within.2]
          exact le_trans start (later arrives)
        rw [key_within within]
        exact holds.expire late
      | false => exact holds.congr (expire_other (key_apart within))
  · refine known_middle (clockAfter_later later) sound.known ?_
    rcases answered with lost | decided
    · exact knows_ended first lost (Or.inl rfl)
    · exact knows_ended first decided (Or.inr rfl)

/-- Every command keeps the counts. -/
theorem Sound.step {limiter after : Limiter Redis} (sound : Sound limit limiter) (step : Step limit limiter after) :
    Sound limit after := by
  cases step with
  | begin bucket clock =>
    have uncounted : ∀ other window, countsIn other window (limiter.calls ++ [⟨bucket, clock, none, .begun⟩]) =
        countsIn other window limiter.calls := by
      intro other window
      rw [countsIn_append, countsIn_single, countIn_fresh rfl]
      exact List.append_nil _
    constructor
    · intro other window
      have counted := sound.counted other window
      constructor
      · exact (uncounted other window).symm ▸ counted.holds
      · exact (uncounted other window).symm ▸ counted.distinct
      · exact (uncounted other window).symm ▸ counted.bounded
    · intro call member
      rcases List.mem_append.mp member with old | new
      · exact sound.known call old
      · rw [List.mem_singleton.mp new]
        exact ⟨fun _ => rfl, fun absurdity => (by cases absurdity), fun absurdity => (by cases absurdity),
          fun absurdity => (by cases absurdity)⟩
  | ask listed begun incr timely => exact sound.ask listed begun timely
  | date listed dating expire later => exact sound.date listed dating later
  | other redis untouched =>
    refine ⟨fun bucket window => ?_, sound.known⟩
    have counted := sound.counted bucket window
    exact ⟨counted.holds.congr (untouched bucket window), counted.distinct, counted.bounded⟩

/-- In every reachable state the counts are sound. -/
theorem sound {limiter : Limiter Redis} (reached : Reaches limit limiter) : Sound limit limiter := by
  obtain ⟨redis, free, path⟩ := reached
  refine Transition.invariant (Sound limit) (fun _ _ sound step => sound.step step) path ⟨fun bucket window => ?_, ?_⟩
  · exact ⟨free bucket window, .nil, fun _ absent => absurd absent List.not_mem_nil⟩
  · exact fun _ absent => absurd absent List.not_mem_nil

end Counting

section Limit

variable {limit : Int} {limiter : Limiter Redis}

/-- A call that is let through was counted within the limit. -/
theorem passes_counted (sound : Sound limit limiter) (bucket : PyStr) (window : Nat) :
    passes bucket window limiter.calls ≤
      (countsIn bucket window limiter.calls).countP (fun count : Nat => decide ((count : Int) ≤ limit)) := by
  rw [passes, countsIn, List.countP_filterMap]
  refine List.countP_mono_left fun call member admitted => ?_
  rw [Bool.and_eq_true] at admitted
  have over_ : call.state = .ended (.ok ()) := by
    have passed := admitted.2
    unfold Call.passed at passed
    split at passed
    case _ same => exact same
    case _ => cases passed
  obtain ⟨count, counted, within⟩ := (sound.known call member).passed over_
  rw [countIn, admitted.1, if_pos rfl, counted]
  exact decide_eq_true within

/-- At most as many first numbers as the limit are within it. -/
theorem counts_few {counts : List Nat} (distinct : counts.Nodup) (positive : ∀ count ∈ counts, 1 ≤ count) :
    counts.countP (fun count : Nat => decide ((count : Int) ≤ limit)) ≤ limit.toNat := by
  rw [List.countP_eq_length_filter]
  have few : (counts.filter (fun count : Nat => decide ((count : Int) ≤ limit))).length ≤
      (List.range' 1 limit.toNat).length := by
    refine (List.subperm_of_subset (distinct.filter _) fun count member => ?_).length_le
    obtain ⟨listed, within⟩ := List.mem_filter.mp member
    have first := positive count listed
    have last := of_decide_eq_true within
    rw [List.mem_range'_1]
    omega
  rwa [List.length_range'] at few

/-- In every interleaving in which Redis counts each call of a window within ninety
seconds of its beginning, no more calls of a bucket than the limit are let through in the
window, and none is refused before more calls than that were counted there. -/
theorem limit_kept (reached : Reaches limit limiter) (bucket : PyStr) (window : Nat) :
    (passes bucket window limiter.calls : Int) ≤ max limit 0 ∧
      ∀ call ∈ limiter.calls, call.within bucket window = true → call.state = .ended (.error rateExceeded) →
        limit < (countsIn bucket window limiter.calls).length := by
  have sound := sound reached
  have counted := sound.counted bucket window
  constructor
  · have few := le_trans (passes_counted sound bucket window)
      (counts_few counted.distinct fun count member => (counted.bounded count member).1)
    omega
  · intro call member within state
    obtain ⟨count, counts, beyond⟩ := (sound.known call member).refused state
    have listed : count ∈ countsIn bucket window limiter.calls := by
      refine List.mem_filterMap.mpr ⟨call, member, ?_⟩
      rw [countIn, within, if_pos rfl, counts]
    have last := (counted.bounded count listed).2
    omega

end Limit

section Requests

variable {env : Env} {limit : Int} {limiter : Limiter Redis} {bucket verifierId nonce : PyStr} {clock : Nat}
  {incr expire : Command}

/-- The commands of a call come when Redis has time for them. -/
structure Prompt (limiter : Limiter Redis) (clock : Nat) (incr expire : Command) : Prop where
  counts : limiter.now ≤ incr.time
  window : 60000 * (clock / 60) ≤ incr.time ∧ incr.time ≤ 60000 * (clock / 60) + 90000
  dates : incr.time ≤ expire.time

/-- A call whose commands nothing comes between. -/
theorem rateLimit_runs (limit : Int) (bucket : PyStr) (prompt : Prompt limiter clock incr expire) :
    ∃ after call, ReflTransGen (Step limit) limiter after ∧ after.calls = limiter.calls ++ [call] ∧
      after.redis = (rateLimit bucket limit clock incr expire limiter.redis).1 ∧
      call.within bucket (clock / 60) = true ∧
      call.state = .ended (rateLimit bucket limit clock incr expire limiter.redis).2 ∧
      after.now ≤ max limiter.now expire.time := by
  let call : Call := ⟨bucket, clock, none, .begun⟩
  have begins := @Step.begin Redis _ limit limiter bucket clock
  have asks := @Step.ask Redis _ limit ⟨limiter.redis, limiter.now, limiter.calls ++ [call]⟩ _ _ call rfl rfl incr
    (fun _ => ⟨prompt.counts, prompt.window⟩)
  have within : call.within bucket (clock / 60) = true := by
    rw [Call.within, decide_eq_true rfl, decide_eq_true rfl]
    rfl
  have moved : clockAfter incr limiter.now ≤ max limiter.now expire.time := by
    have := prompt.dates
    rw [clockAfter]
    split <;> omega
  rcases @rateLimit_calls Redis _ limit call incr expire limiter.redis with ⟨answer, over_, runs⟩ | ⟨dating, answer, over_, runs⟩
  · refine ⟨_, call.asked limit incr limiter.redis, .tail (.single begins) asks, rfl, ?_, within, ?_, moved⟩
    · exact (congrArg Prod.fst runs).symm
    · exact over_.trans (congrArg State.ended (congrArg Prod.snd runs).symm)
  · have dates := @Step.date Redis _ limit ⟨(call.ask limit incr limiter.redis).1, clockAfter incr limiter.now,
      limiter.calls ++ [call.asked limit incr limiter.redis]⟩ _ _ (call.asked limit incr limiter.redis) rfl dating expire
      (fun _ => by
        have := prompt.dates
        have := prompt.counts
        dsimp only
        rw [clockAfter]
        split <;> omega)
    refine ⟨_, (call.asked limit incr limiter.redis).dated limit expire (call.ask limit incr limiter.redis).1,
      .tail (.tail (.single begins) asks) dates, rfl, ?_, within, ?_, ?_⟩
    · exact (congrArg Prod.fst runs).symm
    · exact over_.trans (congrArg State.ended (congrArg Prod.snd runs).symm)
    · dsimp only
      rw [clockAfter]
      split <;> omega

/-- A claim of a nonce. -/
theorem claimNonce_step {key : PyStr} (named : nonceKey env verifierId nonce = .ok key) (set : Command) :
    Step limit limiter ⟨(claimNonce set key limiter.redis).1, limiter.now, limiter.calls⟩ := by
  refine .other _ fun bucket window => ?_
  have counter : windowKey bucket window = rateKey bucket (60 * window) := by
    rw [rateKey_window, Nat.mul_div_cancel_left window (by decide)]
  have apart : windowKey bucket window ≠ key := fun same =>
    nonceKey_rateKey named (same.symm.trans counter)
  have untouched : kept (send set (fun redis => claim redis set.time key nonceTtl) limiter.redis).1
      (windowKey bucket window) = kept limiter.redis (windowKey bucket window) :=
    send_other (claim_other apart)
  unfold claimNonce
  split
  · next sent => rwa [sent] at untouched
  · next sent => rwa [sent] at untouched

/-- The guards of `POST /v1/verify`, if nothing comes between them, are steps of the limiter,
and a request that they let through was let through by it. -/
theorem guards_runs {request : Request} (limit : Int)
    (prompt : Prompt limiter request.clock request.incr request.expire) :
    ∃ after call, ReflTransGen (Step limit) limiter after ∧ after.calls = limiter.calls ++ [call] ∧
      after.redis = (guards env limit verifierId request limiter.redis).1 ∧
      call.within (py "verify:" ++ verifierId) (request.clock / 60) = true ∧
      ((guards env limit verifierId request limiter.redis).2 = .ok () → call.state = .ended (.ok ())) := by
  obtain ⟨after, call, run, calls, redis, within, state, _⟩ :=
    rateLimit_runs limit (py "verify:" ++ verifierId) prompt
  unfold guards countRequest
  split
  · next sent =>
    rw [sent] at redis
    exact ⟨after, call, run, calls, redis, within, fun absurdity => (by cases absurdity)⟩
  · next counted sent =>
    rw [sent] at redis state
    dsimp only at redis
    split
    · exact ⟨after, call, run, calls, redis, within, fun absurdity => (by cases absurdity)⟩
    · next key named =>
      rw [← redis]
      exact ⟨_, call, .tail run (claimNonce_step named request.set), calls, rfl, within, fun _ => state⟩

/-- The second call of a minute is refused where one is allowed. -/
theorem limit_kept_sample : ∃ limiter : Limiter (Expiring.Store PyStr), Reaches 1 limiter ∧
    (∃ call ∈ limiter.calls, call.within (py "verify:a") 0 = true ∧ call.state = .ended (.error rateExceeded)) ∧
    (passes (py "verify:a") 0 limiter.calls : Int) ≤ 1 ∧
    (1 : Int) < (countsIn (py "verify:a") 0 limiter.calls).length := by
  let command (time : Nat) : Command := ⟨time, .answered⟩
  obtain ⟨first, _, begins, _, redis, _, _, clock⟩ := @rateLimit_runs (Expiring.Store PyStr) _ ⟨fun _ => none, 0, []⟩
    0 (command 0) (command 0)
    1 (py "verify:a") ⟨le_refl 0, ⟨le_refl 0, Nat.zero_le _⟩, le_refl 0⟩
  obtain ⟨last, call, follows, calls, _, within, state, _⟩ := @rateLimit_runs _ _ first 0 (command 0) (command 0)
    1 (py "verify:a") ⟨clock, ⟨le_refl 0, Nat.zero_le _⟩, le_refl 0⟩
  have refused : call.state = .ended (.error rateExceeded) := by
    rw [state, redis]
    rfl
  have listed : call ∈ last.calls := by
    rw [calls]
    exact List.mem_append_right _ (List.mem_singleton.mpr rfl)
  have reached : Reaches 1 last := ⟨fun _ => none, fun _ _ => rfl, begins.trans follows⟩
  obtain ⟨few, full⟩ := limit_kept reached (py "verify:a") 0
  exact ⟨last, reached, ⟨call, listed, within, refused⟩, few, full call listed within refused⟩

end Requests

end TaxStamps.Rates
