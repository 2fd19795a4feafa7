import Mathlib.Data.List.Forall2
import Mathlib.Data.List.Induction
import Mathlib.Data.List.Sort

/-!
# Linked chains

Entries that each name the mark of the entry before them, the first of them a
given origin. A chain is extended at its tip and nowhere else.
-/

namespace Chain

universe u v
variable {ε : Type u} {μ : Type v}

/-- Every entry is linked to the mark before it; `link` says when an entry
follows a mark, and `mark` is what the next entry names. -/
def Linked (link : μ → ε → Prop) (mark : ε → μ) : μ → List ε → Prop
  | _, [] => True
  | origin, entry :: rest => link origin entry ∧ Linked link mark (mark entry) rest

/-- The mark of the last entry. -/
def tip (mark : ε → μ) (origin : μ) (entries : List ε) : μ :=
  (entries.getLast?.map mark).getD origin

variable {link : μ → ε → Prop} {mark : ε → μ} {origin : μ} {entries more : List ε} {entry : ε}

/-- The tip of no entries is the origin. -/
@[simp] theorem tip_nil : tip mark origin [] = origin := rfl

/-- The first entry's mark is the origin of the others. -/
theorem tip_cons : tip mark origin (entry :: entries) = tip mark (mark entry) entries := by
  cases entries with
  | nil => rfl
  | cons next rest =>
    rw [tip, tip, List.getLast?_cons_cons, List.getLast?_eq_some_getLast (List.cons_ne_nil next rest)]
    rfl

/-- A chain and a chain that follows its tip are one chain. -/
theorem linked_append : Linked link mark origin (entries ++ more) ↔
    Linked link mark origin entries ∧ Linked link mark (tip mark origin entries) more := by
  induction entries generalizing origin with
  | nil => simp [Linked]
  | cons entry rest inductionHypothesis =>
    rw [List.cons_append, Linked, Linked, inductionHypothesis, tip_cons, and_assoc]

/-- The tip of the first entries is the origin of those behind them. -/
theorem tip_append : tip mark origin (entries ++ more) = tip mark (tip mark origin entries) more := by
  induction entries generalizing origin with
  | nil => rfl
  | cons entry rest inductionHypothesis => rw [List.cons_append, tip_cons, inductionHypothesis, tip_cons]

/-- A single entry is linked to the origin. -/
theorem linked_single : Linked link mark origin [entry] ↔ link origin entry := by
  simp [Linked]

/-- A chain is linked by what holds of each of its links. -/
theorem Linked.mono {weaker : μ → ε → Prop} (linked : Linked link mark origin entries)
    (follows : ∀ before, ∀ entry ∈ entries, link before entry → weaker before entry) :
    Linked weaker mark origin entries := by
  induction entries generalizing origin with
  | nil => trivial
  | cons entry rest inductionHypothesis =>
    obtain ⟨first, others⟩ := linked
    exact ⟨follows origin entry List.mem_cons_self first,
      inductionHypothesis others (fun before other member => follows before other (List.mem_cons_of_mem _ member))⟩

/-- The tip commits to the whole chain when a mark determines its entry and the
mark before it, and no entry has the origin's mark. -/
theorem tip_commits {same : ε → ε → Prop} {others : List ε}
    (commits : ∀ before after first second, link before first → link after second →
      mark first = mark second → before = after ∧ same first second)
    (fresh : ∀ before entry, link before entry → mark entry ≠ origin)
    (linked : Linked link mark origin entries) (otherLinked : Linked link mark origin others)
    (tips : tip mark origin entries = tip mark origin others) : List.Forall₂ same entries others := by
  induction entries using List.reverseRecOn generalizing others with
  | nil =>
    rcases List.eq_nil_or_concat' others with rfl | ⟨earlier, last, rfl⟩
    · exact List.Forall₂.nil
    · rw [linked_append, linked_single] at otherLinked
      rw [tip_append, tip_cons, tip_nil, tip_nil] at tips
      exact absurd tips.symm (fresh _ last otherLinked.2)
  | append_singleton entries entry inductionHypothesis =>
    rw [linked_append, linked_single] at linked
    rcases List.eq_nil_or_concat' others with rfl | ⟨earlier, last, rfl⟩
    · rw [tip_append, tip_cons, tip_nil, tip_nil] at tips
      exact absurd tips (fresh _ entry linked.2)
    · rw [linked_append, linked_single] at otherLinked
      rw [tip_append, tip_append, tip_cons, tip_cons, tip_nil, tip_nil] at tips
      obtain ⟨before, agree⟩ := commits _ _ entry last linked.2 otherLinked.2 tips
      have earlierAgree := inductionHypothesis linked.1 otherLinked.1 before
      exact List.rel_append earlierAgree (List.Forall₂.cons agree List.Forall₂.nil)

end Chain
