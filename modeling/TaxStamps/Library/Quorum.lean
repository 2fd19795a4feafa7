import Mathlib.Data.List.Basic

/-!
# Decisions by quorum

Votes are cast one after another. One vote against refuses the matter, enough
votes in favour pass it, and a vote counts only while the matter is open. The
order in which the votes were cast then tells when the matter was decided.
-/

namespace Quorum

universe u
variable {α : Type u}

/-- A matter is open until enough votes are in favour or one is not. -/
inductive Outcome
  | open_ | passed | refused
deriving DecidableEq

/-- What the votes amount to. -/
def outcome (inFavour : α → Bool) (needed : Int) (votes : List α) : Outcome :=
  if votes.all inFavour then
    if needed ≤ (votes.countP inFavour : Int) then .passed else .open_
  else .refused

/-- Every vote was cast while the matter was open. -/
def Orderly (inFavour : α → Bool) (needed : Int) (votes : List α) : Prop :=
  ∀ earlier vote later, votes = earlier ++ vote :: later → outcome inFavour needed earlier = .open_

variable {inFavour : α → Bool} {needed : Int} {votes : List α}

/-- Nobody has voted on a matter that needs a vote. -/
theorem outcome_nil (positive : 0 < needed) : outcome inFavour needed [] = .open_ := by
  have few : ¬ needed ≤ 0 := by omega
  simp [outcome, few]

/-- No votes are orderly. -/
theorem orderly_nil : Orderly inFavour needed [] := by
  intro earlier vote later split
  cases earlier <;> cases split

/-- A vote on an open matter keeps the votes orderly. -/
theorem Orderly.append (orderly : Orderly inFavour needed votes)
    (undecided : outcome inFavour needed votes = .open_) (vote : α) :
    Orderly inFavour needed (votes ++ [vote]) := by
  intro earlier other later split
  rcases List.append_eq_append_iff.mp split with ⟨extra, before, after⟩ | ⟨extra, before, after⟩
  · cases extra with
    | nil => rwa [before, List.append_nil]
    | cons first rest =>
      rw [List.cons_append, List.cons.injEq] at after
      simp at after
  · cases extra with
    | nil =>
      rw [before, List.append_nil] at undecided
      exact undecided
    | cons first rest =>
      obtain ⟨rfl, -⟩ := List.cons.inj after
      exact orderly earlier other rest before

/-- A vote against an open matter refuses it. -/
theorem outcome_against {vote : α} (against : inFavour vote = false) :
    outcome inFavour needed (votes ++ [vote]) = .refused := by
  simp [outcome, against]

/-- All votes on an open matter are in favour. -/
theorem all_of_open (undecided : outcome inFavour needed votes = .open_) : votes.all inFavour = true := by
  by_contra against
  simp [outcome, against] at undecided

/-- A vote in favour decides an open matter exactly when it is the last one
needed. -/
theorem outcome_favour (undecided : outcome inFavour needed votes = .open_) {vote : α}
    (favour : inFavour vote = true) :
    outcome inFavour needed (votes ++ [vote]) =
      if needed ≤ ((votes ++ [vote]).countP inFavour : Int) then .passed else .open_ := by
  have joined : (votes ++ [vote]).all inFavour = true := by
    rw [List.all_append, all_of_open undecided]
    simp [favour]
  rw [outcome, if_pos joined]

/-- A matter is open as long as there are no votes against and too few in
favour. -/
theorem open_iff : outcome inFavour needed votes = .open_ ↔
    votes.all inFavour = true ∧ (votes.countP inFavour : Int) < needed := by
  unfold outcome
  split
  case isTrue favour => split <;> simp_all
  case isFalse against => simp [against]

/-- A matter that passed has enough votes in favour and none against. -/
theorem passed_iff : outcome inFavour needed votes = .passed ↔
    votes.all inFavour = true ∧ needed ≤ (votes.countP inFavour : Int) := by
  unfold outcome
  split
  case isTrue favour => split <;> simp_all
  case isFalse against => simp [against]

/-- A matter is refused exactly when somebody voted against it. -/
theorem refused_iff : outcome inFavour needed votes = .refused ↔
    ∃ vote ∈ votes, inFavour vote = false := by
  unfold outcome
  split
  case isTrue favour =>
    have none_against : ¬ ∃ vote ∈ votes, inFavour vote = false := by
      rintro ⟨vote, member, against⟩
      rw [List.all_eq_true.mp favour vote member] at against
      cases against
    simp only [none_against, iff_false]
    split <;> simp
  case isFalse against => simpa using against

/-- An orderly matter passes with exactly the number of votes it needs. -/
theorem Orderly.passed_count (orderly : Orderly inFavour needed votes) (positive : 0 < needed)
    (passed : outcome inFavour needed votes = .passed) : (votes.countP inFavour : Int) = needed := by
  obtain ⟨favour, enough⟩ := passed_iff.mp passed
  rcases List.eq_nil_or_concat votes with rfl | ⟨earlier, vote, rfl⟩
  · simp at enough
    omega
  · have undecided := orderly earlier vote [] (by simp)
    have few : ¬ needed ≤ (earlier.countP inFavour : Int) := by
      intro reached
      rw [outcome, if_pos (all_of_open undecided)] at undecided
      simp [reached] at undecided
    rw [List.concat_eq_append, List.countP_append] at enough ⊢
    have last : ([vote].countP inFavour) ≤ 1 := List.countP_le_length
    omega

end Quorum
