import Mathlib.Data.ZMod.Basic
import TaxStamps.Domain.Serials
import TaxStamps.Library.CheckDigit

/-!
# What the check character detects

A body with its check character is a code over the 34 symbols whose sum is zero
modulo 34, the symbols weighed from the right by themselves and by their doubling
in turn. Doubling permutes the symbols, and it differs from the identity by the
same amount on the first and the last symbol only. So no single replaced symbol
and no exchange of neighbours but of `0` and `Z` passes; in a serial, the places
of letters and digits exclude that exchange as well.
-/

namespace TaxStamps.Serials

/-- The symbols of the alphabet by their index. -/
def symbolOf (value : Fin 34) : Code := symbol value

/-- The weight of a symbol in a plain position. -/
def plain (value : Fin 34) : ZMod 34 := (value.val : ZMod 34)

/-- The sum of the base-34 digits of the double. -/
def doubled (value : Fin 34) : ZMod 34 := ((2 * value.val / 34 + 2 * value.val % 34 : Nat) : ZMod 34)

/-- Distinct symbols weigh differently in a plain position. -/
theorem plain_injective : Function.Injective plain := by decide

/-- Distinct symbols weigh differently in a doubled position. -/
theorem doubled_injective : Function.Injective doubled := by decide

/-- Doubling differs from the identity by the same amount on `0` and `Z` only. -/
theorem difference_eq_iff : ∀ left right : Fin 34,
    plain left - doubled left = plain right - doubled right ↔
      left = right ∨ left = 0 ∧ right = 33 ∨ left = 33 ∧ right = 0 := by decide

/-- The index of a value's symbol is the value. -/
theorem symbolOf_index : ∀ value : Fin 34, index? (symbolOf value) = some value.val := by decide

/-- Values have distinct symbols. -/
theorem symbolOf_injective : Function.Injective symbolOf := by
  intro left right same
  have indices := congrArg index? same
  rw [symbolOf_index, symbolOf_index] at indices
  exact Fin.ext (Option.some.inj indices)

/-- Every character of the alphabet is the symbol of a value. -/
theorem alphabet_symbol : ∀ code ∈ alphabet, ∃ value : Fin 34, code = symbolOf value := by decide

/-- A character with an index is the symbol of a value. -/
theorem index_symbol {code : Code} (known : (index? code).isSome = true) :
    ∃ value : Fin 34, code = symbolOf value := by
  obtain ⟨index, found⟩ := Option.isSome_iff_exists.mp known
  rw [index?, List.findIdx?_eq_some_iff_getElem] at found
  obtain ⟨inside, same, _⟩ := found
  rw [decide_eq_true_eq] at same
  exact same ▸ alphabet_symbol _ (List.getElem_mem inside)

section Luhn

variable {tables : Unicode} {body other : PyStr} {check final left right : Code} {front back : PyStr}

/-- The loop over the code points is the weighed sum. -/
theorem luhnTotal_weigh (values : List (Fin 34)) :
    (luhnTotal (values.map Fin.val) 2 : ZMod 34) = CheckDigit.weigh doubled plain values ∧
      (luhnTotal (values.map Fin.val) 1 : ZMod 34) = CheckDigit.weigh plain doubled values := by
  induction values with
  | nil => simp [luhnTotal, CheckDigit.weigh]
  | cons value rest inductionHypothesis =>
    constructor
    · simp only [List.map_cons, luhnTotal, CheckDigit.weigh, if_true, doubled]
      rw [Nat.cast_add, inductionHypothesis.2]
    · have whole : 1 * value.val / 34 + 1 * value.val % 34 = value.val := by
        have small := value.isLt
        omega
      simp only [List.map_cons, luhnTotal, CheckDigit.weigh, plain, whole, OfNat.one_ne_ofNat, if_false]
      rw [Nat.cast_add, inductionHypothesis.1]

/-- The indices of symbols are their values. -/
theorem filterMap_symbols (values : List (Fin 34)) :
    (values.map symbolOf).filterMap index? = values.map Fin.val := by
  induction values with
  | nil => rfl
  | cons value rest inductionHypothesis =>
    rw [List.map_cons, List.filterMap_cons, symbolOf_index, inductionHypothesis]
    rfl

/-- The check character of a body over the alphabet. -/
theorem luhnModNCheck_symbols (values : List (Fin 34)) :
    luhnModNCheck tables (values.map symbolOf) =
      .ok (symbol ((34 - luhnTotal (values.reverse.map Fin.val) 2 % 34) % 34)) := by
  have known : (values.map symbolOf).find? (fun code => (index? code).isNone) = none := by
    rw [List.find?_eq_none]
    intro code member
    obtain ⟨value, _, rfl⟩ := List.mem_map.mp member
    rw [symbolOf_index]
    simp
  rw [luhnModNCheck, known, filterMap_symbols, ← List.map_reverse]

/-- A body and a check character are accepted exactly when the code of both is
over the alphabet and weighs zero from the right. -/
theorem validate_iff : luhnModNValidate tables body check = true ↔
    ∃ values : List (Fin 34), body ++ [check] = values.map symbolOf ∧
      CheckDigit.weigh plain doubled values.reverse = 0 := by
  have zero_iff : ∀ (values : List (Fin 34)) (last : Fin 34),
      symbol ((34 - luhnTotal (values.reverse.map Fin.val) 2 % 34) % 34) = symbolOf last ↔
        CheckDigit.weigh plain doubled (last :: values.reverse) = 0 := by
    intro values last
    rw [CheckDigit.weigh, ← (luhnTotal_weigh values.reverse).1, plain, ← Nat.cast_add,
      ZMod.natCast_eq_zero_iff]
    have expected : symbol ((34 - luhnTotal (values.reverse.map Fin.val) 2 % 34) % 34) =
        symbolOf ⟨(34 - luhnTotal (values.reverse.map Fin.val) 2 % 34) % 34, Nat.mod_lt _ (by omega)⟩ := rfl
    rw [expected, symbolOf_injective.eq_iff, Fin.ext_iff]
    have small := last.isLt
    dsimp only
    omega
  constructor
  · intro valid
    unfold luhnModNValidate at valid
    split at valid
    case _ expected computed =>
      rw [Bool.and_eq_true, decide_eq_true_eq] at valid
      obtain ⟨last, rfl⟩ := index_symbol valid.1
      have known : ∀ code ∈ body, ∃ value : Fin 34, code = symbolOf value := by
        intro code member
        unfold luhnModNCheck at computed
        split at computed
        case _ => cases computed
        case _ unknown =>
          have listed := List.find?_eq_none.mp unknown code member
          apply index_symbol
          simpa [Option.isSome_iff_ne_none] using listed
      obtain ⟨values, rfl⟩ : ∃ values : List (Fin 34), body = values.map symbolOf := by
        clear computed valid
        induction body with
        | nil => exact ⟨[], rfl⟩
        | cons code rest inductionHypothesis =>
          obtain ⟨value, rfl⟩ := known code List.mem_cons_self
          obtain ⟨values, rfl⟩ := inductionHypothesis
            (fun other member => known other (List.mem_cons_of_mem _ member))
          exact ⟨value :: values, rfl⟩
      rw [luhnModNCheck_symbols] at computed
      refine ⟨values ++ [last], by simp, ?_⟩
      rw [List.reverse_concat]
      apply (zero_iff values last).mp
      exact (Except.ok.inj computed).trans valid.2
    case _ => cases valid
  · rintro ⟨values, spelled, zero⟩
    obtain ⟨values, last, rfl⟩ : ∃ start last, values = start ++ [last] := by
      cases values using List.reverseRecOn with
      | nil => simp at spelled
      | append_singleton start last => exact ⟨start, last, rfl⟩
    rw [List.map_append, List.map_singleton] at spelled
    obtain ⟨rfl, same⟩ := List.append_inj' spelled rfl
    obtain rfl := List.singleton_inj.mp same
    rw [List.reverse_concat] at zero
    rw [luhnModNValidate, luhnModNCheck_symbols, (zero_iff values last).mpr zero]
    simp [symbolOf_index]

/-- The pair of `0` and `Z`, the first and the last symbol of the alphabet. -/
def zeroAndZ (left right : Code) : Prop :=
  left = .scalar '0' ∧ right = .scalar 'Z' ∨ left = .scalar 'Z' ∧ right = .scalar '0'

/-- The first symbol is the digit zero. -/
theorem symbolOf_zero : symbolOf 0 = .scalar '0' := by decide

/-- The last symbol is the letter Z. -/
theorem symbolOf_last : symbolOf 33 = .scalar 'Z' := by decide

/-- Replacing one character of an accepted code by another gives no accepted one. -/
theorem validate_replaced (valid : luhnModNValidate tables body check = true)
    (otherValid : luhnModNValidate tables other final = true)
    (written : body ++ [check] = front ++ left :: back)
    (rewritten : other ++ [final] = front ++ right :: back) : left = right := by
  obtain ⟨values, spelled, zero⟩ := validate_iff.mp valid
  obtain ⟨others, respelled, otherZero⟩ := validate_iff.mp otherValid
  obtain ⟨start, tail, rfl, same, rest⟩ := List.map_eq_append_iff.mp (spelled.symm.trans written)
  obtain ⟨old, ending, rfl, rfl, rfl⟩ := List.map_eq_cons_iff.mp rest
  obtain ⟨otherStart, otherTail, rfl, otherSame, otherRest⟩ :=
    List.map_eq_append_iff.mp (respelled.symm.trans rewritten)
  obtain ⟨new, otherEnding, rfl, rfl, endings⟩ := List.map_eq_cons_iff.mp otherRest
  obtain rfl := symbolOf_injective.list_map (otherSame.trans same.symm)
  obtain rfl := symbolOf_injective.list_map endings
  rw [List.reverse_append, List.reverse_cons, List.append_assoc] at zero otherZero
  rw [CheckDigit.weigh_replaced plain_injective doubled_injective (zero.trans otherZero.symm)]

/-- Exchanging two neighbours of an accepted code gives an accepted one only where
they are equal or the first and the last symbol. -/
theorem validate_swapped (valid : luhnModNValidate tables body check = true)
    (written : body ++ [check] = front ++ left :: right :: back)
    (rewritten : other ++ [final] = front ++ right :: left :: back) :
    luhnModNValidate tables other final = true ↔ left = right ∨ zeroAndZ left right := by
  obtain ⟨values, spelled, zero⟩ := validate_iff.mp valid
  obtain ⟨start, tail, rfl, rfl, rest⟩ := List.map_eq_append_iff.mp (spelled.symm.trans written)
  obtain ⟨first, afterFirst, rfl, rfl, follows⟩ := List.map_eq_cons_iff.mp rest
  obtain ⟨second, ending, rfl, rfl, rfl⟩ := List.map_eq_cons_iff.mp follows
  rw [List.reverse_append, List.reverse_cons, List.reverse_cons, List.append_assoc,
    List.append_assoc, List.singleton_append, List.cons_append, List.nil_append] at zero
  have sums := @CheckDigit.weigh_swapped (Fin 34) (ZMod 34) _ plain doubled second first
    ending.reverse start.reverse
  rw [zero, difference_eq_iff] at sums
  have exchanged : luhnModNValidate tables other final = true ↔
      CheckDigit.weigh plain doubled (ending.reverse ++ first :: second :: start.reverse) = 0 := by
    have respelled : other ++ [final] = (start ++ second :: first :: ending).map symbolOf := by
      rw [rewritten]
      simp
    rw [validate_iff, respelled]
    constructor
    · rintro ⟨others, same, otherZero⟩
      obtain rfl := symbolOf_injective.list_map same
      simpa using otherZero
    · intro otherZero
      exact ⟨_, rfl, by simpa using otherZero⟩
  rw [exchanged, eq_comm, sums, zeroAndZ, ← symbolOf_zero, ← symbolOf_last, symbolOf_injective.eq_iff, symbolOf_injective.eq_iff,
    symbolOf_injective.eq_iff, symbolOf_injective.eq_iff, symbolOf_injective.eq_iff, eq_comm,
    and_comm, @and_comm (second = 33)]
  exact or_congr_right or_comm

end Luhn

end TaxStamps.Serials
