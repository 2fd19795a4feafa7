import TaxStamps.Domain.SerialCodec

/-!
# Mistyped serials

The places of a serial say which characters stand there: letters, digits, the
separators, the check character. A single mistyped character or two exchanged
neighbours either break a place or leave every place as it is; in the second case
the characters without the separators differ in one symbol or in two exchanged
ones, which the check character detects.
-/

namespace TaxStamps.Serials

/-- The separator. -/
def dash : Code := .scalar '-'

/-- What stands at a place of a serial. -/
def placed (tables : Unicode) (place : Nat) (code : Code) : Prop :=
  if place < 2 then code = .scalar 'N' ∨ code = .scalar 'G'
  else if place = 2 ∨ place = 6 ∨ place = 11 ∨ place = 22 then code = dash
  else if place < 6 then isCapital code = true
  else if place < 22 then isDecimal tables code = true
  else isCheck code = true

/-- The characters without the separators. -/
def compact (text : PyStr) : PyStr := text.filter (fun code => decide (code ≠ dash))

section Places

variable {tables : Unicode} {text : PyStr} {parts : SerialParts} {place other : Nat}
  {code left right : Code}

/-- The separator stands at its own places and nowhere else. -/
theorem placed_dash (stands : placed tables place code) :
    code = dash ↔ place = 2 ∨ place = 6 ∨ place = 11 ∨ place = 22 := by
  have undecimal : isDecimal tables dash = false := by
    rw [dash, isDecimal, tables.decimal_ascii '-' (by decide)]
    decide
  unfold placed at stands
  by_cases early : place < 2
  · rw [if_pos early] at stands
    constructor
    · rintro rfl
      exact absurd stands (by decide)
    · intro separator
      omega
  · rw [if_neg early] at stands
    by_cases separator : place = 2 ∨ place = 6 ∨ place = 11 ∨ place = 22
    · rw [if_pos separator] at stands
      exact iff_of_true stands separator
    · rw [if_neg separator] at stands
      refine iff_of_false ?_ separator
      rintro rfl
      by_cases letter : place < 6
      · rw [if_pos letter] at stands
        exact absurd stands (by decide)
      · rw [if_neg letter] at stands
        by_cases digit : place < 22
        · rw [if_pos digit, undecimal] at stands
          cases stands
        · rw [if_neg digit] at stands
          exact absurd stands (by decide)

/-- `0` and `Z` never stand at the place of each other twice. -/
theorem placed_zeroAndZ (apart : place ≠ other) (pair : zeroAndZ left right)
    (stands : placed tables place left ∧ placed tables other right)
    (exchanged : placed tables place right ∧ placed tables other left)
    (inside : place < 24 ∧ other < 24) : False := by
  have letter : isDecimal tables (.scalar 'Z') = false := by
    rw [isDecimal, tables.decimal_ascii 'Z' (by decide)]
    decide
  have final : ∀ position, placed tables position (.scalar '0') → placed tables position (.scalar 'Z') →
      position < 24 → position = 23 := by
    intro position zero last bound
    unfold placed at zero last
    by_cases early : position < 2
    · rw [if_pos early] at zero
      exact absurd zero (by decide)
    · rw [if_neg early] at zero last
      by_cases separator : position = 2 ∨ position = 6 ∨ position = 11 ∨ position = 22
      · rw [if_pos separator] at zero
        exact absurd zero (by decide)
      · rw [if_neg separator] at zero last
        by_cases capital : position < 6
        · rw [if_pos capital] at zero
          exact absurd zero (by decide)
        · rw [if_neg capital] at last
          by_cases digit : position < 22
          · rw [if_pos digit, letter] at last
            cases last
          · omega
  rcases pair with ⟨rfl, rfl⟩ | ⟨rfl, rfl⟩
  · exact apart ((final place stands.1 exchanged.1 inside.1).trans
      (final other exchanged.2 stands.2 inside.2).symm)
  · exact apart ((final place exchanged.1 stands.1 inside.1).trans
      (final other stands.2 exchanged.2 inside.2).symm)

/-- The characters of a cut of the text. -/
theorem cut_stored {position width : Nat} (first : position ≤ place) (last : place < position + width)
    (stored : text[place]? = some code) : code ∈ (text.drop position).take width := by
  have moved : ((text.drop position).take width)[place - position]? = some code := by
    rw [List.getElem?_take_of_lt (by omega), List.getElem?_drop]
    rwa [show position + (place - position) = place by omega]
  exact List.mem_of_getElem? moved

/-- Every character of an accepted text of 24 characters stands at its place. -/
theorem accepted_placed (parsed : parseNormalized tables text = .ok parts) (length : text.length = 24) :
    ∀ place code, text[place]? = some code → placed tables place code := by
  unfold parseNormalized at parsed
  split at parsed
  case _ => cases parsed
  case _ cat year sequence check grouped =>
    unfold serialGroups at grouped
    dsimp only at grouped
    split at grouped
    case _ _ rest final =>
      split at grouped
      case isFalse => cases grouped
      case isTrue shape =>
        obtain ⟨opening, capitals, first, years, second, sequences, third, checked, _⟩ := shape
        intro place code stored
        have inside : place < 24 := by
          rw [← length]
          exact (List.getElem?_eq_some_iff.mp stored).1
        unfold placed
        by_cases early : place < 2
        · rw [if_pos early]
          have member := cut_stored (Nat.zero_le place) (by omega : place < 0 + 2) stored
          have start : (text.drop 0).take 2 = py "NG" := by
            have cut := congrArg (List.take 2) opening
            rw [List.take_take] at cut
            exact cut
          rw [start] at member
          exact (by decide : ∀ code ∈ py "NG", code = .scalar 'N' ∨ code = .scalar 'G') code member
        · rw [if_neg early]
          have single : ∀ position, (text.drop position).take 1 = py "-" → place = position → code = dash := by
            rintro position cut rfl
            have member := cut_stored (le_refl place) (by omega : place < place + 1) stored
            rw [cut] at member
            exact (by decide : ∀ code ∈ py "-", code = dash) code member
          by_cases separator : place = 2 ∨ place = 6 ∨ place = 11 ∨ place = 22
          · rw [if_pos separator]
            rcases separator with two | six | eleven | last
            · apply single 2 _ two
              have cut := congrArg (List.drop 2) opening
              rw [List.drop_take] at cut
              exact cut
            · exact single 6 first six
            · exact single 11 second eleven
            · exact single 22 third last
          · rw [if_neg separator]
            by_cases letter : place < 6
            · rw [if_pos letter]
              exact List.all_eq_true.mp capitals code
                (cut_stored (by omega : 3 ≤ place) (by omega : place < 3 + 3) stored)
            · rw [if_neg letter]
              by_cases digit : place < 22
              · rw [if_pos digit]
                by_cases yearDigit : place < 11
                · exact List.all_eq_true.mp years code
                    (cut_stored (by omega : 7 ≤ place) (by omega : place < 7 + 4) stored)
                · exact List.all_eq_true.mp sequences code
                    (cut_stored (by omega : 12 ≤ place) (by omega : place < 12 + 10) stored)
              · rw [if_neg digit]
                have ending : place = 23 := by omega
                subst ending
                have head : text[23]? = some check := by
                  have cut := congrArg (fun list => list[0]?) final
                  rw [List.getElem?_drop] at cut
                  cases grouped
                  exact cut
                cases grouped
                rw [Option.some.inj (stored.symm.trans head)]
                exact checked
    case _ => cases grouped

/-- Dashes are dropped on both sides. -/
theorem compact_append (front back : PyStr) : compact (front ++ back) = compact front ++ compact back := by
  rw [compact, List.filter_append]
  rfl

/-- Any other character is kept. -/
theorem compact_cons (other : code ≠ dash) (rest : PyStr) : compact (code :: rest) = code :: compact rest := by
  rw [compact, List.filter_cons_of_pos (by simpa using other)]
  rfl

/-- The separators of an accepted text stand between a body and its check
character. -/
theorem accepted_compact (parsed : parseNormalized tables text = .ok parts) (length : text.length = 24) :
    ∃ body check, compact text = body ++ [check] ∧ luhnModNValidate tables body check = true := by
  obtain ⟨year, sequence, rest, spelled, catLength, _, yearLength, _, sequenceLength, _, valid, _⟩ :=
    parseNormalized_ok parsed
  have single : rest = [] := by
    have count := congrArg List.length spelled
    simp only [List.length_append, List.length_cons, prefixLength, dashLength, catLength, yearLength,
      sequenceLength, length] at count
    exact List.length_eq_zero_iff.mp (by omega)
  have known := validate_known valid
  have kept : ∀ part : PyStr, (∀ code ∈ part, code ∈ py "NG" ++ parts.categoryCode ++ year ++ sequence ++
      [parts.check]) → compact part = part := by
    intro part listed
    rw [compact, List.filter_eq_self]
    intro code member
    rw [decide_eq_true_eq]
    rintro rfl
    exact absurd (known dash (listed dash member)) (by decide)
  refine ⟨py "NG" ++ parts.categoryCode ++ year ++ sequence, parts.check, ?_, valid⟩
  have opening : compact (py "NG-") = py "NG" := by decide
  have separator : compact (py "-") = [] := by decide
  rw [spelled, single]
  simp only [compact_append, opening, separator, List.append_nil]
  rw [kept parts.categoryCode (fun code member => by simp [member]),
    kept year (fun code member => by simp [member]),
    kept sequence (fun code member => by simp [member]),
    kept [parts.check] (fun code member => by simp_all)]

end Places

/-- The two characters stand next to each other, or do once the separators are
removed. -/
def Adjacent (left : Code) (between : PyStr) (right : Code) : Prop :=
  between = [] ∨ left ≠ dash ∧ right ≠ dash ∧ ∀ code ∈ between, code = dash

section Typos

variable {tables : Unicode} {serial front between back : PyStr} {parts others : SerialParts}
  {old new left right : Code}

/-- A serial that is its own normal form is 24 characters of a serial. -/
theorem accepted_serial (parsed : parseSerial tables serial = .ok parts) (same : parts.serial = serial) :
    parseNormalized tables serial = .ok parts ∧ (∀ code ∈ serial, serialCode code = true) ∧
      serial.length = 24 := by
  rw [parseSerial] at parsed
  have normal : normalize tables serial = serial := by
    obtain ⟨_, _, _, _, _, _, _, _, _, _, _, _, _, _, _, stated⟩ := parseNormalized_ok parsed
    exact stated.symm.trans same
  rw [normal] at parsed
  obtain ⟨start, rest, cut, codes, length, ending⟩ := parseNormalized_codes parsed
  have whole : rest = [] := by
    rcases ending with empty | newline
    · exact empty
    · have space : ∀ code ∈ rest, tables.isSpace code = true := by
        rw [newline]
        intro code member
        rw [List.mem_singleton.mp member, tables.isSpace_ascii '\n' (by decide)]
        decide
      have shorter := @normalize_spelled tables start [] rest codes start (Or.inl rfl)
        (fun code member => absurd member List.not_mem_nil) space
      rw [List.nil_append, ← cut, normal] at shorter
      rw [shorter] at cut
      exact List.self_eq_append_right.mp cut
  rw [whole, List.append_nil] at cut
  rw [cut]
  exact ⟨cut ▸ parsed, codes, length⟩

/-- A mistyped serial of the same length is accepted only as it stands. -/
theorem accepted_mistyped (parsed : parseSerial tables serial = .ok parts)
    (codes : ∀ code ∈ serial, serialCode code = true) : parseNormalized tables serial = .ok parts := by
  rwa [parseSerial, normalize_fixed codes] at parsed

/-- No serial stays accepted when one of its characters is replaced. -/
theorem replaced_rejected (parsed : parseSerial tables serial = .ok parts) (same : parts.serial = serial)
    (written : serial = front ++ old :: back) (typed : isCheck new = true ∨ new = dash)
    (accepted : parseSerial tables (front ++ new :: back) = .ok others) : new = old := by
  obtain ⟨stands, codes, length⟩ := accepted_serial parsed same
  have newCode : serialCode new = true := by
    rcases typed with symbol | rfl
    · exact check_serialCode symbol
    · decide
  have mistyped : ∀ code ∈ front ++ new :: back, serialCode code = true := by
    intro code member
    rcases List.mem_append.mp member with early | late
    · exact codes code (by simp [written, early])
    · rcases List.mem_cons.mp late with rfl | later
      · exact newCode
      · exact codes code (by simp [written, later])
  have reparsed := accepted_mistyped accepted mistyped
  have sameLength : (front ++ new :: back).length = 24 := by
    rw [← length, written, List.length_append, List.length_append, List.length_cons, List.length_cons]
  have oldPlace := accepted_placed stands length front.length old (by simp [written])
  have newPlace := accepted_placed reparsed sameLength front.length new (by simp)
  have both : old = dash ↔ new = dash := (placed_dash oldPlace).trans (placed_dash newPlace).symm
  by_cases separator : old = dash
  · rw [separator, both.mp separator]
  · have newOther : new ≠ dash := fun stated => separator (both.mpr stated)
    obtain ⟨body, check, spelled, valid⟩ := accepted_compact stands length
    obtain ⟨body', check', respelled, valid'⟩ := accepted_compact reparsed sameLength
    rw [written, compact_append, compact_cons separator] at spelled
    rw [compact_append, compact_cons newOther] at respelled
    exact (validate_replaced valid valid' spelled.symm respelled.symm).symm

/-- No serial stays accepted when two neighbours are exchanged. -/
theorem exchanged_rejected (parsed : parseSerial tables serial = .ok parts) (same : parts.serial = serial)
    (written : serial = front ++ left :: between ++ right :: back)
    (adjacent : Adjacent left between right)
    (accepted : parseSerial tables (front ++ right :: between ++ left :: back) = .ok others) :
    left = right := by
  obtain ⟨stands, codes, length⟩ := accepted_serial parsed same
  have mistyped : ∀ code ∈ front ++ right :: between ++ left :: back, serialCode code = true := by
    intro code member
    apply codes
    rw [written]
    simp only [List.mem_append, List.mem_cons] at member ⊢
    tauto
  have reparsed := accepted_mistyped accepted mistyped
  have sameLength : (front ++ right :: between ++ left :: back).length = 24 := by
    rw [← length, written]
    simp only [List.length_append, List.length_cons]
  have inside : front.length + between.length + 1 < 24 := by
    rw [← length, written]
    simp only [List.length_append, List.length_cons]
    omega
  have first : ∀ one two : Code, (front ++ one :: between ++ two :: back)[front.length]? = some one := by
    intro one two
    simp
  have second : ∀ one two : Code,
      (front ++ one :: between ++ two :: back)[front.length + between.length + 1]? = some two := by
    intro one two
    rw [List.append_assoc, List.getElem?_append_right (by omega), List.cons_append,
      show front.length + between.length + 1 - front.length = between.length + 1 by omega,
      List.getElem?_cons_succ, List.getElem?_append_right (le_refl _), Nat.sub_self]
    rfl
  have leftPlace := accepted_placed stands length _ left (written ▸ first left right)
  have rightPlace := accepted_placed stands length _ right (written ▸ second left right)
  have rightMoved := accepted_placed reparsed sameLength _ right (first right left)
  have leftMoved := accepted_placed reparsed sameLength _ left (second right left)
  have both : left = dash ↔ right = dash := (placed_dash leftPlace).trans (placed_dash rightMoved).symm
  by_cases separator : left = dash
  · rw [separator, both.mp separator]
  · have rightOther : right ≠ dash := fun stated => separator (both.mpr stated)
    have removed : compact between = [] := by
      rcases adjacent with rfl | ⟨_, _, dashes⟩
      · rfl
      · rw [compact, List.filter_eq_nil_iff]
        intro code member
        simp [dashes code member]
    obtain ⟨body, check, spelled, valid⟩ := accepted_compact stands length
    obtain ⟨body', check', respelled, valid'⟩ := accepted_compact reparsed sameLength
    rw [written, List.append_assoc, compact_append, List.cons_append, compact_cons separator,
      compact_append, compact_cons rightOther, removed, List.nil_append] at spelled
    rw [List.append_assoc, compact_append, List.cons_append, compact_cons rightOther, compact_append,
      compact_cons separator, removed, List.nil_append] at respelled
    rcases (validate_swapped valid spelled.symm respelled.symm).mp valid' with equal | pair
    · exact equal
    · exact absurd (placed_zeroAndZ (by omega) pair ⟨leftPlace, rightPlace⟩ ⟨rightMoved, leftMoved⟩
        ⟨by omega, inside⟩) id

/-- A text that is not accepted is refused with a serial error. -/
theorem parse_refused (unparsed : ∀ parts, parseSerial tables serial ≠ .ok parts) :
    ∃ message, parseSerial tables serial = .error (.serialError message) := by
  unfold parseSerial parseNormalized at *
  split
  case _ => exact ⟨_, rfl⟩
  case _ cat year sequence check grouped =>
    split
    case isTrue valid =>
      simp only [grouped, valid, if_true] at unparsed
      exact absurd rfl (unparsed _)
    case isFalse => exact ⟨_, rfl⟩

/-- Every single replaced character and every exchange of neighbours is detected:
in a body with its check character, but for the pair of `0` and `Z`, and in every
accepted serial without exception. -/
theorem typos_detected (tables : Unicode) :
    (∀ body : PyStr, (∀ code ∈ body, code ∈ alphabet) →
      ∃ check, luhnModNCheck tables body = .ok check ∧
        (∀ front old new back other final, body ++ [check] = front ++ old :: back →
          new ∈ alphabet → new ≠ old → other ++ [final] = front ++ new :: back →
          luhnModNValidate tables other final = false) ∧
        ∀ front left right back other final, body ++ [check] = front ++ left :: right :: back →
          left ≠ right → ¬ zeroAndZ left right → other ++ [final] = front ++ right :: left :: back →
          luhnModNValidate tables other final = false) ∧
    ∀ serial parts, parseSerial tables serial = .ok parts → parts.serial = serial →
      (∀ front old new back, serial = front ++ old :: back → (isCheck new = true ∨ new = dash) →
        new ≠ old → ∃ message, parseSerial tables (front ++ new :: back) = .error (.serialError message)) ∧
      ∀ front left between right back, serial = front ++ left :: between ++ right :: back →
        Adjacent left between right → left ≠ right →
        ∃ message, parseSerial tables (front ++ right :: between ++ left :: back) =
          .error (.serialError message) := by
  constructor
  · intro body listed
    have known : ∀ code ∈ body, (index? code).isSome = true := by
      intro code member
      obtain ⟨value, rfl⟩ := alphabet_symbol code (listed code member)
      rw [symbolOf_index]
      rfl
    obtain ⟨check, checked⟩ := @luhnModNCheck_known tables body known
    have valid : luhnModNValidate tables body check = true := by
      obtain ⟨index, small, rfl⟩ := luhn_symbol checked
      rw [luhnModNValidate, checked]
      simp [(symbol_code index small).2]
    refine ⟨check, checked, ?_, ?_⟩
    · intro front old new back other final written _ differ rewritten
      rw [← Bool.not_eq_true]
      exact fun accepted => differ (validate_replaced valid accepted written rewritten).symm
    · intro front left right back other final written differ pair rewritten
      rw [← Bool.not_eq_true, validate_swapped valid written rewritten]
      exact not_or.mpr ⟨differ, pair⟩
  · intro serial parts parsed same
    constructor
    · intro front old new back written typed differ
      exact parse_refused (fun others accepted =>
        differ (replaced_rejected parsed same written typed accepted))
    · intro front left between right back written adjacent differ
      exact parse_refused (fun others accepted =>
        differ (exchanged_rejected parsed same written adjacent accepted))

/-- The check character of a serial is mistyped, and its first digit is exchanged
with the last letter of the category. -/
theorem typos_detected_sample :
    (∃ message, parseSerial .ascii (py "NG-TBC-2026-0000000042-7") = .error (.serialError message)) ∧
      ∃ message, parseSerial .ascii (py "NG-TB2-C026-0000000042-V") = .error (.serialError message) := by
  have detected := (typos_detected .ascii).2 (py "NG-TBC-2026-0000000042-V")
    ⟨py "TBC", 2026, 42, .scalar 'V', py "NG-TBC-2026-0000000042-V"⟩ (by decide) rfl
  exact ⟨detected.1 (py "NG-TBC-2026-0000000042-") (.scalar 'V') (.scalar '7') [] (by decide)
      (by decide) (by decide),
    detected.2 (py "NG-TB") (.scalar 'C') [dash] (.scalar '2') (py "026-0000000042-V")
      (by decide) (Or.inr (by decide)) (by decide)⟩

end Typos

end TaxStamps.Serials
