import TaxStamps.Domain.Tariff

/-!
# Chapters, headings and the rows of the tariff

`category_for_hs` classifies a code by two dictionaries of its own, one of
headings and one of chapters; `rate_for` prices it by the rows in force. No two
rows of the tariff apply to one code on one date, so the row that is found is the
row that applies, in whatever order the rows stand. The dictionary of chapters is
wider than the rows: a code of chapter 22 or 24 outside the priced headings has
a category and no rate.
-/

namespace TaxStamps

namespace Date

/-- `calendar.monthrange`: the number of days of a month. -/
def daysInMonth (year month : Nat) : Nat :=
  [0, 31, if isLeap year then 29 else 28, 31, 30, 31, 30, 31, 31, 30, 31, 30, 31].getD month 0

/-- A date that `datetime.date` represents. -/
def isCalendar (date : Date) : Bool :=
  decide (1 ≤ date.month ∧ date.month ≤ 12 ∧ 1 ≤ date.day ∧
    date.day ≤ daysInMonth date.year date.month)

/-- Dates are compared transitively. -/
theorem le_trans {first second third : Date} (early : first ≤ second) (late : second ≤ third) :
    first ≤ third := by
  change first.le second = true at early
  change second.le third = true at late
  change first.le third = true
  simp only [le, Bool.or_eq_true, Bool.and_eq_true, decide_eq_true_eq] at *
  omega

/-- The day after the last of June is the first of July. -/
theorem july_of_june {date : Date} {year : Nat} (calendar : date.isCalendar = true)
    (past : ¬ date ≤ ⟨year, 6, 30⟩) : (⟨year, 7, 1⟩ : Date) ≤ date := by
  change ¬ date.le ⟨year, 6, 30⟩ = true at past
  change le ⟨year, 7, 1⟩ date = true
  simp only [isCalendar, decide_eq_true_eq] at calendar
  simp only [le, Bool.or_eq_true, Bool.and_eq_true, decide_eq_true_eq] at *
  have june : date.month = 6 → date.day ≤ 30 := by
    intro same
    have last := calendar.2.2.2
    rw [same] at last
    exact last
  omega

/-- The months of a year of either length. -/
theorem month_of_day : ∀ leap : Bool, ∀ dayOfYear < 365,
    let before := fun month => [0, 0, 31, 59, 90, 120, 151, 181, 212, 243, 273, 304, 334].getD month 0 +
      if 2 < month && leap then 1 else 0
    let estimate := (dayOfYear + 50) / 32
    let month := if dayOfYear < before estimate then estimate - 1 else estimate
    1 ≤ month ∧ month ≤ 12 ∧ dayOfYear - before month + 1 ≤
      [0, 31, if leap then 29 else 28, 31, 30, 31, 30, 31, 31, 30, 31, 30, 31].getD month 0 := by
  decide +kernel

/-- A day number is read as a date of the calendar. -/
theorem ofDayNumber_calendar (days : Nat) : (ofDayNumber days).isCalendar = true := by
  unfold ofDayNumber
  dsimp only
  split
  · simp [isCalendar, daysInMonth]
  · rw [isCalendar, decide_eq_true_eq]
    have inside := month_of_day
      (isLeap (days / 146097 * 400 + days % 146097 / 36524 * 100 +
        days % 146097 % 36524 / 1461 * 4 + days % 146097 % 36524 % 1461 / 365 + 1))
      (days % 146097 % 36524 % 1461 % 365) (Nat.mod_lt _ (by omega))
    exact ⟨inside.1, inside.2.1, Nat.le_add_left _ _, inside.2.2⟩

end Date

namespace Tariff

/-- `_HEADING_CATEGORY.get`. -/
def headingCategory (heading : PyStr) : Option PyStr :=
  if heading = py "2202" then some (py "beverages")
  else if heading = py "2203" then some (py "alcohol")
  else if heading = py "2208" then some (py "alcohol")
  else if heading = py "2402" then some (py "tobacco")
  else none

/-- `_HS_CATEGORY.get`. -/
def hsCategory (chapter : PyStr) : Option PyStr :=
  if chapter = py "24" then some (py "tobacco")
  else if chapter = py "22" then some (py "alcohol")
  else if chapter = py "30" then some (py "pharmaceuticals")
  else none

/-- `category_for_hs`. -/
def categoryForHs (tables : Unicode) (hsCode : PyStr) : Option PyStr :=
  let hs := hsDigits tables hsCode
  match headingCategory (hs.take 4) with
  | some category => some category
  | none => hsCategory (hs.take 2)

/-- No code has both rows on one date. -/
def Excludes (first second : TariffRate) : Prop :=
  ∀ hs on, ¬ (applies first hs on = true ∧ applies second hs on = true)

/-- The headings differ, or the first row ends before the second begins. -/
def Apart (first second : TariffRate) : Prop :=
  (¬ first.hsPrefix <+: second.hsPrefix ∧ ¬ second.hsPrefix <+: first.hsPrefix) ∨
    ∃ last ∈ first.effectiveTo, ¬ second.effectiveFrom ≤ last

/-- Whether two rates are apart is decided by prefixes and dates. -/
instance (first second : TariffRate) : Decidable (Apart first second) :=
  inferInstanceAs (Decidable (_ ∨ _))

section Rows

variable {table : List TariffRate} {rate first second : TariffRate} {hs : PyStr} {on : Date}

/-- A rate applies exactly when its prefix starts the code and it is in force. -/
theorem applies_iff : applies rate hs on = true ↔
    rate.hsPrefix <+: hs ∧ inForce rate on = true := by
  rw [applies, Bool.and_eq_true, List.isPrefixOf_iff_prefix]

/-- Exclusion is mutual. -/
theorem Excludes.symm (excludes : Excludes first second) : Excludes second first :=
  fun hs on both => excludes hs on both.symm

/-- Rates that are apart never apply to one code on one date. -/
theorem Apart.excludes (apart : Apart first second) : Excludes first second := by
  intro hs on both
  have earlier := applies_iff.mp both.1
  have later := applies_iff.mp both.2
  cases apart with
  | inl headings =>
    rcases List.prefix_or_prefix_of_prefix earlier.1 later.1 with shorter | longer
    · exact headings.1 shorter
    · exact headings.2 longer
  | inr window =>
    obtain ⟨last, ends, unbegun⟩ := window
    have until_ := earlier.2
    have from_ := later.2
    simp only [inForce, Option.mem_def.mp ends, Bool.and_eq_true, decide_eq_true_eq] at until_ from_
    exact unbegun (Date.le_trans from_.1 until_.2)

/-- The rows of the tariff exclude each other. -/
theorem tariffTable_exclusive : tariffTable.Pairwise Excludes := by
  have apart : tariffTable.Pairwise Apart := by decide
  exact apart.imp Apart.excludes

/-- Where the rows exclude each other, the row found is the row that applies. -/
theorem rateIn_iff (exclusive : table.Pairwise Excludes) :
    rateIn table hs on = some rate ↔ rate ∈ table ∧ applies rate hs on = true := by
  rw [← List.mem_filter (p := fun rate => applies rate hs on)]
  have each : ∀ row ∈ table.filter (fun rate => applies rate hs on), applies row hs on = true :=
    fun row member => (List.mem_filter.mp member).2
  have apart := exclusive.sublist (List.filter_sublist (p := fun rate => applies rate hs on))
  unfold rateIn
  dsimp only
  generalize table.filter (fun rate => applies rate hs on) = candidates at each apart
  match candidates with
  | [] => simp
  | [only] => simp [eq_comm]
  | first :: second :: rest =>
    exfalso
    exact List.rel_of_pairwise_cons apart List.mem_cons_self hs on
      ⟨each first List.mem_cons_self, each second (List.mem_cons_of_mem _ List.mem_cons_self)⟩

/-- The order of the rows does not matter. -/
theorem rateIn_perm (reordered : table.Perm tariffTable) : rateIn table hs on = rateIn tariffTable hs on := by
  have exclusive := (reordered.pairwise_iff Excludes.symm).mpr tariffTable_exclusive
  apply Option.ext
  intro rate
  rw [rateIn_iff exclusive, rateIn_iff tariffTable_exclusive, reordered.mem_iff]

end Rows

/-- The headings of the tariff, each with the category its rows name. -/
def headings : List (PyStr × PyStr) :=
  [(py "2402", py "tobacco"), (py "2203", py "alcohol"), (py "2208", py "alcohol"),
    (py "2202", py "beverages"), (py "30", py "pharmaceuticals")]

/-- The digits belong to a chapter that is classified and to none of its priced
headings. -/
def Unpriced (hs : PyStr) : Prop :=
  (py "24" <+: hs ∧ ¬ py "2402" <+: hs) ∨
    (py "22" <+: hs ∧ ¬ py "2202" <+: hs ∧ ¬ py "2203" <+: hs ∧ ¬ py "2208" <+: hs)

section Headings

variable {tables : Unicode} {hsCode heading category : PyStr} {on : Date}

/-- A rate is in force from its first day to its last, if it has one. -/
theorem inForce_iff {rate : TariffRate} : inForce rate on = true ↔
    rate.effectiveFrom ≤ on ∧ ∀ last ∈ rate.effectiveTo, on ≤ last := by
  rw [inForce, Bool.and_eq_true, decide_eq_true_eq]
  cases rate.effectiveTo with
  | none => simp
  | some last => simp

/-- From June 2023 on every heading has a row in force. -/
theorem rate_of_heading (calendar : on.isCalendar = true) (started : (⟨2023, 6, 1⟩ : Date) ≤ on)
    (listed : (heading, category) ∈ headings) (starts : heading <+: hsDigits tables hsCode) :
    ∃ rate, rateFor tables hsCode on = some rate ∧ rate.category = category := by
  have current : ∃ rate ∈ tariffTable, rate.hsPrefix = heading ∧ rate.category = category ∧
      inForce rate on = true := by
    by_cases early : on ≤ ⟨2026, 6, 30⟩
    · have rows : ∀ pair ∈ headings, ∃ rate ∈ tariffTable, rate.hsPrefix = pair.1 ∧
          rate.category = pair.2 ∧ rate.effectiveFrom ≤ ⟨2023, 6, 1⟩ ∧
          ∀ last ∈ rate.effectiveTo, last = ⟨2026, 6, 30⟩ := by decide
      obtain ⟨rate, member, same, named, begun, ends⟩ := rows _ listed
      refine ⟨rate, member, same, named, inForce_iff.mpr ⟨Date.le_trans begun started, ?_⟩⟩
      intro last stated
      rw [ends last stated]
      exact early
    · have rows : ∀ pair ∈ headings, ∃ rate ∈ tariffTable, rate.hsPrefix = pair.1 ∧
          rate.category = pair.2 ∧ rate.effectiveFrom ≤ ⟨2026, 7, 1⟩ ∧ rate.effectiveTo = none := by
        decide
      obtain ⟨rate, member, same, named, begun, ends⟩ := rows _ listed
      refine ⟨rate, member, same, named, inForce_iff.mpr ⟨?_, ?_⟩⟩
      · exact Date.le_trans begun (Date.july_of_june calendar early)
      · simp [ends]
  obtain ⟨rate, member, same, named, valid⟩ := current
  have applied : applies rate (hsDigits tables hsCode) on = true :=
    applies_iff.mpr ⟨same ▸ starts, valid⟩
  exact ⟨rate, (rateIn_iff tariffTable_exclusive).mpr ⟨member, applied⟩, named⟩

/-- The rate that is found belongs to a listed heading of the code. -/
theorem heading_of_rate {rate : TariffRate} (found : rateFor tables hsCode on = some rate) :
    (rate.hsPrefix, rate.category) ∈ headings ∧ rate.hsPrefix <+: hsDigits tables hsCode := by
  have listed : ∀ rate ∈ tariffTable, (rate.hsPrefix, rate.category) ∈ headings := by decide
  have row := (rateIn_iff tariffTable_exclusive).mp found
  exact ⟨listed rate row.1, (applies_iff.mp row.2).1⟩

/-- A heading of two digits is the chapter of its codes. -/
theorem prefix_two {hs : PyStr} (starts : heading <+: hs) (two : heading.length = 2) :
    hs.take 2 = heading := by
  rw [← two]
  exact (List.prefix_iff_eq_take.mp starts).symm

/-- A heading of four digits is the heading of its codes. -/
theorem prefix_four {hs : PyStr} (starts : heading <+: hs) (four : heading.length = 4) :
    hs.take 4 = heading := by
  rw [← four]
  exact (List.prefix_iff_eq_take.mp starts).symm

/-- A code under a heading has the category of the heading. -/
theorem category_of_heading (listed : (heading, category) ∈ headings)
    (starts : heading <+: hsDigits tables hsCode) : categoryForHs tables hsCode = some category := by
  have four : ∀ pair ∈ headings, pair.1.length = 4 ∧ headingCategory pair.1 = some pair.2 ∨
      pair.1.length = 2 ∧ hsCategory pair.1 = some pair.2 ∧
        ∀ other ∈ headings, other.1.length = 4 → other.1.take 2 ≠ pair.1 := by decide
  unfold categoryForHs
  dsimp only
  rcases four _ listed with ⟨long, named⟩ | ⟨short, named, differ⟩
  · rw [prefix_four starts long, named]
  · have chapter := prefix_two starts short
    have unlisted : headingCategory ((hsDigits tables hsCode).take 4) = none := by
      have apart : ∀ pair ∈ headings, pair.1.length = 4 → (hsDigits tables hsCode).take 4 ≠ pair.1 := by
        intro pair member long same
        apply differ pair member long
        rw [← same, List.take_take]
        exact chapter
      simp only [headingCategory, apart (py "2202", py "beverages") (by decide) rfl,
        apart (py "2203", py "alcohol") (by decide) rfl, apart (py "2208", py "alcohol") (by decide) rfl,
        apart (py "2402", py "tobacco") (by decide) rfl, if_false]
    rw [unlisted, chapter]
    exact named

/-- A code under no heading has the category of its chapter. -/
theorem category_unlisted (unlisted : ∀ pair ∈ headings, ¬ pair.1 <+: hsDigits tables hsCode) :
    categoryForHs tables hsCode = hsCategory ((hsDigits tables hsCode).take 2) := by
  have apart : ∀ pair ∈ headings, (hsDigits tables hsCode).take 4 ≠ pair.1 := by
    intro pair member same
    apply unlisted pair member
    rw [← same]
    exact List.take_prefix 4 _
  unfold categoryForHs
  dsimp only
  simp only [headingCategory, apart (py "2202", py "beverages") (by decide),
    apart (py "2203", py "alcohol") (by decide), apart (py "2208", py "alcohol") (by decide),
    apart (py "2402", py "tobacco") (by decide), if_false]

/-- A code under no heading has no category unless its chapter is one of the
classified ones. -/
theorem category_absent_iff (unlisted : ∀ pair ∈ headings, ¬ pair.1 <+: hsDigits tables hsCode) :
    categoryForHs tables hsCode = none ↔ ¬ Unpriced (hsDigits tables hsCode) := by
  rw [category_unlisted unlisted]
  have tobacco := unlisted (py "2402", py "tobacco") (by decide)
  have beer := unlisted (py "2203", py "alcohol") (by decide)
  have spirits := unlisted (py "2208", py "alcohol") (by decide)
  have drinks := unlisted (py "2202", py "beverages") (by decide)
  have pharmacy := unlisted (py "30", py "pharmaceuticals") (by decide)
  have chapter : ∀ two : PyStr, two.length = 2 →
      ((hsDigits tables hsCode).take 2 = two ↔ two <+: hsDigits tables hsCode) := by
    intro two length
    rw [List.prefix_iff_eq_take, length, eq_comm]
  have thirty : ¬ (hsDigits tables hsCode).take 2 = py "30" :=
    fun same => pharmacy ((chapter _ rfl).mp same)
  simp only [hsCategory, Unpriced, thirty, if_false, ← chapter (py "24") rfl, ← chapter (py "22") rfl,
    tobacco, beer, spirits, drinks, not_false_eq_true, and_true, not_or]
  by_cases twentyFour : (hsDigits tables hsCode).take 2 = py "24"
  · simp [twentyFour]
  · by_cases twentyTwo : (hsDigits tables hsCode).take 2 = py "22"
    · have distinct : ¬ py "22" = py "24" := by decide
      simp [twentyTwo, distinct]
    · simp [twentyFour, twentyTwo]

/-- An unpriced code is under no listed heading. -/
theorem Unpriced.unlisted {hs : PyStr} (unpriced : Unpriced hs) : ∀ pair ∈ headings, ¬ pair.1 <+: hs := by
  intro pair member starts
  have apart : ∀ pair ∈ headings, (py "24" <+: pair.1 → pair.1 = py "2402") ∧
      (py "22" <+: pair.1 → pair.1 = py "2202" ∨ pair.1 = py "2203" ∨ pair.1 = py "2208") ∧
      2 ≤ pair.1.length := by decide
  have facts := apart pair member
  have chapter : ∀ two : PyStr, two.length = 2 → two <+: hs → two <+: pair.1 := by
    intro two length begins
    exact List.prefix_of_prefix_length_le begins starts (by rw [length]; exact facts.2.2)
  rcases unpriced with ⟨begins, heading⟩ | ⟨begins, drinks, beer, spirits⟩
  · exact heading (facts.1 (chapter _ rfl begins) ▸ starts)
  · rcases facts.2.1 (chapter _ rfl begins) with same | same | same
    · exact drinks (same ▸ starts)
    · exact beer (same ▸ starts)
    · exact spirits (same ▸ starts)

end Headings

end Tariff

end TaxStamps
