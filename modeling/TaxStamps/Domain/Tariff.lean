import Mathlib.Data.List.Sort
import TaxStamps.Python.Clock

/-!
# Money and the excise tariff

Amounts are integer kobo. A line's duty is the specific rate times its quantity
plus the ad valorem rate on its customs value, rounded half up, at the rate that
is in force on the given date for the longest matching heading.
-/

namespace TaxStamps.Tariff

/-- `ad_valorem_kobo`. -/
def adValoremKobo (customsValueKobo rateBasisPoints : Int) : Result Int :=
  if customsValueKobo < 0 then .error (.moneyError (py "customs value cannot be negative"))
  else if rateBasisPoints < 0 then .error (.moneyError (py "rate cannot be negative"))
  else .ok ((customsValueKobo * rateBasisPoints + 5000) / 10000)

/-- `TariffRate`. -/
structure TariffRate where
  hsPrefix : PyStr
  category : PyStr
  unit : PyStr
  specificKobo : Int
  adValoremBp : Int
  effectiveFrom : Date
  effectiveTo : Option Date
  statutoryRef : PyStr

/-- `LineDuty`. -/
structure LineDuty where
  tariff : TariffRate
  specificDutyKobo : Int
  adValoremDutyKobo : Int

/-- `total_kobo`. -/
def LineDuty.totalKobo (duty : LineDuty) : Int := duty.specificDutyKobo + duty.adValoremDutyKobo

/-- `TARIFF_TABLE`. -/
def tariffTable : List TariffRate :=
  [ { hsPrefix := py "2402", category := py "tobacco", unit := py "STICK"
      specificKobo := 600, adValoremBp := 0
      effectiveFrom := ⟨2023, 6, 1⟩, effectiveTo := some ⟨2026, 6, 30⟩
      statutoryRef := py "Finance Act 2020 s.13; Nigeria Customs Excise Tariff (2023 review)" },
    { hsPrefix := py "2402", category := py "tobacco", unit := py "STICK"
      specificKobo := 800, adValoremBp := 0
      effectiveFrom := ⟨2026, 7, 1⟩, effectiveTo := none
      statutoryRef := py
        "2026 Fiscal Policy Measures: excise on tobacco, NGN 8.00/stick (2026-2028)" },
    { hsPrefix := py "2203", category := py "alcohol", unit := py "LITRE"
      specificKobo := 7200, adValoremBp := 0
      effectiveFrom := ⟨2023, 6, 1⟩, effectiveTo := some ⟨2026, 6, 30⟩
      statutoryRef := py "Finance Act 2020 s.13; Nigeria Customs Excise Tariff (2023 review)" },
    { hsPrefix := py "2203", category := py "alcohol", unit := py "LITRE"
      specificKobo := 8000, adValoremBp := 0
      effectiveFrom := ⟨2026, 7, 1⟩, effectiveTo := none
      statutoryRef := py "2026 Fiscal Policy Measures: excise on beer, NGN 80.00/litre" },
    { hsPrefix := py "2208", category := py "alcohol", unit := py "LITRE"
      specificKobo := 6000, adValoremBp := 2000
      effectiveFrom := ⟨2023, 6, 1⟩, effectiveTo := some ⟨2026, 6, 30⟩
      statutoryRef := py "Finance Act 2020 s.13; Nigeria Customs Excise Tariff (2023 review)" },
    { hsPrefix := py "2208", category := py "alcohol", unit := py "LITRE"
      specificKobo := 7500, adValoremBp := 3000
      effectiveFrom := ⟨2026, 7, 1⟩, effectiveTo := none
      statutoryRef := py
        "2026 Fiscal Policy Measures: excise on spirits, 30% ad valorem + NGN 75.00/litre" },
    { hsPrefix := py "2202", category := py "beverages", unit := py "LITRE"
      specificKobo := 1000, adValoremBp := 0
      effectiveFrom := ⟨2022, 6, 1⟩, effectiveTo := none
      statutoryRef := py
        "Finance Act 2021 s.17: NGN 10/litre on non-alcoholic, carbonated and sweetened beverages" },
    { hsPrefix := py "30", category := py "pharmaceuticals", unit := py "UNIT"
      specificKobo := 0, adValoremBp := 0
      effectiveFrom := ⟨2020, 1, 1⟩, effectiveTo := none
      statutoryRef := py
        "Zero-rated: pharmaceutical products carry no federal excise (stamp traceability only)" } ]

/-- The digits of an HS code. -/
def hsDigits (tables : Unicode) (hsCode : PyStr) : PyStr := hsCode.filter tables.isDigit

/-- The rate is in force on the date. -/
def inForce (rate : TariffRate) (on : Date) : Bool :=
  decide (rate.effectiveFrom ≤ on) &&
    (match rate.effectiveTo with
      | none => true
      | some until_ => decide (on ≤ until_))

/-- The row applies to the digits of a code on a date. -/
def applies (rate : TariffRate) (hs : PyStr) (on : Date) : Bool :=
  rate.hsPrefix.isPrefixOf hs && inForce rate on

/-- `rate_for` over a table of any rows: the longest prefix wins, and of several the row
that stands first. -/
def rateIn (table : List TariffRate) (hs : PyStr) (on : Date) : Option TariffRate :=
  let candidates := table.filter (fun rate => applies rate hs on)
  (candidates.insertionSort (fun left right => right.hsPrefix.length ≤ left.hsPrefix.length)).head?

/-- `rate_for`. -/
def rateFor (tables : Unicode) (hsCode : PyStr) (on : Date) : Option TariffRate :=
  rateIn tariffTable (hsDigits tables hsCode) on

/-- `compute_line_duty` over a table of any rows. -/
def computeLineDutyIn (table : List TariffRate) (tables : Unicode) (hsCode : PyStr)
    (quantity customsValueKobo : Int) (on : Date) : Result (Option LineDuty) :=
  if quantity < 0 then .error (.exciseError (py "quantity cannot be negative"))
  else if customsValueKobo < 0 then .error (.exciseError (py "customs value cannot be negative"))
  else match rateIn table (hsDigits tables hsCode) on with
    | none => .ok none
    | some rate => do
      let adValorem ← adValoremKobo customsValueKobo rate.adValoremBp
      .ok (some ⟨rate, rate.specificKobo * quantity, adValorem⟩)

/-- `compute_line_duty`. -/
def computeLineDuty : Unicode → PyStr → Int → Int → Date → Result (Option LineDuty) :=
  computeLineDutyIn tariffTable

end TaxStamps.Tariff
