import TaxStamps.Api.Routes

/-!
# One declaration from intake to activation

The requests that take one declaration of ten cigarettes through the whole
pipeline of the sample deployment, for results that need a state in which
something has happened.
-/

namespace TaxStamps.Api.Sample

/-- A request on the first day of August 2026. -/
def occasion : Occasion := ⟨⟨739828 * Datetime.microsPerDay, by decide, by decide⟩, 0⟩

/-- A declaration of two stamps. -/
def declaration : DeclarationIn where
  declarationRef := py "REF-1"
  consigneeTin := py "TIN-0001"
  consigneeName := py "Importer"
  lines := [⟨py "2402", [], 10, py "STICK", 1000, 2⟩]
  reference_length := by decide
  tin_length := by decide
  lines_accepted := by decide

/-- The assessment of the declaration. -/
def assessing : AssessmentCreateIn := ⟨py "REF-1", by decide⟩

/-- Intake, assessment, approval and the intent to pay 8000 kobo. -/
def asking : List Request :=
  [.declaration (py "maker") declaration,
    .assessment (py "maker") [] assessing,
    .decision (py "checker") 0 .approve [],
    .paymentIntent 0]

/-- The payment of exactly the duty. -/
def payment : ReceiptIn := ⟨0, py "PAY-1", 8000, py "NGN", by decide, by decide, by decide⟩

/-- The receipt and the batch of two stamps. -/
def paying : List Request :=
  asking ++ [.receipt payment, .batch 0]

/-- Both stamps are issued and anchored. -/
def issuing : List Request := paying ++ [.issue 0 none, .finalize (py "maker") 0]

/-- A sample without defectives. -/
def flawless : InspectionIn := ⟨0, by decide⟩

/-- The batch passes inspection and is activated. -/
def activating : List Request :=
  issuing ++ [.inspection (py "inspector") 0 flawless, .activate (py "maker") 0]

/-- Chunks of one stamp. -/
def oneStamp : ChunkSize := ⟨1, by decide, by decide⟩

/-- The state after a list of requests. -/
def state (requests : List Request) : Db :=
  run .sample (requests.map (fun request => (occasion, request))) Db.empty

/-- The serial of the first stamp. -/
def serial : PyStr := py "NG-TBC-2026-0000000000-3"

/-- A scan of the first stamp without its credential. -/
def scan : VerifyIn where
  serial := serial
  credential := none
  latMicros := none
  longMicros := none
  serial_length := by decide
  credential_json := by simp
  lat_bounded := by decide
  long_bounded := by decide

/-- A public check with a serial only. -/
def precheck : Verify.Scan := ⟨[], true, none, none, none, false, []⟩

/-- A sample with two defectives, which no plan for two stamps accepts. -/
def defectives : InspectionIn := ⟨2, by decide⟩

/-- An inspection that fails. -/
def defective : Request := .inspection (py "inspector") 0 defectives

/-- The last request meets the state after the others. -/
theorem state_append (requests : List Request) (last : Request) :
    state (requests ++ [last]) = submit .sample occasion last (state requests) := by
  rw [state, List.map_append, run, List.foldl_append]
  rfl

/-- A list of requests is a run. -/
theorem state_reachable (requests : List Request) : Reachable .sample (state requests) :=
  reachable_iff_run.mpr ⟨_, rfl⟩

/-- The assessment is approved, and nothing is paid. -/
theorem asked_approved : (state (asking.take 3)).assessments.map Assessment.status = [.approved] ∧
    (state (asking.take 3)).stampBatches.length = 0 ∧
    (state (asking.take 3)).paymentReceipts.length = 0 := by decide +kernel

/-- The batch is finalized, and its stamps are issued. -/
theorem issuing_ready : (state issuing).stampBatches.map StampBatch.status = [.ready] ∧
    (state issuing).assessments.length = 1 ∧
    (state issuing).stamps.all (fun stamp => decide (stamp.status = .issued)) = true := by decide +kernel

/-- The batch is active, its stamps are, and nothing is published. -/
theorem activating_active : (state activating).stampBatches.map StampBatch.status = [.active] ∧
    (state activating).assessments.length = 1 ∧ (state activating).statusListSnapshots.length = 0 ∧
    (state activating).stamps.all (fun stamp => decide (stamp.status = .active)) = true ∧
    (state activating).stamps[0]?.any (fun stamp =>
      decide (stamp.serial = serial ∧ occasion.time < stamp.validUntil)) = true := by decide +kernel

/-- The first stamp is active and within its validity. -/
theorem activating_released : ∃ stamp, (state activating).stamps[0]? = some stamp ∧ stamp.status = .active ∧
    stamp.serial = serial ∧ occasion.time < stamp.validUntil := by
  obtain ⟨_, _, _, active, first⟩ := activating_active
  obtain ⟨stamp, stored, released⟩ := (Option.any_eq_true ..).mp first
  exact ⟨stamp, stored, of_decide_eq_true (List.all_eq_true.mp active stamp (List.mem_of_getElem? stored)),
    of_decide_eq_true released⟩

end TaxStamps.Api.Sample
