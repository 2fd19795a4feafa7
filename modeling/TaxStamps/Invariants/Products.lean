import TaxStamps.Api.Sample
import TaxStamps.Invariants.Credentials

/-!
# The product of a batch

`_primary_line` is asked once when a batch is opened and again for every chunk,
and returns any of the lines with the greatest duty. The stamps of a batch are
for one product when these lines are, and need not be when they differ.
-/

namespace TaxStamps

open Api

namespace Products

open Issuance

variable {env : Env} {occasion : Occasion} {db after : Db} {batchId assessmentId : Nat}

section Choice

/-- The lines that `_primary_line` may return: those with the greatest duty of
the assessment. -/
def topLines (assessmentId : Nat) (lines : List AssessmentLine) : List AssessmentLine :=
  (lines.filter (fun line => decide (line.assessmentId = assessmentId))).filter (fun line =>
    (lines.filter (fun other => decide (other.assessmentId = assessmentId))).all
      (fun other => decide (other.totalDutyKobo ≤ line.totalDutyKobo)))

/-- The lines with the greatest duty have one HS code. -/
def Sole (assessmentId : Nat) (lines : List AssessmentLine) : Prop :=
  ∀ line ∈ topLines assessmentId lines, ∀ other ∈ topLines assessmentId lines, line.hsCode = other.hsCode

/-- The picked line is one of the top lines. -/
theorem primaryLine_ok {pick : Nat} {line : AssessmentLine} :
    primaryLine pick assessmentId db = .ok line ↔
      (topLines assessmentId db.assessmentLines)[pick % (topLines assessmentId db.assessmentLines).length]? =
        some line := by
  rw [topLines, primaryLine]
  split
  case _ found => rw [found, Except.ok.injEq, Option.some.injEq]
  case _ absent => simp only [absent, reduceCtorEq]

/-- The primary line is a top line. -/
theorem primaryLine_mem {pick : Nat} {line : AssessmentLine}
    (primary : primaryLine pick assessmentId db = .ok line) :
    line ∈ topLines assessmentId db.assessmentLines := List.mem_of_getElem? (primaryLine_ok.mp primary)

/-- Any line with the greatest duty is returned by some execution. -/
theorem primaryLine_any {line : AssessmentLine} (top : line ∈ topLines assessmentId db.assessmentLines) :
    ∃ pick, primaryLine pick assessmentId db = .ok line := by
  obtain ⟨pick, stored⟩ := List.mem_iff_getElem?.mp top
  have bound := (List.getElem?_eq_some_iff.mp stored).1
  refine ⟨pick, primaryLine_ok.mpr ?_⟩
  rwa [Nat.mod_eq_of_lt bound]

/-- Two executions agree on the product whatever they return exactly when the
lines with the greatest duty have one HS code. -/
theorem sole_iff : Sole assessmentId db.assessmentLines ↔
    ∀ pick other line rival, primaryLine pick assessmentId db = .ok line →
      primaryLine other assessmentId db = .ok rival → line.hsCode = rival.hsCode := by
  constructor
  · intro sole pick other line rival first second
    exact sole line (primaryLine_mem first) rival (primaryLine_mem second)
  · intro agree line here rival there
    obtain ⟨pick, first⟩ := primaryLine_any here
    obtain ⟨other, second⟩ := primaryLine_any there
    exact agree pick other line rival first second

/-- Lines of other assessments do not enter. -/
theorem topLines_append {lines new : List AssessmentLine} (others : ∀ line ∈ new, line.assessmentId ≠ assessmentId) :
    topLines assessmentId (lines ++ new) = topLines assessmentId lines := by
  have none : new.filter (fun line => decide (line.assessmentId = assessmentId)) = [] := by
    rw [List.filter_eq_nil_iff]
    intro line member
    rw [decide_eq_true_eq]
    exact others line member
  rw [topLines, List.filter_append, none, List.append_nil]
  rfl

end Choice

section Steps

/-- The assessment and the category of a batch. -/
def lotOf (batch : StampBatch) : Nat × PyStr := (batch.assessmentId, batch.categoryCode)

/-- The batch and the product of a stamp. -/
def productOf (stamp : Stamp) : Nat × PyStr := (stamp.batchId, stamp.hsCode)

/-- Batches and stamps come from the lines with the greatest duty of their
assessments. -/
structure Chosen (lines : List AssessmentLine) (assessments : Nat) (lots products : List (Nat × PyStr)) :
    Prop where
  known : ∀ lot ∈ lots, lot.1 < assessments
  category : ∀ lot ∈ lots, ∃ line ∈ topLines lot.1 lines, Serials.categories line.category = some lot.2
  product : ∀ product ∈ products, ∃ lot, lots[product.1]? = some lot ∧
    ∃ line ∈ topLines lot.1 lines, line.hsCode = product.2

/-- The batches and stamps of the tables are chosen so. -/
def ChosenIn (db : Db) : Prop :=
  Chosen db.assessmentLines db.assessments.length (db.stampBatches.map lotOf) (db.stamps.map productOf)

variable {lines new : List AssessmentLine} {assessments : Nat} {lots products : List (Nat × PyStr)}

/-- A new assessment brings lines of its own. -/
theorem Chosen.assess (chosen : Chosen lines assessments lots products)
    (owned : ∀ line ∈ new, line.assessmentId = assessments) :
    Chosen (lines ++ new) (assessments + 1) lots products := by
  have kept : ∀ lot ∈ lots, topLines lot.1 (lines ++ new) = topLines lot.1 lines := by
    intro lot member
    apply topLines_append
    intro line listed
    rw [owned line listed]
    exact (chosen.known lot member).ne'
  constructor
  · exact fun lot member => Nat.lt_succ_of_lt (chosen.known lot member)
  · intro lot member
    rw [kept lot member]
    exact chosen.category lot member
  · intro product member
    obtain ⟨lot, stored, line⟩ := chosen.product product member
    refine ⟨lot, stored, ?_⟩
    rwa [kept lot (List.mem_of_getElem? stored)]

/-- A batch of a top line's category. -/
theorem Chosen.open_ (chosen : Chosen lines assessments lots products) {lot : Nat × PyStr}
    (known : lot.1 < assessments) {line : AssessmentLine} (top : line ∈ topLines lot.1 lines)
    (coded : Serials.categories line.category = some lot.2) : Chosen lines assessments (lots ++ [lot]) products := by
  constructor
  · intro other member
    rcases List.mem_append.mp member with old | fresh
    · exact chosen.known other old
    · rwa [List.mem_singleton.mp fresh]
  · intro other member
    rcases List.mem_append.mp member with old | fresh
    · exact chosen.category other old
    · rw [List.mem_singleton.mp fresh]
      exact ⟨line, top, coded⟩
  · intro product member
    obtain ⟨other, stored, chosenLine⟩ := chosen.product product member
    exact ⟨other, Rows.stored_append _ stored, chosenLine⟩

/-- Stamps of a top line's product. -/
theorem Chosen.issue (chosen : Chosen lines assessments lots products) {lot : Nat × PyStr}
    (stored : lots[batchId]? = some lot) {added : List (Nat × PyStr)}
    (each : ∀ product ∈ added, product.1 = batchId ∧ ∃ line ∈ topLines lot.1 lines, line.hsCode = product.2) :
    Chosen lines assessments lots (products ++ added) := by
  refine ⟨chosen.known, chosen.category, ?_⟩
  intro product member
  rcases List.mem_append.mp member with old | fresh
  · exact chosen.product product old
  · obtain ⟨rfl, line⟩ := each product fresh
    exact ⟨lot, stored, line⟩

/-- Updates of stamps leave their products. -/
theorem Chosen.update {stamps later : List Stamp} (chosen : Chosen lines assessments lots (stamps.map productOf))
    (same : later.map Stamp.fixed = stamps.map Stamp.fixed) :
    Chosen lines assessments lots (later.map productOf) := by
  have kept : ∀ stamp : Stamp, productOf stamp.fixed = productOf stamp := fun _ => rfl
  have composed := congrArg (List.map productOf) same
  simp only [List.map_map, Function.comp_def, kept] at composed
  exact composed ▸ chosen

/-- The computed lines are those of the assessment. -/
theorem assessLines_owned {on : Date} {lines : List DeclarationLine} {computed finished : Assessments.Computed}
    (assessed : Assessments.assessLines env on assessmentId lines computed = .ok finished)
    (owned : ∀ line ∈ computed.lines, line.assessmentId = assessmentId) :
    ∀ line ∈ finished.lines, line.assessmentId = assessmentId := by
  induction lines generalizing computed with
  | nil =>
    cases assessed
    exact owned
  | cons line rest inductionHypothesis =>
    obtain ⟨middle, first, assessed⟩ := Result.bind_ok.mp assessed
    apply inductionHypothesis assessed
    obtain ⟨duty, _, first⟩ := Result.bind_ok.mp first
    cases duty with
    | none =>
      cases first
      exact owned
    | some duty =>
      cases first
      intro other member
      rcases List.mem_append.mp member with old | fresh
      · exact owned other old
      · rw [List.mem_singleton.mp fresh]

/-- The stamps of a chunk are for one line with the greatest duty. -/
theorem issueChunk_product {requested : Option Int} {locked copy : StampBatch} {issued : Int}
    (chunked : issueChunk env occasion requested batchId locked db = .ok (issued, copy, after)) :
    ∃ new, after.stamps = db.stamps ++ new ∧ ∀ stamp ∈ new, stamp.batchId = batchId ∧
      ∃ line ∈ topLines locked.assessmentId db.assessmentLines, line.hsCode = stamp.hsCode := by
  unfold issueChunk at chunked
  split at chunked
  case isTrue =>
    cases chunked
    exact ⟨[], by simp, by simp⟩
  case isFalse =>
    dsimp only at chunked
    split at chunked
    case isTrue =>
      obtain ⟨middle, wrote, chunked⟩ := Result.bind_ok.mp chunked
      cases chunked
      obtain ⟨_, rfl⟩ := writeBatch_ok wrote
      exact ⟨[], by simp, by simp⟩
    case isFalse =>
      obtain ⟨⟨base, claimed⟩, claiming, chunked⟩ := Result.bind_ok.mp chunked
      obtain ⟨assessment, _, chunked⟩ := Result.bind_ok.mp chunked
      obtain ⟨declaration, _, chunked⟩ := Result.bind_ok.mp chunked
      obtain ⟨line, primary, chunked⟩ := Result.bind_ok.mp chunked
      obtain ⟨validUntil, _, chunked⟩ := Result.bind_ok.mp chunked
      obtain ⟨filled, issuing, chunked⟩ := Result.bind_ok.mp chunked
      obtain ⟨last, wrote, chunked⟩ := Result.bind_ok.mp chunked
      cases chunked
      obtain ⟨counters, rfl⟩ := claimSerialBlock_ok claiming
      obtain ⟨new, _, fresh, rfl⟩ := issueStamps_ok issuing
      obtain ⟨_, rfl⟩ := writeBatch_ok wrote
      refine ⟨new, rfl, ?_⟩
      intro stamp member
      obtain ⟨earlier, placed⟩ := fresh.each member
      exact ⟨placed.batch, line, primaryLine_mem primary, placed.hsCode.symm⟩

/-- A verdict adds no assessment. -/
theorem judged_length (assessmentId : Nat) (time : Datetime) (verdict : Option AssessmentStatus)
    (assessments : List Assessment) :
    (Assessments.judged assessmentId time verdict assessments).length = assessments.length := by
  cases verdict with
  | none => rfl
  | some status => exact List.length_modify ..

/-- Every effect keeps batches and stamps chosen so. -/
theorem chosen_step (chosen : ChosenIn db) (effect : Effect env db after) : ChosenIn after := by
  unfold ChosenIn at *
  cases effect with
  | assessed _ assessed =>
    obtain ⟨computed, loop, _, _, rfl⟩ := assessed.computed
    rw [List.length_append, List.length_singleton]
    exact chosen.assess (assessLines_owned loop (fun line absent => absurd absent List.not_mem_nil))
  | decided _ _ => simpa only [judged_length] using chosen
  | asked => simpa only [List.length_modify] using chosen
  | settled => simpa only [Payments.settled, List.length_modify] using chosen
  | @opened assessmentId assessment batch stored paid opened made =>
    obtain ⟨pick, line, primary, coded⟩ := made.line
    have category : ∀ code, categoryCodeOf line = .ok code → Serials.categories line.category = some code := by
      intro code
      unfold categoryCodeOf
      split
      case _ found =>
        intro same
        rw [found, Except.ok.inj same]
      case _ => intro absurdity; cases absurdity
    have top : line ∈ topLines (lotOf batch).1 db.assessmentLines := by
      rw [lotOf, opened.subject]
      exact primaryLine_mem primary
    have known : (lotOf batch).1 < db.assessments.length := by
      rw [lotOf, opened.subject]
      exact (List.getElem?_eq_some_iff.mp stored).1
    rw [List.map_append, List.length_modify]
    exact chosen.open_ known top (category _ coded)
  | issued stored chunked ran =>
    rename_i batchId batch copy issued
    obtain ⟨occasion, chunking⟩ := ran
    obtain ⟨new, stamps, each⟩ := issueChunk_product chunking
    have rest : after.assessmentLines = db.assessmentLines ∧ after.assessments = db.assessments ∧
        after.stampBatches.map lotOf = db.stampBatches.map lotOf := by
      cases chunked with
      | past => exact ⟨rfl, rfl, rfl⟩
      | exhausted => exact ⟨rfl, rfl, written_keeps lotOf (fun _ _ _ _ => rfl)⟩
      | issues => exact ⟨rfl, rfl, written_keeps lotOf (fun _ _ _ _ => rfl)⟩
    have lot : (db.stampBatches.map lotOf)[batchId]? = some (lotOf batch) := by
      rw [List.getElem?_map, stored]
      rfl
    rw [rest.1, rest.2.1, rest.2.2, stamps, List.map_append]
    apply chosen.issue lot
    intro product member
    obtain ⟨stamp, listed, rfl⟩ := List.mem_map.mp member
    exact each stamp listed
  | finalized => simpa only [written_keeps lotOf (fun _ _ _ _ => rfl)] using chosen
  | failed => simpa only [written_keeps lotOf (fun _ _ _ _ => rfl)] using chosen
  | @activated batchId batch time message stored ready passing =>
    simp only [written_keeps lotOf (fun _ _ _ _ => rfl)]
    exact chosen.update (Stamps.activate_fixed batchId time)
  | scanned _ scanned =>
    cases scanned with
    | answered => exact chosen
    | suspected => exact chosen.update (Stamps.modify_fixed _ _ _ (fun _ => rfl))
    | consumes => exact chosen.update (Stamps.modify_fixed _ _ _ (fun _ => rfl))
  | voided _ voided =>
    cases voided with
    | already => exact chosen
    | voids => exact chosen.update (Stamps.modify_fixed _ _ _ (fun _ => rfl))
  | _ => exact chosen

end Steps

section Runs

/-- In every reachable state batches and stamps are chosen so. -/
theorem chosen_reachable (reached : Reachable env db) : ChosenIn db := by
  refine reached.invariant ChosenIn ?_ (fun _ _ chosen effect => chosen_step chosen effect)
  exact ⟨fun lot absent => absurd absent List.not_mem_nil, fun lot absent => absurd absent List.not_mem_nil,
    fun product absent => absurd absent List.not_mem_nil⟩

/-- The HS code that a credential states. -/
def credentialProduct : Value → Option Value
  | .dict members => match Value.lookup (key "credentialSubject") members with
    | some (.dict subject) => Value.lookup (key "hsCode") subject
    | _ => none
  | _ => none

/-- A credential states the product of its stamp. -/
theorem credential_product (reached : Reachable env db) {stamp : Stamp} (member : stamp ∈ db.stamps) :
    credentialProduct stamp.credential = some (.str stamp.hsCode) := by
  obtain ⟨credential, product⟩ := Credential.of_issue ((Stamps.valid reached).documented stamp member)
  obtain ⟨subject, present, equal⟩ := credential.subject
  have stated : Value.lookup (key "hsCode") subject = some (.str credential.chunk.hsCode) :=
    Value.lookup_stored_text equal rfl
  rw [credential.held, credentialProduct, present]
  dsimp only
  rw [stated, product]

/-- One batch, one product: the stamps and their credentials carry one HS code, and
a line of the assessment has it whose category is that of the batch. -/
def OneProduct (db : Db) (batchId : Nat) (batch : StampBatch) : Prop :=
  ∃ line ∈ db.assessmentLines, line.assessmentId = batch.assessmentId ∧
    Serials.categories line.category = some batch.categoryCode ∧
    ∀ stamp ∈ db.stamps, stamp.batchId = batchId → stamp.hsCode = line.hsCode ∧
      credentialProduct stamp.credential = some (.str line.hsCode)

/-- A batch is for one product when the lines with the greatest duty of its
assessment have one HS code. -/
theorem one_product (reached : Reachable env db) {batch : StampBatch}
    (stored : db.stampBatches[batchId]? = some batch) (sole : Sole batch.assessmentId db.assessmentLines) :
    OneProduct db batchId batch := by
  have chosen := chosen_reachable reached
  have lot : (db.stampBatches.map lotOf)[batchId]? = some (lotOf batch) := by
    rw [List.getElem?_map, stored]
    rfl
  obtain ⟨line, top, coded⟩ := chosen.category _ (List.mem_of_getElem? lot)
  have own := (List.mem_filter.mp top).1
  refine ⟨line, (List.mem_filter.mp own).1, of_decide_eq_true (List.mem_filter.mp own).2, coded, ?_⟩
  rintro stamp member rfl
  obtain ⟨other, present, rival, chosenLine, product⟩ := chosen.product _ (List.mem_map_of_mem member)
  obtain rfl := Option.some.inj (lot.symm.trans present)
  have same : stamp.hsCode = line.hsCode := product.symm.trans (sole rival chosenLine line top)
  rw [← same]
  exact ⟨rfl, credential_product reached member⟩

/-- Ten cigarettes and a litre of beer, each for 8000 kobo of duty and one stamp. -/
def tied : DeclarationIn :=
  { Sample.declaration with
    lines := [⟨py "2402", [], 10, py "STICK", 1000, 1⟩, ⟨py "2203", [], 1, py "LITRE", 1000, 1⟩]
    lines_accepted := by decide +kernel }

/-- A litre of beer and twenty cigarettes, for 8000 and 16000 kobo of duty. -/
def led : DeclarationIn :=
  { Sample.declaration with
    lines := [⟨py "2203", [], 1, py "LITRE", 1000, 1⟩, ⟨py "2402", [], 20, py "STICK", 1000, 1⟩]
    lines_accepted := by decide +kernel }

/-- Intake, assessment, approval and payment of a declaration. -/
def paidFor (body : DeclarationIn) (due : Int) (natural : 0 ≤ due) : List Request :=
  [.declaration (py "maker") body,
    .assessment (py "maker") [] Sample.assessing,
    .decision (py "checker") 0 .approve [],
    .paymentIntent 0,
    .receipt { Sample.payment with amountKobo := due, amount_natural := natural }]

/-- The batch is opened for the first line, and of its two chunks of one stamp the
second is issued for the other. -/
def tiedRun : List (Occasion × Request) :=
  (paidFor tied 16000 (by decide) ++ [Request.batch 0, Request.issue 0 (some Sample.oneStamp)]).map
      (fun request => (Sample.occasion, request)) ++
    [({ Sample.occasion with pick := 1 }, .issue 0 none)]

/-- A batch of tobacco stamps with a stamp for beer. -/
theorem tied_products : ∃ db, Reachable .sample db ∧ ∃ batch : StampBatch, db.stampBatches[0]? = some batch ∧
    ¬ OneProduct db 0 batch := by
  have mixed : (run .sample tiedRun Db.empty).stampBatches.map StampBatch.categoryCode = [py "TBC"] ∧
      (run .sample tiedRun Db.empty).stamps.map productOf = [(0, py "2402"), (0, py "2203")] := by
    decide +kernel
  obtain ⟨batch, only, _⟩ := List.map_eq_singleton_iff.mp mixed.1
  refine ⟨_, reachable_iff_run.mpr ⟨tiedRun, rfl⟩, batch, by rw [only]; rfl, ?_⟩
  rintro ⟨line, _, _, _, each⟩
  have product : ∀ code, (0, code) ∈ (run .sample tiedRun Db.empty).stamps.map productOf → code = line.hsCode := by
    intro code listed
    obtain ⟨stamp, member, same⟩ := List.mem_map.mp listed
    obtain ⟨batchId, rfl⟩ := Prod.mk.inj same
    exact (each stamp member batchId).1
  rw [mixed.2] at product
  have first := product (py "2402") (by simp)
  have second := product (py "2203") (by simp)
  rw [← second] at first
  revert first
  decide

/-- The batch for beer and cigarettes is issued as cigarettes. -/
def ledRun : List Request := paidFor led 24000 (by decide) ++ [.batch 0, .issue 0 none]

/-- Of two lines the one with the greater duty names the product of both stamps. -/
theorem one_product_sample : ∃ batch : StampBatch,
    (Sample.state ledRun).stampBatches[0]? = some batch ∧ OneProduct (Sample.state ledRun) 0 batch ∧
      (Sample.state ledRun).assessmentLines.length = 2 ∧ (Sample.state ledRun).stamps.length = 2 := by
  have rows : (Sample.state ledRun).stampBatches.map StampBatch.assessmentId = [0] ∧
      (topLines 0 (Sample.state ledRun).assessmentLines).map AssessmentLine.hsCode = [py "2402"] ∧
      (Sample.state ledRun).assessmentLines.length = 2 ∧ (Sample.state ledRun).stamps.length = 2 := by
    decide +kernel
  obtain ⟨batches, tops, lines, stamps⟩ := rows
  obtain ⟨batch, only, subject⟩ := List.map_eq_singleton_iff.mp batches
  obtain ⟨line, leading, _⟩ := List.map_eq_singleton_iff.mp tops
  refine ⟨batch, by rw [only]; rfl, one_product (Sample.state_reachable _) (by rw [only]; rfl) ?_, lines, stamps⟩
  rw [subject]
  intro first here second there
  rw [leading] at here there
  rw [List.mem_singleton.mp here, List.mem_singleton.mp there]

end Runs

end Products

end TaxStamps
