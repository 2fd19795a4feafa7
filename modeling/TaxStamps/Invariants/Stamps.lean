import TaxStamps.Effects.Requests

/-!
# Stamps over whole runs

A stamp is issued once and keeps its serial, its list index, its batch, its
validity and its credential; only its status and the data of its scans change.
So what a fresh stamp has is an invariant of every run, and serials and indexes
are unique.
-/

namespace TaxStamps

open Api

/-- The columns of a stamp that are never updated. -/
def Stamp.fixed (stamp : Stamp) : Stamp :=
  { stamp with
    status := .issued
    activatedAt := none
    firstScanAt := none
    firstScanVerifier := []
    firstScanLatMicros := none
    firstScanLongMicros := none }

variable {env : Env} {db after : Db}

namespace Stamps

/-- A change of what is not fixed keeps what is. -/
theorem modify_fixed (stamps : List Stamp) (stampId : Nat) (change : Stamp → Stamp)
    (same : ∀ stamp, (change stamp).fixed = stamp.fixed) :
    (stamps.modify stampId change).map Stamp.fixed = stamps.map Stamp.fixed :=
  Rows.keys_modify Stamp.fixed stamps stampId change same

/-- Activation keeps what is fixed. -/
theorem activate_fixed (batchId : Nat) (time : Datetime) :
    (Issuance.activateStamps batchId time db).stamps.map Stamp.fixed = db.stamps.map Stamp.fixed := by
  simp only [Issuance.activateStamps, List.map_map]
  apply List.map_congr_left
  intro stamp _
  dsimp only [Function.comp_apply]
  split
  · rfl
  · rfl

/-- A request issues stamps or keeps the fixed columns of those there are. -/
theorem of_effect (effect : Effect env db after) :
    (∃ time chunk new, Issuance.Issued env time chunk db.stamps new ∧ after.stamps = db.stamps ++ new) ∨
      after.stamps.map Stamp.fixed = db.stamps.map Stamp.fixed := by
  cases effect with
  | issued stored chunked =>
    cases chunked with
    | past => exact Or.inr rfl
    | exhausted => exact Or.inr rfl
    | issues _ _ _ _ issued _ => exact Or.inl ⟨_, _, _, issued, rfl⟩
  | activated => exact Or.inr (activate_fixed _ _)
  | scanned stored scanned =>
    cases scanned with
    | answered => exact Or.inr rfl
    | suspected => exact Or.inr (modify_fixed _ _ _ (fun _ => rfl))
    | consumes => exact Or.inr (modify_fixed _ _ _ (fun _ => rfl))
  | voided stored voided =>
    cases voided with
    | already => exact Or.inr rfl
    | voids => exact Or.inr (modify_fixed _ _ _ (fun _ => rfl))
  | _ => exact Or.inr rfl

/-- What every fresh stamp keeps of the moment it was issued. -/
def Documented (env : Env) (stamp : Stamp) : Prop :=
  ∃ time chunk earlier, Issuance.FreshStamp env time chunk earlier stamp.fixed

/-- A fresh stamp is documented. -/
theorem documented_fresh {time : Datetime} {chunk : Issuance.Chunk} {stamps : List Stamp} {row : Stamp}
    (fresh : Issuance.FreshStamp env time chunk stamps row) : Documented env row := by
  refine ⟨time, chunk, stamps, ?_⟩
  exact
    { accepted := ⟨fresh.accepted.serial_new, fresh.accepted.index_new, fresh.accepted.hsCode_fits,
        fresh.accepted.reference_fits, fresh.accepted.tin_fits⟩
      batch := fresh.batch
      issued := rfl
      unscanned := rfl
      validity := fresh.validity
      numbered := fresh.numbered
      index_bounded := fresh.index_bounded
      reference := fresh.reference
      credential := fresh.credential
      hsCode := fresh.hsCode
      consignee := fresh.consignee }

/-- The stamps of a run. -/
structure Valid (env : Env) (stamps : List Stamp) : Prop where
  serials : (stamps.map Stamp.serial).Nodup
  indexes : (stamps.map Stamp.statusListIndex).Nodup
  documented : ∀ stamp ∈ stamps, Documented env stamp

/-- A fresh stamp keeps the table valid. -/
theorem Valid.fresh {time : Datetime} {chunk : Issuance.Chunk} {stamps : List Stamp} {row : Stamp}
    (valid : Valid env stamps) (fresh : Issuance.FreshStamp env time chunk stamps row) :
    Valid env (stamps ++ [row]) := by
  have appended : ∀ {κ : Type} (key : Stamp → κ), (stamps.map key).Nodup →
      (∀ other ∈ stamps, key other ≠ key row) → ((stamps ++ [row]).map key).Nodup := by
    intro κ key distinct new
    rw [List.map_append, List.nodup_append]
    refine ⟨distinct, List.nodup_singleton _, ?_⟩
    intro value member other single
    obtain ⟨stamp, present, rfl⟩ := List.mem_map.mp member
    rw [List.mem_singleton.mp single]
    exact new stamp present
  constructor
  · exact appended Stamp.serial valid.serials fresh.accepted.serial_new
  · exact appended Stamp.statusListIndex valid.indexes fresh.accepted.index_new
  · intro stamp member
    rcases List.mem_append.mp member with old | new
    · exact valid.documented stamp old
    · rw [List.mem_singleton.mp new]
      exact documented_fresh fresh

/-- The invariant speaks of fixed columns only. -/
theorem Valid.kept {stamps later : List Stamp} (valid : Valid env stamps)
    (same : later.map Stamp.fixed = stamps.map Stamp.fixed) : Valid env later := by
  have column : ∀ {κ : Type} (key : Stamp → κ), (∀ stamp, key stamp.fixed = key stamp) →
      later.map key = stamps.map key := by
    intro κ key fixed
    have composed := congrArg (List.map key) same
    simpa only [List.map_map, Function.comp_def, fixed] using composed
  constructor
  · rw [column Stamp.serial (fun _ => rfl)]
    exact valid.serials
  · rw [column Stamp.statusListIndex (fun _ => rfl)]
    exact valid.indexes
  · intro stamp member
    have present : stamp.fixed ∈ stamps.map Stamp.fixed := by
      rw [← same]
      exact List.mem_map_of_mem member
    obtain ⟨old, stored, equal⟩ := List.mem_map.mp present
    obtain ⟨time, chunk, earlier, fresh⟩ := valid.documented old stored
    exact ⟨time, chunk, earlier, equal ▸ fresh⟩

/-- Every effect keeps the table of stamps valid. -/
theorem Valid.step (valid : Valid env db.stamps) (effect : Effect env db after) :
    Valid env after.stamps := by
  rcases of_effect effect with ⟨time, chunk, new, issued, added⟩ | same
  · rw [added]
    exact issued.preserves (fun stamps row known fresh => known.fresh fresh) valid
  · exact valid.kept same

/-- Serials and indexes are unique and every stamp is documented, in every
reachable state. -/
theorem valid (reached : Reachable env db) : Valid env db.stamps :=
  reached.invariant (fun state => Valid env state.stamps)
    ⟨List.nodup_nil, List.nodup_nil, fun _ absent => absurd absent List.not_mem_nil⟩
    (fun _ _ known effect => known.step effect)

/-- An index is within the list. -/
theorem Valid.bounded {stamps : List Stamp} (valid : Valid env stamps) {stampId : Nat} {stamp : Stamp}
    (stored : stamps[stampId]? = some stamp) : stamp.statusListIndex < defaultListSizeBits := by
  obtain ⟨_, _, _, fresh⟩ := valid.documented stamp (List.mem_of_getElem? stored)
  exact fresh.index_bounded

/-- An index belongs to one stamp. -/
theorem Valid.index_unique {stamps : List Stamp} (valid : Valid env stamps) {first second : Nat}
    {left right : Stamp} (storedLeft : stamps[first]? = some left)
    (storedRight : stamps[second]? = some right)
    (same : left.statusListIndex = right.statusListIndex) : first = second :=
  Rows.key_unique valid.indexes storedLeft storedRight same

/-- A serial belongs to one stamp. -/
theorem Valid.serial_unique {stamps : List Stamp} (valid : Valid env stamps) {first second : Nat}
    {left right : Stamp} (storedLeft : stamps[first]? = some left)
    (storedRight : stamps[second]? = some right) (same : left.serial = right.serial) : first = second :=
  Rows.key_unique valid.serials storedLeft storedRight same

end Stamps

end TaxStamps
