import TaxStamps.Invariants.Accepts
import TaxStamps.Library.Cells

/-!
# A status list as a bit array

A status list is a device of cells, one for each bit: a call to `set` outside the
list raises and leaves the list, one inside writes its bit. What a list holds
comes back from its encoding and, for the default size, from its credential.
-/

namespace TaxStamps.StatusList

variable {env : Env} {size : Nat}

/-- The list after a call to `set`, with what the call returned. The index is
checked before a byte is written. -/
def call (list : StatusList) (index : Int) (value : Bool) : StatusList × Result Unit :=
  match list.set index value with
  | .ok changed => (changed, .ok ())
  | .error problem => (list, .error problem)

/-- The bits of a list as cells. -/
def cells : Cells.Device StatusList Int Bool where
  range list index := 0 ≤ index ∧ index < list.sizeBits
  read list index := list.bit index.toNat
  call list index value := (list.call index value).1

/-- `build_status_list_credential` with its optional key. -/
def buildKeyed (env : Env) (now : Datetime) (keyed : Bool) (listCredentialId statusPurpose : PyStr)
    (list : StatusList) (verificationMethod : PyStr) : Result (List (Key × Value)) :=
  if keyed then build env now listCredentialId statusPurpose list verificationMethod
  else if statusPurpose ∈ purposes then
    .ok (document env listCredentialId statusPurpose (Datetime.isoSeconds now) list)
  else .error (.statusListError (py "unknown-purpose"))

section Calls

variable {list : StatusList} {index : Int}

/-- A call within the range writes the bit. -/
theorem call_inside (inside : 0 ≤ index ∧ index < list.sizeBits) (value : Bool) :
    list.call index value = (list.write index.toNat value, .ok ()) := by
  rw [call, set, checkIndex, if_pos inside]
  rfl

/-- A call outside the range raises and writes nothing. -/
theorem call_outside (outside : ¬ (0 ≤ index ∧ index < list.sizeBits)) (value : Bool) :
    list.call index value = (list, .error (.statusListError (py "index-out-of-range"))) := by
  rw [call, set, checkIndex, if_neg outside]
  rfl

/-- A bit within the range is read. -/
theorem get_inside (inside : 0 ≤ index ∧ index < list.sizeBits) :
    list.get index = .ok (list.bit index.toNat) := by
  rw [get, checkIndex, if_pos inside]
  rfl

/-- Outside the range nothing is read. -/
theorem get_outside (outside : ¬ (0 ≤ index ∧ index < list.sizeBits)) :
    list.get index = .error (.statusListError (py "index-out-of-range")) := by
  rw [get, checkIndex, if_neg outside]
  rfl

/-- A call keeps the size of the list. -/
theorem call_size (list : StatusList) (index : Int) (value : Bool) :
    (list.call index value).1.sizeBits = list.sizeBits := by
  by_cases inside : 0 ≤ index ∧ index < list.sizeBits
  · rw [call_inside inside]
    rfl
  · rw [call_outside inside]

/-- A call inside the list writes its bit. -/
theorem call_bit (inside : 0 ≤ index ∧ index < list.sizeBits) (value : Bool) {other : Int}
    (natural : 0 ≤ other) :
    (list.call index value).1.bit other.toNat = if other = index then value else list.bit other.toNat := by
  have bounded : index.toNat < list.sizeBits := by omega
  have same : other.toNat = index.toNat ↔ other = index := by omega
  rw [call_inside inside]
  dsimp only
  rw [bit_written list bounded]
  simp only [same]

/-- The bits obey the law of cells. -/
theorem cells_lawful : cells.Lawful := by
  constructor
  case outside =>
    intro list place value outside
    exact congrArg Prod.fst (call_outside outside value)
  case range_call =>
    intro list place value index
    change 0 ≤ index ∧ index < (list.call place value).1.sizeBits ↔ 0 ≤ index ∧ index < list.sizeBits
    rw [call_size]
  case written =>
    intro list place value inside
    exact (call_bit inside value inside.1).trans (if_pos rfl)
  case other =>
    intro list place value index inside within different
    exact (call_bit inside value within.1).trans (if_neg different)

end Calls

section Credentials

/-- The credential of a list of the default size is parsed to that list. -/
theorem parse_buildKeyed {now : Datetime} {keyed : Bool} {listCredentialId statusPurpose : PyStr}
    {list : StatusList} {verificationMethod : PyStr} {built : List (Key × Value)}
    (standard : list.sizeBits = defaultListSizeBits)
    (rendered : buildKeyed env now keyed listCredentialId statusPurpose list verificationMethod = .ok built) :
    parse env (.dict built) = .ok (statusPurpose, list) := by
  cases keyed with
  | true => exact parse_stored env rendered standard rfl
  | false =>
    rw [buildKeyed, if_neg Bool.false_ne_true] at rendered
    split at rendered
    case isFalse => cases rendered
    case isTrue known =>
      obtain rfl := Except.ok.inj rendered
      have present : Value.lookup (.str (py "credentialSubject"))
          (document env listCredentialId statusPurpose (Datetime.isoSeconds now) list) =
          some (subject env listCredentialId statusPurpose list) := rfl
      have typed : ∀ members, subject env listCredentialId statusPurpose list = .dict members →
          Value.lookup (key "type") members = some (Value.literal "BitstringStatusList") ∧
          Value.lookup (key "statusPurpose") members = some (.str statusPurpose) ∧
          Value.lookup (key "encodedList") members = some (.str (list.encode env)) := by
        intro members same
        obtain rfl := Value.dict.inj same
        exact ⟨rfl, rfl, rfl⟩
      obtain ⟨type, purposed, encoded⟩ := typed _ rfl
      simp only [parse, Value.get?, present, Result.ok_bind, subject, Vc.isText_iff.mpr type, purposed,
        encoded, known, if_true, decode_encode env standard, Bool.not_true, Bool.false_eq_true, if_false]

/-- A list has a credential of every purpose, with or without a key. -/
theorem buildKeyed_accepts {statusPurpose listCredentialId verificationMethod : PyStr}
    (known : statusPurpose ∈ purposes) (idStorable : listCredentialId.all Code.storable = true)
    (present : verificationMethod ≠ []) (methodStorable : verificationMethod.all Code.storable = true)
    (now : Datetime) (keyed : Bool) (list : StatusList) :
    ∃ built, buildKeyed env now keyed listCredentialId statusPurpose list verificationMethod = .ok built := by
  cases keyed with
  | true =>
    have created := Datetime.isoSeconds_storable now
    have plain := document_plain env list idStorable (StatusLists.purpose_storable known) created
    obtain ⟨signed, issued⟩ := issueProof_accepts (document_unsigned env _ statusPurpose _ list) plain
      methodStorable created
    refine ⟨signed, ?_⟩
    rw [buildKeyed, if_pos rfl, build, if_pos known, List.isEmpty_eq_false_iff.mpr present]
    exact issued
  | false =>
    rw [buildKeyed, if_neg Bool.false_ne_true, if_pos known]
    exact ⟨_, rfl⟩

end Credentials

/-- What holds of a list of a size after some calls. -/
structure Faithful (env : Env) (size : Nat) (calls : List (Int × Bool)) (list : StatusList) : Prop where
  sized : list.sizeBits = size
  reads : ∀ index : Int, 0 ≤ index → index < size →
    list.get index = .ok ((Cells.last calls index).getD false)
  writes : ∀ index : Int, 0 ≤ index → index < size → ∀ value, ∃ changed,
    list.call index value = (changed, .ok ()) ∧ changed.get index = .ok value ∧
      ∀ other, other ≠ index → changed.get other = list.get other
  outside : ∀ index : Int, ¬ (0 ≤ index ∧ index < size) →
    (∃ problem, list.get index = .error problem) ∧
      ∀ value, ∃ problem, list.call index value = (list, .error problem)
  placed : ∀ index : Nat, index < size → ∃ byte, list.bits[index / 8]? = some byte ∧
    list.get index = .ok (byte.toNat.testBit (7 - index % 8))
  decoded : decodeSized env (list.encode env) size = .ok list
  parsed : size = defaultListSizeBits → ∀ now keyed listCredentialId statusPurpose verificationMethod built,
    buildKeyed env now keyed listCredentialId statusPurpose list verificationMethod = .ok built →
    parse env (.dict built) = .ok (statusPurpose, list)
  builds : ∀ listCredentialId statusPurpose verificationMethod, statusPurpose ∈ purposes →
    listCredentialId.all Code.storable = true → verificationMethod ≠ [] →
    verificationMethod.all Code.storable = true → ∀ now keyed, ∃ built,
    buildKeyed env now keyed listCredentialId statusPurpose list verificationMethod = .ok built

/-- The byte of an index holds its bit. -/
theorem get_placed {list : StatusList} {index : Nat} (bounded : index < list.sizeBits) :
    ∃ byte, list.bits[index / 8]? = some byte ∧
      list.get index = .ok (byte.toNat.testBit (7 - index % 8)) := by
  have inside : index / 8 < list.bits.length := by
    rw [list.sized]
    have aligned := list.aligned
    omega
  refine ⟨list.bits[index / 8], List.getElem?_eq_getElem inside, ?_⟩
  rw [get_natural bounded, bit, List.getD_eq_getElem?_getD, List.getElem?_eq_getElem inside, Option.getD_some,
    Except.ok.injEq, Bool.eq_iff_iff, decide_eq_true_iff]
  exact masked _ index

/-- A new list of zeros. -/
theorem make_zeros (positive : 0 < size) (aligned : size % 8 = 0) :
    ∃ fresh, make size none = .ok fresh ∧ fresh.sizeBits = size ∧ ∀ index, fresh.bit index = false := by
  have valid : 0 < (size : Int).toNat ∧ (size : Int).toNat % 8 = 0 := ⟨positive, aligned⟩
  rw [make, dif_pos valid]
  refine ⟨_, rfl, rfl, fun index => ?_⟩
  have zero : (List.replicate (size / 8) (0 : UInt8)).getD (index / 8) 0 = 0 := by
    rw [List.getD_eq_getElem?_getD, List.getElem?_replicate]
    split <;> rfl
  change decide ((List.replicate (size / 8) (0 : UInt8)).getD (index / 8) 0 &&& mask index ≠ 0) = false
  rw [zero]
  simp

/-- A status list of any size is a bit array, and its encoding and its credential
keep the bits. -/
theorem statusList_faithful (env : Env) (positive : 0 < size) (aligned : size % 8 = 0) :
    ∃ fresh, make size none = .ok fresh ∧ ∀ calls, Faithful env size calls (cells.run fresh calls) := by
  obtain ⟨fresh, made, freshSize, zeros⟩ := make_zeros positive aligned
  refine ⟨fresh, made, fun calls => ?_⟩
  generalize reached : cells.run fresh calls = list
  have ranges : ∀ index : Int, (0 ≤ index ∧ index < list.sizeBits) ↔ 0 ≤ index ∧ index < size := by
    intro index
    have same := cells_lawful.range_run fresh calls index
    rw [reached] at same
    change _ ↔ 0 ≤ index ∧ index < fresh.sizeBits at same
    rwa [freshSize] at same
  have sized : list.sizeBits = size := by
    have low := ranges list.sizeBits
    have high := ranges size
    omega
  constructor
  case sized => exact sized
  case reads =>
    intro index natural below
    rw [get_inside ((ranges index).mpr ⟨natural, below⟩)]
    have inside : cells.range fresh index := ⟨natural, by rw [freshSize]; exact below⟩
    have read := cells_lawful.read_run inside calls
    rw [reached] at read
    exact congrArg Except.ok (read.trans (congrArg _ (zeros index.toNat)))
  case writes =>
    intro index natural below value
    have inside := (ranges index).mpr ⟨natural, below⟩
    have called := call_inside inside value
    have kept : ∀ other : Int, (0 ≤ other ∧ other < (list.write index.toNat value).sizeBits) ↔
        0 ≤ other ∧ other < list.sizeBits := fun other => Iff.rfl
    refine ⟨_, called, ?_, ?_⟩
    · have written := call_bit inside value natural
      rw [called, if_pos rfl] at written
      rw [get_inside ((kept index).mpr inside)]
      exact congrArg Except.ok written
    · intro other different
      by_cases within : 0 ≤ other ∧ other < list.sizeBits
      · have unchanged := call_bit inside value within.1
        rw [called, if_neg different] at unchanged
        rw [get_inside within, get_inside ((kept other).mpr within)]
        exact congrArg Except.ok unchanged
      · rw [get_outside within, get_outside ((kept other).not.mpr within)]
  case outside =>
    intro index beyond
    have outside := (ranges index).not.mpr beyond
    exact ⟨⟨_, get_outside outside⟩, fun value => ⟨_, call_outside outside value⟩⟩
  case placed =>
    intro index below
    exact get_placed (sized ▸ below)
  case decoded =>
    rw [← sized]
    exact decodeSized_encode env list
  case parsed =>
    intro standard now keyed listCredentialId statusPurpose verificationMethod built rendered
    exact parse_buildKeyed (sized.trans standard) rendered
  case builds =>
    intro listCredentialId statusPurpose verificationMethod known idStorable present methodStorable now keyed
    exact buildKeyed_accepts known idStorable present methodStorable now keyed list

/-- A list of 64 bits after some calls, one of them out of range. -/
theorem statusList_sample : ∃ fresh, make 64 none = .ok fresh ∧
    (cells.run fresh [(3, true), (64, true), (8, true), (3, false)]).get 8 = .ok true ∧
    (cells.run fresh [(3, true), (64, true), (8, true), (3, false)]).get 3 = .ok false := by
  obtain ⟨fresh, made, faithful⟩ := @statusList_faithful 64 .sample (by decide) (by decide)
  have list := faithful [(3, true), (64, true), (8, true), (3, false)]
  exact ⟨fresh, made, list.reads 8 (by decide) (by decide), list.reads 3 (by decide) (by decide)⟩

end TaxStamps.StatusList
