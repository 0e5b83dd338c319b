import LaserDriver.Sensors.Interpolation

/-! The fault codes among the temperatures. As `int16_t` the codes for an open and a
shorted sensor are -2 and -3, two hundredths and three hundredths of a degree below zero. -/

namespace LaserDriver.Sensors

variable {pConfig : Option TempConvConfig} {config : TempConvConfig} {adcValue : UInt16} {temperature : Int16}
variable {first last prev next : TempConv}

theorem toInt_errorOpen : errorOpen.toInt = -2 := rfl

theorem toInt_errorShort : errorShort.toInt = -3 := rfl

theorem toInt_errorInvalid : errorInvalid.toInt = -32768 := rfl

def Reserved (temperature : Int16) : Prop := temperature = errorOpen ∨ temperature = errorShort

theorem reserved_iff : Reserved temperature ↔ -3 ≤ temperature.toInt ∧ temperature.toInt ≤ -2 := by
  rw [Reserved, ← Int16.toInt_inj, ← Int16.toInt_inj, toInt_errorOpen, toInt_errorShort]
  omega

/-- The temperatures of the table are between -40 and 100 degrees. -/
def Plausible (config : TempConvConfig) : Prop :=
  ∀ row ∈ config.convTable, -4000 ≤ row.temperature.toInt ∧ row.temperature.toInt ≤ 10000

def BelowTable (config : TempConvConfig) (adcValue : UInt16) : Prop :=
  ∃ first last, Ends config first last ∧ int adcValue < int first.adcValue - int config.adcTolerance

def AboveTable (config : TempConvConfig) (adcValue : UInt16) : Prop :=
  ∃ first last, Ends config first last ∧ int last.adcValue + int config.adcTolerance < int adcValue

/-- Each code stands for its fault and for nothing else. -/
def Unambiguous (pConfig : Option TempConvConfig) (adcValue : UInt16) (temperature : Int16) : Prop :=
  (temperature = errorOpen ↔ ∃ config ∈ pConfig, BelowTable config adcValue) ∧
  (temperature = errorShort ↔ ∃ config ∈ pConfig, AboveTable config adcValue) ∧
  (temperature = errorInvalid ↔ pConfig = none)

/-- The rows a reading is converted with do not lead to a code: in the bands their own
temperature, and between the rows what the sum leaves modulo 2^16. -/
structure Distinct (config : TempConvConfig) (adcValue : UInt16) (first last : TempConv) : Prop where
  lower : int first.adcValue - int config.adcTolerance < int adcValue → adcValue ≤ first.adcValue →
    ¬ Reserved first.temperature
  upper : last.adcValue ≤ adcValue → int adcValue < int last.adcValue + int config.adcTolerance →
    ¬ Reserved last.temperature
  between : first.adcValue < adcValue ∨ config.adcTolerance = 0 →
    ∀ k prev next, Brackets config adcValue k prev next →
      ∀ value, -4 * (int next.adcValue - int prev.adcValue) < value →
        value ≤ -2 * (int next.adcValue - int prev.adcValue) → InInt16 value →
        ¬ (65536 : Int) ∣ weightedSum adcValue prev next - value

theorem Ends.unique {first' last' : TempConv} (ends : Ends config first last) (other : Ends config first' last') :
    first' = first ∧ last' = last :=
  ⟨Option.some.inj (other.first.symm.trans ends.first), Option.some.inj (other.last.symm.trans ends.last)⟩

theorem Ends.exists_iff {holds : TempConv → TempConv → Prop} (ends : Ends config first last) :
    (∃ first' last', Ends config first' last' ∧ holds first' last') ↔ holds first last := by
  constructor
  · intro ⟨first', last', other, held⟩
    obtain ⟨rfl, rfl⟩ := ends.unique other
    exact held
  · intro held
    exact ⟨first, last, ends, held⟩

theorem belowTable_iff (ends : Ends config first last) :
    BelowTable config adcValue ↔ int adcValue < int first.adcValue - int config.adcTolerance :=
  @Ends.exists_iff config first last (fun first _ => int adcValue < int first.adcValue - int config.adcTolerance) ends

theorem aboveTable_iff (ends : Ends config first last) :
    AboveTable config adcValue ↔ int last.adcValue + int config.adcTolerance < int adcValue :=
  @Ends.exists_iff config first last (fun _ last => int last.adcValue + int config.adcTolerance < int adcValue) ends

theorem ends_of_converted (converted : convertToTemp adcValue (some config) = .ok temperature) :
    ∃ first last, Ends config first last := by
  have nonempty : 0 < config.convTable.size := by
    apply Nat.pos_of_ne_zero
    intro empty
    have outside : config.row 0 = .error (.outOfRange 0) := row_outside (by simp [empty])
    rw [convertToTemp, adcToTemp, outside] at converted
    cases converted
  exact ⟨_, _, Array.getElem?_eq_getElem nonempty, Array.getElem?_eq_getElem (by omega)⟩

theorem converted_cases (increasing : Increasing config) (ends : Ends config first last)
    (converted : convertToTemp adcValue (some config) = .ok temperature) :
    (int adcValue < int first.adcValue - int config.adcTolerance ∧ temperature = errorOpen) ∨
    (int last.adcValue + int config.adcTolerance < int adcValue ∧ temperature = errorShort) ∨
    (int first.adcValue - int config.adcTolerance < int adcValue ∧ adcValue ≤ first.adcValue ∧
      temperature = first.temperature) ∨
    (last.adcValue ≤ adcValue ∧ int adcValue < int last.adcValue + int config.adcTolerance ∧
      temperature = last.temperature) ∨
    ((first.adcValue < adcValue ∨ config.adcTolerance = 0) ∧ first.adcValue ≤ adcValue ∧ adcValue < last.adcValue ∧
      ∃ k prev next, Brackets config adcValue k prev next ∧
        temperatureInterpolation adcValue prev next = .ok temperature) := by
  rw [convert_eq ends] at converted
  split at converted
  · exact .inl ⟨‹_›, (Except.ok.inj converted).symm⟩
  split at converted
  · rename_i within
    exact .inr (.inr (.inl ⟨within.1, within.2, (Except.ok.inj converted).symm⟩))
  split at converted
  · exact .inr (.inl ⟨‹_›, (Except.ok.inj converted).symm⟩)
  split at converted
  · rename_i within
    exact .inr (.inr (.inr (.inl ⟨within.2, within.1, (Except.ok.inj converted).symm⟩)))
  · -- the scan answered, so the reading is not on an outer edge
    rename_i lower inBand upper inBand'
    have above : first.adcValue ≤ adcValue := by
      apply UInt16.not_lt.mp
      intro below
      rw [scan_below ends below] at converted
      cases converted
    have below : adcValue < last.adcValue := by
      apply UInt16.not_le.mp
      intro above
      rw [scan_above increasing ends above] at converted
      cases converted
    refine .inr (.inr (.inr (.inr ⟨?_, above, below, ?_⟩)))
    · by_cases past : first.adcValue < adcValue
      · exact .inl past
      · have start : adcValue ≤ first.adcValue := UInt16.not_lt.mp past
        have := int_le_int.mpr start
        have := int_le_int.mpr above
        have tolerance := int_nonneg config.adcTolerance
        right
        apply int_inj.mp
        show int config.adcTolerance = 0
        by_contra positive
        exact inBand ⟨by omega, start⟩
    · obtain ⟨_, k, prev, next, -, -, brackets, scanned⟩ := scan_inside ends above below
      exact ⟨k, prev, next, brackets, scanned.symm.trans converted⟩

/-- The interpolation gives a code when the sum is congruent to one of the sums that have it for quotient. -/
theorem interpolated_reserved_iff {k : Nat} (brackets : Brackets config adcValue k prev next)
    (interpolated : temperatureInterpolation adcValue prev next = .ok temperature) :
    Reserved temperature ↔
      ∃ value, -4 * (int next.adcValue - int prev.adcValue) < value ∧
        value ≤ -2 * (int next.adcValue - int prev.adcValue) ∧ InInt16 value ∧
        (65536 : Int) ∣ weightedSum adcValue prev next - value := by
  obtain ⟨other, returned, value⟩ := @interpolation_eq adcValue prev next brackets.rising
  obtain rfl : other = temperature := Except.ok.inj (returned.symm.trans interpolated)
  have residue : InInt16 ((weightedSum adcValue prev next).bmod 65536) := by
    rw [← bmod_eq_self_iff]
    exact Int.bmod_bmod
  rw [reserved_iff, value, Wrapped.tdiv_mem_iff brackets.distance.1 (by omega)]
  constructor
  · intro ⟨low, high⟩
    exact ⟨_, low, high, residue, Int.dvd_self_sub_bmod⟩
  · intro ⟨other, low, high, fits, congruent⟩
    have same : (weightedSum adcValue prev next).bmod 65536 = other := by
      rw [← bmod_eq_self_iff.mpr fits, Int.bmod_eq_bmod_iff_bmod_sub_eq_zero]
      exact Int.bmod_eq_zero_of_dvd congruent
    rw [same]
    exact ⟨low, high⟩

/-- The code of a missing configuration takes a sum of -32768 between neighbouring readings. -/
theorem interpolated_valid {k : Nat} (inRange : Plausible config) (brackets : Brackets config adcValue k prev next)
    (interpolated : temperatureInterpolation adcValue prev next = .ok temperature) : temperature ≠ errorInvalid := by
  obtain ⟨other, returned, value⟩ := @interpolation_eq adcValue prev next brackets.rising
  obtain rfl : other = temperature := Except.ok.inj (returned.symm.trans interpolated)
  have bounds := inRange prev (Array.mem_of_getElem? brackets.found)
  have residue := @Int.le_bmod (weightedSum adcValue prev next) 65536 (by omega)
  have above := int_lt_int.mpr brackets.above
  have below := int_le_int.mpr brackets.below
  intro invalid
  rw [invalid, toInt_errorInvalid] at value
  obtain ⟨-, upper⟩ := (Wrapped.tdiv_mem_iff brackets.distance.1 (by omega : (-32768 : Int) < 0)).mp
    ⟨Int.le_of_eq value, Int.le_of_eq value.symm⟩
  have neighbours : int next.adcValue - int prev.adcValue = 1 := by omega
  have here : int adcValue = int prev.adcValue := by omega
  have sum : weightedSum adcValue prev next = prev.temperature.toInt := by
    rw [weightedSum, here, neighbours]
    omega
  rw [sum, neighbours, Int16.toInt_bmod, Int.tdiv_one] at value
  omega

theorem Plausible.valid {k : Nat} {row : TempConv} (inRange : Plausible config)
    (found : config.convTable[k]? = some row) : row.temperature ≠ errorInvalid := by
  have bounds := inRange row (Array.mem_of_getElem? found)
  rw [← Int16.toInt_inj.ne, toInt_errorInvalid]
  omega

theorem Ends.same (increasing : Increasing config) (ends : Ends config first last)
    (alone : last.adcValue ≤ first.adcValue) : last = first := by
  have one : config.convTable.size - 1 = 0 := by
    apply Nat.eq_zero_of_not_pos
    intro more
    exact absurd (increasing 0 _ first last more ends.first ends.last) (UInt16.not_lt.mpr alone)
  exact Option.some.inj (ends.last.symm.trans (one ▸ ends.first))

theorem unambiguous_within (ends : Ends config first last)
    (within : int first.adcValue - int config.adcTolerance ≤ int adcValue)
    (bounded : int adcValue ≤ int last.adcValue + int config.adcTolerance) (valid : temperature ≠ errorInvalid) :
    Unambiguous (some config) adcValue temperature ↔ ¬ Reserved temperature := by
  have below : ¬ BelowTable config adcValue := by
    rw [belowTable_iff ends]
    omega
  have above : ¬ AboveTable config adcValue := by
    rw [aboveTable_iff ends]
    omega
  simp [Unambiguous, Reserved, below, above, valid]

theorem unambiguous_below (ends : Ends config first last) (ordered : first.adcValue ≤ last.adcValue)
    (below : int adcValue < int first.adcValue - int config.adcTolerance) :
    Unambiguous (some config) adcValue errorOpen := by
  have tolerance := int_nonneg config.adcTolerance
  have order := int_le_int.mpr ordered
  have opened : BelowTable config adcValue := (belowTable_iff ends).mpr below
  have above : ¬ AboveTable config adcValue := by
    rw [aboveTable_iff ends]
    omega
  simp [Unambiguous, opened, above, ← Int16.toInt_inj, toInt_errorOpen, toInt_errorShort, toInt_errorInvalid]

theorem unambiguous_above (ends : Ends config first last) (ordered : first.adcValue ≤ last.adcValue)
    (above : int last.adcValue + int config.adcTolerance < int adcValue) :
    Unambiguous (some config) adcValue errorShort := by
  have tolerance := int_nonneg config.adcTolerance
  have order := int_le_int.mpr ordered
  have shorted : AboveTable config adcValue := (aboveTable_iff ends).mpr above
  have below : ¬ BelowTable config adcValue := by
    rw [belowTable_iff ends]
    omega
  simp [Unambiguous, shorted, below, ← Int16.toInt_inj, toInt_errorOpen, toInt_errorShort, toInt_errorInvalid]

theorem Brackets.inside {k : Nat} (increasing : Increasing config) (ends : Ends config first last)
    (brackets : Brackets config adcValue k prev next) : first.adcValue ≤ adcValue ∧ adcValue < last.adcValue :=
  ⟨UInt16.le_trans (increasing.first_le ends brackets.found) brackets.below,
    UInt16.lt_of_lt_of_le brackets.above (increasing.le_last ends brackets.follows)⟩

section Regions
variable (increasing : Increasing config) (ends : Ends config first last)
include increasing ends

theorem distinct_below (below : int adcValue < int first.adcValue - int config.adcTolerance) :
    Distinct config adcValue first last := by
  have order := int_le_int.mpr (increasing.first_le ends ends.last)
  have tolerance := int_nonneg config.adcTolerance
  refine ⟨by omega, ?_, ?_⟩
  · intro above
    have := int_le_int.mpr above
    omega
  · intro _ k prev next brackets
    have := int_le_int.mpr (brackets.inside increasing ends).1
    omega

theorem distinct_above (above : int last.adcValue + int config.adcTolerance < int adcValue) :
    Distinct config adcValue first last := by
  have order := int_le_int.mpr (increasing.first_le ends ends.last)
  have tolerance := int_nonneg config.adcTolerance
  refine ⟨?_, by omega, ?_⟩
  · intro _ below
    have := int_le_int.mpr below
    omega
  · intro _ k prev next brackets
    have := int_lt_int.mpr (brackets.inside increasing ends).2
    omega

theorem distinct_lower_iff (within : int first.adcValue - int config.adcTolerance < int adcValue)
    (below : adcValue ≤ first.adcValue) : Distinct config adcValue first last ↔ ¬ Reserved first.temperature := by
  have start := int_le_int.mpr below
  constructor
  · intro distinct
    exact distinct.lower within below
  · intro free
    refine ⟨fun _ _ => free, ?_, ?_⟩
    · intro above _
      rw [ends.same increasing (UInt16.le_trans above below)]
      exact free
    · intro either
      rcases either with past | zero
      · exact absurd below (UInt16.not_le.mpr past)
      · have : int config.adcTolerance = 0 := int_inj.mpr zero
        omega

theorem distinct_upper_iff (above : last.adcValue ≤ adcValue)
    (within : int adcValue < int last.adcValue + int config.adcTolerance) :
    Distinct config adcValue first last ↔ ¬ Reserved last.temperature := by
  constructor
  · intro distinct
    exact distinct.upper above within
  · intro free
    refine ⟨?_, fun _ _ => free, ?_⟩
    · intro _ below
      rw [← ends.same increasing (UInt16.le_trans above below)]
      exact free
    · intro _ k prev next brackets
      exact absurd above (UInt16.not_le.mpr (brackets.inside increasing ends).2)

end Regions

theorem distinct_between_iff (increasing : Increasing config) {k : Nat}
    (apart : first.adcValue < adcValue ∨ config.adcTolerance = 0) (above : first.adcValue ≤ adcValue)
    (below : adcValue < last.adcValue) (brackets : Brackets config adcValue k prev next) :
    Distinct config adcValue first last ↔
      ¬ ∃ value, -4 * (int next.adcValue - int prev.adcValue) < value ∧
        value ≤ -2 * (int next.adcValue - int prev.adcValue) ∧ InInt16 value ∧
        (65536 : Int) ∣ weightedSum adcValue prev next - value := by
  constructor
  · intro distinct ⟨value, low, high, fits, congruent⟩
    exact distinct.between apart k prev next brackets value low high fits congruent
  · intro free
    refine ⟨?_, ?_, ?_⟩
    · intro within start
      have := int_le_int.mpr start
      rcases apart with past | zero
      · exact absurd start (UInt16.not_le.mpr past)
      · have : int config.adcTolerance = 0 := int_inj.mpr zero
        have order := int_le_int.mpr above
        omega
    · intro finished
      exact absurd below (UInt16.not_lt.mpr finished)
    · intro _ l prev' next' other value low high fits congruent
      obtain ⟨rfl, rfl, rfl⟩ := brackets.unique increasing other
      exact free ⟨value, low, high, fits, congruent⟩

theorem unambiguous_iff_distinct (increasing : Increasing config) (inRange : Plausible config)
    (ends : Ends config first last) (converted : convertToTemp adcValue (some config) = .ok temperature) :
    Unambiguous (some config) adcValue temperature ↔ Distinct config adcValue first last := by
  have ordered : first.adcValue ≤ last.adcValue := increasing.first_le ends ends.last
  have order := int_le_int.mpr ordered
  have tolerance := int_nonneg config.adcTolerance
  rcases converted_cases increasing ends converted with ⟨below, rfl⟩ | ⟨above, rfl⟩ | ⟨within, below, rfl⟩ |
    ⟨above, within, rfl⟩ | ⟨apart, above, below, k, prev, next, brackets, interpolated⟩
  · exact iff_of_true (unambiguous_below ends ordered below) (distinct_below increasing ends below)
  · exact iff_of_true (unambiguous_above ends ordered above) (distinct_above increasing ends above)
  · have start := int_le_int.mpr below
    rw [unambiguous_within ends (by omega) (by omega) (inRange.valid ends.first),
      distinct_lower_iff increasing ends within below]
  · have finish := int_le_int.mpr above
    rw [unambiguous_within ends (by omega) (by omega) (inRange.valid ends.last),
      distinct_upper_iff increasing ends above within]
  · have start := int_le_int.mpr above
    have finish := int_lt_int.mpr below
    rw [unambiguous_within ends (by omega) (by omega) (interpolated_valid inRange brackets interpolated),
      interpolated_reserved_iff brackets interpolated, distinct_between_iff increasing apart above below brackets]

/-- The codes are unambiguous when the rows that a reading is converted with do not lead to one. -/
theorem fault_codes_iff (sane : ∀ config ∈ pConfig, Increasing config ∧ Plausible config)
    (converted : convertToTemp adcValue pConfig = .ok temperature) :
    Unambiguous pConfig adcValue temperature ↔
      ∀ config ∈ pConfig, ∀ first last, Ends config first last → Distinct config adcValue first last := by
  cases pConfig with
  | none =>
    obtain rfl : errorInvalid = temperature := Except.ok.inj converted
    simp [Unambiguous, ← Int16.toInt_inj, toInt_errorOpen, toInt_errorShort, toInt_errorInvalid]
  | some config =>
    obtain ⟨increasing, inRange⟩ := sane config rfl
    obtain ⟨first, last, ends⟩ := ends_of_converted converted
    rw [unambiguous_iff_distinct increasing inRange ends converted]
    constructor
    · intro distinct other same first' last' ends'
      obtain rfl : config = other := Option.some.inj same
      obtain ⟨rfl, rfl⟩ := ends.unique ends'
      exact distinct
    · intro distinct
      exact distinct config rfl first last ends

theorem plausible_convConfig : Plausible convConfig := by
  intro row member
  have checked : ∀ row ∈ convTable.toList, -4000 ≤ row.temperature.toInt ∧ row.temperature.toInt ≤ 10000 := by decide
  exact checked row (Array.mem_toList_iff.mpr member)

theorem fault_codes_at_199 : Unambiguous (some convConfig) 199 (-4000) := by
  have sane : ∀ config ∈ some convConfig, Increasing config ∧ Plausible config := by
    rintro config ⟨⟩
    exact ⟨increasing_convConfig, plausible_convConfig⟩
  apply (fault_codes_iff sane (rfl : convertToTemp 199 (some convConfig) = .ok (-4000))).mpr
  rintro config ⟨⟩ first last ends
  obtain ⟨rfl, rfl⟩ := ends_convConfig.unique ends
  refine ⟨?_, ?_, ?_⟩
  · intro _ _ reserved
    rw [reserved_iff] at reserved
    exact absurd reserved (by decide)
  · intro above
    exact absurd above (by decide)
  · intro apart
    exact absurd apart (by decide)

/-- One count below zero degrees the interpolation gives -250 / 85 = -2, the code of an open sensor. -/
theorem fault_codes_ambiguous_at_1092 :
    Increasing convConfig ∧ Plausible convConfig ∧ convertToTemp 1092 (some convConfig) = .ok errorOpen ∧
    ¬ BelowTable convConfig 1092 ∧ ¬ AboveTable convConfig 1092 ∧ ¬ Unambiguous (some convConfig) 1092 errorOpen := by
  have below : ¬ BelowTable convConfig 1092 := by
    rw [belowTable_iff ends_convConfig]
    decide
  have above : ¬ AboveTable convConfig 1092 := by
    rw [aboveTable_iff ends_convConfig]
    decide
  refine ⟨increasing_convConfig, plausible_convConfig, rfl, below, above, ?_⟩
  intro ⟨opened, _⟩
  obtain ⟨config, ⟨⟩, reading⟩ := opened.mp rfl
  exact below reading

end LaserDriver.Sensors
