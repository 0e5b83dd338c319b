import LaserDriver.Sensors.Interpolation

/-! The five regions of readings, and the temperatures that stand for a fault. -/

namespace LaserDriver.Sensors

variable {config : TempConvConfig} {adcValue : UInt16} {first second last : TempConv}

/-- The conversion reads the table and nothing else, and gives each region its own answer. -/
structure FiveRegions (config : TempConvConfig) (adcValue : UInt16) (first last : TempConv) : Prop where
  safe : ∃ temperature, convertToTemp adcValue (some config) = .ok temperature
  below : int adcValue < int first.adcValue - int config.adcTolerance →
    convertToTemp adcValue (some config) = .ok errorOpen
  lower : int first.adcValue - int config.adcTolerance ≤ int adcValue → adcValue ≤ first.adcValue →
    convertToTemp adcValue (some config) = .ok first.temperature
  inside : first.adcValue < adcValue → adcValue < last.adcValue →
    ∃ k prev next, Brackets config adcValue k prev next ∧
      convertToTemp adcValue (some config) = temperatureInterpolation adcValue prev next
  upper : last.adcValue ≤ adcValue → int adcValue ≤ int last.adcValue + int config.adcTolerance →
    convertToTemp adcValue (some config) = .ok last.temperature
  above : int last.adcValue + int config.adcTolerance < int adcValue →
    convertToTemp adcValue (some config) = .ok errorShort

theorem Ends.ordered (increasing : Increasing config) (ends : Ends config first last)
    (more : config.convTable[1]? = some second) : first.adcValue < last.adcValue := by
  have size := (Array.getElem?_eq_some_iff.mp more).1
  exact increasing 0 _ first last (by omega) ends.first ends.last

theorem representable_product {t d : Int} (positive : 0 < d) : Representable (t * d) d ↔ InInt16 (t * d) := by
  constructor
  · intro either
    rcases either with fits | ⟨short, -⟩
    · exact fits
    · have zero := (Wrapped.tdiv_eq_zero_iff positive).mpr short
      rw [Int.mul_tdiv_cancel _ (Int.ne_of_gt positive)] at zero
      subst zero
      simp [InInt16]
  · exact .inl

theorem convert_first (increasing : Increasing config) (ends : Ends config first last)
    (more : config.convTable[1]? = some second) (exact : config.adcTolerance = 0) :
    convertToTemp first.adcValue (some config) = .ok first.temperature ↔
      InInt16 (first.temperature.toInt * (int second.adcValue - int first.adcValue)) := by
  have ordered := ends.ordered increasing more
  have rising : first.adcValue < second.adcValue := increasing 0 1 first second (by omega) ends.first more
  have around : Brackets config first.adcValue 0 first second := ⟨ends.first, more, UInt16.le_refl _, rising⟩
  obtain ⟨_, k, prev, next, -, -, brackets, scanned⟩ := scan_inside ends (UInt16.le_refl _) ordered
  obtain ⟨rfl, rfl, rfl⟩ := around.unique increasing brackets
  have edge : int prev.adcValue = int prev.adcValue - int config.adcTolerance := by
    rw [exact]
    exact (Int.sub_zero _).symm
  have converted := (convert_scan ends (UInt16.le_of_lt ordered) (.inl edge) (.inr ordered)).trans scanned
  obtain ⟨temperature, interpolated, value⟩ := @interpolation_eq prev.adcValue prev next rising
  have sum : weightedSum prev.adcValue prev next =
      prev.temperature.toInt * (int next.adcValue - int prev.adcValue) := by
    rw [weightedSum, Int.sub_self, Int.mul_zero, Int.add_zero]
  obtain ⟨positive, small⟩ := around.distance
  rw [← representable_product positive, ← sum, ← tdiv_bmod_iff_representable positive small, ← value,
    weighted_prev rising, Int16.toInt_inj, converted, interpolated, Except.ok.injEq]

theorem first_of_edge (exact : config.adcTolerance = 0)
    (edge : int adcValue = int first.adcValue - int config.adcTolerance) : adcValue = first.adcValue := by
  rw [← int_inj, edge, exact]
  exact Int.sub_zero _

theorem convert_inside (ends : Ends config first last) (ordered : first.adcValue < last.adcValue)
    (above : first.adcValue < adcValue) (below : adcValue < last.adcValue) :
    ∃ k prev next, Brackets config adcValue k prev next ∧
      convertToTemp adcValue (some config) = temperatureInterpolation adcValue prev next := by
  obtain ⟨_, k, prev, next, -, -, brackets, scanned⟩ := scan_inside ends (UInt16.le_of_lt above) below
  have scan := convert_scan ends (UInt16.le_of_lt ordered) (.inr above) (.inr below)
  exact ⟨k, prev, next, brackets, scan.trans scanned⟩

/-- No reading is left out by the five regions. -/
theorem safe_of_regions (ends : Ends config first last) (ordered : first.adcValue < last.adcValue)
    (lower : int first.adcValue - int config.adcTolerance ≤ int adcValue → adcValue ≤ first.adcValue →
      convertToTemp adcValue (some config) = .ok first.temperature)
    (upper : last.adcValue ≤ adcValue → int adcValue ≤ int last.adcValue + int config.adcTolerance →
      convertToTemp adcValue (some config) = .ok last.temperature) :
    ∃ temperature, convertToTemp adcValue (some config) = .ok temperature := by
  rcases Int.lt_or_le (int adcValue) (int first.adcValue - int config.adcTolerance) with opened | within
  · exact ⟨_, convert_open ends opened⟩
  rcases Int.lt_or_le (int last.adcValue + int config.adcTolerance) (int adcValue) with shorted | bounded
  · exact ⟨_, convert_short ends (UInt16.le_of_lt ordered) shorted⟩
  by_cases below : adcValue ≤ first.adcValue
  · exact ⟨_, lower within below⟩
  by_cases above : last.adcValue ≤ adcValue
  · exact ⟨_, upper above bounded⟩
  · obtain ⟨k, prev, next, brackets, converted⟩ :=
      convert_inside ends ordered (UInt16.not_le.mp below) (UInt16.not_le.mp above)
    obtain ⟨temperature, interpolated, -⟩ := @interpolation_eq adcValue prev next brackets.rising
    exact ⟨temperature, converted.trans interpolated⟩

/-- The outer edges of the two bands are left out, and a reading there makes the
conversion read a row that is not in the table; without tolerance the lower edge is the
first row. -/
theorem five_regions_iff (increasing : Increasing config) (ends : Ends config first last)
    (more : config.convTable[1]? = some second) :
    FiveRegions config adcValue first last ↔
      int adcValue ≠ int last.adcValue + int config.adcTolerance ∧
      (int adcValue = int first.adcValue - int config.adcTolerance → config.adcTolerance = 0 ∧
        InInt16 (first.temperature.toInt * (int second.adcValue - int first.adcValue))) := by
  have ordered := ends.ordered increasing more
  have apart := int_lt_int.mpr ordered
  have tolerance := int_nonneg config.adcTolerance
  constructor
  · intro regions
    obtain ⟨temperature, safe⟩ := regions.safe
    constructor
    · intro edge
      have above : last.adcValue ≤ adcValue := int_le_int.mp (by omega)
      have scan := convert_scan ends (UInt16.le_of_lt ordered) (.inr (UInt16.lt_of_lt_of_le ordered above)) (.inl edge)
      rw [scan, scan_above increasing ends above] at safe
      cases safe
    · intro edge
      have below : adcValue ≤ first.adcValue := int_le_int.mp (by omega)
      have scan := convert_scan ends (UInt16.le_of_lt ordered) (.inl edge) (.inr (UInt16.lt_of_le_of_lt below ordered))
      by_cases exact : config.adcTolerance = 0
      · refine ⟨exact, ?_⟩
        rw [← convert_first increasing ends more exact, ← first_of_edge exact edge]
        exact regions.lower (Int.le_of_eq edge.symm) below
      · have positive : int config.adcTolerance ≠ 0 := fun zero => exact (int_inj.mp zero)
        rw [scan, scan_below ends (int_lt_int.mp (by omega))] at safe
        cases safe
  · intro ⟨short, exact⟩
    have lower : int first.adcValue - int config.adcTolerance ≤ int adcValue → adcValue ≤ first.adcValue →
        convertToTemp adcValue (some config) = .ok first.temperature := by
      intro within below
      by_cases edge : int adcValue = int first.adcValue - int config.adcTolerance
      · obtain ⟨zero, fits⟩ := exact edge
        rw [first_of_edge zero edge]
        exact (convert_first increasing ends more zero).mpr fits
      · exact convert_lower ends (by omega) below
    have upper : last.adcValue ≤ adcValue → int adcValue ≤ int last.adcValue + int config.adcTolerance →
        convertToTemp adcValue (some config) = .ok last.temperature := by
      intro above within
      exact convert_upper ends ordered above (by omega)
    exact ⟨safe_of_regions ends ordered lower upper, convert_open ends, lower, convert_inside ends ordered, upper,
      convert_short ends (UInt16.le_of_lt ordered)⟩

theorem five_regions_at_1182 : FiveRegions convConfig 1182 ⟨199, -4000⟩ ⟨3732, 10000⟩ := by
  apply (five_regions_iff increasing_convConfig ends_convConfig (rfl : convConfig.convTable[1]? = some ⟨227, -3750⟩)).mpr
  constructor <;> decide

/-- Ten counts below the first row the row before the table is read, and ten counts above
the last row the one behind it. -/
theorem five_regions_fails_at_edges :
    Increasing convConfig ∧ Ends convConfig ⟨199, -4000⟩ ⟨3732, 10000⟩ ∧
    convertToTemp 189 (some convConfig) = .error (.outOfRange 4294967295) ∧
    convertToTemp 3742 (some convConfig) = .error (.outOfRange 57) ∧
    ¬ FiveRegions convConfig 189 ⟨199, -4000⟩ ⟨3732, 10000⟩ ∧
    ¬ FiveRegions convConfig 3742 ⟨199, -4000⟩ ⟨3732, 10000⟩ := by
  have low : convertToTemp 189 (some convConfig) = .error (.outOfRange 4294967295) := rfl
  have high : convertToTemp 3742 (some convConfig) = .error (.outOfRange 57) := rfl
  refine ⟨increasing_convConfig, ends_convConfig, low, high, ?_, ?_⟩
  · intro regions
    obtain ⟨temperature, safe⟩ := regions.safe
    cases low.symm.trans safe
  · intro regions
    obtain ⟨temperature, safe⟩ := regions.safe
    cases high.symm.trans safe

end LaserDriver.Sensors
