import LaserDriver.Lib.Wrapped
import LaserDriver.Sensors.Regions

/-! What the interpolation computes, against the quotient over the integers. Both
products go through the sixteen bits of `result` before the division. -/

namespace LaserDriver.Sensors

variable {config : TempConvConfig} {adcValue : UInt16} {first last prev next : TempConv}

def InInt16 (value : Int) : Prop := -32768 ≤ value ∧ value ≤ 32767

instance (value : Int) : Decidable (InInt16 value) := inferInstanceAs (Decidable (_ ∧ _))

def InInt32 (value : Int) : Prop := -2147483648 ≤ value ∧ value ≤ 2147483647

theorem inInt16_toInt (value : Int16) : InInt16 value.toInt := by
  have := value.le_toInt
  have := value.toInt_lt
  constructor <;> omega

theorem bmod_eq_self_iff {value : Int} : value.bmod 65536 = value ↔ InInt16 value := by
  constructor
  · intro same
    have := @Int.le_bmod value 65536 (by omega)
    have := @Int.bmod_lt value 65536 (by omega)
    constructor <;> omega
  · intro ⟨low, high⟩
    exact Int.bmod_eq_of_le (by omega) (by omega)

theorem toInt_ofInt {value : Int} (fits : InInt16 value) : (Int16.ofInt value).toInt = value := by
  rw [Int16.toInt_ofInt]
  exact bmod_eq_self_iff.mpr fits

/-- The products and the sum of the interpolation stay inside `int`. -/
theorem interpolation_in_int (adcValue : UInt16) (prev next : TempConv) (result : Int16) :
    InInt32 (prev.temperature.toInt * (int next.adcValue - int adcValue)) ∧
    InInt32 (result.toInt + next.temperature.toInt * (int adcValue - int prev.adcValue)) := by
  have product : ∀ (temperature : Int16) (a b : UInt16),
      -2147450880 ≤ temperature.toInt * (int a - int b) ∧ temperature.toInt * (int a - int b) ≤ 2147450880 := by
    intro temperature a b
    have low := temperature.le_toInt
    have high := temperature.toInt_lt
    have boundA := a.toNat_lt
    have boundB := b.toNat_lt
    simp only [int]
    constructor <;> nlinarith
  have := product prev.temperature next.adcValue adcValue
  have := product next.temperature adcValue prev.adcValue
  have := result.le_toInt
  have := result.toInt_lt
  constructor <;> constructor <;> omega

def weightedSum (adcValue : UInt16) (prev next : TempConv) : Int :=
  prev.temperature.toInt * (int next.adcValue - int adcValue) +
    next.temperature.toInt * (int adcValue - int prev.adcValue)

theorem inInt16_tdiv {value d : Int} (fits : InInt16 value) (positive : 0 < d) : InInt16 (value.tdiv d) := by
  have least := Int.tdiv_le_tdiv positive fits.1
  have most := Int.tdiv_le_tdiv positive fits.2
  have shrunk := Int.natAbs_tdiv_le_natAbs (-32768) d
  have shrunk' := Int.natAbs_tdiv_le_natAbs 32767 d
  constructor <;> omega

theorem interpolation_eq (rising : prev.adcValue < next.adcValue) :
    ∃ temperature, temperatureInterpolation adcValue prev next = .ok temperature ∧
      temperature.toInt = ((weightedSum adcValue prev next).bmod 65536).tdiv (int next.adcValue - int prev.adcValue) := by
  have rises := int_lt_int.mpr rising
  have distance : int (next.adcValue - prev.adcValue) = int next.adcValue - int prev.adcValue := by
    have := UInt16.toNat_sub_of_le _ _ (UInt16.le_of_lt rising)
    simp only [int] at *
    omega
  have nonzero : next.adcValue - prev.adcValue ≠ 0 := by
    intro zero
    rw [zero] at distance
    have : int 0 = 0 := rfl
    omega
  refine ⟨_, if_neg nonzero, ?_⟩
  have accumulated : ((weightedSum adcValue prev next).bmod 65536) =
      (Int16.ofInt ((Int16.ofInt (prev.temperature.toInt * (int next.adcValue - int adcValue))).toInt +
        next.temperature.toInt * (int adcValue - int prev.adcValue))).toInt := by
    rw [Int16.toInt_ofInt, Int16.toInt_ofInt, Int.bmod_add_bmod]
    rfl
  rw [distance, accumulated]
  apply toInt_ofInt
  exact inInt16_tdiv (inInt16_toInt _) (by omega)

/-- The quotient is exact when the sum fits the sixteen bits, or when the distance is
so large that the sum and what is left of it both give zero. -/
def Representable (sum distance : Int) : Prop := InInt16 sum ∨ |sum| < distance ∧ 65536 - |sum| < distance

theorem abs_bmod {sum : Int} (wide : ¬ InInt16 sum) (bounded : |sum| < 65536) : |sum.bmod 65536| = 65536 - |sum| := by
  have split := Int.bmod_eq_emod sum 65536
  simp only [InInt16] at wide
  rcases Int.le_total 0 sum with nonnegative | nonpositive
  · rw [abs_of_nonneg nonnegative] at bounded ⊢
    have residue : sum.bmod 65536 = sum - 65536 := by
      rw [split, if_pos (by omega)]
      omega
    rw [residue, abs_of_nonpos (by omega)]
    omega
  · rw [abs_of_nonpos nonpositive] at bounded ⊢
    have residue : sum.bmod 65536 = sum + 65536 := by
      rw [split, if_neg (by omega)]
      omega
    rw [residue, abs_of_nonneg (by omega)]
    omega

theorem tdiv_bmod_iff_representable {sum distance : Int} (positive : 0 < distance) (small : distance < 65536) :
    (sum.bmod 65536).tdiv distance = sum.tdiv distance ↔ Representable sum distance := by
  rw [@Wrapped.tdiv_bmod_eq_iff sum distance 65536 positive small, bmod_eq_self_iff, Representable]
  by_cases fits : InInt16 sum
  · simp [fits]
  · have residue := @abs_bmod sum fits
    constructor
    · intro either
      rcases either with same | ⟨short, left⟩
      · exact .inl same
      · exact .inr ⟨short, by rw [← residue (by omega)]; exact left⟩
    · intro either
      rcases either with same | ⟨short, left⟩
      · exact .inl same
      · exact .inr ⟨short, by rw [residue (by omega)]; exact left⟩

theorem Brackets.distance {k : Nat} (brackets : Brackets config adcValue k prev next) :
    0 < int next.adcValue - int prev.adcValue ∧ int next.adcValue - int prev.adcValue < 65536 := by
  have := int_lt_int.mpr brackets.rising
  have := next.adcValue.toNat_lt
  have := int_nonneg prev.adcValue
  simp only [int] at *
  omega

/-- The conversion gives the quotient over the integers, which lies between the two
temperatures and is the first one on the first row. -/
def Exact (config : TempConvConfig) (adcValue : UInt16) (prev next : TempConv) : Prop :=
  ∃ temperature, convertToTemp adcValue (some config) = .ok temperature ∧
    temperature.toInt = (weightedSum adcValue prev next).tdiv (int next.adcValue - int prev.adcValue) ∧
    min prev.temperature.toInt next.temperature.toInt ≤ temperature.toInt ∧
    temperature.toInt ≤ max prev.temperature.toInt next.temperature.toInt ∧
    (adcValue = prev.adcValue → temperature = prev.temperature)

theorem weighted_mem {k : Nat} (brackets : Brackets config adcValue k prev next) :
    min prev.temperature.toInt next.temperature.toInt ≤
        (weightedSum adcValue prev next).tdiv (int next.adcValue - int prev.adcValue) ∧
      (weightedSum adcValue prev next).tdiv (int next.adcValue - int prev.adcValue) ≤
        max prev.temperature.toInt next.temperature.toInt := by
  have above := int_lt_int.mpr brackets.above
  have below := int_le_int.mpr brackets.below
  have total : int next.adcValue - int prev.adcValue =
      (int next.adcValue - int adcValue) + (int adcValue - int prev.adcValue) := by omega
  rw [total]
  exact Wrapped.tdiv_weighted_mem (by omega) (by omega)

theorem weighted_prev (rising : prev.adcValue < next.adcValue) :
    (weightedSum prev.adcValue prev next).tdiv (int next.adcValue - int prev.adcValue) = prev.temperature.toInt := by
  have := int_lt_int.mpr rising
  rw [weightedSum, Int.sub_self, Int.mul_zero, Int.add_zero]
  exact Int.mul_tdiv_cancel _ (by omega)

theorem exact_iff {k : Nat} (brackets : Brackets config adcValue k prev next)
    (converted : convertToTemp adcValue (some config) = temperatureInterpolation adcValue prev next) :
    Exact config adcValue prev next ↔
      Representable (weightedSum adcValue prev next) (int next.adcValue - int prev.adcValue) := by
  obtain ⟨temperature, interpolated, value⟩ := @interpolation_eq adcValue prev next brackets.rising
  obtain ⟨positive, small⟩ := brackets.distance
  rw [← tdiv_bmod_iff_representable positive small, ← value]
  constructor
  · intro ⟨other, returned, exactly, _⟩
    obtain rfl : temperature = other := Except.ok.inj (interpolated.symm.trans (converted.symm.trans returned))
    exact exactly
  · intro exactly
    have mem := weighted_mem brackets
    rw [← exactly] at mem
    refine ⟨temperature, converted.trans interpolated, exactly, mem.1, mem.2, ?_⟩
    intro equal
    subst equal
    rw [weighted_prev brackets.rising] at exactly
    exact Int16.toInt_inj.mp exactly

/-- Between the first and the last row there is one pair of rows around the reading, and
the interpolation of that pair is exact when its sum is representable, and only then. -/
theorem interpolation_exact_iff (increasing : Increasing config) (ends : Ends config first last)
    (above : first.adcValue < adcValue) (below : adcValue < last.adcValue) :
    ∃ k prev next, Brackets config adcValue k prev next ∧
      (∀ l prev' next', Brackets config adcValue l prev' next' → l = k ∧ prev' = prev ∧ next' = next) ∧
      (Exact config adcValue prev next ↔
        Representable (weightedSum adcValue prev next) (int next.adcValue - int prev.adcValue)) := by
  have ordered : first.adcValue ≤ last.adcValue := UInt16.le_of_lt (UInt16.lt_trans above below)
  obtain ⟨_, k, prev, next, -, -, brackets, scanned⟩ := scan_inside ends (UInt16.le_of_lt above) below
  have converted := (convert_scan ends ordered (.inr above) (.inr below)).trans scanned
  refine ⟨k, prev, next, brackets, ?_, exact_iff brackets converted⟩
  intro l prev' next' other
  exact brackets.unique increasing other

theorem interpolation_exact_at_1000 :
    ∃ k prev next, Brackets convConfig 1000 k prev next ∧ Exact convConfig 1000 prev next := by
  obtain ⟨k, prev, next, brackets, unique, exactly⟩ :=
    interpolation_exact_iff increasing_convConfig ends_convConfig (by decide : (199 : UInt16) < 1000)
      (by decide : (1000 : UInt16) < 3732)
  have around : Brackets convConfig 1000 14 ⟨926, -500⟩ ⟨1008, -250⟩ := ⟨rfl, rfl, by decide, by decide⟩
  obtain ⟨rfl, rfl, rfl⟩ := unique _ _ _ around
  refine ⟨_, _, _, brackets, exactly.mpr (.inl ?_)⟩
  constructor <;> decide

/-- A reading of about 21 degrees, where the two products add up to 207750, is converted to 1.13 degrees. -/
theorem interpolation_wraps_at_1900 :
    Increasing convConfig ∧ Ends convConfig ⟨199, -4000⟩ ⟨3732, 10000⟩ ∧ (199 : UInt16) < 1900 ∧ (1900 : UInt16) < 3732 ∧
    Brackets convConfig 1900 24 ⟨1853, 2000⟩ ⟨1951, 2250⟩ ∧
    (weightedSum 1900 ⟨1853, 2000⟩ ⟨1951, 2250⟩).tdiv (1951 - 1853) = 2119 ∧
    convertToTemp 1900 (some convConfig) = .ok 113 ∧ ¬ Exact convConfig 1900 ⟨1853, 2000⟩ ⟨1951, 2250⟩ := by
  have converted : convertToTemp 1900 (some convConfig) = .ok 113 := rfl
  have quotient : (weightedSum 1900 ⟨1853, 2000⟩ ⟨1951, 2250⟩).tdiv (1951 - 1853) = 2119 := by decide
  refine ⟨increasing_convConfig, ends_convConfig, by decide, by decide, ⟨rfl, rfl, by decide, by decide⟩, quotient,
    converted, ?_⟩
  intro ⟨temperature, returned, exactly, _⟩
  obtain rfl : 113 = temperature := Except.ok.inj (converted.symm.trans returned)
  exact absurd exactly (by decide)

end LaserDriver.Sensors
