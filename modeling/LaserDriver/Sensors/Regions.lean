import Mathlib.Data.List.Chain
import LaserDriver.Sensors.Conversion

/-! Where a reading falls in a conversion table, and which rows the conversion reads for it. -/

namespace LaserDriver.Sensors

variable {config : TempConvConfig} {adcValue : UInt16} {first last : TempConv}

@[simp] theorem int_le_int {a b : UInt16} : int a ≤ int b ↔ a ≤ b := by simp [int, UInt16.le_iff_toNat_le]

@[simp] theorem int_lt_int {a b : UInt16} : int a < int b ↔ a < b := by simp [int, UInt16.lt_iff_toNat_lt]

theorem int_nonneg (a : UInt16) : 0 ≤ int a := Int.natCast_nonneg _

theorem int_inj {a b : UInt16} : int a = int b ↔ a = b := by rw [int, int, Int.natCast_inj, UInt16.toNat_inj]

theorem row_of_getElem? {index : UInt32} {row : TempConv} (found : config.convTable[index.toNat]? = some row) :
    config.row index = .ok row := by
  simp [TempConvConfig.row, found]

theorem row_outside {index : UInt32} (outside : config.convTable.size ≤ index.toNat) :
    config.row index = .error (.outOfRange index) := by
  simp [TempConvConfig.row, Array.getElem?_eq_none outside]

/-- The scan leaves every row before the index at or below the reading, and the row at
the index above it. -/
structure StopsAt (config : TempConvConfig) (adcValue : UInt16) (index : Nat) : Prop where
  bounded : index ≤ config.convTable.size
  below : ∀ k row, k < index → config.convTable[k]? = some row → row.adcValue ≤ adcValue
  above : ∀ row, config.convTable[index]? = some row → adcValue < row.adcValue

theorem scan_stops (config : TempConvConfig) (adcValue : UInt16) :
    ∃ index : UInt32, scanTable adcValue config config.tableSize.toNat 0 = .ok index ∧
      StopsAt config adcValue index.toNat := by
  -- the counter and the rounds left always add up to the size of the table
  suffices scan : ∀ rounds (index : UInt32), index.toNat + rounds = config.convTable.size →
      (∀ k row, k < index.toNat → config.convTable[k]? = some row → row.adcValue ≤ adcValue) →
      ∃ stop, scanTable adcValue config rounds index = .ok stop ∧ StopsAt config adcValue stop.toNat by
    refine scan config.tableSize.toNat 0 ?_ nofun
    simp [config.sized]
  intro rounds
  induction rounds with
  | zero =>
    intro index total below
    refine ⟨index, rfl, by omega, below, ?_⟩
    intro row found
    rw [Array.getElem?_eq_none (by omega)] at found
    cases found
  | succ rounds ih =>
    intro index total below
    have inside : index.toNat < config.convTable.size := by omega
    have counted : index < config.tableSize := UInt32.lt_iff_toNat_lt.mpr (config.sized ▸ inside)
    have found : config.convTable[index.toNat]? = some config.convTable[index.toNat] := Array.getElem?_eq_getElem inside
    rw [scanTable, if_pos counted, row_of_getElem? found]
    by_cases beyond : adcValue < config.convTable[index.toNat].adcValue
    · refine ⟨index, if_pos beyond, by omega, below, ?_⟩
      intro row same
      rw [found] at same
      cases same
      exact beyond
    · have next : (index + 1).toNat = index.toNat + 1 := by
        have := config.tableSize.toNat_lt
        have := config.sized
        rw [UInt32.toNat_add, UInt32.toNat_one]
        omega
      obtain ⟨stop, scanned, stops⟩ := ih (index + 1) (by omega) (by
        intro k row before same
        by_cases here : k = index.toNat
        · subst here
          rw [found] at same
          cases same
          exact UInt16.not_lt.mp beyond
        · exact below k row (by omega) same)
      exact ⟨stop, (if_neg beyond).trans scanned, stops⟩

structure Ends (config : TempConvConfig) (first last : TempConv) : Prop where
  first : config.convTable[0]? = some first
  last : config.convTable[config.convTable.size - 1]? = some last

theorem Ends.nonempty (ends : Ends config first last) : 0 < config.convTable.size :=
  (Array.getElem?_eq_some_iff.mp ends.first).1

theorem Ends.row_last (ends : Ends config first last) : config.row (config.tableSize - 1) = .ok last := by
  apply row_of_getElem?
  have nonempty := ends.nonempty
  have sized := config.sized
  have one : (1 : UInt32) ≤ config.tableSize := by
    rw [UInt32.le_iff_toNat_le, UInt32.toNat_one]
    omega
  rw [UInt32.toNat_sub_of_le _ _ one, UInt32.toNat_one, sized]
  exact ends.last

/-- The comparisons of the conversion, with the rows they read. -/
theorem convert_eq (ends : Ends config first last) : convertToTemp adcValue (some config) =
    if int adcValue < int first.adcValue - int config.adcTolerance then .ok errorOpen
    else if int first.adcValue - int config.adcTolerance < int adcValue ∧ adcValue ≤ first.adcValue then
      .ok first.temperature
    else if int last.adcValue + int config.adcTolerance < int adcValue then .ok errorShort
    else if int adcValue < int last.adcValue + int config.adcTolerance ∧ last.adcValue ≤ adcValue then
      .ok last.temperature
    else scanAndInterpolate adcValue config := by
  have firstRow : config.row 0 = .ok first := row_of_getElem? ends.first
  rw [convertToTemp, adcToTemp, firstRow]
  simp only [bind, Except.bind, ends.row_last]
  rfl

/-- Two consecutive rows around a reading. -/
structure Brackets (config : TempConvConfig) (adcValue : UInt16) (index : Nat) (prev next : TempConv) : Prop where
  found : config.convTable[index]? = some prev
  follows : config.convTable[index + 1]? = some next
  below : prev.adcValue ≤ adcValue
  above : adcValue < next.adcValue

theorem scan_between {index : UInt32} (scanned : scanTable adcValue config config.tableSize.toNat 0 = .ok index)
    (stops : StopsAt config adcValue index.toNat) (after : 0 < index.toNat)
    (before : index.toNat < config.convTable.size) :
    ∃ k prev next, index.toNat = k + 1 ∧ Brackets config adcValue k prev next ∧
      scanAndInterpolate adcValue config = temperatureInterpolation adcValue prev next := by
  have previous : (index - 1).toNat = index.toNat - 1 := by
    rw [UInt32.toNat_sub_of_le, UInt32.toNat_one]
    rw [UInt32.le_iff_toNat_le, UInt32.toNat_one]
    exact after
  obtain ⟨k, here⟩ : ∃ k, index.toNat = k + 1 := ⟨index.toNat - 1, by omega⟩
  have foundPrev : config.convTable[k]? = some config.convTable[k] := Array.getElem?_eq_getElem (by omega)
  have foundNext : config.convTable[k + 1]? = some config.convTable[k + 1] := Array.getElem?_eq_getElem (by omega)
  refine ⟨k, _, _, here, ⟨foundPrev, foundNext, stops.below k _ (by omega) foundPrev, ?_⟩, ?_⟩
  · apply stops.above
    rw [here]
    exact foundNext
  · have rowPrev : config.row (index - 1) = .ok config.convTable[k] := by
      apply row_of_getElem?
      rw [previous, here]
      exact foundPrev
    have rowNext : config.row index = .ok config.convTable[k + 1] := by
      apply row_of_getElem?
      rw [here]
      exact foundNext
    simp [scanAndInterpolate, scanned, rowPrev, rowNext, bind, Except.bind]

/-- A reading below the first row makes the scan stop at once, and the row before is read. -/
theorem scan_below (ends : Ends config first last) (below : adcValue < first.adcValue) :
    scanAndInterpolate adcValue config = .error (.outOfRange (0 - 1)) := by
  obtain ⟨index, scanned, stops⟩ := scan_stops config adcValue
  have start : index = 0 := by
    rw [← UInt32.toNat_inj, UInt32.toNat_zero]
    apply Nat.eq_zero_of_not_pos
    intro past
    exact absurd (stops.below 0 first past ends.first) (UInt16.not_le.mpr below)
  have outside : config.row (0 - 1) = .error (.outOfRange (0 - 1)) := by
    apply row_outside
    have := config.tableSize.toNat_lt
    have := config.sized
    have : (0 - 1 : UInt32).toNat = 4294967295 := rfl
    omega
  simp only [scanAndInterpolate, scanned, start, outside, bind, Except.bind]

def Increasing (config : TempConvConfig) : Prop :=
  ∀ (i j : Nat) (prev next : TempConv), i < j → config.convTable[i]? = some prev → config.convTable[j]? = some next →
    prev.adcValue < next.adcValue

theorem increasing_of_chain (chain : (config.convTable.toList.map TempConv.adcValue).IsChain (· < ·)) :
    Increasing config := by
  have : IsTrans UInt16 (· < ·) := ⟨fun _ _ _ => UInt16.lt_trans⟩
  have sorted := List.pairwise_iff_getElem.mp (List.isChain_iff_pairwise.mp chain)
  intro i j prev next before foundPrev foundNext
  obtain ⟨insidePrev, rfl⟩ := Array.getElem?_eq_some_iff.mp foundPrev
  obtain ⟨insideNext, rfl⟩ := Array.getElem?_eq_some_iff.mp foundNext
  have rises := sorted i j (by simpa using insidePrev) (by simpa using insideNext) before
  rw [List.getElem_map, List.getElem_map] at rises
  exact rises

theorem increasing_convConfig : Increasing convConfig := increasing_of_chain (by decide)

theorem ends_convConfig : Ends convConfig ⟨199, -4000⟩ ⟨3732, 10000⟩ := ⟨rfl, rfl⟩

theorem Increasing.le_last {row : TempConv} {k : Nat} (increasing : Increasing config) (ends : Ends config first last)
    (found : config.convTable[k]? = some row) : row.adcValue ≤ last.adcValue := by
  have inside := (Array.getElem?_eq_some_iff.mp found).1
  by_cases final : k = config.convTable.size - 1
  · subst final
    obtain rfl : row = last := Option.some.inj (found.symm.trans ends.last)
    exact UInt16.le_refl _
  · exact UInt16.le_of_lt (increasing k _ row last (by omega) found ends.last)

theorem Increasing.first_le {row : TempConv} {k : Nat} (increasing : Increasing config) (ends : Ends config first last)
    (found : config.convTable[k]? = some row) : first.adcValue ≤ row.adcValue := by
  by_cases start : k = 0
  · subst start
    obtain rfl : row = first := Option.some.inj (found.symm.trans ends.first)
    exact UInt16.le_refl _
  · exact UInt16.le_of_lt (increasing 0 k first row (Nat.pos_of_ne_zero start) ends.first found)

/-- A reading at or above the last row makes the scan run through, and a row past the table is read. -/
theorem scan_above (increasing : Increasing config) (ends : Ends config first last)
    (above : last.adcValue ≤ adcValue) :
    scanAndInterpolate adcValue config = .error (.outOfRange config.tableSize) := by
  obtain ⟨index, scanned, stops⟩ := scan_stops config adcValue
  have through : index = config.tableSize := by
    rw [← UInt32.toNat_inj, config.sized]
    apply Nat.le_antisymm stops.bounded
    apply Nat.le_of_not_lt
    intro inside
    have found := Array.getElem?_eq_getElem inside
    have beyond := stops.above _ found
    exact absurd (UInt16.le_trans (increasing.le_last ends found) above) (UInt16.not_le.mpr beyond)
  have outside : config.row config.tableSize = .error (.outOfRange config.tableSize) :=
    row_outside (Nat.le_of_eq config.sized.symm)
  simp only [scanAndInterpolate, scanned, through, ends.row_last, outside, bind, Except.bind]

theorem scan_inside (ends : Ends config first last) (above : first.adcValue ≤ adcValue)
    (below : adcValue < last.adcValue) :
    ∃ index k prev next, scanTable adcValue config config.tableSize.toNat 0 = .ok index ∧ index.toNat = k + 1 ∧
      Brackets config adcValue k prev next ∧
      scanAndInterpolate adcValue config = temperatureInterpolation adcValue prev next := by
  obtain ⟨index, scanned, stops⟩ := scan_stops config adcValue
  have nonempty := ends.nonempty
  refine ⟨index, ?_⟩
  suffices between : ∃ k prev next, index.toNat = k + 1 ∧ Brackets config adcValue k prev next ∧
      scanAndInterpolate adcValue config = temperatureInterpolation adcValue prev next by
    obtain ⟨k, prev, next, rest⟩ := between
    exact ⟨k, prev, next, scanned, rest⟩
  apply scan_between scanned stops
  · apply Nat.pos_of_ne_zero
    intro start
    have beyond := stops.above first (start ▸ ends.first)
    exact absurd above (UInt16.not_le.mpr beyond)
  · apply Nat.lt_of_le_of_ne stops.bounded
    intro through
    have passed := stops.below _ last (by omega) ends.last
    exact absurd below (UInt16.not_lt.mpr passed)

theorem Brackets.rising {k : Nat} {prev next : TempConv} (brackets : Brackets config adcValue k prev next) :
    prev.adcValue < next.adcValue :=
  UInt16.lt_of_le_of_lt brackets.below brackets.above

theorem Brackets.unique {k l : Nat} {prev next prev' next' : TempConv} (increasing : Increasing config)
    (brackets : Brackets config adcValue k prev next) (other : Brackets config adcValue l prev' next') :
    l = k ∧ prev' = prev ∧ next' = next := by
  have apart : ∀ {i j : Nat} {a b c d : TempConv}, Brackets config adcValue i a b → Brackets config adcValue j c d →
      ¬ i < j := by
    intro i j a b c d left right before
    have passed : b.adcValue ≤ c.adcValue := by
      by_cases touching : i + 1 = j
      · subst touching
        obtain rfl : b = c := Option.some.inj (left.follows.symm.trans right.found)
        exact UInt16.le_refl _
      · exact UInt16.le_of_lt (increasing _ _ b c (by omega) left.follows right.found)
    exact absurd (UInt16.le_trans passed right.below) (UInt16.not_le.mpr left.above)
  obtain rfl : l = k := Nat.le_antisymm (Nat.le_of_not_lt (apart brackets other)) (Nat.le_of_not_lt (apart other brackets))
  exact ⟨rfl, Option.some.inj (other.found.symm.trans brackets.found),
    Option.some.inj (other.follows.symm.trans brackets.follows)⟩

section Convert
variable (ends : Ends config first last)
include ends

theorem convert_open (below : int adcValue < int first.adcValue - int config.adcTolerance) :
    convertToTemp adcValue (some config) = .ok errorOpen := by
  rw [convert_eq ends, if_pos below]

theorem convert_lower (within : int first.adcValue - int config.adcTolerance < int adcValue)
    (below : adcValue ≤ first.adcValue) : convertToTemp adcValue (some config) = .ok first.temperature := by
  rw [convert_eq ends, if_neg (by omega), if_pos ⟨within, below⟩]

theorem convert_short (ordered : first.adcValue ≤ last.adcValue)
    (above : int last.adcValue + int config.adcTolerance < int adcValue) :
    convertToTemp adcValue (some config) = .ok errorShort := by
  have tolerance := int_nonneg config.adcTolerance
  have := int_le_int.mpr ordered
  rw [convert_eq ends, if_neg (by omega), if_neg (by rw [← int_le_int]; omega), if_pos above]

theorem convert_upper (ordered : first.adcValue < last.adcValue) (above : last.adcValue ≤ adcValue)
    (within : int adcValue < int last.adcValue + int config.adcTolerance) :
    convertToTemp adcValue (some config) = .ok last.temperature := by
  have := int_lt_int.mpr ordered
  have := int_le_int.mpr above
  have tolerance := int_nonneg config.adcTolerance
  rw [convert_eq ends, if_neg (by omega), if_neg (by rw [← int_le_int]; omega), if_neg (by omega), if_pos ⟨within, above⟩]

/-- The two bands are open at their outer edge, so a reading there gets to the scan. -/
theorem convert_scan (ordered : first.adcValue ≤ last.adcValue)
    (lower : int adcValue = int first.adcValue - int config.adcTolerance ∨ first.adcValue < adcValue)
    (upper : int adcValue = int last.adcValue + int config.adcTolerance ∨ adcValue < last.adcValue) :
    convertToTemp adcValue (some config) = scanAndInterpolate adcValue config := by
  have := int_le_int.mpr ordered
  have tolerance := int_nonneg config.adcTolerance
  rw [← int_lt_int] at lower upper
  rw [convert_eq ends, if_neg (by omega), if_neg (by rw [← int_le_int]; omega), if_neg (by omega),
    if_neg (by rw [← int_le_int]; omega)]

end Convert

/-- Between the first and the last row the scan stops after a row at or below the reading
and before a row above it, in a table of any length and in any order. The interpolation
gets these two rows, whose distance it can divide by. -/
theorem interior_scanned (ends : Ends config first last) (above : first.adcValue < adcValue)
    (below : adcValue < last.adcValue) :
    adcToTemp adcValue (some config) = scanAndInterpolate adcValue config ∧
    ∃ (index : UInt32) (prev next : TempConv),
      scanTable adcValue config config.tableSize.toNat 0 = .ok index ∧
      1 ≤ index.toNat ∧ index.toNat ≤ config.convTable.size - 1 ∧
      config.convTable[index.toNat - 1]? = some prev ∧ config.convTable[index.toNat]? = some next ∧
      prev.adcValue ≤ adcValue ∧ adcValue < next.adcValue ∧
      adcToTemp adcValue (some config) = temperatureInterpolation adcValue prev next ∧
      1 ≤ (next.adcValue - prev.adcValue).toNat ∧ (next.adcValue - prev.adcValue).toNat ≤ 65535 ∧
      (∃ temperature, temperatureInterpolation adcValue prev next = .ok temperature) ∧
      (Increasing config → ∀ k prev' next', Brackets config adcValue k prev' next' →
        k + 1 = index.toNat ∧ prev' = prev ∧ next' = next) := by
  have ordered : first.adcValue ≤ last.adcValue := UInt16.le_of_lt (UInt16.lt_trans above below)
  have reached : adcToTemp adcValue (some config) = scanAndInterpolate adcValue config :=
    convert_scan ends ordered (.inr above) (.inr below)
  obtain ⟨index, k, prev, next, scanned, here, brackets, interpolated⟩ :=
    scan_inside ends (UInt16.le_of_lt above) below
  have previous : index.toNat - 1 = k := by omega
  have inside : k + 1 < config.convTable.size := (Array.getElem?_eq_some_iff.mp brackets.follows).1
  have distance : (next.adcValue - prev.adcValue).toNat = next.adcValue.toNat - prev.adcValue.toNat :=
    UInt16.toNat_sub_of_le _ _ (UInt16.le_of_lt brackets.rising)
  have rises := UInt16.lt_iff_toNat_lt.mp brackets.rising
  have bounded := next.adcValue.toNat_lt
  have nonzero : next.adcValue - prev.adcValue ≠ 0 := by
    intro zero
    rw [zero, UInt16.toNat_zero] at distance
    omega
  refine ⟨reached, index, prev, next, scanned, by omega, by omega, ?_, ?_, brackets.below, brackets.above,
    reached.trans interpolated, by omega, by omega, ⟨_, if_neg nonzero⟩, ?_⟩
  · rw [previous]
    exact brackets.found
  · rw [here]
    exact brackets.follows
  · intro increasing l prev' next' other
    obtain ⟨rfl, samePrev, sameNext⟩ := brackets.unique increasing other
    exact ⟨here.symm, samePrev, sameNext⟩

/-- A table that falls in the middle still brackets the reading, at the first row above it. -/
theorem interior_scanned_unsorted :
    ∃ config : TempConvConfig, ¬ Increasing config ∧ ∃ prev next,
      adcToTemp 25 (some config) = temperatureInterpolation 25 prev next ∧ prev.adcValue ≤ 25 ∧ 25 < next.adcValue := by
  have ends : Ends ⟨#[⟨10, 0⟩, ⟨30, 5⟩, ⟨20, 7⟩, ⟨40, 9⟩], 4, 0, rfl⟩ ⟨10, 0⟩ ⟨40, 9⟩ := ⟨rfl, rfl⟩
  obtain ⟨-, index, prev, next, -, -, -, -, -, below, above, interpolated, -⟩ :=
    interior_scanned ends (by decide : (10 : UInt16) < 25) (by decide : (25 : UInt16) < 40)
  refine ⟨_, ?_, prev, next, interpolated, below, above⟩
  intro increasing
  exact absurd (increasing 1 2 ⟨30, 5⟩ ⟨20, 7⟩ (by omega) rfl rfl) (by decide)

end LaserDriver.Sensors
