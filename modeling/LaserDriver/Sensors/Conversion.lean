import Mathlib.Logic.Basic

/-! The conversion of ADC readings into temperatures, `tempConversion.c`, and the
table that `temperatureMonitoring.c` gives it. Operands are promoted to `int`, which is
wide enough for every sum and product here; a store into an `int16_t` keeps the low
sixteen bits. -/

namespace LaserDriver.Sensors

structure TempConv where
  adcValue : UInt16
  temperature : Int16
  deriving Repr, DecidableEq

/-- `pConvTable` points to `table_size` rows. -/
structure TempConvConfig where
  convTable : Array TempConv
  tableSize : UInt32
  adcTolerance : UInt16
  sized : tableSize.toNat = convTable.size

def errorInvalid : Int16 := Int16.ofInt 0x8000
def errorOpen : Int16 := Int16.ofInt 0xFFFE
def errorShort : Int16 := Int16.ofInt 0xFFFD

/-- Where the C program has no meaning. -/
inductive Trap where
  | outOfRange (index : UInt32)
  | divideByZero
  deriving Repr, DecidableEq

def int (value : UInt16) : Int := value.toNat

def TempConvConfig.row (config : TempConvConfig) (index : UInt32) : Except Trap TempConv :=
  match config.convTable[index.toNat]? with
  | some row => .ok row
  | none => .error (.outOfRange index)

def temperatureInterpolation (adcValue : UInt16) (prev next : TempConv) : Except Trap Int16 :=
  let deltaAdc := next.adcValue - prev.adcValue
  let first := Int16.ofInt (prev.temperature.toInt * (int next.adcValue - int adcValue))
  let result := Int16.ofInt (first.toInt + next.temperature.toInt * (int adcValue - int prev.adcValue))
  if deltaAdc = 0 then .error .divideByZero
  else .ok (Int16.ofInt (result.toInt.tdiv (int deltaAdc)))

/-- `for(index=0; index<pConfig->table_size; index++)`, left at the first row above the
reading. The rounds run out where the counter reaches `table_size`. -/
def scanTable (adcValue : UInt16) (config : TempConvConfig) : Nat → UInt32 → Except Trap UInt32
  | 0, index => return index
  | rounds + 1, index =>
    if index < config.tableSize then do
      let row ← config.row index
      if adcValue < row.adcValue then return index else scanTable adcValue config rounds (index + 1)
    else return index

def scanAndInterpolate (adcValue : UInt16) (config : TempConvConfig) : Except Trap Int16 := do
  let index ← scanTable adcValue config config.tableSize.toNat 0
  let prev ← config.row (index - 1)
  let next ← config.row index
  temperatureInterpolation adcValue prev next

def adcToTemp (adcValue : UInt16) : Option TempConvConfig → Except Trap Int16
  | none => return errorInvalid
  | some config => do
    let first ← config.row 0
    if int adcValue < int first.adcValue - int config.adcTolerance then return errorOpen
    else if int adcValue > int first.adcValue - int config.adcTolerance ∧ adcValue ≤ first.adcValue then
      return first.temperature
    else
      let last ← config.row (config.tableSize - 1)
      if int adcValue > int last.adcValue + int config.adcTolerance then return errorShort
      else if int adcValue < int last.adcValue + int config.adcTolerance ∧ adcValue ≥ last.adcValue then
        return last.temperature
      else scanAndInterpolate adcValue config

def convertToTemp (adcValue : UInt16) (pConfig : Option TempConvConfig) : Except Trap Int16 :=
  match pConfig with
  | none => return errorInvalid
  | some _ => adcToTemp adcValue pConfig

/-- `conv_table`, from -40 to 100 degrees in steps of 2.5. -/
def convTable : Array TempConv := #[
  ⟨199, -4000⟩, ⟨227, -3750⟩, ⟨258, -3500⟩, ⟨292, -3250⟩,
  ⟨330, -3000⟩, ⟨371, -2750⟩, ⟨416, -2500⟩, ⟨465, -2250⟩,
  ⟨519, -2000⟩, ⟨576, -1750⟩, ⟨638, -1500⟩, ⟨704, -1250⟩,
  ⟨774, -1000⟩, ⟨848, -750⟩, ⟨926, -500⟩, ⟨1008, -250⟩,
  ⟨1093, 0⟩, ⟨1182, 250⟩, ⟨1273, 500⟩, ⟨1366, 750⟩,
  ⟨1462, 1000⟩, ⟨1559, 1250⟩, ⟨1656, 1500⟩, ⟨1755, 1750⟩,
  ⟨1853, 2000⟩, ⟨1951, 2250⟩, ⟨2048, 2500⟩, ⟨2143, 2750⟩,
  ⟨2237, 3000⟩, ⟨2329, 3250⟩, ⟨2418, 3500⟩, ⟨2505, 3750⟩,
  ⟨2589, 4000⟩, ⟨2670, 4250⟩, ⟨2748, 4500⟩, ⟨2822, 4750⟩,
  ⟨2894, 5000⟩, ⟨2962, 5250⟩, ⟨3027, 5500⟩, ⟨3088, 5750⟩,
  ⟨3147, 6000⟩, ⟨3202, 6250⟩, ⟨3254, 6500⟩, ⟨3304, 6750⟩,
  ⟨3350, 7000⟩, ⟨3394, 7250⟩, ⟨3435, 7500⟩, ⟨3474, 7750⟩,
  ⟨3511, 8000⟩, ⟨3545, 8250⟩, ⟨3577, 8500⟩, ⟨3607, 8750⟩,
  ⟨3635, 9000⟩, ⟨3662, 9250⟩, ⟨3687, 9500⟩, ⟨3710, 9750⟩,
  ⟨3732, 10000⟩]

def convConfig : TempConvConfig := ⟨convTable, 57, 10, rfl⟩

end LaserDriver.Sensors
