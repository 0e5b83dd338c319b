import Mathlib.Data.List.Count
import Mathlib.Data.Nat.Bitwise
import LaserDriver.Adc.Controller

/-! The two mask loops of the continuous path agree: one counts the channels and
sizes the table, the other fills it. -/

namespace LaserDriver.Adc

/-- The channels of a mask, lowest first. -/
def maskChannels (channelMask : UInt8) : List Nat :=
  (List.range 8).filter channelMask.toNat.testBit

def patternEntry (ctrlAtten channel : Nat) : DigiPatternConfig :=
  ⟨.ofNat ctrlAtten, .ofNat channel, adcUnit1, adcBitwidth12⟩

private theorem bit_counted (mask i : Nat) : mask &&& (1 <<< i) ≠ 0 ↔ mask.testBit i = true := by
  rw [Nat.one_shiftLeft, Nat.and_two_pow]
  cases mask.testBit i <;> simp

theorem bit_filled (mask i : Nat) : mask &&& (1 <<< i) = 1 <<< i ↔ mask.testBit i = true := by
  have positive : 0 < 2 ^ i := Nat.two_pow_pos i
  rw [Nat.one_shiftLeft, Nat.and_two_pow]
  cases mask.testBit i
  · simpa using by omega
  · simp

theorem nbChannelMask_eq (channelMask : UInt8) : nbChannelMask channelMask = (maskChannels channelMask).length := by
  have counted : ∀ (channels : List Nat) (count : Nat),
      channels.foldl (fun count i => if channelMask.toNat &&& (1 <<< i) ≠ 0 then count + 1 else count) count =
        count + (channels.filter channelMask.toNat.testBit).length := by
    intro channels
    induction channels with
    | nil => simp
    | cons i rest ih =>
      intro count
      rw [List.foldl_cons, ih]
      by_cases set : channelMask.toNat.testBit i = true
      · rw [if_pos ((bit_counted _ i).mpr set), List.filter_cons_of_pos set, List.length_cons]
        omega
      · rw [if_neg (fun counted => set ((bit_counted _ i).mp counted)), List.filter_cons_of_neg (by simpa using set)]
  simpa [nbChannelMask, maskChannels] using counted (List.range 8) 0

/-- Every mask but zero has a channel, so the second check of the mask never fires. -/
theorem nbChannelMask_ne_zero {channelMask : UInt8} (nonzero : channelMask ≠ 0) : nbChannelMask channelMask ≠ 0 := by
  have positive : channelMask.toNat ≠ 0 := fun zero => nonzero (UInt8.toNat_inj.mp zero)
  obtain ⟨i, set⟩ := Nat.exists_testBit_of_ne_zero positive
  have small : i < 8 := by
    by_contra large
    rw [Nat.testBit_lt_two_pow (channelMask.toNat_lt.trans_le (Nat.pow_le_pow_right (by decide) (by omega)))] at set
    exact Bool.false_ne_true set
  have listed : i ∈ maskChannels channelMask := List.mem_filter.mpr ⟨List.mem_range.mpr small, set⟩
  rw [nbChannelMask_eq]
  exact Nat.pos_iff_ne_zero.mp (List.length_pos_of_mem listed)

/-- The filling loop from entry `j` on: the entries before `j` stay, the next
ones take the remaining channels, and what lies beyond is untouched. -/
private theorem fill_from (channelMask : UInt8) (ctrlAtten : Nat) (channels : List Nat) (j : Nat)
    (table : List (Option DigiPatternConfig))
    (room : j + (channels.filter channelMask.toNat.testBit).length ≤ table.length) :
    (channels.foldl (fillPattern channelMask ctrlAtten) (j, table)).2 =
      table.take j ++ (channels.filter channelMask.toNat.testBit).map (some ∘ patternEntry ctrlAtten) ++
        table.drop (j + (channels.filter channelMask.toNat.testBit).length) := by
  induction channels generalizing j table with
  | nil => simp
  | cons i rest ih =>
    rw [List.foldl_cons]
    by_cases set : channelMask.toNat.testBit i = true
    · rw [List.filter_cons_of_pos set] at room ⊢
      simp only [List.length_cons] at room ⊢
      have inside : j < table.length := by omega
      rw [fillPattern, if_pos ((bit_filled _ i).mpr set), ih (j + 1) _ (by simpa using by omega),
        List.take_succ_eq_append_getElem (by simpa using inside)]
      simp only [List.take_set_of_le (Nat.le_refl j), List.getElem_set_self, List.map_cons, Function.comp_apply,
        List.append_assoc, List.cons_append, List.nil_append]
      rw [List.drop_set_of_lt (by omega)]
      rw [Nat.add_assoc, Nat.add_comm 1]
      rfl
    · rw [List.filter_cons_of_neg (by simpa using set)] at room ⊢
      rw [fillPattern, if_neg (fun filled => set ((bit_filled _ i).mp filled))]
      exact ih j table room

/-- The table lists each channel of the mask once, in ascending order. -/
theorem patternConfig_eq (config : ContinuousConfig) :
    patternConfig config = (maskChannels config.channelMask).map (some ∘ patternEntry config.ctrlAtten) := by
  have sized : nbChannelMask config.channelMask = (maskChannels config.channelMask).length := nbChannelMask_eq _
  have filled := fill_from config.channelMask config.ctrlAtten (List.range 8) 0
    (List.replicate (nbChannelMask config.channelMask) none) (by simp [sized, maskChannels])
  rw [patternConfig, filled]
  simp [sized, maskChannels]

/-- The driver has nothing to object to in the table, so only the frequency counts. -/
theorem acceptsConfig_iff (config : ContinuousConfig) :
    Driver.acceptsConfig ⟨config.sampleFreqHz, patternConfig config, nbChannelMask config.channelMask⟩ = true ↔
      config.sampleFreqHz ≤ socAdcSampleFreqThresHigh ∧ socAdcSampleFreqThresLow ≤ config.sampleFreqHz := by
  have short : nbChannelMask config.channelMask ≤ socAdcPattLenMax := by
    have bounded : (maskChannels config.channelMask).length ≤ (List.range 8).length := List.length_filter_le ..
    rw [nbChannelMask_eq]
    exact bounded.trans (by decide)
  have uniform : ∀ entry ∈ patternConfig config,
      entry.map (·.atten) = ((patternConfig config).head?.join).map (·.atten) := by
    rw [patternConfig_eq]
    cases maskChannels config.channelMask with
    | nil => simp
    | cons channel rest => simp [patternEntry]
  have formed : ∀ entry ∈ patternConfig config,
      entry.any (fun pattern => pattern.bitWidth == adcBitwidth12 && pattern.unit == adcUnit1) = true := by
    rw [patternConfig_eq]
    simp [patternEntry]
  simp only [Driver.acceptsConfig, Bool.and_eq_true, decide_eq_true_eq, List.all_eq_true, beq_iff_eq]
  exact ⟨fun accepted => ⟨accepted.1.2, accepted.2⟩,
    fun inRange => ⟨⟨⟨⟨short, formed⟩, uniform⟩, inRange.1⟩, inRange.2⟩⟩

theorem patternConfig_used (config : ContinuousConfig) (counted : nbChannelMask config.channelMask ≠ 0) :
    (patternConfig config).any Option.isSome = true := by
  rw [nbChannelMask_eq] at counted
  rw [patternConfig_eq]
  cases channels : maskChannels config.channelMask with
  | nil => simp [channels] at counted
  | cons channel rest => simp

/-- The frame size is a whole number of conversions even where the product wraps. -/
theorem frameSize_aligned (config : ContinuousConfig) : frameSize config % socAdcDigiDataBytesPerConv = 0 := by
  have sampled : 4 ∣ config.nbSample.toNat * 4 % 2 ^ 32 := (Nat.dvd_mod_iff (by decide)).mpr ⟨_, Nat.mul_comm ..⟩
  have product : 4 ∣ config.nbSample.toNat * 4 % 2 ^ 32 * (nbChannelMask config.channelMask % 2 ^ 32) % 2 ^ 32 :=
    (Nat.dvd_mod_iff (by decide)).mpr (sampled.mul_right _)
  rw [← UInt32.toNat_inj]
  simpa only [frameSize, socAdcDigiDataBytesPerConv, UInt32.toNat_mod, UInt32.toNat_mul, UInt32.toNat_ofNat,
    UInt32.toNat_ofNat'] using Nat.mod_eq_zero_of_dvd product

end LaserDriver.Adc
