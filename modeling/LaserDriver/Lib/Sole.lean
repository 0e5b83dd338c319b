import Mathlib.Tactic.ByContra

/-! A flag that is clear while somebody holds what it guards. The holders are read off
from where everybody is, so there is nothing that could disagree with them. -/

namespace Effects

structure Sole {ι : Type} (set : Bool) (holds : ι → Prop) : Prop where
  free : set = true → ∀ party, ¬ holds party
  taken : set = false → ∃ party, holds party
  alone : ∀ first second, holds first → holds second → first = second

namespace Sole
variable {ι : Type} {set : Bool} {holds after : ι → Prop} {party other : ι}

theorem nobody (none : ∀ party, ¬ holds party) : Sole true holds :=
  ⟨fun _ => none, nofun, fun first _ held => absurd held (none first)⟩

theorem clear (sole : Sole set holds) (held : holds party) : set = false := by
  cases state : set with
  | false => rfl
  | true => exact absurd held (sole.free state party)

theorem same (sole : Sole set holds) (others : ∀ one, after one ↔ holds one) : Sole set after := by
  constructor
  · intro available one held
    exact sole.free available one ((others one).mp held)
  · intro gone
    obtain ⟨holder, held⟩ := sole.taken gone
    exact ⟨holder, (others holder).mpr held⟩
  · intro first second held again
    exact sole.alone first second ((others first).mp held) ((others second).mp again)

theorem take (sole : Sole true holds) (held : after party) (others : ∀ one, one ≠ party → (after one ↔ holds one)) :
    Sole false after := by
  have none_else : ∀ one, after one → one = party := by
    intro one has
    by_contra different
    exact sole.free rfl one ((others one different).mp has)
  exact ⟨nofun, fun _ => ⟨party, held⟩, fun first second has also => (none_else first has).trans (none_else second also).symm⟩

theorem give (sole : Sole set holds) (held : holds party) (gone : ¬ after party)
    (others : ∀ one, one ≠ party → (after one ↔ holds one)) : Sole true after := by
  apply nobody
  intro one has
  by_cases same : one = party
  · exact gone (same ▸ has)
  · exact same (sole.alone one party ((others one same).mp has) held)

theorem pass (sole : Sole set holds) (held : holds party) (gone : ¬ after party) (receives : after other)
    (others : ∀ one, one ≠ party → one ≠ other → (after one ↔ holds one)) : Sole set after := by
  have none_else : ∀ one, after one → one = other := by
    intro one has
    by_contra different
    have same : one ≠ party := fun same => gone (same ▸ has)
    exact same (sole.alone one party ((others one same different).mp has) held)
  rw [sole.clear held]
  exact ⟨nofun, fun _ => ⟨other, receives⟩, fun first second has also => (none_else first has).trans (none_else second also).symm⟩

end Sole
end Effects
