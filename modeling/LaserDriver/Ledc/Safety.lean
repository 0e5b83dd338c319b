import LaserDriver.Ledc.Sharing

/-! What every run on a channel keeps, whatever the calls of the tasks, the moments of the
interrupt and the duties that are read. -/

namespace LaserDriver.Ledc
open Effects

end LaserDriver.Ledc
