import DrivewayWatch.Time.Instant

/-!
# The mute window

While notifications are muted there is a deadline; what is dated before it is not announced.  The
last command decides.
-/

namespace DrivewayWatch

/-- The deadline of the last mute command, if there was one. -/
structure MuteWindow (T : Type) where
  deadline : Option T
  deriving Repr, DecidableEq

namespace MuteWindow

variable {T : Type}

def silent : MuteWindow T :=
  ⟨none⟩

def setDeadline (_ : MuteWindow T) (deadline : T) : MuteWindow T :=
  ⟨some deadline⟩

/-- The deadline that something dated `time` falls before. -/
def activeAt [Timeline T] (window : MuteWindow T) (time : T) : Option T :=
  window.deadline.filter fun deadline => time < deadline

/-- Whether something dated `time` is muted. -/
def isMutedAt [Timeline T] (window : MuteWindow T) (time : T) : Bool :=
  (window.activeAt time).isSome

end MuteWindow

end DrivewayWatch
