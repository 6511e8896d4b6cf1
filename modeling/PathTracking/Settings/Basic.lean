import PathTracking.Tracking.Tick

/-!
# Settings

Everything that can be configured about a run: the lookahead, the follower loop, the
simulated vehicle and the log.
-/
namespace PathTracking

structure Settings (α : Type) extends Lookahead α where
  /-- Target speed in metres per second. -/
  speed : α
  /-- Ticks per second. -/
  rate : α
  /-- Ticks without curvature that repeat the last command. -/
  maxHold : Nat
  maxTicks : Nat
  wheelbase : α
  logLevel : String
  /-- No file, or a text that may be empty for none. -/
  logFile : Option String
  logMaxBytes : Nat
  logBackups : Nat
  deriving DecidableEq, Repr

end PathTracking
