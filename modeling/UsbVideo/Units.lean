import UsbVideo.Text

/-!
# Units of the video class

Frame intervals count 100 ns ticks and versions are binary-coded decimals.
-/

namespace UsbVideo

/-- Ticks of 100 ns in a second. -/
def ticksPerSecond : Float := 10000000.0

/-- The frame interval of a frame rate, rounded to the nearest tick with halves away from zero.
A rate that is not positive has the interval 0, one too slow for 32 bits the largest interval. -/
def intervalOfFps (fps : Float) : UInt32 :=
  if fps <= 0.0 then 0 else (ticksPerSecond / fps).round.toUInt32

/-- The frame rate of a frame interval; 0 for the zero interval. -/
def fpsOfInterval (interval : UInt32) : Float :=
  if interval = 0 then 0.0 else ticksPerSecond / interval.toFloat

/-- A binary-coded version: `1.10` for `0x0110`. -/
def bcdText (bcd : UInt16) : String :=
  hex (bcd.toNat / 256) ++ "." ++ hex2 (bcd.toNat % 256)

end UsbVideo
