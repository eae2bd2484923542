import StreamRelay.Binary64

/-!
# The stopwatch

A stopwatch notes when it was started and stopped, and reads in milliseconds with two places. Both
times are zero before the first use, and stay until the next.
-/

namespace StreamRelay

/-- The times, in seconds, of the last start and the last stop. -/
structure Stopwatch where
  started : Binary64
  stopped : Binary64

namespace Stopwatch

def new : Stopwatch := ⟨.finite false 0, .finite false 0⟩

def start (w : Stopwatch) (now : Binary64) : Stopwatch := { w with started := now }

def stop (w : Stopwatch) (now : Binary64) : Stopwatch := { w with stopped := now }

/-- The milliseconds from start to stop, rounded to two places. -/
def milliseconds (w : Stopwatch) : Binary64 :=
  ((w.stopped.sub w.started).scale 1000).roundPlaces 2

end Stopwatch

end StreamRelay
