import SubscriptionDesk.Binary64
import SubscriptionDesk.Fault

namespace SubscriptionDesk

structure Envelope where
  minX : Binary64
  minY : Binary64
  maxX : Binary64
  maxY : Binary64
  deriving DecidableEq

namespace Envelope

def bounds (box : Envelope) : List Binary64 := [box.minX, box.minY, box.maxX, box.maxY]

def check (box : Envelope) : Except SubscriptionFault Unit :=
  if box.bounds.any fun bound => !bound.isFinite then .error .areaNotFinite
  else if box.maxX.lt box.minX || box.maxY.lt box.minY then .error .areaInverted
  else .ok ()

/-- Whether the boxes share a point, edges included. -/
def intersects (box other : Envelope) : Bool :=
  box.minX.le other.maxX && other.minX.le box.maxX &&
    box.minY.le other.maxY && other.minY.le box.maxY

def contains (box other : Envelope) : Bool :=
  box.minX.le other.minX && box.minY.le other.minY &&
    other.maxX.le box.maxX && other.maxY.le box.maxY

def same (box other : Envelope) : Bool :=
  box.minX.same other.minX && box.minY.same other.minY &&
    box.maxX.same other.maxX && box.maxY.same other.maxY

end Envelope

end SubscriptionDesk
