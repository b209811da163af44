/-!
The time a record may be kept by those who ask for it.
-/

namespace AddressRecords

structure Ttl where
  seconds : UInt32
  deriving DecidableEq, Repr

namespace Ttl

/-- Leaves the choice to the provider. -/
def auto : Ttl := ⟨1⟩

instance : Inhabited Ttl := ⟨auto⟩

def isAuto (ttl : Ttl) : Bool := ttl == auto

instance : ToString Ttl where
  toString ttl := if ttl.isAuto then s!"{ttl.seconds} (auto)" else s!"{ttl.seconds}"

instance : Ord Ttl := ⟨fun a b => compare a.seconds b.seconds⟩

end Ttl

end AddressRecords
