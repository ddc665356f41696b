import RadarIngest.Fault

/-!
**Producers.**

A producer is asked to fill the spare region of the staging buffer.  It is given the region's
current bytes and answers with the bytes it leaves there (the same number) and either the count
it claims to have written or a failure.  The manager accepts the claimed count only when it fits
the region.  A producer may also stop the computation altogether.

Main definitions:

* `RadarIngest.Yield`, `RadarIngest.Producer`.
-/

set_option autoImplicit false

namespace RadarIngest

/-- What a producer leaves after a read: the region's bytes and its report. -/
structure Yield where
  /-- The spare region after the producer wrote into it. -/
  region : List UInt8
  /-- The number of bytes the producer claims, or its failure. -/
  report : Except ManagerError Nat

/-- A source of bytes for the staging buffer. -/
class Producer (P : Type) where
  /-- Fills a region given its current bytes. -/
  read : P → List UInt8 → Except Panic (P × Yield)

end RadarIngest
