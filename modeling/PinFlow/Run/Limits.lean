import PinFlow.Shape

/-!
The bounds within which every run stays.
-/

set_option autoImplicit false

namespace PinFlow

/-- How deep exec edges and data edges are followed, and the longest single delay in seconds. -/
structure Limits where
  maxDepth : Nat
  maxDelay : Binary64
  deriving DecidableEq, Repr

namespace Limits

def defaultDepth : Nat := 256

def defaultDelay : Binary64 := .ofNat 900

def standard : Limits := ⟨defaultDepth, defaultDelay⟩

def record : Shape.Record := ⟨"EngineConfig", 2⟩

def ofForm (form : Shape.Form) : Shape.Checked Limits :=
  Limits.mk <$> form.field record
      { position := 0, name := "max_depth", read := Shape.count, fallback := some defaultDepth }
    <*> form.field record
      { position := 1, name := "max_delay_secs", read := Shape.real, fallback := some defaultDelay }

def read : Shape.Reader Limits := Shape.record record ofForm

end Limits

end PinFlow
