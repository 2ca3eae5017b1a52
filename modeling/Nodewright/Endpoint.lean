import Nodewright.Codec.Record

/-! # Endpoints

An interface that a node may offer: whether it does, and where it listens. -/

namespace Nodewright

/-- An interface of a node. -/
structure Endpoint where
  enabled : Bool
  host : Option String
  port : Option UInt16
deriving DecidableEq, Repr

namespace Endpoint

/-- An interface that is not offered. -/
def off : Endpoint := ⟨false, none, none⟩

instance : Inhabited Endpoint := ⟨off⟩

/-- The host of an interface that listens everywhere. -/
def wildcard : String := "0.0.0.0"

/-- Where an interface listens that is offered without saying where; one that is not offered is
    left alone. -/
def fill (port : UInt16) (e : Endpoint) : Endpoint :=
  if e.enabled then
    { e with host := some (e.host.getD wildcard), port := some (e.port.getD port) }
  else e

theorem fill_of_disabled {port : UInt16} {e : Endpoint} (h : e.enabled = false) :
    e.fill port = e := by
  simp [fill, h]

@[simp] theorem enabled_fill (port : UInt16) (e : Endpoint) :
    (e.fill port).enabled = e.enabled := by
  unfold fill; split <;> rfl

@[simp] theorem fill_fill (port : UInt16) (e : Endpoint) :
    (e.fill port).fill port = e.fill port := by
  unfold fill; split <;> simp_all

end Endpoint

end Nodewright
