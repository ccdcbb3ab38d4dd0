/-! # Output devices

What the output port needs from the device behind it. A device takes commands, which are lasting
settings, and data at byte addresses.
-/

namespace Microbus
set_option autoImplicit false

/-- A device behind the output port. It may lack a place for data at an address. -/
class OutputDevice (δ : Type) where
  command : δ → UInt8 → δ
  data : δ → UInt8 → UInt8 → δ
  reset : δ → δ
  render : δ → String
  claims : δ → UInt8 → Bool

instance : OutputDevice Unit where
  command _ _ := ()
  data _ _ _ := ()
  reset _ := ()
  render _ := ""
  claims _ _ := true

end Microbus
