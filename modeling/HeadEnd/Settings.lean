/-! # Settings

What faults are reported with.
-/

namespace HeadEnd

/-- The settings of the head end. -/
structure Settings where
  /-- The component that is named in every fault. -/
  component : String := "PROTOCOL_DLMS"
  /-- The message of a fault for a request that no command answers. -/
  defaultFaultMessage : String := "Unable to handle request"
  deriving DecidableEq

end HeadEnd
