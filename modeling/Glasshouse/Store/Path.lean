import Glasshouse.Status.Record
import Glasshouse.Status.Sample

/-!
# Document paths

A telemetry document is kept under its device and second, a state document under its device and
kind. The device id is part of the path as it is, slashes included.
-/

namespace Glasshouse.Store

open Status

/-- The path of the telemetry document of a device and a second. -/
def telemetryPath (device : String) (second : Int) : String :=
  "devices/" ++ device ++ "/telemetry/" ++ toString second

/-- The path of the state document of a device and a kind. -/
def statePath (device : String) (kind : Kind) : String :=
  "devices/" ++ device ++ "/state/" ++ kind.name

end Glasshouse.Store
