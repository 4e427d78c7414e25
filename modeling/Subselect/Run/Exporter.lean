import Subselect.Text.Basic

/-! Starting the exporter that serves the counters of a process. -/
namespace Subselect

inductive ExporterError where
  | threadStart
  | build (message : Text)
  | recorderInstalled
  deriving DecidableEq, Repr

def ExporterError.message : ExporterError → Text
  | threadStart => "metrics thread failed to start".toList
  | build message => message
  | recorderInstalled => "global metrics recorder already installed".toList

namespace Exporter

def addressInUse : Text :=
  "prometheus build failed: failed to create HTTP listener: Address already in use (os error 98)".toList

/-- The address is bound before the recorder is installed, so an address held by another listener
shows first. A process has one recorder at most. -/
def start (addressTaken recorderPresent : Bool) : Except ExporterError Unit :=
  if addressTaken then .error (.build addressInUse)
  else if recorderPresent then .error .recorderInstalled
  else .ok ()

end Exporter
end Subselect
