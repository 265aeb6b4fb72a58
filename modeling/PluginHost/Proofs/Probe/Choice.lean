/-
# Which plugin probes

A probe is made by the plugin with the number that was asked for, or else by the first plugin with
the name, or else by one that is registered under the lowest number that is free.  `Probe.Chooses`
says this about the list of plugins in the configuration; of two with one number the later counts.
-/
import PluginHost.Probe
import PluginHost.Proofs.Registry

namespace PluginHost

namespace Registry

/-! ## The registry of a configuration -/

variable {config : PluginsConfig} {id : PluginId}

end Registry

namespace Probe

variable {p : Probe} {config : PluginsConfig} {id : PluginId} {enabled : Bool}

end Probe
end PluginHost
