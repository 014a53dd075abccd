import SensorRouter.Directory.Update

/-!
Numbers about a directory as JSON records.
-/

namespace SensorRouter

open Json (Value)

def DirectoryCounts.toValue (c : DirectoryCounts) : Value :=
  .object [("sensors", .nat c.sensors), ("accounts", .nat c.accounts),
    ("api_keys", .nat c.apiKeys), ("live_data_routes", .nat c.liveRoutes),
    ("live_data_remotes", .nat c.liveHandlers)]

def UpdateCounts.toValue (c : UpdateCounts) : Value :=
  .object [("applied", .nat c.applied), ("failed", .nat c.failed), ("reloads", .nat c.reloads)]

def ReloadSummary.toValue (s : ReloadSummary) : Value :=
  .object [("live_data_handlers", .nat s.liveHandlers), ("accounts", .nat s.accounts),
    ("sensors", .nat s.sensors), ("orphan_triggers", .nat s.orphanTriggers),
    ("api_keys", .nat s.apiKeys), ("live_data_routes", .nat s.liveRoutes)]

end SensorRouter
