/-
# Identifiers

The numbers by which plugins, users, channels and server connections are told apart.  They
have the width in which they cross the plugin boundary; nothing is computed with them except
where a definition says so.
-/

namespace PluginHost

/-- The number by which the host knows a plugin. -/
abbrev PluginId := UInt32

/-- The number a server gives to a user for the length of a session. -/
abbrev UserId := UInt32

/-- The number of a channel on the server. -/
abbrev ChannelId := Int32

/-- The number handed out for one server session. -/
abbrev ConnectionHandle := Int32

/-- A string of octets. -/
abbrev Bytes := List UInt8

end PluginHost
