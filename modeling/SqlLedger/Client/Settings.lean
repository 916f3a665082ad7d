/-
Settings of a client.

The host and the port are the address of the client's own node: it goes into requests as their
sender and is the target of the management commands, which carry the authorization token. The four
deadlines are whole milliseconds.
-/

import SqlLedger.NodeAddress

namespace SqlLedger

/-- Settings of a client. -/
structure Settings where
  host : String := "localhost"
  port : UInt32 := 8766
  token : Option String := none
  /-- Deadline for connecting when no answer is due. -/
  connectTimeout : UInt64 := 1000
  /-- Deadline for connecting when an answer is due. -/
  waitConnectTimeout : UInt64 := 2000
  /-- Deadline for the whole answer. -/
  readTimeout : UInt64 := 30000
  /-- Deadline for the peer to take the request. -/
  writeTimeout : UInt64 := 30000
  deriving DecidableEq, Repr

/-- The address of the client's own node. -/
def Settings.home (settings : Settings) : NodeAddress :=
  ⟨settings.host, settings.port⟩

/-- The token as it travels; no token travels like an empty one. -/
def Settings.tokenBytes (settings : Settings) : Bytes :=
  (settings.token.map Utf8.encode).getD []

end SqlLedger
