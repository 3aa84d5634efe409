import ProxyControl.Command.Vocabulary
import ProxyControl.Listing.Rows
import ProxyControl.Request

/-!
# Server states

The table of all servers' states, and the commands that change the state, the weight or the
address of one server.
-/
namespace ProxyControl

open Text Listing

structure ServerStateRow where
  backendId : UInt32
  backendName : Text
  serverId : UInt32
  serverName : Text
  address : Text
  operationalState : UInt8
  adminState : UInt8
  userWeight : UInt32
  initialWeight : UInt32
  secondsSinceChange : UInt64
  fqdn : Option Text
  port : UInt16
  deriving DecidableEq, Repr

namespace ServerStateRow

def columnCount : Nat := 19

/-- Reads the columns of a row; those about health checks are passed over. -/
def ofRow (row : List Text) : Result ServerStateRow := do
  let line := join [' '] row
  let column (index : Nat) : Text := row[index]?.getD []
  let backendId ← number u32? (column 0) "be_id" line
  let serverId ← number u32? (column 2) "srv_id" line
  let operationalState ← number u8? (column 5) "srv_op_state" line
  let adminState ← number u8? (column 6) "srv_admin_state" line
  let userWeight ← number u32? (column 7) "srv_uweight" line
  let initialWeight ← number u32? (column 8) "srv_iweight" line
  let secondsSinceChange ← number u64? (column 9) "srv_time_since_last_change" line
  let port ← number u16? (column 18) "srv_port" line
  pure
    { backendId
      backendName := column 1
      serverId
      serverName := column 3
      address := column 4
      operationalState, adminState, userWeight, initialWeight, secondsSinceChange
      fqdn := if column 17 = "-" then none else some (column 17)
      port }

def readAll : Text → Result (List ServerStateRow) := readRows .whitespace columnCount ofRow

def list (backend : Option Text) : Request (List ServerStateRow) := .checked do
  let backend ← backend.mapM (Argument.value "backend")
  pure (.query (.showServersState backend) readAll)

end ServerStateRow

namespace ServerRef

def title (server : ServerRef) : Text := "server " ++ server.toText

def setState (server : ServerRef) (state : ServerState) : Request Unit :=
  .about server.title (.run (.setServerState server state))

def maxWeight : UInt16 := 256

def setWeight (server : ServerRef) (weight : UInt16) : Request Unit :=
  if maxWeight < weight then
    .refused (.invalidArgument ("server weight " ++ decimal weight.toNat ++ " exceeds 256"))
  else .about server.title (.run (.setServerWeight server weight))

def setAddress (server : ServerRef) (address : Text) (port : Option UInt16) : Request Unit :=
  .checked do
    let address ← Argument.name "server address" address
    pure (.about server.title (.run (.setServerAddress server address port)))

end ServerRef

end ProxyControl
