import ProxyControl.Command
import ProxyControl.Pattern.Basic
import ProxyControl.Server

/-!
# The vocabulary of the command line

One constructor for each command that the proxy is ever sent. Arguments are put in as they are;
checking them is up to the requests.
-/
namespace ProxyControl.Command

def showLevel : Command := ofText "show cli level"

def showSockets : Command := ofText "show cli sockets"

def showInfo : Command := ofText "show info"

def showErrors : Command := ofText "show errors"

def showBackendErrors (backend : BackendId) (side : ErrorSide) : Command :=
  match side with
  | .all => ofText ("show errors " ++ backend.toText)
  | side => ofText ("show errors " ++ backend.toText ++ " " ++ side.word)

def showPatterns (kind : PatternKind) : Command := ofText ("show " ++ kind.word)

/-- A verb applied to one map or ACL. -/
def onPatterns (verb : Text) (kind : PatternKind) (id : PatternRef) : Command :=
  ofText (verb ++ " " ++ kind.word ++ " " ++ id.toText)

def showPatternEntries : PatternKind → PatternRef → Command := onPatterns "show"

def clearPatterns : PatternKind → PatternRef → Command := onPatterns "clear"

def preparePatterns : PatternKind → PatternRef → Command := onPatterns "prepare"

/-- A verb applied to one key of a map or ACL. -/
def onPattern (verb : Text) (kind : PatternKind) (id : PatternRef) (key : Text) : Command :=
  ofText (verb ++ " " ++ kind.word ++ " " ++ id.toText ++ " " ++ key)

def getPattern : PatternKind → PatternRef → Text → Command := onPattern "get"

def addPattern : PatternKind → PatternRef → Text → Command := onPattern "add"

def deletePattern : PatternKind → PatternRef → Text → Command := onPattern "del"

def addVersioned (kind : PatternKind) (version : UInt64) (id : PatternRef) (payload : Text) :
    Command :=
  (ofText ("add " ++ kind.word ++ " @" ++ Text.decimal version.toNat ++ " " ++ id.toText))
    |>.withPayload payload

def commitVersion (kind : PatternKind) (version : UInt64) (id : PatternRef) : Command :=
  ofText ("commit " ++ kind.word ++ " @" ++ Text.decimal version.toNat ++ " " ++ id.toText)

def addMapping (id : PatternRef) (key value : Text) : Command :=
  ofText ("add map " ++ id.toText ++ " " ++ key ++ " " ++ value)

def addMappings (id : PatternRef) (payload : Text) : Command :=
  (ofText ("add map " ++ id.toText)).withPayload payload

def setMapping (id : PatternRef) (key value : Text) : Command :=
  ofText ("set map " ++ id.toText ++ " " ++ key ++ " " ++ value)

def showStore (store : Text) : Command := ofText ("show ssl " ++ store)

/-- A verb applied to one stored file. -/
def onStored (verb store name : Text) : Command :=
  ofText (verb ++ " ssl " ++ store ++ " " ++ name)

def showStored (store name : Text) : Command := onStored "show" store name

def newStored (store name : Text) : Command := onStored "new" store name

def setStored (store name payload : Text) : Command :=
  (onStored "set" store name).withPayload payload

def addStored (store name payload : Text) : Command :=
  (onStored "add" store name).withPayload payload

def commitStored (store name : Text) : Command := onStored "commit" store name

def abortStored (store name : Text) : Command := onStored "abort" store name

def deleteStored (store name : Text) : Command := onStored "del" store name

def showCrtLists : Command := ofText "show ssl crt-list"

def showCrtListEntries (list : Text) : Command := ofText ("show ssl crt-list -n " ++ list)

def addCrtListEntry (list line : Text) : Command :=
  (ofText ("add ssl crt-list " ++ list)).withPayload line

def deleteCrtListEntry (list entry : Text) : Command :=
  ofText ("del ssl crt-list " ++ list ++ " " ++ entry)

def showOcspResponses : Command := ofText "show ssl ocsp-response"

def showOcspResponse (id : Text) : Command := ofText ("show ssl ocsp-response " ++ id)

def setOcspResponse (base64 : Text) : Command :=
  (ofText "set ssl ocsp-response").withPayload base64

def updateOcspResponse (certificate : Text) : Command :=
  ofText ("update ssl ocsp-response " ++ certificate)

def showTables : Command := ofText "show table"

def showTableEntries (table : Text) (filter : Option Text) : Command :=
  match filter with
  | some filter => ofText ("show table " ++ table ++ " " ++ filter)
  | none => ofText ("show table " ++ table)

def acmeStatus : Command := ofText "acme status"

def acmeRenew (certificate : Text) : Command := ofText ("acme renew " ++ certificate)

def setServerState (server : ServerRef) (state : ServerState) : Command :=
  ofText ("set server " ++ server.toText ++ " state " ++ state.word)

def setServerWeight (server : ServerRef) (weight : UInt16) : Command :=
  ofText ("set server " ++ server.toText ++ " weight " ++ Text.decimal weight.toNat)

def setServerAddress (server : ServerRef) (address : Text) (port : Option UInt16) : Command :=
  match port with
  | some port =>
    ofText ("set server " ++ server.toText ++ " addr " ++ address ++ " port "
      ++ Text.decimal port.toNat)
  | none => ofText ("set server " ++ server.toText ++ " addr " ++ address)

def showServersState (backend : Option Text) : Command :=
  match backend with
  | some backend => ofText ("show servers state " ++ backend)
  | none => ofText "show servers state"

end ProxyControl.Command
