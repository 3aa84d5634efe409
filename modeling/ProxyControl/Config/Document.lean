import ProxyControl.Config.Basic
import ProxyControl.Config.Written.Value
import ProxyControl.Text.Utf8

/-!
# Configuration documents

A document is a list of entries followed by sections, and each section is headed by its path in
double brackets. A configuration has entries for its settings and one section for each worker
socket, or an entry that lists the sockets. A key that means nothing, or that is given twice,
makes the document invalid.
-/
namespace ProxyControl

open Text

namespace Config

structure Section where
  path : Path
  entries : Table

structure Document where
  entries : Table
  sections : List Section

namespace Document

/-- What follows on the next line, if nothing but a comment is left on this one. -/
def nextLine? (text : Text) : Option Text :=
  match Written.skipBlanks text with
  | [] => some []
  | c :: rest =>
    if c = '#' || Written.endsLine c rest then some (Written.skipFiller false (c :: rest)) else none

/-- The path in a section's header. -/
def header? (text : Text) : Option (Path × Text) := do
  let text ← after? "[[" text
  let (path, text) ← Written.path? Written.nestingLimit text
  let text ← after? "]]" text
  let text ← nextLine? text
  pure (path, text)

/-- The document in at most `steps` headers and entries. -/
def lines? : Nat → Text → Option Document
  | _, [] => some ⟨[], []⟩
  | 0, _ => none
  | steps + 1, '[' :: text => do
    let (path, text) ← header? ('[' :: text)
    let document ← lines? steps text
    pure ⟨[], ⟨path, document.entries⟩ :: document.sections⟩
  | steps + 1, text => do
    let (entry, text) ← Written.entry? text.length Written.nestingLimit text
    let text ← nextLine? text
    let document ← lines? steps text
    pure { document with entries := entry :: document.entries }

/-- Reads a document, a byte order mark in front of it apart. -/
def read? (text : Text) : Option Document :=
  lines? text.length (Written.skipFiller false (withoutStart ['\uFEFF'] text))

end Document

end Config

namespace WorkerSocket

def process? (value : Config.Value) : Option (Option UInt32) :=
  (value.asUnsigned? 32).map fun n => some (UInt32.ofNat n)

def ofTable? (table : Config.Table) : Option WorkerSocket := do
  guard (table.isConsistent && table.hasKeys ["path", "process"])
  let path ← table.value? "path"
  let path ← path.asText?
  let process ← table.get? "process" none process?
  pure { path, process }

/-- A socket may also be given as the bare list of its path and its number; what follows these
does not count. -/
def ofValue? : Config.Value → Option WorkerSocket
  | .table entries => ofTable? entries
  | .list [path] => path.asText?.map fun path => { path }
  | .list (path :: process :: _) => do
    let path ← path.asText?
    let process ← process? process
    pure { path, process }
  | _ => none

def listOfValue? : Config.Value → Option (List WorkerSocket)
  | .list items => items.mapM ofValue?
  | _ => none

end WorkerSocket

namespace Config

def ofDocument? (document : Document) : Option Config := do
  let table := document.entries
  guard (table.isConsistent
    && table.hasKeys ["sockets", "master_socket", "timeout_secs", "queue_capacity", "retry"])
  -- sockets come either as a key of the document or as its sections, and nothing else has any
  guard (document.sections.all fun part => part.path = [("sockets" : Text)])
  guard (document.sections.isEmpty || (table.value? "sockets").isNone)
  let listed ← table.get? "sockets" [] WorkerSocket.listOfValue?
  let headed ← document.sections.mapM fun part => WorkerSocket.ofTable? part.entries
  let usual : Config := {}
  let masterSocket ← table.get? "master_socket" none fun value => value.asText?.map some
  let timeout ← table.get? "timeout_secs" usual.timeoutSeconds.toNat (Value.asUnsigned? 64)
  let capacity ← table.get? "queue_capacity" usual.queueCapacity.toNat (Value.asUnsigned? 64)
  let retry ← table.get? "retry" usual.retry Value.asFlag?
  pure {
    sockets := listed ++ headed
    masterSocket
    timeoutSeconds := UInt64.ofNat timeout
    queueCapacity := UInt64.ofNat capacity
    retry
  }

/-- The configuration in a text. Whatever is wrong with the text, the reason is the same: what the
TOML library has to say about it is left out. -/
def ofText (text : Text) : Result Config :=
  match (Document.read? text).bind ofDocument? with
  | some config => .ok config
  | none => .error (.config "invalid TOML")

/-- The configuration in a file, given what came of reading the file. -/
def ofFile (path : Text) (contents : Except Text (List UInt8)) : Result Config :=
  let unreadable (reason : Text) : Result Config :=
    .error (.config ("cannot read " ++ path ++ ": " ++ reason))
  match contents with
  | .error reason => unreadable reason
  | .ok bytes =>
    match Utf8.decode? bytes with
    | some text => ofText text
    | none => unreadable "stream did not contain valid UTF-8"

end Config

end ProxyControl
