import ProxyControl.Acme
import ProxyControl.Frame.Stream
import ProxyControl.Pattern.Acl
import ProxyControl.Pattern.Map
import ProxyControl.Pattern.VersionedUpdate
import ProxyControl.Instance.Info
import ProxyControl.Server.State
import ProxyControl.StickTable
import ProxyControl.Store.CaFile
import ProxyControl.Store.CrlFile
import ProxyControl.Store.CrtList
import ProxyControl.Store.Ocsp
import ProxyControl.Store.Transaction
import ProxyControl.Config.Basic
import ProxyControl.Config.Document
import ProxyControl.Dispatch.Basic
import ProxyControl.Dispatch.Dispatcher
import ProxyControl.Event.Basic
import ProxyControl.Event.Listener
import ProxyControl.Proofs.Command.Ending
import ProxyControl.Proofs.Dispatch.Destination
import ProxyControl.Proofs.Dispatch.InTime
import ProxyControl.Proofs.Dispatch.Isolation
import ProxyControl.Proofs.Event.Written
import ProxyControl.Proofs.Pattern.Listed
import ProxyControl.Proofs.Request.Failure
import ProxyControl.Proofs.Store.CrtEntry
import ProxyControl.Proofs.Store.DetailView
import ProxyControl.Proofs.Store.FailedCommit
import ProxyControl.Proofs.Store.Listed
import ProxyControl.Proofs.Wire
import ProxyControl.Proofs.Pattern.Written
import ProxyControl.Proofs.Request.Missing
import ProxyControl.Proofs.Request.Refused
import ProxyControl.Proofs.Pattern.Version
import ProxyControl.Proofs.Text.Utf8
import ProxyControl.Proofs.Frame.Reading
import ProxyControl.Proofs.Frame.RoundTrip
import ProxyControl.Proofs.Frame.Judgement
import ProxyControl.Proofs.Command.Payload
import ProxyControl.Proofs.Listing.ReadingOrder
import ProxyControl.Proofs.Listing.Numbered
import ProxyControl.Proofs.Store.CaFile
import ProxyControl.Proofs.Store.RevocationPairs
import ProxyControl.Proofs.Listing.Rows
import ProxyControl.Proofs.Listing.RowOrder
import ProxyControl.Proofs.Listing.EntryGrammar
import ProxyControl.Proofs.Pattern.Printed
import ProxyControl.Proofs.StickTable
import ProxyControl.Proofs.Pattern.Searched
import ProxyControl.Proofs.Listing.Tolerant
import ProxyControl.Proofs.Dispatch.Deadline
import ProxyControl.Proofs.Dispatch.QueueBound
import ProxyControl.Proofs.Store.LastLines
import ProxyControl.Proofs.Date.Civil
