import Depot.Access
import Depot.Client
import Depot.Client.Cache
import Depot.Client.Draft
import Depot.Config
import Depot.Context
import Depot.Demo
import Depot.Disk
import Depot.Entry
import Depot.Entry.Record
import Depot.Failure
import Depot.FileName
import Depot.Glob
import Depot.Instant
import Depot.Main
import Depot.Name
import Depot.Namespace
import Depot.NamespaceFiles
import Depot.Proofs.Access.Callers
import Depot.Proofs.Access.Containment
import Depot.Proofs.Access.Grants
import Depot.Proofs.Action.Calls
import Depot.Proofs.Action.Footprint
import Depot.Proofs.Action.Invariant
import Depot.Proofs.Action.Settled
import Depot.Proofs.Action.Success
import Depot.Proofs.Cache.Entry
import Depot.Proofs.Cache.Expiry
import Depot.Proofs.Cache.Faults
import Depot.Proofs.Cache.Register
import Depot.Proofs.Client.AllOrNothing
import Depot.Proofs.Client.Ask
import Depot.Proofs.Client.Confinement
import Depot.Proofs.Client.Conflict
import Depot.Proofs.Client.FileSteps
import Depot.Proofs.Client.Footprint
import Depot.Proofs.Client.HandedOut
import Depot.Proofs.Client.Invariant
import Depot.Proofs.Client.Leaves
import Depot.Proofs.Client.Listing
import Depot.Proofs.Client.OwnPath
import Depot.Proofs.Client.Paths
import Depot.Proofs.Client.Rejection
import Depot.Proofs.Client.Removal
import Depot.Proofs.Client.Request
import Depot.Proofs.Client.RoundTrip
import Depot.Proofs.Client.Selection
import Depot.Proofs.Client.Tree
import Depot.Proofs.Client.Uploads
import Depot.Proofs.Except
import Depot.Proofs.Glob.Itself
import Depot.Proofs.Glob.Segments
import Depot.Proofs.Glob.Tokens
import Depot.Proofs.Layout.Areas
import Depot.Proofs.Layout.CacheAddress
import Depot.Proofs.Layout.Cleanup
import Depot.Proofs.Layout.Named
import Depot.Proofs.Layout.Scopes
import Depot.Proofs.Layout.Verbatim
import Depot.Proofs.Layout.Ways
import Depot.Proofs.Store.History
import Depot.Proofs.Store.Leaves
import Depot.Proofs.Store.Listing
import Depot.Proofs.Store.Lookup
import Depot.Proofs.Store.Tree
import Depot.Proofs.Uri.Below
import Depot.Proofs.Uri.Guards
import Depot.Proofs.Uri.ReadBack
import Depot.Proofs.Uri.Segments
import Depot.Proofs.Url.Authority
import Depot.Proofs.Url.Escapes
import Depot.Store
import Depot.Text.Ascii
import Depot.Text.Composed
import Depot.Text.Direction
import Depot.Text.Joining
import Depot.Text.Marks
import Depot.Text.Pieces
import Depot.Text.Quoted
import Depot.Text.Rows
import Depot.Text.Unseen
import Depot.Text.Utf8
import Depot.Toml.Document
import Depot.Toml.Number
import Depot.Toml.Quoted
import Depot.Toml.Reader
import Depot.Toml.Tree
import Depot.Ulid
import Depot.Uri
import Depot.Uri.Order
import Depot.Url.Address
import Depot.Url.Authority
import Depot.Url.Basic
import Depot.Url.Domain
import Depot.Url.Domain.Folding
import Depot.Url.Domain.Punycode
import Depot.Url.LocalFile
import Depot.Url.Parse
import Depot.Url.Path
import Depot.Url.Percent
import Depot.Url.Segment
import Depot.Url.Web
import Depot.Value
import Depot.Value.Json
import Depot.World
import Depot.Proofs.Client.OwnPath
import Depot.Proofs.Layout.Verbatim
