import DexQuery.Keyed
import DexQuery.Text.Blank
import DexQuery.Text.Offset
import DexQuery.Descriptor.Reader
import DexQuery.Descriptor.Name
import DexQuery.Source.Literal
import DexQuery.Source.Member
import DexQuery.Source.Disassembly
import DexQuery.Unicode.Shown
import DexQuery.Unicode.Letter
import DexQuery.Unicode.Property
import DexQuery.CharSet.Class
import DexQuery.Failure
import DexQuery.Digest.Sha256
import DexQuery.Json.Reader
import DexQuery.Json.Writer
import DexQuery.Json.Decode
import DexQuery.Cache.Basic
import DexQuery.Cache.Key
import DexQuery.Alias.Store
import DexQuery.Engine.Snapshot
import DexQuery.Engine.Json
import DexQuery.Pattern.Reader
import DexQuery.Operation.Schema
import DexQuery.Operation.Manual
import DexQuery.Operation.Request
import DexQuery.Session.Run
import DexQuery.Transport.Agent
import DexQuery.Transport.Rest
import DexQuery.Transport.Message
import DexQuery.CommandLine
import DexQuery.Main
import DexQuery.Proofs.Text.Index
import DexQuery.Proofs.Descriptor.ElementType
import DexQuery.Proofs.Descriptor.TypeList
import DexQuery.Proofs.Descriptor.MethodCodec
import DexQuery.Proofs.Descriptor.FieldCodec
import DexQuery.Proofs.Descriptor.EntityCodec
import DexQuery.Proofs.Descriptor.Component
import DexQuery.Proofs.Text.Blank
import DexQuery.Proofs.Text.Encoding
import DexQuery.Proofs.Text.Line
import DexQuery.Proofs.Source.Token
import DexQuery.Proofs.Source.Turn
import DexQuery.Proofs.Source.Walk
import DexQuery.Proofs.Source.Visited
import DexQuery.Proofs.Source.Bounds
import DexQuery.Proofs.Source.Alone
import DexQuery.Proofs.Source.Rendering
import DexQuery.Proofs.Source.Masking
import DexQuery.Proofs.Source.Member
import DexQuery.Proofs.Source.Brace
import DexQuery.Proofs.Source.Disassembly
import DexQuery.Proofs.Operation.Reading
import DexQuery.Proofs.Operation.Arguments
import DexQuery.Proofs.Operation.Subject
import DexQuery.Proofs.Operation.Checking
import DexQuery.Proofs.Operation.Content
import DexQuery.Proofs.Operation.Renaming
import DexQuery.Proofs.Json.Ordered
import DexQuery.Proofs.Json.Record
import DexQuery.Proofs.Answer.Failure
import DexQuery.Proofs.Answer.Data
import DexQuery.Proofs.Answer.Grouping
import DexQuery.Proofs.Answer.Overlay
import DexQuery.Proofs.Files.Writable
import DexQuery.Proofs.Cache.Contents
import DexQuery.Proofs.Session.Stores
import DexQuery.Proofs.Session.Uncached
import DexQuery.Proofs.Session.UnitText
import DexQuery.Proofs.Session.StringSearch
import DexQuery.Proofs.Session.MethodText
import DexQuery.Proofs.Session.Overlay
import DexQuery.Proofs.Session.Fault
import DexQuery.Proofs.Session.Known
import DexQuery.Proofs.Service.Registry
import DexQuery.Proofs.Service.Consistency
import DexQuery.Proofs.Service.Lifecycle
import DexQuery.Proofs.Service.Run
import DexQuery.Proofs.Service.Still
import DexQuery.Proofs.Service.Transparency
import DexQuery.Proofs.Service.Isolation
import DexQuery.Proofs.Service.Overlay
import DexQuery.Proofs.Service.Refusal
import DexQuery.Proofs.Service.Writes
import DexQuery.Proofs.Service.Atomic
import DexQuery.Proofs.Service.Listing
import DexQuery.Proofs.Transport.Equivalence
import DexQuery.Proofs.Transport.Envelope
import DexQuery.Proofs.Transport.Restored
import DexQuery.Proofs.Service.Renames
import DexQuery.Proofs.Answer.PackageTree
import DexQuery.Proofs.Session.Reordering
import DexQuery.Proofs.Session.Recital
import DexQuery.Proofs.Service.Reordering
import DexQuery.Proofs.Session.Record
import DexQuery.Proofs.Service.Record
import DexQuery.Proofs.Answer.PackageName
import DexQuery.Proofs.Session.PackageListing
import DexQuery.Proofs.Session.Findings
import DexQuery.Proofs.Session.SearchErrors
import DexQuery.Proofs.Session.Attribution
import DexQuery.Proofs.Source.Placed
import DexQuery.Proofs.Session.AttributedText
import DexQuery.Proofs.Descriptor.Name
import DexQuery.Proofs.Alias.Store
import DexQuery.Proofs.Cache.Key
import DexQuery.Proofs.Service.Origin
import DexQuery.Proofs.Session.References
