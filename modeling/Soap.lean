import Soap.Client
import Soap.Proofs.Credentials
import Soap.Proofs.Definitions.Agreement
import Soap.Proofs.Definitions.Convention
import Soap.Proofs.Definitions.Coverage
import Soap.Proofs.Definitions.Declaration
import Soap.Proofs.Definitions.Equality
import Soap.Proofs.Definitions.History
import Soap.Proofs.Definitions.Integrity
import Soap.Proofs.Definitions.Lookup
import Soap.Proofs.Definitions.Naming
import Soap.Proofs.Definitions.Ordering
import Soap.Proofs.Definitions.Origin
import Soap.Proofs.Definitions.Ownership
import Soap.Proofs.Definitions.Parts
import Soap.Proofs.Definitions.References
import Soap.Proofs.Definitions.Scoping
import Soap.Proofs.Definitions.Strictness
import Soap.Proofs.Definitions.Traversal
import Soap.Proofs.Document
import Soap.Proofs.Document.Building
import Soap.Proofs.Document.Grammar
import Soap.Proofs.Document.Scope
import Soap.Proofs.Envelope.Acceptance
import Soap.Proofs.Envelope.Bare
import Soap.Proofs.Envelope.Conformance
import Soap.Proofs.Envelope.Depth
import Soap.Proofs.Envelope.Document
import Soap.Proofs.Envelope.Fault
import Soap.Proofs.Envelope.Fields
import Soap.Proofs.Envelope.Following
import Soap.Proofs.Envelope.Growth
import Soap.Proofs.Envelope.Header
import Soap.Proofs.Envelope.Image
import Soap.Proofs.Envelope.Meaning
import Soap.Proofs.Envelope.Numbering
import Soap.Proofs.Envelope.Outline
import Soap.Proofs.Envelope.Places
import Soap.Proofs.Envelope.Prefixes
import Soap.Proofs.Envelope.Qualification
import Soap.Proofs.Envelope.Reading
import Soap.Proofs.Envelope.Redirection
import Soap.Proofs.Envelope.Rereading
import Soap.Proofs.Envelope.Root
import Soap.Proofs.Envelope.RoundTrip
import Soap.Proofs.Envelope.Shape
import Soap.Proofs.Envelope.Sharing
import Soap.Proofs.Envelope.Siblings
import Soap.Proofs.Envelope.Splicing
import Soap.Proofs.Envelope.Tree
import Soap.Proofs.Except
import Soap.Proofs.Location
import Soap.Proofs.Loopback
import Soap.Proofs.Namespace
import Soap.Proofs.Namespace.Attempts
import Soap.Proofs.Namespace.Bijection
import Soap.Proofs.Namespace.Declaring
import Soap.Proofs.Namespace.History
import Soap.Proofs.Namespace.Minting
import Soap.Proofs.Namespace.TwoWay
import Soap.Proofs.OrderedMap
import Soap.Proofs.Routing
import Soap.Proofs.Schema.Adoption
import Soap.Proofs.Schema.Depth
import Soap.Proofs.Schema.Describer
import Soap.Proofs.Schema.Merging
import Soap.Proofs.Schema.Origin
import Soap.Proofs.Schema.Reachability
import Soap.Proofs.Schema.Search
import Soap.Proofs.Schema.Trail
import Soap.Proofs.Server
import Soap.Proofs.Server.Authentication
import Soap.Proofs.Server.Delivery
import Soap.Proofs.Server.Failure
import Soap.Proofs.Server.Paths
import Soap.Proofs.Server.Race
import Soap.Proofs.Style
import Soap.Proofs.Text.Integer
import Soap.Proofs.Text.Split
import Soap.Proofs.Text.Utf8
import Soap.Proofs.Timestamp
import Soap.Proofs.Timestamp.Rereading
import Soap.Proofs.Url
import Soap.Proofs.Value.Complete
import Soap.Proofs.Value.Exchange
import Soap.Proofs.Value.Numeral
import Soap.Proofs.Value.Scalar
import Soap.Proofs.Value.Stack
import Soap.Proofs.Value.Unfolding
import Soap.Proofs.Xml.Attribute
import Soap.Proofs.Xml.Element
import Soap.Proofs.Xml.Markup
import Soap.Proofs.Xml.Name
import Soap.Proofs.Xml.Nesting
import Soap.Proofs.Xml.Normalization
import Soap.Proofs.Xml.Quoting
import Soap.Proofs.Xml.Reading
import Soap.Proofs.Xml.Tag
import Soap.Server
import Soap.Source.File
import Soap.Xml.Reader
