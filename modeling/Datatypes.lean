import Datatypes.Builtin
import Datatypes.Datatype
import Datatypes.Decimal.Binary64
import Datatypes.Definition
import Datatypes.Descriptor
import Datatypes.Digest.Sha1
import Datatypes.Error
import Datatypes.Identifier
import Datatypes.Journal
import Datatypes.Json.Merge
import Datatypes.Json.Number
import Datatypes.Json.Reader
import Datatypes.Json.Token
import Datatypes.Json.Value
import Datatypes.Json.Writer
import Datatypes.Literal
import Datatypes.Literal.Json
import Datatypes.Literal.Reader
import Datatypes.Literal.Typed
import Datatypes.Registry.Basic
import Datatypes.Registry.Client
import Datatypes.Registry.Error
import Datatypes.Registry.Registration
import Datatypes.Registry.Run
import Datatypes.Registry.Startup
import Datatypes.Settings
import Datatypes.Settings.Section
import Datatypes.Store
import Datatypes.Store.Faulty
import Datatypes.Store.Hashed
import Datatypes.Store.Ordered
import Datatypes.Text.CodeRanges
import Datatypes.Text.Extending
import Datatypes.Text.Inspect
import Datatypes.Text.Quoted
import Datatypes.Text.Unassigned
import Datatypes.Text.Unprintable
import Datatypes.Proofs.Store.Hashed
import Datatypes.Proofs.Literal
import Datatypes.Proofs.Registry.Answers
import Datatypes.Proofs.Registry.Candidates
import Datatypes.Proofs.Registry.Growth
import Datatypes.Proofs.Registry.Coherence
import Datatypes.Proofs.Registry.Precedence
import Datatypes.Proofs.Registry.Survivors
import Datatypes.Proofs.Registry.Batch
import Datatypes.Proofs.Registry.EmptyUri
import Datatypes.Proofs.Registry.Directions
import Datatypes.Proofs.Registry.Wording
import Datatypes.Proofs.Json.Token
import Datatypes.Proofs.Literal.Json
import Datatypes.Proofs.Registry.Sessions
import Datatypes.Proofs.Registry.Locality
import Datatypes.Proofs.Registry.Alike
import Datatypes.Proofs.Registry.Arrangement
import Datatypes.Proofs.Registry.Consultations
import Datatypes.Proofs.Registry.Drift
import Datatypes.Proofs.Registry.Events
import Datatypes.Proofs.Registry.Accounting
import Datatypes.Proofs.Registry.Storage
import Datatypes.Proofs.Registry.Strings
import Datatypes.Proofs.Json.Members
import Datatypes.Proofs.Json.Merge
import Datatypes.Proofs.Settings.Section
import Datatypes.Proofs.Settings.Layers
import Datatypes.Proofs.Settings.Kept
import Datatypes.Proofs.Registry.Acceptance
import Datatypes.Proofs.Registry.Definitions
import Datatypes.Proofs.Registry.Canonical
import Datatypes.Proofs.Literal.Text
import Datatypes.Proofs.Settings.Grammar
import Datatypes.Proofs.Registry.Failures
