import FragmentAssembly.Assembler
import FragmentAssembly.Records
import FragmentAssembly.Registrations.Parser
import FragmentAssembly.Repository.Execution
import FragmentAssembly.Proofs.Composition.Dispatch
import FragmentAssembly.Proofs.Composition.Placing
import FragmentAssembly.Proofs.Resolution.Layout
import FragmentAssembly.Proofs.Repository.Perform
import FragmentAssembly.Proofs.Fragment.Stages
import FragmentAssembly.Proofs.Invocation.Restoration
import FragmentAssembly.Proofs.Journal.Basic
import FragmentAssembly.Proofs.Journal.Recording
import FragmentAssembly.Proofs.Journal.Innermost
import FragmentAssembly.Proofs.Repository.EndToEnd
import FragmentAssembly.Proofs.Name.Identifiers
import FragmentAssembly.Proofs.Name.Segments
import FragmentAssembly.Proofs.Resolution.Selection
import FragmentAssembly.Proofs.Events.Laws
import FragmentAssembly.Proofs.Journal.Interchange
import FragmentAssembly.Proofs.Fragment.Materialization
import FragmentAssembly.Proofs.Resolution.Outline
import FragmentAssembly.Proofs.Repository.Creation
import FragmentAssembly.Proofs.Registrations.Reading
import FragmentAssembly.Proofs.Resolution.Exclusion
import FragmentAssembly.Proofs.Resolution.Identity
import FragmentAssembly.Proofs.Assembly.Copies
import FragmentAssembly.Proofs.Assembly.Session
import FragmentAssembly.Proofs.Assembly.CheckedInstances
import FragmentAssembly.Proofs.Assembly.Growth
import FragmentAssembly.Proofs.Composition.Occupants
import FragmentAssembly.Proofs.Tasks.Basic
import FragmentAssembly.Proofs.Tasks.Restoration
import FragmentAssembly.Proofs.Tasks.Innermost
import FragmentAssembly.Proofs.Text.Trimming
import FragmentAssembly.Proofs.Signature.Brackets
import FragmentAssembly.Proofs.Signature.Grammar
import FragmentAssembly.Proofs.Text.Offsets
import FragmentAssembly.Proofs.Signature.Scanning
import FragmentAssembly.Proofs.Signature.RoundTrip
import FragmentAssembly.Proofs.Journal.Essence
import FragmentAssembly.Proofs.Journal.Echoes
import FragmentAssembly.Proofs.Tasks.Apart
import FragmentAssembly.Proofs.Resolution.Binding
import FragmentAssembly.Proofs.Composition.Extending
import FragmentAssembly.Proofs.Registrations.Merging
import FragmentAssembly.Proofs.Registrations.Joining
import FragmentAssembly.Proofs.Registrations.Continuations
import FragmentAssembly.Proofs.Registrations.Algebra
import FragmentAssembly.Proofs.Invocation.Guards
import FragmentAssembly.Proofs.Invocation.Nesting
import FragmentAssembly.Proofs.Resolution.Independence
import FragmentAssembly.Proofs.Resolution.Merging
import FragmentAssembly.Proofs.Repository.Equivalence
import FragmentAssembly.Proofs.Records.RoundTrip
import FragmentAssembly.Proofs.Records.PartialConfigurations
import FragmentAssembly.Proofs.Catalog.Registering
