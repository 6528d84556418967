import ServerScaffold.Context.Data
import ServerScaffold.Proofs.AliasClosure
import ServerScaffold.Proofs.Expansion
import ServerScaffold.Proofs.Assembly
import ServerScaffold.Proofs.Completeness
import ServerScaffold.Proofs.Destinations
import ServerScaffold.Proofs.Directives
import ServerScaffold.Proofs.Includes
import ServerScaffold.Proofs.Verdict
import ServerScaffold.Proofs.Removal
import ServerScaffold.Proofs.Outlines
import ServerScaffold.Proofs.Scopes
import ServerScaffold.Proofs.Classes
import ServerScaffold.Proofs.ModelImports
import ServerScaffold.Proofs.Inlining
import ServerScaffold.Proofs.Branches
import ServerScaffold.Proofs.Identifiers
import ServerScaffold.Proofs.Chains
import ServerScaffold.Proofs.Forms
import ServerScaffold.Proofs.Overrides
import ServerScaffold.Proofs.Members
import ServerScaffold.Proofs.Compositions
import ServerScaffold.Proofs.SoleParts
import ServerScaffold.Proofs.Enumerations
import ServerScaffold.Proofs.ResolvedTypes
import ServerScaffold.Proofs.Alike
import ServerScaffold.Proofs.Answers
import ServerScaffold.Proofs.TypeLists
import ServerScaffold.Proofs.ReferredClasses
import ServerScaffold.Proofs.Printing
import ServerScaffold.Proofs.Initials
import ServerScaffold.Proofs.ReservedWords
import ServerScaffold.Proofs.ResolvedDirectives
import ServerScaffold.Proofs.Routes
import ServerScaffold.Proofs.ParameterTypes
import ServerScaffold.Proofs.RawContent
import ServerScaffold.Proofs.Namespaces
import ServerScaffold.Proofs.Runs
