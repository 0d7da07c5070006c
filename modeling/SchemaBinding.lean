import SchemaBinding.CommandLine.Run
import SchemaBinding.Main
import SchemaBinding.Proofs.Annotation
import SchemaBinding.Proofs.Component.Bounds
import SchemaBinding.Proofs.Component.Registration
import SchemaBinding.Proofs.Component.Registered
import SchemaBinding.Proofs.Component.Registry
import SchemaBinding.Proofs.Component.Respelled
import SchemaBinding.Proofs.Content.Declared
import SchemaBinding.Proofs.Content.Effective
import SchemaBinding.Proofs.Content.Inheritance
import SchemaBinding.Proofs.Content.Levels
import SchemaBinding.Proofs.Content.Prohibition
import SchemaBinding.Proofs.Emission.Claimed
import SchemaBinding.Proofs.Emission.Confined
import SchemaBinding.Proofs.Emission.Exact
import SchemaBinding.Proofs.Emission.FreeFile
import SchemaBinding.Proofs.Emission.Identifiers
import SchemaBinding.Proofs.Emission.Numbered
import SchemaBinding.Proofs.Emission.Order
import SchemaBinding.Proofs.Emission.OwnStruct
import SchemaBinding.Proofs.Emission.Range
import SchemaBinding.Proofs.Emission.Reach
import SchemaBinding.Proofs.Emission.Roots
import SchemaBinding.Proofs.Emission.Tags
import SchemaBinding.Proofs.Loading.Destination
import SchemaBinding.Proofs.Loading.Load
import SchemaBinding.Proofs.Loading.Loaded
import SchemaBinding.Proofs.Name.Underscores
import SchemaBinding.Proofs.Particle.Cardinality
import SchemaBinding.Proofs.Particle.Expansion
import SchemaBinding.Proofs.Particle.Inlining
import SchemaBinding.Proofs.Particle.Language
import SchemaBinding.Proofs.Relaxation
import SchemaBinding.Proofs.Report
import SchemaBinding.Proofs.Resolution.Reference
import SchemaBinding.Proofs.Resolution.Regrouped
import SchemaBinding.Proofs.Resolution.Unprefixed
import SchemaBinding.Proofs.Resolution.Unwinding
import SchemaBinding.Proofs.SchemaSet.Lookup
import SchemaBinding.Proofs.Struct.Comments
import SchemaBinding.Proofs.Struct.Unnamed
