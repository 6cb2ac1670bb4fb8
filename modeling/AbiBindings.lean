import AbiBindings.CommandLine.FileTree
import AbiBindings.Main
import AbiBindings.Proofs.Fingerprint.Framing
import AbiBindings.Proofs.Fingerprint.Injective
import AbiBindings.Proofs.Manifest.Nodes
import AbiBindings.Proofs.Manifest.Valid
import AbiBindings.Proofs.Json.Objects
import AbiBindings.Proofs.Json.ParsedKeys
import AbiBindings.Proofs.Manifest.Spelling
import AbiBindings.Proofs.Manifest.TypeSpelling
import AbiBindings.Proofs.Manifest.NodeSpelling
import AbiBindings.Proofs.Manifest.Acceptance
import AbiBindings.Proofs.Bindings.FirstRepeat
import AbiBindings.Proofs.Bindings.Rendering
import AbiBindings.Proofs.Bindings.Outcome
import AbiBindings.Proofs.Layout.Lines
import AbiBindings.Proofs.TypeScript.Lexing
import AbiBindings.Proofs.TypeScript.LexedLayout
import AbiBindings.Proofs.TypeScript.LexedModules
import AbiBindings.Proofs.Bindings.ClosedTypes
import AbiBindings.Proofs.Bindings.Containment
import AbiBindings.Proofs.TypeScript.Readers
import AbiBindings.Proofs.TypeScript.TypeReading
import AbiBindings.Proofs.TypeScript.CodeLines
import AbiBindings.Proofs.TypeScript.MethodReading
import AbiBindings.Proofs.Bindings.Written
import AbiBindings.Proofs.TypeScript.ClientReading
import AbiBindings.Proofs.Bindings.ClientSources
import AbiBindings.Proofs.Bindings.Forwarding
import AbiBindings.Proofs.Layout.TextLines
import AbiBindings.Proofs.TypeScript.DeclarationReading
import AbiBindings.Proofs.Bindings.TypeBlocks
import AbiBindings.Proofs.Bindings.References
import AbiBindings.Proofs.Bindings.Hygiene
import AbiBindings.Proofs.Bindings.ModuleBody
import AbiBindings.Proofs.Bindings.Erasure
import AbiBindings.Proofs.Bindings.TableNames
import AbiBindings.Proofs.Bindings.Capture
import AbiBindings.Proofs.Bindings.Ambiguity
import AbiBindings.Proofs.Bindings.RenderedShapes
import AbiBindings.Proofs.Manifest.FirstViolation
import AbiBindings.Proofs.CommandLine.Trees
import AbiBindings.Proofs.CommandLine.Effects
import AbiBindings.Proofs.Manifest.WrittenOut
import AbiBindings.Proofs.Manifest.WrittenNodes
import AbiBindings.Proofs.Manifest.Shaped
import AbiBindings.Proofs.Layout.Levels
import AbiBindings.Proofs.Layout.Rows
import AbiBindings.Proofs.Layout.Truncation
import AbiBindings.Proofs.TypeScript.CommentReading
import AbiBindings.Proofs.TypeScript.ClientParts
import AbiBindings.Proofs.Bindings.Handling
import AbiBindings.Proofs.Bindings.Idents
import AbiBindings.Proofs.TypeScript.Quoting
import AbiBindings.Proofs.Manifest.Visits
import AbiBindings.Proofs.Bindings.VisitedNames
