import NativeBindings.Unicode.Blank
import NativeBindings.Unicode.Case
import NativeBindings.Unicode.Numeric
import NativeBindings.JavaType.Descriptor
import NativeBindings.Declaration
import NativeBindings.Document.Json
import NativeBindings.Document.Toml
import NativeBindings.NativeClass
import NativeBindings.FileTree
import NativeBindings.Sink
import NativeBindings.Binding.Printer
import NativeBindings.Batch
import NativeBindings.Catalog
import NativeBindings.Proofs.DescriptorReading
import NativeBindings.Proofs.Escaping
import NativeBindings.Proofs.EscapeInverse
import NativeBindings.Proofs.Resolution
import NativeBindings.Proofs.SymbolDecoding
import NativeBindings.Proofs.SymbolUniqueness
import NativeBindings.Proofs.ModuleChecks
import NativeBindings.Proofs.PartialWriting
import NativeBindings.Proofs.RenderOutcome
import NativeBindings.Proofs.Linking
import NativeBindings.Proofs.UsableName
import NativeBindings.Proofs.NumberedSearch
import NativeBindings.Proofs.ParameterNames
import NativeBindings.Proofs.FreshNames
import NativeBindings.Proofs.SymbolWords
import NativeBindings.Proofs.GeneratedNames
import NativeBindings.Proofs.NativeSurface
import NativeBindings.Proofs.OverloadNames
import NativeBindings.Proofs.LookupName
import NativeBindings.Proofs.TreeGrowth
import NativeBindings.Proofs.AtomicWriting
import NativeBindings.Proofs.Delivery
import NativeBindings.Proofs.ModulePath
import NativeBindings.Proofs.OutputPath
import NativeBindings.Proofs.BatchIsolation
import NativeBindings.Proofs.DeclarationOrder
import NativeBindings.Proofs.DescriptorForm
import NativeBindings.Proofs.TypeNotation
import NativeBindings.Proofs.ResolutionFaults
import NativeBindings.Proofs.TypeDisplay
import NativeBindings.Proofs.TypeErasure
import NativeBindings.Proofs.ParameterisedType
import NativeBindings.Proofs.TreeShape
import NativeBindings.Proofs.TextDecoding
import NativeBindings.Proofs.FormatterWarnings
import NativeBindings.Proofs.NamePunctuation
import NativeBindings.Proofs.LineReading
import NativeBindings.Proofs.ModuleLines
import NativeBindings.Proofs.ModuleReading
import NativeBindings.Proofs.Registration
import NativeBindings.Proofs.DeclaredNames
import NativeBindings.Proofs.ManifestFormats
