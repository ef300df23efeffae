import AssertionGen.Check.Runner
import AssertionGen.Main
import AssertionGen.Proofs.Names
import AssertionGen.Proofs.Classification
import AssertionGen.Proofs.Generation
import AssertionGen.Proofs.Settlement
import AssertionGen.Proofs.Linkage
import AssertionGen.Proofs.UnitNames
import AssertionGen.Proofs.Chains
import AssertionGen.Proofs.Ambiguity
import AssertionGen.Proofs.Shape
import AssertionGen.Proofs.Invocation
import AssertionGen.Proofs.Ownership
import AssertionGen.Proofs.UnitTexts
import AssertionGen.Proofs.SimpleNames
import AssertionGen.Proofs.Equalities
import AssertionGen.Proofs.Containments
import AssertionGen.Proofs.Complements
import AssertionGen.Proofs.TypeVariables
import AssertionGen.Proofs.Unlinking
import AssertionGen.Proofs.Views
import AssertionGen.Proofs.Occurrences
import AssertionGen.Proofs.TypeDocuments
import AssertionGen.Proofs.ValueTypeDocuments
import AssertionGen.Proofs.Blocks
import AssertionGen.Proofs.Groups
import AssertionGen.Proofs.Degradation
import AssertionGen.Proofs.Nullability
import AssertionGen.Proofs.NullMarks
import AssertionGen.Proofs.Differences
import AssertionGen.Proofs.MapEntries
import AssertionGen.Proofs.Misuses
import AssertionGen.Proofs.Exclusions
import AssertionGen.Proofs.LinkTargets
import AssertionGen.Proofs.Rounds
import AssertionGen.Proofs.Rearrangement
import AssertionGen.Proofs.InferredParameters
import AssertionGen.Proofs.Imports
import AssertionGen.Proofs.RunSettings
import AssertionGen.Proofs.ConcurrentEmission
import AssertionGen.Proofs.ConstantNames
import AssertionGen.Proofs.Fitting
import AssertionGen.Proofs.Literals
import AssertionGen.Proofs.RunEffects
import AssertionGen.Proofs.ChainOrder
import AssertionGen.Proofs.Indentation
