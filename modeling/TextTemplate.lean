import TextTemplate.Engine.Context
import TextTemplate.Json.Quoted
import TextTemplate.Tree.Outline
import TextTemplate.Proofs.Derivations
import TextTemplate.Proofs.PrintedTokens
import TextTemplate.Proofs.Nodes
import TextTemplate.Proofs.CleanValues
import TextTemplate.Proofs.ReadExpressions
import TextTemplate.Proofs.Autoescape
import TextTemplate.Proofs.Completeness
import TextTemplate.Proofs.ContextRestored
import TextTemplate.Proofs.WrittenExpressions
import TextTemplate.Proofs.StrictRuns
import TextTemplate.Proofs.ConditionOrder
import TextTemplate.Proofs.TextOpeners
import TextTemplate.Proofs.SeenNames
import TextTemplate.Proofs.UnmentionedNames
import TextTemplate.Proofs.InlinedIncludes
import TextTemplate.Proofs.BlamedReadings
import TextTemplate.Proofs.FaultLines
import TextTemplate.Proofs.DroppedBreaks
import TextTemplate.Proofs.ParallelReadings
import TextTemplate.Proofs.LargerCatalogs
import TextTemplate.Proofs.AdvancingReadings
import TextTemplate.Proofs.ReaderSessions
import TextTemplate.Proofs.UnseenComments
import TextTemplate.Proofs.BoundedOutputs
import TextTemplate.Proofs.LibraryHistories
import TextTemplate.Proofs.ConfinedFiles
import TextTemplate.Proofs.TemplateDesks
import TextTemplate.Proofs.TemplateHistories
import TextTemplate.Proofs.ScopeHistories
import TextTemplate.Proofs.TagBodies
import TextTemplate.Proofs.ScannedExpressions
import TextTemplate.Proofs.Substitutions
import TextTemplate.Proofs.DividedWords
import TextTemplate.Proofs.FilterChains
import TextTemplate.Proofs.LoopFrames
import TextTemplate.Proofs.JoinedItems
import TextTemplate.Proofs.TagWords
import TextTemplate.Proofs.LetBindings
import TextTemplate.Proofs.LoopRecords
import TextTemplate.Proofs.LoopPasses
import TextTemplate.Proofs.NestedLoops
import TextTemplate.Proofs.Unescaping
import TextTemplate.Proofs.JsonLocations
import TextTemplate.Proofs.EqualValues
import TextTemplate.Proofs.Registrations
import TextTemplate.Proofs.Capitals
import TextTemplate.Proofs.TitledWords
import TextTemplate.Proofs.HeldTexts
import TextTemplate.Proofs.MapLoops
