import ShaderTokens.Editor.Workspace
import ShaderTokens.File.Tree
import ShaderTokens.Main
import ShaderTokens.Proofs.LexemeForm
import ShaderTokens.Proofs.Lexemes
import ShaderTokens.Proofs.Tiling
import ShaderTokens.Proofs.ScanRounds
import ShaderTokens.Proofs.PreprocessorLine
import ShaderTokens.Proofs.LexemeBoundary
import ShaderTokens.Proofs.GapCollapse
import ShaderTokens.Proofs.LineBoundary
import ShaderTokens.Proofs.OpenConstruct
import ShaderTokens.Proofs.LongestNumber
import ShaderTokens.Proofs.Lookahead
import ShaderTokens.Proofs.Interleaving
import ShaderTokens.Proofs.SourcePlace
import ShaderTokens.Proofs.SourceCoordinates
import ShaderTokens.Proofs.RelativePlaces
import ShaderTokens.Proofs.StretchOrder
import ShaderTokens.Proofs.Colouring
import ShaderTokens.Proofs.PatternEnds
import ShaderTokens.Proofs.ReaderAgreement
import ShaderTokens.Proofs.ReaderLocality
import ShaderTokens.Proofs.FragmentReading
import ShaderTokens.Proofs.JoinedPattern
import ShaderTokens.Proofs.WordMatching
import ShaderTokens.Proofs.PreprocessorExtent
import ShaderTokens.Proofs.CarriageReturns
import ShaderTokens.Proofs.ForwardReading
import ShaderTokens.Proofs.PlainWords
import ShaderTokens.Proofs.ConfiguredLexicon
import ShaderTokens.Proofs.ConfigurationFailures
import ShaderTokens.Proofs.FrontEnds
import ShaderTokens.Proofs.SourceExcerpt
import ShaderTokens.Proofs.LexiconExtension
import ShaderTokens.Proofs.JsonTranscript
import ShaderTokens.Proofs.ProgramEndings
import ShaderTokens.Proofs.ClosingDelimiter
import ShaderTokens.Proofs.TokenShape
import ShaderTokens.Proofs.FragmentEnd
import ShaderTokens.Proofs.JoinableWords
import ShaderTokens.MachineIterators
import ShaderTokens.Proofs.SharedCursor
import ShaderTokens.Proofs.TextListing
import ShaderTokens.Proofs.BuildOutcome
import ShaderTokens.Proofs.LiteralWords
import ShaderTokens.Proofs.WordSearch
import ShaderTokens.Proofs.EqualEntries
import ShaderTokens.Editor.OpenDocuments
