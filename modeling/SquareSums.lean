import SquareSums.Main
import SquareSums.Shelf
import SquareSums.Workbench
import SquareSums.Proofs.ProgressionOrder
import SquareSums.Proofs.SieveAnswers
import SquareSums.Proofs.ProgramAnswer
import SquareSums.Proofs.QueryGrammar
import SquareSums.Proofs.FailedRuns
import SquareSums.Proofs.ReportJson
import SquareSums.Proofs.ShelfContents
import SquareSums.Proofs.LogLevels
import SquareSums.Proofs.OutputForms
import SquareSums.Proofs.CommandSpellings
import SquareSums.Proofs.ListingComparison
import SquareSums.Proofs.JsonGrammar
import SquareSums.Proofs.JsonKeys
import SquareSums.Proofs.JsonRecords
import SquareSums.Proofs.QueryReading
import SquareSums.Proofs.StepSafety
import SquareSums.Proofs.JsonEnds
import SquareSums.Proofs.QueryDefects
import SquareSums.Proofs.JsonSpellings
import SquareSums.Proofs.CanonicalReports
import SquareSums.Proofs.ListingLines
import SquareSums.Proofs.SearchResults
import SquareSums.Proofs.DifferenceResidues
import SquareSums.Proofs.MessageReading
import SquareSums.Proofs.ScanLength
import SquareSums.Proofs.SolutionRecords
import SquareSums.Proofs.SizeGate
import SquareSums.Proofs.WorkbenchSessions
