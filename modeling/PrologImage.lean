import PrologImage.Main
import PrologImage.Proofs.Session.Progress
import PrologImage.Proofs.Diagnostic.ErrorLines
import PrologImage.Proofs.Diagnostic.Reading
import PrologImage.Proofs.Diagnostic.LocatedReport
import PrologImage.Proofs.Diagnostic.Concatenation
import PrologImage.Proofs.Diagnostic.Grouping
import PrologImage.Proofs.FileSystem.Entry
import PrologImage.Proofs.FileSystem.PathText
import PrologImage.Proofs.FileSystem.Passage
import PrologImage.Proofs.FileSystem.Standing
import PrologImage.Proofs.FileSystem.Following
import PrologImage.Proofs.FileSystem.Agreement
import PrologImage.Proofs.FileSystem.Journey
import PrologImage.Proofs.FileSystem.PhysicalForm
import PrologImage.Proofs.Interpreter.Search
import PrologImage.Proofs.Interpreter.Question
import PrologImage.Proofs.Interpreter.CleanQuestion
import PrologImage.Proofs.Interpreter.GoalReader
import PrologImage.Proofs.Interpreter.WrittenImage
import PrologImage.Proofs.Interpreter.CheckedFile
import PrologImage.Proofs.Loader.Loading
import PrologImage.Proofs.Loader.Record
import PrologImage.Proofs.Loader.FailFast
import PrologImage.Proofs.Loader.History
import PrologImage.Proofs.Loader.Stepwise
import PrologImage.Proofs.Application.CleanBuild
import PrologImage.Proofs.Application.SavedImage
import PrologImage.Proofs.Interpreter.LetThrough
import PrologImage.Proofs.Console.HarmlessMarkup
import PrologImage.Proofs.Console.PrintedLines
import PrologImage.Proofs.Session.Conduct
import PrologImage.Proofs.Interpreter.Conduct
import PrologImage.Proofs.Application.Boundary
import PrologImage.Proofs.Accord
import PrologImage.Proofs.Loader.Accord
import PrologImage.Proofs.Interpreter.Accord
import PrologImage.Proofs.Application.Accord
import PrologImage.Proofs.Application.ConsoleModes
import PrologImage.Proofs.Application.Verbosity
import PrologImage.Proofs.Health.ReportText
import PrologImage.Proofs.Health.Verdict
import PrologImage.Proofs.Request.Governed
import PrologImage.Proofs.Request.Grammar
import PrologImage.Proofs.Request.Spelling
import PrologImage.Proofs.Application.Misuse
import PrologImage.Proofs.Interpreter.BadSource
import PrologImage.Proofs.Interpreter.KeptInterpreter
import PrologImage.Proofs.Interpreter.Uses
import PrologImage.Proofs.Interpreter.UseSequence
import PrologImage.Proofs.Diagnostic.ReportLines
import PrologImage.Proofs.Console.VisibleText
import PrologImage.Proofs.Console.ShownAsIs
import PrologImage.Proofs.Console.TagPlaces
import PrologImage.Proofs.Console.RemovedTags
import PrologImage.Proofs.Application.ReportedHint
