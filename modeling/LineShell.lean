import LineShell.CommandLine.Program
import LineShell.FileSystem.Listing
import LineShell.Main
import LineShell.Proofs.Command.Registration
import LineShell.Proofs.FileSystem.Agreement
import LineShell.Proofs.Http.Driving
import LineShell.Proofs.Pipeline.Accepted
import LineShell.Proofs.Pipeline.Rendered
import LineShell.Proofs.FileSystem.Arrivals
import LineShell.Proofs.FileSystem.GoingBack
import LineShell.Proofs.Session.Whereabouts
import LineShell.Proofs.FileSystem.ExactCopies
import LineShell.Proofs.FileSystem.Overlaps
import LineShell.Proofs.Session.EntryReports
import LineShell.Proofs.Session.Showing
import LineShell.Proofs.Session.Transfers
import LineShell.Proofs.Session.TypedFiles
import LineShell.Proofs.Http.SentLines
import LineShell.Proofs.Session.ListedNames
import LineShell.Proofs.Session.RecasedNames
import LineShell.Proofs.FileSystem.BoundedCopies
import LineShell.Proofs.Session.StreamedLines
