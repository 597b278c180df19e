import SearchShell.Main
import SearchShell.Proofs.Command.Blame
import SearchShell.Proofs.Command.Counting
import SearchShell.Proofs.Command.Layout
import SearchShell.Proofs.Command.Paths
import SearchShell.Proofs.CommandLine.OneShot
import SearchShell.Proofs.Engine.Classification
import SearchShell.Proofs.Engine.Lifecycle
import SearchShell.Proofs.Engine.Permissions
import SearchShell.Proofs.Engine.Replay
import SearchShell.Proofs.Engine.Reports
import SearchShell.Proofs.Engine.SearchAnswers
import SearchShell.Proofs.Engine.SentBodies
import SearchShell.Proofs.Engine.ShownDocuments
import SearchShell.Proofs.Engine.Silence
import SearchShell.Proofs.Engine.StoreSearches
import SearchShell.Proofs.Http.PathText
import SearchShell.Proofs.Settings.Ranges
import SearchShell.Proofs.Shell.Blocks
import SearchShell.Proofs.Shell.Trace
import SearchShell.Proofs.Table.Alignment
