import ConsoleNav.Main
import ConsoleNav.Service.Session
import ConsoleNav.Store.Session
import ConsoleNav.Proofs.Store.Polling
import ConsoleNav.Proofs.Store.Turn
import ConsoleNav.Proofs.Store.Quiet
import ConsoleNav.Proofs.Store.SessionTurn
import ConsoleNav.Proofs.Store.Verdict
import ConsoleNav.Proofs.Store.LoadAnswer
import ConsoleNav.Proofs.Store.Interleaving
import ConsoleNav.Proofs.Store.Ledger
import ConsoleNav.Proofs.Store.Commit
import ConsoleNav.Proofs.Store.Provenance
import ConsoleNav.Proofs.Route.Matching
import ConsoleNav.Proofs.Route.Postorder
import ConsoleNav.Proofs.Store.SingleFlight
import ConsoleNav.Proofs.Route.Filtering
import ConsoleNav.Proofs.Json.Spelling
import ConsoleNav.Proofs.Json.Reading
import ConsoleNav.Proofs.Json.Yielding
import ConsoleNav.Proofs.Menu.RoundTrip
import ConsoleNav.Proofs.Menu.Lookup
import ConsoleNav.Proofs.Menu.Preorder
import ConsoleNav.Proofs.Menu.Validation
import ConsoleNav.Proofs.Service.Addressing
import ConsoleNav.Proofs.Service.Receiving
import ConsoleNav.Proofs.Service.Running
import ConsoleNav.Proofs.Service.Effects
import ConsoleNav.Proofs.Service.History
import ConsoleNav.Proofs.Service.Register
import ConsoleNav.Proofs.Service.Accounting
import ConsoleNav.Proofs.Text.Escaping
import ConsoleNav.Proofs.Service.Entries
import ConsoleNav.Proofs.Service.Replication
import ConsoleNav.Proofs.Store.Asking
import ConsoleNav.Proofs.Store.Undisturbed
import ConsoleNav.Proofs.Store.Holding
import ConsoleNav.Proofs.Route.Place
import ConsoleNav.Proofs.Route.Erasure
import ConsoleNav.Proofs.Route.Browsing
import ConsoleNav.Proofs.Route.Thinning
import ConsoleNav.Proofs.Route.Parameters
import ConsoleNav.Proofs.Store.Clock
import ConsoleNav.Proofs.Store.Tally
import ConsoleNav.Proofs.Store.Retrying
import ConsoleNav.Proofs.Service.Budget
import ConsoleNav.Proofs.Text.Numerals
import ConsoleNav.Proofs.Json.Giving
import ConsoleNav.Proofs.Config.Layering
import ConsoleNav.Proofs.Route.RoundTrip
import ConsoleNav.Proofs.Json.Grammar
import ConsoleNav.Proofs.Keyed
import ConsoleNav.Proofs.Text.Forms
import ConsoleNav.Proofs.Route.MatchText
import ConsoleNav.Proofs.Service.Navigation
import ConsoleNav.Proofs.CommandLine.Navigation
import ConsoleNav.Proofs.Json.Numbers
import ConsoleNav.Proofs.Json.Values
import ConsoleNav.Proofs.Json.Sorting
import ConsoleNav.Proofs.Route.Permissions
import ConsoleNav.Proofs.Json.Skipping
import ConsoleNav.Proofs.Json.Records
import ConsoleNav.Proofs.Config.RoundTrip
import ConsoleNav.Proofs.Text.Stripping
import ConsoleNav.Proofs.Route.NormalPath
import ConsoleNav.Proofs.Route.Granting
import ConsoleNav.Proofs.Menu.Shape
import ConsoleNav.Proofs.Menu.Links
import ConsoleNav.Proofs.Address.Extending
import ConsoleNav.Proofs.Store.Attempts
import ConsoleNav.Proofs.Store.FirstAnswer
import ConsoleNav.Proofs.Menu.Legible
import ConsoleNav.Proofs.Text.Splitting
import ConsoleNav.Proofs.Menu.Lines
import ConsoleNav.Proofs.Menu.Rearranging
import ConsoleNav.Proofs.Config.Retries
import ConsoleNav.Proofs.Position
import ConsoleNav.Proofs.Menu.Subtrees
import ConsoleNav.Proofs.Route.Preorder
import ConsoleNav.Proofs.Lookup
import ConsoleNav.Proofs.Json.Octets
import ConsoleNav.Proofs.Store.Races
