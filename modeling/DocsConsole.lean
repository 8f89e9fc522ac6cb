import DocsConsole.Main
import DocsConsole.Proofs.Session.History
import DocsConsole.Proofs.Console.Branches
import DocsConsole.Proofs.Console.Disconnection
import DocsConsole.Proofs.Console.Failure
import DocsConsole.Proofs.Console.Generated
import DocsConsole.Proofs.Console.Dispatched
import DocsConsole.Proofs.Console.EndedConnection
import DocsConsole.Proofs.Console.Agreement
import DocsConsole.Proofs.Editor.Cursor
import DocsConsole.Proofs.Console.Fields
import DocsConsole.Proofs.Console.Typing
import DocsConsole.Proofs.Backend.Response
import DocsConsole.Proofs.Backend.Form
import DocsConsole.Proofs.Settings.Store
import DocsConsole.Proofs.Quality.Format
import DocsConsole.Proofs.Html.Report
import DocsConsole.Proofs.Html.Rendered
import DocsConsole.Proofs.Screen.Token
import DocsConsole.Proofs.Screen.Typing
import DocsConsole.Proofs.Editor.Encoded
import DocsConsole.Proofs.Files.Dropping
import DocsConsole.Proofs.Console.Help
import DocsConsole.Proofs.Console.Suggested
import DocsConsole.Proofs.Console.Accepting
import DocsConsole.Proofs.Preview.Bullets
import DocsConsole.Proofs.Preview.LiteralBlocks
import DocsConsole.Proofs.Preview.Quotes
import DocsConsole.Proofs.Console.Unseen
import DocsConsole.Proofs.Console.FileCursor
import DocsConsole.Proofs.Screen.TypedField
import DocsConsole.Proofs.Screen.Selection
import DocsConsole.Proofs.Console.Choices
import DocsConsole.Proofs.Console.Expiry
import DocsConsole.Proofs.Settings.Loading
import DocsConsole.Proofs.Console.Dropped
import DocsConsole.Proofs.Screen.StatusBar
import DocsConsole.Proofs.Editor.BetweenLines
import DocsConsole.Proofs.Editor.Breaks
import DocsConsole.Proofs.Console.Chain
