import Extraction.Document.Listing
import Extraction.Main
import Extraction.Proofs.Check.Agreement
import Extraction.Proofs.Check.Assigned
import Extraction.Proofs.Check.Recursion
import Extraction.Proofs.Run.Caching
import Extraction.Proofs.Run.Recovery
import Extraction.Proofs.Spelling.RoundTrip
import Extraction.Proofs.Grammar.Acceptance
import Extraction.Proofs.Grammar.Prefix
import Extraction.Proofs.Run.ControlFlow
import Extraction.Proofs.Lexing.Word
import Extraction.Proofs.Lexing.Scan
import Extraction.Proofs.Lexing.NameForm
import Extraction.Proofs.Lexing.Position
import Extraction.Proofs.Lexing.Layout
import Extraction.Proofs.Grammar.Tandem
import Extraction.Proofs.Grammar.Layout
import Extraction.Proofs.Lexing.Joined
import Extraction.Proofs.Grammar.Joined
import Extraction.Proofs.Run.Atomicity
import Extraction.Proofs.Run.Account
import Extraction.Proofs.Run.Hoisting
import Extraction.Proofs.Run.Exchange
import Extraction.Proofs.Run.Scopes
import Extraction.Proofs.Run.Faults
import Extraction.Proofs.Lexing.Stray
import Extraction.Proofs.Grammar.Locations
import Extraction.Proofs.Program.Occurrences
import Extraction.Proofs.Run.Visits
import Extraction.Proofs.Run.Once
import Extraction.Proofs.Check.Bodies
import Extraction.Proofs.Grammar.Pulls
import Extraction.Proofs.Lexing.Memory
import Extraction.Proofs.Run.Selection
import Extraction.Proofs.Settings.Files
