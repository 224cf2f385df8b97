import GymLang.Main
import GymLang.Proofs.Document.Endings
import GymLang.Proofs.Document.Findings
import GymLang.Proofs.Document.Locality
import GymLang.Proofs.Document.Numbers
import GymLang.Proofs.Document.Positions
import GymLang.Proofs.Document.Program
import GymLang.Proofs.Document.Ranges
import GymLang.Proofs.Document.Words
import GymLang.Proofs.Editor.Resolving
import GymLang.Proofs.Exec.Locality
import GymLang.Proofs.Exec.Printing
import GymLang.Proofs.Line.LetterCase
import GymLang.Proofs.Line.Literals
import GymLang.Proofs.Server.Conversation
import GymLang.Proofs.Session.Decoding
import GymLang.Proofs.Session.KeptSettings
import GymLang.Proofs.Session.Search
import GymLang.Proofs.Session.Separation
import GymLang.Proofs.Token.Composition
import GymLang.Proofs.Token.FirstError
import GymLang.Proofs.Token.RoundTrip
