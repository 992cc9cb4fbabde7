import PegGrammar.Datum.Reading
import PegGrammar.Main
import PegGrammar.Proofs.LeftRecursion
import PegGrammar.Proofs.Lambda.Language
import PegGrammar.Proofs.MatchedText
import PegGrammar.Proofs.Lookup
import PegGrammar.Proofs.Offsets
import PegGrammar.Proofs.Shift
import PegGrammar.Proofs.Hooks
import PegGrammar.Proofs.Footprint
import PegGrammar.Proofs.JsonText
import PegGrammar.Proofs.Listing
import PegGrammar.Proofs.Bracket.Display
import PegGrammar.Proofs.Numerals
import PegGrammar.Proofs.Settings.Defaults
import PegGrammar.Proofs.Settings.Layers
import PegGrammar.Proofs.ParseCommand
import PegGrammar.Proofs.YamlText
import PegGrammar.Proofs.Repetition
import PegGrammar.Proofs.Validation
import PegGrammar.Proofs.Drawing.Lines
import PegGrammar.Proofs.Lambda.Display
import PegGrammar.Proofs.Lambda.Hooks
import PegGrammar.Proofs.Snapshots
import PegGrammar.Proofs.Registry
import PegGrammar.Proofs.Bracket.Complement
import PegGrammar.Proofs.Notation
