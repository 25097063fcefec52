import Muster.Settings
import Muster.Wargear.Record
import Muster.Wargear.Cache
import Muster.Combat.Resolution
import Muster.Proofs.FirstOccurrence
import Muster.Proofs.Wargear.Loadout
import Muster.Proofs.Wargear.Selection
import Muster.Proofs.Except
import Muster.Proofs.Document.Reader
import Muster.Proofs.Wargear.Expansion
import Muster.Proofs.Wargear.Grouping
import Muster.Proofs.Wargear.Independence
import Muster.Proofs.Wargear.Eligibility
import Muster.Proofs.Wargear.Legality
import Muster.Proofs.Wargear.Nearest
import Muster.Proofs.Wargear.Repair
import Muster.Proofs.Combat.Gate
import Muster.Proofs.Combat.Characteristic
import Muster.Proofs.Combat.Stage
import Muster.Proofs.Combat.Resolution
import Muster.Proofs.Combat.Capping
import Muster.Proofs.Combat.Roll
import Muster.Proofs.Combat.Profile
import Muster.Proofs.Combat.RoundTrip
import Muster.Proofs.Text.Words
import Muster.Proofs.Text.Pattern
import Muster.Proofs.Text.Markup
import Muster.Proofs.Wargear.Item
import Muster.Proofs.Wargear.Replacement
import Muster.Proofs.Wargear.Cache
import Muster.Proofs.Document.Json
import Muster.Proofs.Wargear.Fingerprint
import Muster.Proofs.Wargear.Representation
import Muster.Proofs.Document.Accepted
import Muster.Proofs.Combat.RollTarget
import Muster.Proofs.Combat.Template
import Muster.Proofs.Combat.Registry
import Muster.Proofs.Combat.Collection
import Muster.Proofs.Combat.Merging
import Muster.Proofs.Text.LetterCase
import Muster.Proofs.Wargear.Default
import Muster.Proofs.Wargear.Footnote
import Muster.Proofs.Wargear.Isolation
import Muster.Proofs.Combat.Echo
import Muster.Proofs.Combat.Substitution
import Muster.Proofs.Wargear.Clause
import Muster.Proofs.Combat.RollOrder
import Muster.Proofs.Wargear.Opening
import Muster.Proofs.Wargear.ChoiceList
import Muster.Proofs.Wargear.StatedDefault
import Muster.Proofs.Wargear.Possessive
import Muster.Proofs.Combat.FactionLookup
import Muster.Proofs.Combat.WeaponRule
import Muster.Proofs.Combat.RuleParameter
import Muster.Proofs.Wargear.LongNumeral
import Muster.Proofs.Wargear.LineOrder
import Muster.Proofs.Wargear.LineClass
import Muster.Proofs.Wargear.PositionSet
import Muster.Proofs.Wargear.RulePhrase
