import ConditionalForms.Journal.Template
import ConditionalForms.Main
import ConditionalForms.Proofs.Command.SettingsErrors
import ConditionalForms.Proofs.Command.UpstreamErrors
import ConditionalForms.Proofs.Form.Choices
import ConditionalForms.Proofs.Form.DisplayOrder
import ConditionalForms.Proofs.Form.Merging
import ConditionalForms.Proofs.Form.Orders
import ConditionalForms.Proofs.Form.Reading
import ConditionalForms.Proofs.Form.Records
import ConditionalForms.Proofs.Form.Shuffling
import ConditionalForms.Proofs.Form.Wrapping
import ConditionalForms.Proofs.Journal.Lines
import ConditionalForms.Proofs.Journal.Speakers
import ConditionalForms.Proofs.Live.Addressing
import ConditionalForms.Proofs.Live.LastEdit
import ConditionalForms.Proofs.Live.Locality
import ConditionalForms.Proofs.Live.Unedited
import ConditionalForms.Proofs.Live.Untouched
import ConditionalForms.Proofs.Review.RoundTrip
import ConditionalForms.Proofs.Review.WritingBack
import ConditionalForms.Proofs.Rule.Agreement
import ConditionalForms.Proofs.Rule.Canonical
import ConditionalForms.Proofs.Rule.Conjunction
import ConditionalForms.Proofs.Rule.Operators
import ConditionalForms.Proofs.Rule.PieceGrammar
import ConditionalForms.Proofs.Visibility.OwnReasons
