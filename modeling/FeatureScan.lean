import FeatureScan.Batch
import FeatureScan.Encoding
import FeatureScan.SharedStore
import FeatureScan.Proofs.Css.Seam
import FeatureScan.Proofs.Css.Tokens
import FeatureScan.Proofs.Text.CaseBlind
import FeatureScan.Proofs.Css.Recasting
import FeatureScan.Proofs.Css.Nested
import FeatureScan.Proofs.Css.Recast
import FeatureScan.Proofs.Css.Carried
import FeatureScan.Proofs.Css.Joining
import FeatureScan.Proofs.Css.Taking
import FeatureScan.Proofs.Css.Lines
import FeatureScan.Proofs.Css.Lowered
import FeatureScan.Proofs.Css.Lettering
import FeatureScan.Proofs.Css.Outline
import FeatureScan.Proofs.Pattern.Positions
import FeatureScan.Proofs.Css.Scope
import FeatureScan.Proofs.Effective
import FeatureScan.Proofs.Pattern.Matching
import FeatureScan.Proofs.Pattern.Remaining
import FeatureScan.Proofs.Pattern.Folded
import FeatureScan.Proofs.Pattern.CaseBlind
import FeatureScan.Proofs.Style.Features
import FeatureScan.Proofs.Style.FlexboxGap
import FeatureScan.Proofs.Style.LetterCase
import FeatureScan.Proofs.Json.RoundTrip
import FeatureScan.Proofs.Json.Nesting
import FeatureScan.Proofs.Document.Reload
import FeatureScan.Proofs.Detection
import FeatureScan.Proofs.Pattern.Alone
import FeatureScan.Proofs.Script.OnePass
import FeatureScan.Proofs.Style.Unknown
import FeatureScan.Proofs.Store.Saving
import FeatureScan.Proofs.Store.Unread
import FeatureScan.Proofs.Batch
import FeatureScan.Proofs.Supported
import FeatureScan.Proofs.Markup.Walk
import FeatureScan.Proofs.Markup.ClosedForm
import FeatureScan.Proofs.OneToOne
import FeatureScan.Proofs.Extending
import FeatureScan.Proofs.Membership
import FeatureScan.Proofs.Markup.Credit
import FeatureScan.Proofs.Markup.AttributeOrder
import FeatureScan.Proofs.Css.AtRules
import FeatureScan.Proofs.Style.VendorTag
import FeatureScan.Proofs.Patternless
import FeatureScan.Proofs.Store.Sharing
import FeatureScan.Proofs.Css.Coinciding
import FeatureScan.Proofs.Css.NestingLimit
import FeatureScan.Proofs.Css.ValueText
import FeatureScan.Proofs.Css.OnePass
import FeatureScan.Proofs.Script.Remainder
import FeatureScan.Proofs.Markup.AttributeNames
import FeatureScan.Proofs.Css.NumeralText
import FeatureScan.Proofs.Css.Unnesting
import FeatureScan.Proofs.Css.Found
import FeatureScan.Proofs.Css.Scanned
import FeatureScan.Proofs.Css.LineFeeds
import FeatureScan.Proofs.Css.OneLine
import FeatureScan.Proofs.Css.Escapes
import FeatureScan.Proofs.Css.Sound
import FeatureScan.Proofs.Css.ReadBack
import FeatureScan.Proofs.Css.Apart
import FeatureScan.Proofs.Css.Tidied
import FeatureScan.Proofs.Css.Adjacent
import FeatureScan.Proofs.Css.Unglued
import FeatureScan.Proofs.Css.Importance
import FeatureScan.Proofs.Css.Boundaries
import FeatureScan.Proofs.Document.Checking
import FeatureScan.Proofs.Document.Entries
import FeatureScan.Proofs.Grouping
import FeatureScan.Proofs.Json.Records
import FeatureScan.Proofs.Lossless
import FeatureScan.Proofs.Overlaid
import FeatureScan.Proofs.Store.Failed
import FeatureScan.Proofs.Css.Cursor
import FeatureScan.Proofs.Css.ValueCalls
import FeatureScan.Proofs.Css.BlockCalls
