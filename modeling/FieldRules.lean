import FieldRules.Unicode.Category
import FieldRules.Unicode.Property
import FieldRules.Unicode.Script
import FieldRules.Unicode.CaseFold
import FieldRules.Text.Blank
import FieldRules.Text.Split
import FieldRules.Pattern.Matcher
import FieldRules.Pattern.Lower
import FieldRules.Pattern
import FieldRules.Number.Binary64
import FieldRules.Json.Reader
import FieldRules.Json.Printer
import FieldRules.Error
import FieldRules.Operator
import FieldRules.Date.Format
import FieldRules.Rule.Chain
import FieldRules.Rule.Compile
import FieldRules.Message.Table
import FieldRules.Config
import FieldRules.Evaluation
import FieldRules.Summary
import FieldRules.Forms
import FieldRules.Dependencies
import FieldRules.Values
import FieldRules.Generations
import FieldRules.Clock
import FieldRules.Scheduler
import FieldRules.Submissions
import FieldRules.Context.Step
import FieldRules.Definition
import FieldRules.Command
import FieldRules.Main
import FieldRules.Proofs.SummaryAgreement
import FieldRules.Proofs.Staleness
import FieldRules.Proofs.FormVerdicts
import FieldRules.Proofs.Overtaking
import FieldRules.Proofs.DependencyEdges
import FieldRules.Proofs.Following
import FieldRules.Proofs.Withdrawals
import FieldRules.Proofs.Counting
import FieldRules.Proofs.Refusals
import FieldRules.Proofs.Statuses
import FieldRules.Proofs.AwaitedReplies
import FieldRules.Proofs.Cutting
import FieldRules.Proofs.Placeholders
import FieldRules.Proofs.CompiledRules
import FieldRules.Proofs.RenderedClauses
import FieldRules.Proofs.RenderedPatterns
import FieldRules.Proofs.RenderedChains
import FieldRules.Proofs.SchedulingLaw
import FieldRules.Proofs.ArrivalLaw
import FieldRules.Proofs.ListingOrder
import FieldRules.Proofs.KeyedTimers
import FieldRules.Proofs.InterruptedResets
import FieldRules.Proofs.Untouched
import FieldRules.Proofs.RegistryIntegrity
import FieldRules.Proofs.CalendarDates
import FieldRules.Proofs.JoinedChains
import FieldRules.Proofs.MessageOrder
import FieldRules.Proofs.GroupedErrors
import FieldRules.Proofs.ErrorAccounts
import FieldRules.Proofs.DetectedBounds
import FieldRules.Proofs.SpacedChains
import FieldRules.Proofs.NewLives
import FieldRules.Proofs.FreshStarts
import FieldRules.Proofs.CountedCharacters
import FieldRules.Proofs.NumberFormats
import FieldRules.Proofs.ReversedRanges
import FieldRules.Proofs.WholeNumbers
import FieldRules.Proofs.ListedItems
import FieldRules.Proofs.Addresses
import FieldRules.Proofs.Layouts
import FieldRules.Proofs.SummaryHistory
import FieldRules.Proofs.FormsHistory
import FieldRules.Proofs.Spellings
import FieldRules.Proofs.SeveralPatterns
import FieldRules.Proofs.RequiredKeyword
