import AccountMigration.Text.Ascii
import AccountMigration.Text.Blank
import AccountMigration.Text.Lowercase
import AccountMigration.Text.Numeral
import AccountMigration.Text.Utf8
import AccountMigration.Text.Utf16
import AccountMigration.Json.Fields
import AccountMigration.Json.Printer
import AccountMigration.Json.Reader
import AccountMigration.Time.Printer
import AccountMigration.Time.Reader
import AccountMigration.Uuid
import AccountMigration.Settings.Environment
import AccountMigration.Record
import AccountMigration.Service.Target
import AccountMigration.Service.Client
import AccountMigration.Migration.Run
import AccountMigration.Proofs.Text.Trim
import AccountMigration.Proofs.Dedup.Latest
import AccountMigration.Proofs.Dedup.Conservation
import AccountMigration.Proofs.Dedup.Refusal
import AccountMigration.Proofs.Import.EntryKeys
import AccountMigration.Proofs.Import.Sequence
import AccountMigration.Proofs.Import.Submitted
import AccountMigration.Proofs.Service.Answers
import AccountMigration.Proofs.Service.LookupUrl
import AccountMigration.Proofs.Service.OverHttp
import AccountMigration.Proofs.Migration.Stages
import AccountMigration.Proofs.Migration.Breakdown
import AccountMigration.Proofs.Migration.FailedCounts
import AccountMigration.Proofs.Migration.Failure
import AccountMigration.Proofs.Migration.Rehearsal
import AccountMigration.Proofs.Migration.Sent
import AccountMigration.Proofs.Migration.Verified
import AccountMigration.Proofs.Import.Successive
import AccountMigration.Proofs.Verification.Verdicts
import AccountMigration.Proofs.Import.Recount
import AccountMigration.Proofs.Import.Batching
import AccountMigration.Proofs.Json.Layouts
import AccountMigration.Proofs.Text.Utf8
import AccountMigration.Proofs.Json.RoundTrip
import AccountMigration.Proofs.Time.RoundTrip
import AccountMigration.Proofs.Json.Records
import AccountMigration.Proofs.WrittenForms
import AccountMigration.Proofs.Dedup.Respelling
import AccountMigration.Proofs.Migration.Circumstances
import AccountMigration.Proofs.Service.Hashes
import AccountMigration.Proofs.Import.Hashes
import AccountMigration.Proofs.Migration.Secrecy
import AccountMigration.Proofs.Password
import AccountMigration.Proofs.Migration.SentHashes
import AccountMigration.Proofs.Dedup.Outcome
import AccountMigration.Proofs.Migration.Consistency
import AccountMigration.Proofs.Migration.Padding
import AccountMigration.Proofs.Dedup.Distinct
import AccountMigration.Proofs.Dedup.FirstRepeat
import AccountMigration.Proofs.Dedup.Strategies
import AccountMigration.Proofs.Dedup.Growth
import AccountMigration.Proofs.Text.CaseTable
import AccountMigration.Proofs.Text.Lowercase
import AccountMigration.Proofs.Dedup.KeyForm
import AccountMigration.Proofs.Text.Split
import AccountMigration.Proofs.Text.SignedNumeral
import AccountMigration.Proofs.Checks
import AccountMigration.Proofs.Settings.RoleText
import AccountMigration.Proofs.Settings.RoleLayouts
import AccountMigration.Proofs.Settings.Variables
import AccountMigration.Proofs.Import.CleanTexts
import AccountMigration.Proofs.Settings.Blanks
import AccountMigration.Proofs.Migration.MalformedHashes
import AccountMigration.Proofs.Password.Leader
import AccountMigration.Proofs.Import.SentIds
import AccountMigration.Proofs.Dedup.SlotMap
import AccountMigration.Proofs.Json.Machine
import AccountMigration.Proofs.Json.Numbers
import AccountMigration.Proofs.Json.Marks
import AccountMigration.Proofs.Json.Texts
import AccountMigration.Proofs.Json.Members
import AccountMigration.Proofs.Service.MessageFields
import AccountMigration.Proofs.Service.MessageTexts
import AccountMigration.Proofs.Migration.ReportText
