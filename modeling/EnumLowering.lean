import EnumLowering.Binding.Known
import EnumLowering.Binding.Method
import EnumLowering.Binding.OutputName
import EnumLowering.Binding.Type
import EnumLowering.Binding.Variable
import EnumLowering.Command.Arguments
import EnumLowering.Command.Help
import EnumLowering.Command.Run
import EnumLowering.Command.Script
import EnumLowering.Config
import EnumLowering.Files.Tree
import EnumLowering.Format.Binding
import EnumLowering.Format.Declaration
import EnumLowering.Format.Expression
import EnumLowering.Json.Reader
import EnumLowering.Json.Token
import EnumLowering.Json.Tree
import EnumLowering.Json.Value
import EnumLowering.Layout.Doc
import EnumLowering.Log.Record
import EnumLowering.Log.Settings
import EnumLowering.Lowering.Constants
import EnumLowering.Lowering.Context
import EnumLowering.Lowering.Error
import EnumLowering.Lowering.Outcome
import EnumLowering.Lowering.Session
import EnumLowering.Lowering.Walk
import EnumLowering.Main
import EnumLowering.Native.Expr
import EnumLowering.Native.Item
import EnumLowering.Native.Listing
import EnumLowering.Native.Support
import EnumLowering.Number.Binary64
import EnumLowering.Number.Decimal
import EnumLowering.Options
import EnumLowering.Proofs.AddedOccurrences
import EnumLowering.Proofs.AuditTrail
import EnumLowering.Proofs.CodeLayout
import EnumLowering.Proofs.ContextDiscipline
import EnumLowering.Proofs.DistinctNames
import EnumLowering.Proofs.Exhaustion
import EnumLowering.Proofs.ExprReading
import EnumLowering.Proofs.FormatRecovery
import EnumLowering.Proofs.Hygiene
import EnumLowering.Proofs.ImplicitParameters
import EnumLowering.Proofs.IndentWidth
import EnumLowering.Proofs.InterruptedUnit
import EnumLowering.Proofs.ListedSupport
import EnumLowering.Proofs.LoweredForm
import EnumLowering.Proofs.LoweredNesting
import EnumLowering.Proofs.LoweredSupport
import EnumLowering.Proofs.NativeEvaluation
import EnumLowering.Proofs.NativeListing
import EnumLowering.Proofs.Occurrences
import EnumLowering.Proofs.Overloads
import EnumLowering.Proofs.PlainCode
import EnumLowering.Proofs.PrintedSignatures
import EnumLowering.Proofs.Reach
import EnumLowering.Proofs.Recovery
import EnumLowering.Proofs.Restoration
import EnumLowering.Proofs.ShiftedRuns
import EnumLowering.Proofs.SiblingCalls
import EnumLowering.Proofs.Signatures
import EnumLowering.Proofs.StackPrinter
import EnumLowering.Proofs.SupportMeaning
import EnumLowering.Proofs.SupportSignatures
import EnumLowering.Proofs.TextEnding
import EnumLowering.Proofs.TypeOrder
import EnumLowering.Proofs.VisitedEnums
import EnumLowering.Proofs.Visits
import EnumLowering.Proofs.WorkDone
import EnumLowering.Proofs.WrittenText
import EnumLowering.Syntax.Declaration
import EnumLowering.Syntax.Expression
import EnumLowering.Text.Printable
import EnumLowering.Text.Quoted
import EnumLowering.Text.Uppercase
import EnumLowering.Toml.Document
import EnumLowering.Toml.Item
import EnumLowering.Toml.Lexeme
