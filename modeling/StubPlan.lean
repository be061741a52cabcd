import StubPlan.Generation.Session
import StubPlan.Main
import StubPlan.Proofs.CommandLine.Shown
import StubPlan.Proofs.Model.Rewrite
import StubPlan.Proofs.Import.Relative
import StubPlan.Proofs.Server.Defaults
import StubPlan.Proofs.Import.ModelsPackage
import StubPlan.Proofs.Text.Blank
import StubPlan.Proofs.Text.Resolved
import StubPlan.Proofs.Path.Join
import StubPlan.Proofs.Layout.Directory
import StubPlan.Proofs.Layout.SupportingFiles
import StubPlan.Proofs.Layout.Handlers
import StubPlan.Proofs.Layout.Settled
import StubPlan.Proofs.Except
import StubPlan.Proofs.Options.Valid
import StubPlan.Proofs.Generation.Information
import StubPlan.Proofs.Options.Directive
import StubPlan.Proofs.Configuration.Decides
import StubPlan.Proofs.Configuration.Report
import StubPlan.Proofs.Description.Report
import StubPlan.Proofs.Path.Context
import StubPlan.Proofs.Server.WellFormed
import StubPlan.Proofs.Table
import StubPlan.Proofs.Description.Checked
import StubPlan.Proofs.Description.Shape
import StubPlan.Proofs.Description.Descriptor
import StubPlan.Proofs.Description.RoundTrip
import StubPlan.Proofs.Description.Spelling
import StubPlan.Proofs.Decimal.Written
import StubPlan.Proofs.Options.Keeps
import StubPlan.Proofs.Options.Named
import StubPlan.Proofs.Options.RoundTrip
import StubPlan.Proofs.Options.Takes
import StubPlan.Proofs.Options.Chosen
import StubPlan.Proofs.Options.Places
import StubPlan.Proofs.Path.Segments
import StubPlan.Proofs.Layout.PackageRoot
import StubPlan.Proofs.Generation.Session
import StubPlan.Proofs.Name.Settled
import StubPlan.Proofs.Name.Pattern
import StubPlan.Proofs.Generation.PackageFolder
import StubPlan.Proofs.Name.ClassName
import StubPlan.Proofs.Layout.ModelFiles
import StubPlan.Proofs.Console.Emoji
import StubPlan.Proofs.Console.Markup
import StubPlan.Proofs.Console.Wrap
import StubPlan.Proofs.Console.Table
import StubPlan.Proofs.Server.Substitution
import StubPlan.Proofs.Server.Reordering
import StubPlan.Proofs.Server.Undeclared
import StubPlan.Proofs.Text.Boundary
import StubPlan.Proofs.Name.WordBoundary
import StubPlan.Proofs.Operation.Success
import StubPlan.Proofs.Numeral
import StubPlan.Proofs.Operation.Status
import StubPlan.Proofs.Import.Siblings
import StubPlan.Proofs.Layout.HandlerPackage
import StubPlan.Proofs.Operation.Parameters
import StubPlan.Proofs.TypeExpr.Tokenization
import StubPlan.Proofs.Layout.OutputPath
import StubPlan.Proofs.Name.SnakeCase
