import Acceptance.DataTable
import Acceptance.Main
import Acceptance.Plan.Exchange
import Acceptance.Step.StepClass
import Acceptance.Proofs.Plan.Calls
import Acceptance.Proofs.Plan.UniqueNames
import Acceptance.Proofs.Gherkin.Shape
import Acceptance.Proofs.Plan.Stubs
import Acceptance.Proofs.Files.Found
import Acceptance.Proofs.Plan.OutputPath
import Acceptance.Proofs.Project.Accounting
import Acceptance.Proofs.Project.Outputs
import Acceptance.Proofs.Plan.Failures
import Acceptance.Proofs.Plan.Outlines
import Acceptance.Proofs.Rendering.FreeText
import Acceptance.Proofs.Rendering.Tables
import Acceptance.Proofs.Plan.Attributes
import Acceptance.Proofs.Source.Binding
import Acceptance.Proofs.Plan.Passed
import Acceptance.Proofs.Plan.Locals
import Acceptance.Proofs.Rendering.Layout
import Acceptance.Proofs.Project.Isolation
import Acceptance.Proofs.Plan.MoreDefinitions
import Acceptance.Proofs.Plan.CatalogOrder
import Acceptance.Proofs.Plan.Export
import Acceptance.Proofs.Project.Configurations
import Acceptance.Proofs.Project.Regeneration
import Acceptance.Proofs.Project.DryRun
import Acceptance.Proofs.Project.Reports
import Acceptance.Proofs.Command.SettingUp
import Acceptance.Proofs.Command.Plans
import Acceptance.Proofs.Project.Snapshots
import Acceptance.Proofs.Project.FailedWrites
import Acceptance.Proofs.Step.Splits
import Acceptance.Proofs.Step.LookUp
import Acceptance.Proofs.Step.Fillings
import Acceptance.Proofs.Step.LetterCase
import Acceptance.Proofs.Step.Comparisons
import Acceptance.Proofs.Source.Places
import Acceptance.Proofs.Source.Classes
import Acceptance.Proofs.Source.Quotes
import Acceptance.Proofs.Plan.Denoted
import Acceptance.Proofs.Source.Defaults
import Acceptance.Proofs.Plan.DocumentOrder
import Acceptance.Proofs.Plan.Needs
import Acceptance.Proofs.Project.Imports
import Acceptance.Proofs.Plan.Placeholders
import Acceptance.Proofs.Table.Columns
import Acceptance.Proofs.Command.Templates
import Acceptance.Proofs.Project.Containment
import Acceptance.Proofs.Plan.RunningKeyword
import Acceptance.Proofs.Plan.LastFlags
import Acceptance.Proofs.Plan.NamesInTurn
import Acceptance.Proofs.Plan.SnakeCase
