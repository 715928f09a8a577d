import Blueprint.Catalog.Assembly
import Blueprint.Catalog.Basic
import Blueprint.Command.Arguments
import Blueprint.Command.Directory
import Blueprint.Command.Files
import Blueprint.Command.Run
import Blueprint.Compiled
import Blueprint.Contract.Basic
import Blueprint.Contract.OfCatalog
import Blueprint.Decimal
import Blueprint.Json.Fault
import Blueprint.Json.Reader
import Blueprint.Json.Record
import Blueprint.Json.Skip
import Blueprint.Json.Untyped
import Blueprint.Json.Value
import Blueprint.Main
import Blueprint.Model.Basic
import Blueprint.Model.Check
import Blueprint.Model.Defect
import Blueprint.Model.Json
import Blueprint.Model.Multiplicity
import Blueprint.Model.Options
import Blueprint.NameTable
import Blueprint.Placement
import Blueprint.Plan
import Blueprint.Report.Grid
import Blueprint.Report.Summary
import Blueprint.Sequence
import Blueprint.Storage.Layout
import Blueprint.Storage.Tables
import Blueprint.Text.CaseTable
import Blueprint.Text.CodePoint
import Blueprint.Text.Columns
import Blueprint.Text.EmojiSequence
import Blueprint.Text.EmojiTable
import Blueprint.Text.Ligature
import Blueprint.Text.Lowercase
import Blueprint.Text.Pieces
import Blueprint.Text.PrintTable
import Blueprint.Text.Quoted
import Blueprint.Text.WidthTable
import Blueprint.Proofs.Acceptance
import Blueprint.Proofs.Agreement
import Blueprint.Proofs.Construction
import Blueprint.Proofs.DeclarationOrder
import Blueprint.Proofs.Ends
import Blueprint.Proofs.Exclusivity
import Blueprint.Proofs.Columns
import Blueprint.Proofs.Populations
import Blueprint.Proofs.RelationshipFields
import Blueprint.Proofs.ChainColumns
import Blueprint.Proofs.TableNames
import Blueprint.Proofs.Inheritance
import Blueprint.Proofs.Closure
import Blueprint.Proofs.Correspondence
import Blueprint.Proofs.NestedCreations
import Blueprint.Proofs.AlikeModels
import Blueprint.Proofs.UnrelatedClass
import Blueprint.Proofs.JsonText
import Blueprint.Proofs.JsonReading
import Blueprint.Proofs.ModelRoundTrip
import Blueprint.Proofs.BinaryPart
import Blueprint.Proofs.Representation
import Blueprint.Proofs.ReportedDefects
import Blueprint.Proofs.EffectiveFields
import Blueprint.Proofs.FirstBindings
import Blueprint.Proofs.PartialContracts
import Blueprint.Proofs.Completeness
import Blueprint.Proofs.NestedPayloads
import Blueprint.Proofs.CycleSearch
import Blueprint.Proofs.CheckedLookups
import Blueprint.Proofs.Building
import Blueprint.Proofs.JsonInversion
import Blueprint.Proofs.OptionsReading
import Blueprint.Proofs.Runs
import Blueprint.Proofs.JsonInjective
import Blueprint.Proofs.CompiledText
