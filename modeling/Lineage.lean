import Lineage.Command.Arguments
import Lineage.Command.Execution
import Lineage.Command.Help
import Lineage.Date.Basic
import Lineage.Date.Calendar
import Lineage.Date.Display
import Lineage.Date.Order
import Lineage.Decimal.Binary
import Lineage.Decimal.Reading
import Lineage.Decimal.Shortest
import Lineage.Decimal.Whole
import Lineage.Document.Arena
import Lineage.Document.Content
import Lineage.Document.Element
import Lineage.Document.Footnote
import Lineage.Document.Page
import Lineage.Document.Style
import Lineage.Formula.Basic
import Lineage.Formula.Eval
import Lineage.Formula.Grammar
import Lineage.Formula.Localized
import Lineage.Formula.Localizer
import Lineage.Formula.Quoted
import Lineage.Formula.Scope
import Lineage.Formula.Substitution
import Lineage.Formula.Value
import Lineage.Json.Basic
import Lineage.Json.Printer
import Lineage.Json.Reading
import Lineage.Kin.Relatives
import Lineage.Leveled.Block
import Lineage.Leveled.Line
import Lineage.Leveled.Link
import Lineage.Leveled.Value
import Lineage.Listing.Condition
import Lineage.Listing.Order
import Lineage.Main
import Lineage.Markup.Attribute
import Lineage.Markup.Event
import Lineage.Markup.Location
import Lineage.Markup.Reference
import Lineage.Order.Insertion
import Lineage.Output.Collected
import Lineage.Output.Dump
import Lineage.Output.Encode
import Lineage.Pattern.Basic
import Lineage.Pattern.Class
import Lineage.Pattern.Escape
import Lineage.Pattern.Flags
import Lineage.Pattern.Reading
import Lineage.Pattern.Weight
import Lineage.Proofs.Walk.Basic
import Lineage.Proofs.Walk.Frame
import Lineage.Proofs.Walk.Skipped
import Lineage.Proofs.Walk.Structured
import Lineage.Record.Basic
import Lineage.Record.Fact
import Lineage.Record.Split
import Lineage.Report.Citation
import Lineage.Report.Condition
import Lineage.Report.Config
import Lineage.Report.Job
import Lineage.Report.Layout
import Lineage.Report.Outcome
import Lineage.Report.Picture
import Lineage.Report.Repetition
import Lineage.Report.State
import Lineage.Report.Subject
import Lineage.Report.Target
import Lineage.Report.Value
import Lineage.Report.Walk
import Lineage.Store.Access
import Lineage.Store.Basic
import Lineage.Store.Filter
import Lineage.Store.Like
import Lineage.Template.Attributes
import Lineage.Template.Compile
import Lineage.Template.Measure
import Lineage.Template.Setup
import Lineage.Template.Tag
import Lineage.Template.Tree
import Lineage.Text.Blank
import Lineage.Text.Case
import Lineage.Text.CharSet
import Lineage.Text.Hexadecimal
import Lineage.Text.Property
import Lineage.Text.Sequences
import Lineage.Text.Split
import Lineage.Unicode.Age
import Lineage.Unicode.Boundary
import Lineage.Unicode.Category
import Lineage.Unicode.Description
import Lineage.Unicode.Name
import Lineage.Unicode.Property
import Lineage.Unicode.Script
import Lineage.Proofs.Walk.Refinement
import Lineage.Proofs.Store.Privacy
import Lineage.Proofs.Walk.Privacy
import Lineage.Proofs.Document.Arena
import Lineage.Proofs.Walk.History
import Lineage.Proofs.Walk.Edit
import Lineage.Proofs.Walk.Trail
import Lineage.Proofs.Text.Blank
import Lineage.Proofs.Document.Nesting
import Lineage.Proofs.Document.Footnotes
import Lineage.Proofs.Document.Places
import Lineage.Proofs.Document.Placement
import Lineage.Proofs.Text.Lines
import Lineage.Proofs.Record.Facts
import Lineage.Proofs.Record.Header
import Lineage.Proofs.Record.Regular
import Lineage.Proofs.Store.Facts
import Lineage.Proofs.Report.Facts
import Lineage.Proofs.Walk.Output
import Lineage.Proofs.Report.Delivery
import Lineage.Formula.Printed
import Lineage.Proofs.Formula.Lexis
import Lineage.Proofs.Formula.Printed
import Lineage.Leveled.Tree
import Lineage.Proofs.Leveled.Tree
import Lineage.Proofs.Leveled.Value
import Lineage.Markup.Written
import Lineage.Template.Written
import Lineage.Proofs.Markup.Written
import Lineage.Proofs.Template.Compile
import Lineage.Record.Layout
import Lineage.Proofs.Record.Split
import Lineage.Kin.Kinship
import Lineage.Proofs.Kin.Search
import Lineage.Proofs.Kin.Relatives
import Lineage.Kin.Generation
import Lineage.Proofs.Kin.Found
import Lineage.Proofs.Kin.Generations
import Lineage.Proofs.Kin.Seniority
import Lineage.Proofs.Kin.Limit
import Lineage.Kin.Descendancy
import Lineage.Proofs.Kin.Descendancy
import Lineage.Proofs.Date.Order
import Lineage.Listing.DateBound
import Lineage.Proofs.Leveled.Lookup
import Lineage.Proofs.Store.Dates
import Lineage.Proofs.Listing.Reading
import Lineage.Proofs.Listing.DateBound
import Lineage.Proofs.Formula.Substitution
import Lineage.Proofs.Formula.Quoted
import Lineage.Proofs.Walk.Conditions
import Lineage.Proofs.Leveled.Search
import Lineage.Proofs.Report.Assignment
import Lineage.Leveled.Part
import Lineage.Proofs.Leveled.Part
import Lineage.Proofs.Report.Parts
import Lineage.Proofs.Walk.Tallies
import Lineage.Proofs.Walk.Depth
import Lineage.Proofs.Report.Totals
import Lineage.Markup.Outline
import Lineage.Proofs.Markup.Reading
import Lineage.Proofs.Template.Location
import Lineage.Proofs.Markup.Outline
import Lineage.Proofs.Template.Setup
import Lineage.Proofs.Date.Calendar
import Lineage.Proofs.Template.Default
import Lineage.Proofs.Order.Insertion
import Lineage.Proofs.Record.Order
import Lineage.Proofs.Listing.Order
import Lineage.Proofs.Store.Rearranged
import Lineage.Proofs.Report.ByName
import Lineage.Date.Span
import Lineage.Proofs.Date.Span
import Lineage.Date.Range
import Lineage.Proofs.Text.Words
import Lineage.Proofs.Date.Reading
import Lineage.Proofs.Date.Range
import Lineage.Proofs.Decimal.Whole
import Lineage.Proofs.Date.Written
import Lineage.Proofs.Text.Case
import Lineage.Proofs.Text.CharSet
import Lineage.Proofs.Pattern.Matching
import Lineage.Proofs.Pattern.Reading
import Lineage.Store.Wildcard
import Lineage.Proofs.Store.Like
import Lineage.Leveled.Run
import Lineage.Proofs.Leveled.Run
import Lineage.Proofs.Leveled.Continuation
import Lineage.Proofs.Record.Lookup
import Lineage.Proofs.Formula.Part
import Lineage.Formula.Reference
import Lineage.Proofs.Formula.Reference
import Lineage.Output.Extent
import Lineage.Proofs.Output.Dump
import Lineage.Listing.Written
import Lineage.Proofs.Listing.Written
import Lineage.Proofs.Report.Citation
import Lineage.Proofs.Document.Content
