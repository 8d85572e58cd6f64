import TextTable.Config.Json
import TextTable.Config.Yaml
import TextTable.Table.Basic
import TextTable.Proofs.Table.Bordered
import TextTable.Proofs.Table.Failure
import TextTable.Proofs.Table.Independence
import TextTable.Proofs.Table.Kept
import TextTable.Proofs.Table.Marker
import TextTable.Proofs.Table.Orientation
import TextTable.Proofs.Table.Plain
import TextTable.Proofs.Template.Agreement
import TextTable.Proofs.Template.Numeric
import TextTable.Proofs.Number.Digits
import TextTable.Proofs.Format.SpecPart
import TextTable.Proofs.Format.SpecText
import TextTable.Proofs.Text.Split
import TextTable.Proofs.Directive.Grammar
import TextTable.Proofs.Directive.Options
import TextTable.Proofs.Table.Borders
import TextTable.Proofs.Table.Styles
import TextTable.Proofs.Table.Width
import TextTable.Proofs.Value.RoundTrip
import TextTable.Proofs.Config.Fields
import TextTable.Proofs.Format.Padding
import TextTable.Proofs.Template.Integer
import TextTable.Proofs.Format.Refusal
import TextTable.Proofs.Template.Arguments
import TextTable.Proofs.Template.Field
import TextTable.Proofs.Template.Path
import TextTable.Proofs.Template.Written
import TextTable.Proofs.Text.Fit
import TextTable.Proofs.Text.Greedy
import TextTable.Proofs.Format.General
import TextTable.Proofs.Format.NumberText
import TextTable.Proofs.Cell.Parentheses
import TextTable.Proofs.Table.Strings
