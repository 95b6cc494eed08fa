import HtmlTemplate.Text.Character
import HtmlTemplate.Text.Visible
import HtmlTemplate.Text.Lowercase
import HtmlTemplate.Piece
import HtmlTemplate.Shorthand
import HtmlTemplate.Reading
import HtmlTemplate.Number.Double
import HtmlTemplate.Value.OfJson
import HtmlTemplate.Binding
import HtmlTemplate.Html.Tag
import HtmlTemplate.Registry
import HtmlTemplate.Views.Directory
import HtmlTemplate.Engine
import HtmlTemplate.Report
import HtmlTemplate.Number.Radix
import HtmlTemplate.Settings.OfValue
import HtmlTemplate.Command
import HtmlTemplate.Main
import HtmlTemplate.Proofs.Render
import HtmlTemplate.Proofs.Registry
import HtmlTemplate.Proofs.Render.Demand
import HtmlTemplate.Proofs.Render.Culprit
import HtmlTemplate.Proofs.Render.Inclusion
import HtmlTemplate.Proofs.Render.Splicing
import HtmlTemplate.Proofs.Diagnostic
import HtmlTemplate.Proofs.Reading.Spans
import HtmlTemplate.Proofs.Report
import HtmlTemplate.Proofs.Composition
import HtmlTemplate.Proofs.Reading.Blanks
import HtmlTemplate.Proofs.Render.Dependence
import HtmlTemplate.Proofs.Render.Unbound
import HtmlTemplate.Proofs.Reading.Unclosed
import HtmlTemplate.Proofs.Reading.Final
import HtmlTemplate.Proofs.Reading.Nesting
import HtmlTemplate.Proofs.Lexing.Recovery
import HtmlTemplate.Proofs.Binding
import HtmlTemplate.Proofs.Html.Building
import HtmlTemplate.Proofs.Render.Repeated
import HtmlTemplate.Proofs.Text.Words
import HtmlTemplate.Proofs.Grammar.Occurrences
import HtmlTemplate.Proofs.Render.Classes
import HtmlTemplate.Proofs.Shorthand.Expansion
import HtmlTemplate.Proofs.Registry.Lookup
import HtmlTemplate.Proofs.Render.Dispatch
import HtmlTemplate.Proofs.Path
import HtmlTemplate.Proofs.Views.Directory
import HtmlTemplate.Proofs.Value
import HtmlTemplate.Proofs.Value.Equality
import HtmlTemplate.Proofs.Views.Extension
import HtmlTemplate.Proofs.Command
