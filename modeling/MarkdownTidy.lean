import MarkdownTidy.Bytes
import MarkdownTidy.Cli.Flag
import MarkdownTidy.Cli.LineRange
import MarkdownTidy.Cli.Run
import MarkdownTidy.Config
import MarkdownTidy.Config.Locate
import MarkdownTidy.Config.Reader
import MarkdownTidy.Converter
import MarkdownTidy.Document.Blocks
import MarkdownTidy.Document.Continuing
import MarkdownTidy.Document.Dump
import MarkdownTidy.Document.Footnotes
import MarkdownTidy.Document.Frame
import MarkdownTidy.Document.HtmlBlock
import MarkdownTidy.Document.Indent
import MarkdownTidy.Document.Inline.Leaf
import MarkdownTidy.Document.Inline.Link
import MarkdownTidy.Document.Inline.Linkify
import MarkdownTidy.Document.Inline.Parse
import MarkdownTidy.Document.Inline.Piece
import MarkdownTidy.Document.Inline.State
import MarkdownTidy.Document.LineCursor
import MarkdownTidy.Document.Marker
import MarkdownTidy.Document.Node
import MarkdownTidy.Document.Opening
import MarkdownTidy.Document.Parse
import MarkdownTidy.Document.Reference
import MarkdownTidy.Document.Rule
import MarkdownTidy.Document.Span
import MarkdownTidy.Document.Table
import MarkdownTidy.Document.TextCursor
import MarkdownTidy.Document.Transform
import MarkdownTidy.FileTree
import MarkdownTidy.Formatter
import MarkdownTidy.FrontMatter.Fence
import MarkdownTidy.FrontMatter.Split
import MarkdownTidy.Host
import MarkdownTidy.Html.Element
import MarkdownTidy.Html.Escape
import MarkdownTidy.Html.Markup
import MarkdownTidy.Html.Pattern
import MarkdownTidy.Html.Render
import MarkdownTidy.Html.Tag
import MarkdownTidy.Html.Token
import MarkdownTidy.Main
import MarkdownTidy.Number.Double
import MarkdownTidy.Path
import MarkdownTidy.Pipeline.Basic
import MarkdownTidy.Pipeline.Call
import MarkdownTidy.Pipeline.Plugin
import MarkdownTidy.Pipeline.RuleList
import MarkdownTidy.Preview.Metadata
import MarkdownTidy.Preview.Page
import MarkdownTidy.Preview.Toc
import MarkdownTidy.Proofs.Bytes.Cutting
import MarkdownTidy.Proofs.Bytes.Search
import MarkdownTidy.Proofs.Cli.Documents
import MarkdownTidy.Proofs.Cli.TreeFiles
import MarkdownTidy.Proofs.Config.NearestFile
import MarkdownTidy.Proofs.Document.AttributeFields
import MarkdownTidy.Proofs.Document.BlockNames
import MarkdownTidy.Proofs.Document.BlockShortcode
import MarkdownTidy.Proofs.Document.BlockSteps
import MarkdownTidy.Proofs.Document.BlockText
import MarkdownTidy.Proofs.Document.Delimiters
import MarkdownTidy.Proofs.Document.EmphasisReading
import MarkdownTidy.Proofs.Document.HeadingMarks
import MarkdownTidy.Proofs.Document.HeadingText
import MarkdownTidy.Proofs.Document.InlineKinds
import MarkdownTidy.Proofs.Document.InlineShortcode
import MarkdownTidy.Proofs.Document.ItemLine
import MarkdownTidy.Proofs.Document.LinePieces
import MarkdownTidy.Proofs.Document.LinkTarget
import MarkdownTidy.Proofs.Document.MarginParagraph
import MarkdownTidy.Proofs.Document.Markers
import MarkdownTidy.Proofs.Document.MediaFiles
import MarkdownTidy.Proofs.Document.NestedLines
import MarkdownTidy.Proofs.Document.NestedOpening
import MarkdownTidy.Proofs.Document.OpeningStates
import MarkdownTidy.Proofs.Document.OrderedItems
import MarkdownTidy.Proofs.Document.OrderedLines
import MarkdownTidy.Proofs.Document.ParagraphLines
import MarkdownTidy.Proofs.Document.QuietLines
import MarkdownTidy.Proofs.Document.QuotedLines
import MarkdownTidy.Proofs.Document.RowCells
import MarkdownTidy.Proofs.Document.SoleShortcode
import MarkdownTidy.Proofs.Document.Spans
import MarkdownTidy.Proofs.Document.TextNames
import MarkdownTidy.Proofs.Document.TopLevel
import MarkdownTidy.Proofs.Document.TreeKinds
import MarkdownTidy.Proofs.Formatter.FrontMatter
import MarkdownTidy.Proofs.Formatter.History
import MarkdownTidy.Proofs.Formatter.LineRange
import MarkdownTidy.Proofs.FrontMatter.Fences
import MarkdownTidy.Proofs.Html.MissingElements
import MarkdownTidy.Proofs.Html.PageTags
import MarkdownTidy.Proofs.Html.References
import MarkdownTidy.Proofs.Html.SpelledMarks
import MarkdownTidy.Proofs.Html.TagAttributes
import MarkdownTidy.Proofs.Html.Tokens
import MarkdownTidy.Proofs.Outcomes
import MarkdownTidy.Proofs.Pipeline.ContainedShortcode
import MarkdownTidy.Proofs.Pipeline.EarliestRule
import MarkdownTidy.Proofs.Pipeline.HeadingLines
import MarkdownTidy.Proofs.Pipeline.Idempotence
import MarkdownTidy.Proofs.Pipeline.Lists
import MarkdownTidy.Proofs.Pipeline.Paragraphs
import MarkdownTidy.Proofs.Pipeline.Punctuation
import MarkdownTidy.Proofs.Pipeline.Registration
import MarkdownTidy.Proofs.Pipeline.RuleInsertion
import MarkdownTidy.Proofs.Pipeline.RuleOrder
import MarkdownTidy.Proofs.Pipeline.RuleRoom
import MarkdownTidy.Proofs.Plain.Frames
import MarkdownTidy.Proofs.Plain.HeadingLine
import MarkdownTidy.Proofs.Plain.Inline
import MarkdownTidy.Proofs.Plain.Opening
import MarkdownTidy.Proofs.Plain.Outline
import MarkdownTidy.Proofs.Plain.Paragraph
import MarkdownTidy.Proofs.Plain.Reading
import MarkdownTidy.Proofs.Plain.Rereading
import MarkdownTidy.Proofs.Plain.Rules
import MarkdownTidy.Proofs.Plain.Spelling
import MarkdownTidy.Proofs.Plain.Writing
import MarkdownTidy.Proofs.Shortcode.AttributeList
import MarkdownTidy.Proofs.Shortcode.KeptAttributes
import MarkdownTidy.Proofs.Shortcode.ListEnding
import MarkdownTidy.Proofs.Shortcode.Placeholder
import MarkdownTidy.Proofs.Shortcode.PrintedLines
import MarkdownTidy.Proofs.Shortcode.Recognition
import MarkdownTidy.Proofs.Shortcode.RoundTrip
import MarkdownTidy.Proofs.Shortcode.SharedNames
import MarkdownTidy.Proofs.Shortcode.ValueEscaping
import MarkdownTidy.Proofs.Shortcode.WrittenNames
import MarkdownTidy.Proofs.Text.CodePoints
import MarkdownTidy.Proofs.Text.Glyphs
import MarkdownTidy.Proofs.Text.LetterCase
import MarkdownTidy.Proofs.Text.Marks
import MarkdownTidy.Proofs.Text.Trimming
import MarkdownTidy.Proofs.Url.DocumentLinks
import MarkdownTidy.Proofs.Url.Escaping
import MarkdownTidy.Proofs.Url.Parts
import MarkdownTidy.Proofs.Writer.CodeBlocks
import MarkdownTidy.Proofs.Writer.CodeSpan
import MarkdownTidy.Proofs.Writer.Containers
import MarkdownTidy.Proofs.Writer.Emphasis
import MarkdownTidy.Proofs.Writer.Fencing
import MarkdownTidy.Proofs.Writer.FirstBlock
import MarkdownTidy.Proofs.Writer.Grid
import MarkdownTidy.Proofs.Writer.LinkTail
import MarkdownTidy.Proofs.Writer.OrderedItems
import MarkdownTidy.Proofs.Writer.Paragraph
import MarkdownTidy.Proofs.Writer.PrefixedLines
import MarkdownTidy.Proofs.Writer.SiblingLists
import MarkdownTidy.Proofs.Writer.TableRows
import MarkdownTidy.Proofs.Yaml.WhiteSpace
import MarkdownTidy.Punctuation
import MarkdownTidy.Shortcode.Basic
import MarkdownTidy.Shortcode.MarkdownAttributes
import MarkdownTidy.Shortcode.Printer
import MarkdownTidy.Shortcode.Reader
import MarkdownTidy.Text.Base64
import MarkdownTidy.Text.Blank
import MarkdownTidy.Text.Case
import MarkdownTidy.Text.CombiningClass
import MarkdownTidy.Text.Composition
import MarkdownTidy.Text.Decomposition
import MarkdownTidy.Text.Entity
import MarkdownTidy.Text.Grapheme
import MarkdownTidy.Text.Letter
import MarkdownTidy.Text.Quoted
import MarkdownTidy.Text.Symbol
import MarkdownTidy.Text.Utf8
import MarkdownTidy.Text.Width
import MarkdownTidy.Url.Basic
import MarkdownTidy.Url.DocumentLink
import MarkdownTidy.Url.Escape
import MarkdownTidy.Writer.Code
import MarkdownTidy.Writer.Layout
import MarkdownTidy.Writer.Link
import MarkdownTidy.Writer.Style
import MarkdownTidy.Writer.Visitor
import MarkdownTidy.Yaml.Cursor
import MarkdownTidy.Yaml.Decode
import MarkdownTidy.Yaml.Lexer.Basic
import MarkdownTidy.Yaml.Lexer.Comment
import MarkdownTidy.Yaml.Lexer.Fetch
import MarkdownTidy.Yaml.Lexer.Scalar
import MarkdownTidy.Yaml.Lexer.Tag
import MarkdownTidy.Yaml.Node
import MarkdownTidy.Yaml.Pen
import MarkdownTidy.Yaml.Printer
import MarkdownTidy.Yaml.Problem
import MarkdownTidy.Yaml.Reader
import MarkdownTidy.Yaml.Resolve
import MarkdownTidy.Yaml.ScalarText
import MarkdownTidy.Yaml.Source
import MarkdownTidy.Yaml.Timestamp
import MarkdownTidy.Yaml.Token
import MarkdownTidy.Yaml.Value
