import Folio.Attribute
import Folio.Command
import Folio.Config.Basic
import Folio.Config.Expansion
import Folio.Config.Fault
import Folio.Config.Load
import Folio.Config.Stored
import Folio.Console.Arguments
import Folio.Console.Check
import Folio.Console.Fault
import Folio.Console.Help
import Folio.Console.Render
import Folio.Console.Request
import Folio.Console.Run
import Folio.Declaration
import Folio.Dictionary
import Folio.Entity
import Folio.Files.Host
import Folio.Files.Path
import Folio.Files.Tree
import Folio.Link.Line
import Folio.Link.Rule
import Folio.Logo
import Folio.Main
import Folio.Markdown.Block.Basic
import Folio.Markdown.Block.Container
import Folio.Markdown.Block.Cursor
import Folio.Markdown.Block.Definition
import Folio.Markdown.Block.Paragraph
import Folio.Markdown.Block.Reader
import Folio.Markdown.Block.Shape
import Folio.Markdown.Block.Table
import Folio.Markdown.Block.Verbatim
import Folio.Markdown.Character
import Folio.Markdown.Document
import Folio.Markdown.Html
import Folio.Markdown.Inline.Basic
import Folio.Markdown.Inline.Emphasis
import Folio.Markdown.Inline.Flank
import Folio.Markdown.Inline.Link
import Folio.Markdown.Inline.Reader
import Folio.Markdown.Inline.Token
import Folio.Markdown.Line
import Folio.Markdown.NamedCharacter
import Folio.Markdown.Prose
import Folio.Markdown.Tag
import Folio.Markdown.Target
import Folio.Menu.Basic
import Folio.Menu.Render
import Folio.Menu.Stored
import Folio.Metadata
import Folio.Notice
import Folio.Page
import Folio.Pattern.Basic
import Folio.Pattern.Class
import Folio.Pattern.Escape
import Folio.Pattern.Program
import Folio.Pattern.Reader
import Folio.Pattern.Room
import Folio.Placeholder
import Folio.Proofs.Entity
import Folio.Proofs.Heading
import Folio.Proofs.Markup
import Folio.Proofs.Text.Mark
import Folio.Proofs.Text.Scan
import Folio.Region
import Folio.Table.Basic
import Folio.Table.Builtin
import Folio.Text.Base64
import Folio.Text.Basic
import Folio.Text.Lines
import Folio.Text.Quoted
import Folio.Text.Scan
import Folio.Text.Utf8
import Folio.Theme
import Folio.Toml.Document
import Folio.Toml.Moment
import Folio.Toml.Number
import Folio.Toml.Scalar
import Folio.Toml.Space
import Folio.Toml.Strings
import Folio.Toml.Tree
import Folio.Unicode.Alphanumeric
import Folio.Unicode.Blank
import Folio.Unicode.CaseFold
import Folio.Unicode.Digit
import Folio.Unicode.LowerCase
import Folio.Unicode.Printable
import Folio.Unicode.Punctuation
import Folio.Unicode.Ranges
import Folio.Unicode.Word
import Folio.Value
import Folio.Proofs.BoxHistory
import Folio.Proofs.Aside
import Folio.Proofs.MainText
import Folio.Proofs.Attribute
import Folio.Proofs.Harvest
import Folio.Proofs.Encoding
import Folio.Proofs.PageValue
import Folio.Proofs.Unicode.LowerCase
import Folio.Proofs.Escaping
import Folio.Proofs.Calling
import Folio.Proofs.Text.Utf8
import Folio.Proofs.Precedence
import Folio.Proofs.MenuFault
import Folio.Proofs.Argument
import Folio.Proofs.Routing
import Folio.Proofs.Files.Tree
import Folio.Proofs.Files.Host
import Folio.Proofs.Writing
import Folio.Proofs.Rendering
import Folio.Proofs.OutputFile
import Folio.Proofs.Markdown.Emphasis
import Folio.Proofs.Markdown.Word
import Folio.Proofs.Markdown.Heading
import Folio.Proofs.BareLink
import Folio.Proofs.VideoLink
import Folio.Proofs.ContentError
import Folio.Proofs.Checking
import Folio.Proofs.PlainDocument
import Folio.Proofs.Account
import Folio.Proofs.Text.Lines
import Folio.Proofs.LinkLine
import Folio.Proofs.Requoting
import Folio.Proofs.AttributeList
import Folio.Proofs.Description
import Folio.Proofs.HeadingLine
import Folio.Proofs.Filling
import Folio.Proofs.Expanding
import Folio.Proofs.MenuMarkup
import Folio.Proofs.BareReference
import Folio.Proofs.Rerouting
import Folio.Proofs.PageName
import Folio.Proofs.Container
import Folio.Proofs.RegisterHistory
import Folio.Proofs.GroupReference
import Folio.Proofs.VideoLine
import Folio.Proofs.StoredTheme
import Folio.Proofs.Pattern.Site
import Folio.Proofs.Pattern.Class
import Folio.Proofs.DeclaredName
import Folio.Proofs.Files.Ancestors
import Folio.Proofs.Discovery
import Folio.Proofs.Overlay
import Folio.Proofs.Text.Octet
import Folio.Proofs.AttributeReading
