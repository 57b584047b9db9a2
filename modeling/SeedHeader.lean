import SeedHeader.Text.Ranges
import SeedHeader.Text.Blank
import SeedHeader.Text.DecimalDigit
import SeedHeader.Text.Digit
import SeedHeader.Text.Letter
import SeedHeader.Text.Numeric
import SeedHeader.Text.Printable
import SeedHeader.Text.Quoted
import SeedHeader.Text.Slice
import SeedHeader.Text.Utf8
import SeedHeader.Decimal.Basic
import SeedHeader.Decimal.Binary64
import SeedHeader.Decimal.Shortest
import SeedHeader.Decimal.Spelling
import SeedHeader.Decimal.Written
import SeedHeader.Span
import SeedHeader.Token
import SeedHeader.Lexeme
import SeedHeader.Suggestion
import SeedHeader.Diagnostic
import SeedHeader.Cursor
import SeedHeader.Game.Numbered
import SeedHeader.Game.Ability
import SeedHeader.Game.Bonus
import SeedHeader.Game.Item
import SeedHeader.Game.Place
import SeedHeader.Keyword
import SeedHeader.Decode
import SeedHeader.Document.Value
import SeedHeader.Document.Item
import SeedHeader.Document.Content
import SeedHeader.Grammar.Value
import SeedHeader.Grammar.Item
import SeedHeader.Grammar.Command
import SeedHeader.Grammar.Statement
import SeedHeader.Grammar.Built
import SeedHeader.Grammar.Motion
import SeedHeader.Reading
import SeedHeader.Log
import SeedHeader.File
import SeedHeader.Node.Kind
import SeedHeader.Node.Member
import SeedHeader.Node.Basic
import SeedHeader.Node.OfDocument
import SeedHeader.Node.Printer
import SeedHeader.Game.Seed
import SeedHeader.Node.Shop
import SeedHeader.Proofs.Scanning
import SeedHeader.Proofs.Trimming
import SeedHeader.Proofs.Utf8
import SeedHeader.Proofs.Decoding
import SeedHeader.Proofs.Casing
import SeedHeader.Proofs.Shape
import SeedHeader.Proofs.Lexed
import SeedHeader.Proofs.Lexing
import SeedHeader.Proofs.FreeText
import SeedHeader.Proofs.Cutting
import SeedHeader.Proofs.Placement
import SeedHeader.Proofs.LexicalGrammar
import SeedHeader.Proofs.Relocation
import SeedHeader.Proofs.UniformNewlines
import SeedHeader.Proofs.Simulation
import SeedHeader.Proofs.Embedding
import SeedHeader.Proofs.Settling
import SeedHeader.Proofs.Phrase
import SeedHeader.Proofs.Syntax
import SeedHeader.Proofs.Recognition
import SeedHeader.Proofs.LineContext
import SeedHeader.Proofs.Statements
import SeedHeader.Proofs.WellFormed
import SeedHeader.Proofs.Numerals
import SeedHeader.Proofs.DigitRows
import SeedHeader.Proofs.Meanings
import SeedHeader.Proofs.Nodes
import SeedHeader.Proofs.Sameness
import SeedHeader.Proofs.Sense
import SeedHeader.Proofs.Lines
import SeedHeader.Proofs.Excuse
import SeedHeader.Proofs.Composition
import SeedHeader.Proofs.Acceptance
import SeedHeader.Proofs.LineReading
import SeedHeader.Proofs.ExcuseScope
import SeedHeader.Proofs.LineContents
import SeedHeader.Proofs.Soundness
import SeedHeader.Proofs.Blame
import SeedHeader.Proofs.Recovery
import SeedHeader.Proofs.NewlineStyle
import SeedHeader.Proofs.Operations
import SeedHeader.Proofs.Remainder
import SeedHeader.Proofs.Slices
import SeedHeader.Proofs.TokenSlices
import SeedHeader.Proofs.LineNumbers
import SeedHeader.Proofs.Locations
import SeedHeader.Proofs.Foresight
import SeedHeader.Proofs.Wording
import SeedHeader.Proofs.FloatTokens
import SeedHeader.Proofs.Parts
import SeedHeader.Proofs.Provenance
import SeedHeader.Proofs.Rereading
import SeedHeader.Proofs.Ranges
import SeedHeader.Proofs.ItemForms
import SeedHeader.Proofs.CommandForms
import SeedHeader.Proofs.Script
import SeedHeader.Proofs.Writing
import SeedHeader.Proofs.WrittenForms
import SeedHeader.Proofs.RoundTrip
import SeedHeader.Proofs.FirmTokens
import SeedHeader.Proofs.Attributes
import SeedHeader.Proofs.Removal
import SeedHeader.Proofs.TextStop
import SeedHeader.Proofs.LooseEnds
import SeedHeader.Proofs.Surroundings
