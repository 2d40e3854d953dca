import QuizPages.CommandLine.Run
import QuizPages.Document
import QuizPages.Json.Reader
import QuizPages.Main
import QuizPages.Proofs.Marker.Seam
import QuizPages.Proofs.Block.Cover
import QuizPages.Proofs.Block.Context
import QuizPages.Proofs.Marker.Pairing
import QuizPages.Proofs.Marker.Role
import QuizPages.Proofs.Quiz.Fragment
import QuizPages.Proofs.Quiz.Grammar
import QuizPages.Proofs.Quiz.Spelling
import QuizPages.Proofs.Quiz.Decoding
import QuizPages.Proofs.Text.Pieces
import QuizPages.Proofs.Text.LineEnds
import QuizPages.Proofs.Document.LineEnds
import QuizPages.Proofs.Page.LineEnds
import QuizPages.Proofs.Page.FrontMatter
import QuizPages.Proofs.Document.SecondPass
import QuizPages.Proofs.Document.Transcript
import QuizPages.Proofs.Document.Isolation
import QuizPages.Proofs.Page.Pairing
import QuizPages.Proofs.Page.Clean
import QuizPages.Proofs.Page.LineOrder
import QuizPages.Proofs.Page.Reading
import QuizPages.Proofs.Page.Agreement
import QuizPages.Proofs.Page.Output
import QuizPages.Proofs.Text.Split
import QuizPages.Proofs.Text.Order
import QuizPages.Proofs.Path.Components
import QuizPages.Proofs.FileTree.Location
import QuizPages.Proofs.FileTree.Reach
import QuizPages.Proofs.FileTree.Way
import QuizPages.Proofs.FileTree.Changes
import QuizPages.Proofs.FileTree.Writing
import QuizPages.Proofs.Scan.Pages
import QuizPages.Proofs.Scan.Again
import QuizPages.Proofs.Ignore.Steady
import QuizPages.Proofs.Site.Sources
import QuizPages.Proofs.Site.Effect
import QuizPages.Proofs.Site.Mirror
import QuizPages.Proofs.Site.Rebuild
import QuizPages.Proofs.Text.Paragraphs
import QuizPages.Proofs.Json.Token
import QuizPages.Proofs.Json.RoundTrip
import QuizPages.Proofs.Json.Order
import QuizPages.Proofs.Json.Lines
import QuizPages.Proofs.Report.Written
import QuizPages.Proofs.Report.ReadBack
import QuizPages.Proofs.Scan.Exclusion
import QuizPages.Proofs.Page.Spots
import QuizPages.Proofs.Page.Lines
import QuizPages.Proofs.Site.Tally
import QuizPages.Proofs.Site.Agreement
import QuizPages.Proofs.Text.OctetOrder
import QuizPages.Proofs.Report.Order
import QuizPages.Proofs.Page.Stages
import QuizPages.Proofs.Quiz.Padding
import QuizPages.Proofs.Document.Unchanged
import QuizPages.Proofs.Site.ReportOrder
import QuizPages.Proofs.Quiz.Fields
import QuizPages.Proofs.Document.Fields
import QuizPages.Proofs.Text.Ascii
import QuizPages.Proofs.Page.Content
import QuizPages.Proofs.Text.Boundary
import QuizPages.Proofs.Page.Excerpts
import QuizPages.Proofs.Quiz.Markers
