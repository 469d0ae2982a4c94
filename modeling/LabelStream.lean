import LabelStream.Proofs.Grammar
import LabelStream.Main
import LabelStream.Options.Document
import LabelStream.Proofs.Batching
import LabelStream.Proofs.Turns
import LabelStream.Proofs.Passage
import LabelStream.Proofs.Drawing
import LabelStream.Proofs.Sentences
import LabelStream.Proofs.Acceptance
import LabelStream.Proofs.RoundTrip
import LabelStream.Proofs.Stopping
import LabelStream.Proofs.Growth
import LabelStream.Proofs.Cutting
import LabelStream.Proofs.Shifting
import LabelStream.Proofs.Painting
import LabelStream.Proofs.Strokes
import LabelStream.Proofs.HighWater
import LabelStream.Proofs.Crop
import LabelStream.Proofs.Magnitude
import LabelStream.Proofs.Steering
import LabelStream.Proofs.Clipping
import LabelStream.Proofs.Listening
import LabelStream.Proofs.Pages
import LabelStream.Proofs.TracePositions
import LabelStream.Proofs.Answers
import LabelStream.Proofs.PictureHeaders
import LabelStream.Proofs.JsonText
import LabelStream.Proofs.Printing
import LabelStream.Proofs.Expanding
import LabelStream.Proofs.CutLines
import LabelStream.Proofs.Lenience
import LabelStream.Proofs.FrontEnds
import LabelStream.Proofs.CodeLength
import LabelStream.Proofs.Exporting
import LabelStream.Proofs.Filler
import LabelStream.Proofs.FixedWidth
import LabelStream.Proofs.Progress
import LabelStream.Proofs.Downloads
import LabelStream.Proofs.Verdicts
import LabelStream.Proofs.JsonGrammar
import LabelStream.Proofs.OptionsDocument
