import TypeShape.Text.Literal
import TypeShape.Text.Blank
import TypeShape.Text.Decimal
import TypeShape.Text.Quoted
import TypeShape.CharClass
import TypeShape.Scan.TopLevel
import TypeShape.Scan.Stepwise
import TypeShape.Descriptor.Reader
import TypeShape.Descriptor.Render
import TypeShape.Descriptor.Parts
import TypeShape.Tree
import TypeShape.Memo.Request
import TypeShape.Session
import TypeShape.Expectation
import TypeShape.Conformance.Forms
import TypeShape.Conformance.Classes
import TypeShape.Main
import TypeShape.Proofs.Reasons
import TypeShape.Proofs.Classification
import TypeShape.Proofs.Degrouping
import TypeShape.Proofs.Faults
import TypeShape.Proofs.Shape
import TypeShape.Proofs.FaithfulMemo
import TypeShape.Proofs.Arrivals
import TypeShape.Proofs.FirstInFirstOut
import TypeShape.Proofs.DelimiterFree
import TypeShape.Proofs.Preorder
import TypeShape.Proofs.OutlineWalk
import TypeShape.Proofs.Precedence
import TypeShape.Proofs.Serving
import TypeShape.Proofs.Identity
import TypeShape.Proofs.EventLog
import TypeShape.Proofs.Joins
import TypeShape.Proofs.Validity
import TypeShape.Proofs.Arguments
import TypeShape.Proofs.ClosedForms
import TypeShape.Proofs.GenericGrammar
import TypeShape.Proofs.ParameterGrammar
import TypeShape.Proofs.PushedParameters
import TypeShape.Proofs.TreeSize
import TypeShape.Proofs.WellShaped
import TypeShape.Proofs.Extension
import TypeShape.Proofs.AmpleCapacity
import TypeShape.Proofs.Wrapping
import TypeShape.Proofs.ArraySizes
import TypeShape.Proofs.KeepFirst
import TypeShape.Proofs.AcceptedKeys
import TypeShape.Proofs.Recognition
import TypeShape.Proofs.CutPoints
import TypeShape.Proofs.SkippedValues
import TypeShape.Proofs.Trials
import TypeShape.Proofs.Sessions
