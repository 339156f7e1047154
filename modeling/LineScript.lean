import LineScript.Directory
import LineScript.Source
import LineScript.View
import LineScript.Proofs.Comparison
import LineScript.Proofs.Comparison.Evaluation
import LineScript.Proofs.Blocks
import LineScript.Proofs.Rounds
import LineScript.Proofs.Comparison.Body
import LineScript.Proofs.Comparison.Execution
import LineScript.Proofs.Bound
import LineScript.Proofs.Observer
import LineScript.Proofs.Orderly
import LineScript.Proofs.Capture
import LineScript.Proofs.Closing
import LineScript.Proofs.Divergence
import LineScript.Proofs.InertClasses
import LineScript.Proofs.Binding
import LineScript.Proofs.Decoding
import LineScript.Proofs.FileSource
import LineScript.Proofs.Attempt
import LineScript.Proofs.Atom
import LineScript.Proofs.Chain
import LineScript.Proofs.Term
import LineScript.Proofs.StraightLine
import LineScript.Proofs.Relevance
import LineScript.Proofs.Naming
import LineScript.Proofs.FinalBlock
import LineScript.Proofs.FailedClosing
import LineScript.Proofs.Routines
import LineScript.Proofs.FailedLine
import LineScript.Proofs.BranchHeader
import LineScript.Proofs.Form
import LineScript.Proofs.Word
import LineScript.Proofs.Argument
import LineScript.Proofs.Addition
import LineScript.Proofs.CallLine
import LineScript.Proofs.Element
import LineScript.Proofs.TextLiteral
import LineScript.Proofs.LocalNames
import LineScript.Proofs.Definition
import LineScript.Proofs.Termination
import LineScript.Proofs.LoopHeader
import LineScript.Proofs.CallChain
import LineScript.Proofs.Variant
import LineScript.Proofs.LoopBody
import LineScript.Proofs.OpenLoop
import LineScript.Proofs.Continue
