import Formula.Evaluate
import Formula.Lexer
import Formula.Proofs.Arithmetic.Evaluation
import Formula.Proofs.Errors.Earliest
import Formula.Proofs.Errors.Messages
import Formula.Proofs.Errors.Positions
import Formula.Proofs.LexerCalls
import Formula.Proofs.Likeness.Names
import Formula.Proofs.Likeness.Numbers
import Formula.Proofs.Magnitudes
import Formula.Proofs.Nesting
import Formula.Proofs.Spans
import Formula.Proofs.Trace.Depth
import Formula.Proofs.Trace.Records
import Formula.Proofs.Tree.Agree
