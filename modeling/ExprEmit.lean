import ExprEmit.Command.Disk
import ExprEmit.Document.Printer
import ExprEmit.Main
import ExprEmit.Proofs.Command.Agreement
import ExprEmit.Proofs.Dependency.Base
import ExprEmit.Proofs.Dependency.Member
import ExprEmit.Proofs.Dependency.Summary
import ExprEmit.Proofs.Document.Report
import ExprEmit.Proofs.Document.RoundTrip
import ExprEmit.Proofs.Expr.History
import ExprEmit.Proofs.Expr.Parentheses
import ExprEmit.Proofs.Expr.WellFormed
import ExprEmit.Proofs.Json.Place
import ExprEmit.Proofs.Sink.Failure
import ExprEmit.Proofs.Type.ConstArray
import ExprEmit.Proofs.Type.RoundTrip
import ExprEmit.Proofs.Unit.Bookkeeping
import ExprEmit.Proofs.Unit.Delivery
import ExprEmit.Proofs.Unit.Rearrangement
