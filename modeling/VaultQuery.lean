import VaultQuery.Main
import VaultQuery.Proofs.Base.Truth
import VaultQuery.Proofs.Convert
import VaultQuery.Proofs.Expr.Part
import VaultQuery.Query.Shown
import VaultQuery.Proofs.Base.Normal
import VaultQuery.Proofs.Expr.Plain
import VaultQuery.Proofs.Expr.Loop
import VaultQuery.Proofs.Source.Plain
import VaultQuery.Proofs.Base.Columns
import VaultQuery.Proofs.Expr.Shallow
import VaultQuery.Proofs.Query.Given
import VaultQuery.Proofs.Query.Depth
import VaultQuery.Proofs.Base.Entry
import VaultQuery.Proofs.Base.Last
import VaultQuery.Proofs.Base.Refusal
import VaultQuery.Proofs.Query.Reorder
import VaultQuery.Proofs.Base.Nesting
import VaultQuery.Proofs.Expr.Bracket
import VaultQuery.Proofs.Token.Quoted
import VaultQuery.Proofs.Expr.Shift
import VaultQuery.Proofs.Term.Trailing
import VaultQuery.Proofs.Expr.Relative
import VaultQuery.Proofs.Query.Brackets
import VaultQuery.Proofs.Query.Complaint
import VaultQuery.Proofs.Query.Place
import VaultQuery.Proofs.Base.Session
import VaultQuery.Proofs.Query.Report
import VaultQuery.Proofs.Source.Grammar
import VaultQuery.Proofs.Base.Unsupported
import VaultQuery.Proofs.Record
import VaultQuery.Proofs.Text.Pattern
import VaultQuery.Proofs.Note
import VaultQuery.Proofs.Token.Comment
import VaultQuery.Proofs.Query.Comment
import VaultQuery.Proofs.Expr.Label
import VaultQuery.Proofs.Moment
import VaultQuery.Proofs.Duration
import VaultQuery.Proofs.Base.Document
