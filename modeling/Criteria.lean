import Criteria.Workspace
import Criteria.Proofs.Outcome
import Criteria.Proofs.Template.Plain
import Criteria.Proofs.Bindings
import Criteria.Proofs.Call
import Criteria.Proofs.Clause
import Criteria.Proofs.Compiled
import Criteria.Proofs.Condition.Clauses
import Criteria.Proofs.Condition.SharedNames
import Criteria.Proofs.Page.Placeholders
import Criteria.Proofs.Page.RowLimit
import Criteria.Proofs.Naming
import Criteria.Proofs.Operator.Usable
import Criteria.Proofs.Page.Window
import Criteria.Proofs.ResultSyntax
import Criteria.Proofs.Condition.Matching
import Criteria.Proofs.Condition.Returned
import Criteria.Proofs.Operator.Entries
import Criteria.Proofs.Operator.Slotted
import Criteria.Proofs.Condition.Substituted
import Criteria.Proofs.Template.Flat
import Criteria.Proofs.Condition.Equal
import Criteria.Proofs.Number.Exact
import Criteria.Proofs.Value.Same
import Criteria.Proofs.Comparable
import Criteria.Proofs.Equality
import Criteria.Proofs.Counterpart
import Criteria.Proofs.Script
import Criteria.Proofs.Sharing
import Criteria.Proofs.Operator.Store
import Criteria.Proofs.Condition.Isolated
import Criteria.Proofs.Configured
import Criteria.Proofs.Delimited
import Criteria.Proofs.Page.Demands
import Criteria.Proofs.Operator.Substitution
import Criteria.Proofs.Quotes
import Criteria.Proofs.Membership
import Criteria.Proofs.Operator.Acceptance
import Criteria.Proofs.Unnamed
import Criteria.Proofs.Inlined
import Criteria.Proofs.Condition.Owned
import Criteria.Proofs.Merge
