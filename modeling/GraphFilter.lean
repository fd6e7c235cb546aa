import GraphFilter.Main
import GraphFilter.Sample.Films
import GraphFilter.Proofs.Condition.Tree
import GraphFilter.Proofs.Selection.Steps
import GraphFilter.Proofs.Selection.Meaning
import GraphFilter.Proofs.Query.Building
import GraphFilter.Proofs.Query.Faithful
import GraphFilter.Proofs.Query.Agreement
import GraphFilter.Proofs.Query.Bindings
import GraphFilter.Proofs.Condition.Validity
import GraphFilter.Proofs.Condition.Grammar
import GraphFilter.Proofs.Engine.Calls
import GraphFilter.Proofs.Engine.ClosedAnswers
import GraphFilter.Proofs.Engine.MemoryAnswers
import GraphFilter.Proofs.Condition.Decoding
import GraphFilter.Proofs.Condition.Outline
import GraphFilter.Proofs.Condition.Rereading
import GraphFilter.Proofs.Query.Indifference
import GraphFilter.Proofs.Query.Legible
import GraphFilter.Proofs.Engine.SeparateAnswers
import GraphFilter.Proofs.Query.OneReading
import GraphFilter.Proofs.Engine.Unconstrained
import GraphFilter.Proofs.Graph.RoundTrip
import GraphFilter.Proofs.Selection.Monotone
import GraphFilter.Proofs.Value.StrictEquality
import GraphFilter.Proofs.Selection.Algebra
import GraphFilter.Proofs.Selection.Arrangement
import GraphFilter.Proofs.Value.Canonical
import GraphFilter.Proofs.Settings.Loading
import GraphFilter.Proofs.Engine.RereadRequests
import GraphFilter.Proofs.Condition.Folding
import GraphFilter.Proofs.Condition.Places
import GraphFilter.Proofs.Query.KeySearch
import GraphFilter.Proofs.Query.Quoting
