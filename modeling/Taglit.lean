import Taglit.Cache.Session
import Taglit.Interface
import Taglit.Proofs.Cache.History
import Taglit.Proofs.Cache.Ledger
import Taglit.Proofs.Cache.Refinement
import Taglit.Proofs.Cache.Retention
import Taglit.Proofs.Compiled.Chunks
import Taglit.Proofs.Compiled.Count
import Taglit.Proofs.Compiled.Emission
import Taglit.Proofs.Compiled.Includes
import Taglit.Proofs.Compiled.Leading
import Taglit.Proofs.Compiled.Literal
import Taglit.Proofs.Compiled.Nesting
import Taglit.Proofs.Compiled.OpeningTag
import Taglit.Proofs.Compiled.Outline
import Taglit.Proofs.Compiled.Parts
import Taglit.Proofs.Compiled.Properties
import Taglit.Proofs.Compiled.Refusal
import Taglit.Proofs.Compiled.Scoping
import Taglit.Proofs.Compiled.Sequence
import Taglit.Proofs.Compiled.Walk
import Taglit.Proofs.Compiled.WrittenOut
import Taglit.Proofs.Literal.Holes
import Taglit.Proofs.Markup.Encoding
import Taglit.Proofs.Output.Binding
import Taglit.Proofs.Output.Demand
import Taglit.Proofs.Output.Rewriting
import Taglit.Proofs.Output.Scan
import Taglit.Proofs.Text.Faithful
