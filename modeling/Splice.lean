import Splice.Cursor
import Splice.Logging
import Splice.Splicer
import Splice.Proofs.Cutting
import Splice.Proofs.Descent
import Splice.Proofs.Escaping
import Splice.Proofs.Inlining
import Splice.Proofs.Interleaving
import Splice.Proofs.Isolation
import Splice.Proofs.Nesting
import Splice.Proofs.Persistence
import Splice.Proofs.Tagging
import Splice.Proofs.Tiling
import Splice.Proofs.Trimming
import Splice.Proofs.Blocks
import Splice.Proofs.Succession
import Splice.Proofs.Agreement
import Splice.Proofs.Location
import Splice.Proofs.Exhaustion
import Splice.Proofs.Columns
import Splice.Proofs.NormalForm
import Splice.Proofs.Doubling
import Splice.Proofs.Acceptance
import Splice.Proofs.Counting
import Splice.Proofs.Merging
import Splice.Proofs.Collapsing
import Splice.Proofs.Recovery
import Splice.Proofs.Surfacing
