import ModelLinker.Linked.Writer
import ModelLinker.Main
import ModelLinker.Proofs.Arena.Arises
import ModelLinker.Proofs.Binding.KeyLoop
import ModelLinker.Proofs.Binding.Sources
import ModelLinker.Proofs.Binding.Walked
import ModelLinker.Proofs.CommandLine.Runs
import ModelLinker.Proofs.Decl.Documents
import ModelLinker.Proofs.Embeddings
import ModelLinker.Proofs.Enumerations
import ModelLinker.Proofs.Evolution.Accepted
import ModelLinker.Proofs.Evolution.Composed
import ModelLinker.Proofs.Evolution.Restated
import ModelLinker.Proofs.Evolution.Silent
import ModelLinker.Proofs.Joins.Bound
import ModelLinker.Proofs.Marks.Overwritten
import ModelLinker.Proofs.Modular
import ModelLinker.Proofs.Names.Repeated
import ModelLinker.Proofs.Relinked.Run
import ModelLinker.Proofs.Roles.Cuts
import ModelLinker.Proofs.Roles.Declared
import ModelLinker.Proofs.Roles.Grants
import ModelLinker.Proofs.Roles.Sessions
import ModelLinker.Proofs.Searches.Rows
import ModelLinker.Proofs.Seeded
import ModelLinker.Proofs.Source.Paths
import ModelLinker.Proofs.Unchanged
import ModelLinker.Proofs.Uniqueness
