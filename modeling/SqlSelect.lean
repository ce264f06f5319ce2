import SqlSelect.Query
import SqlSelect.Proofs.Failure
import SqlSelect.Proofs.Aliases
import SqlSelect.Proofs.Clean
import SqlSelect.Proofs.ReadBack
import SqlSelect.Proofs.Qualifiers
import SqlSelect.Proofs.Scope
import SqlSelect.Proofs.Fragments
import SqlSelect.Proofs.Record
import SqlSelect.Proofs.Conditions
import SqlSelect.Proofs.Partition
import SqlSelect.Proofs.Registration
import SqlSelect.Proofs.Projections
import SqlSelect.Proofs.Rows
import SqlSelect.Proofs.WhiteAliases
import SqlSelect.Proofs.LocalTime
import SqlSelect.Proofs.DoubleLiterals
import SqlSelect.Proofs.Inlining
import SqlSelect.Proofs.Renaming
import SqlSelect.Proofs.Integers
import SqlSelect.Proofs.Equality
import SqlSelect.Proofs.SelectedItems
import SqlSelect.Proofs.ColumnGroups
