import FilterSql.Main
import FilterSql.Proofs.Hints
import FilterSql.Proofs.Inquiries
import FilterSql.Proofs.IntegerTexts
import FilterSql.Proofs.JsonTexts
import FilterSql.Proofs.Listings
import FilterSql.Proofs.MappedRows
import FilterSql.Proofs.NormalForm
import FilterSql.Proofs.PredicateGrammar
import FilterSql.Proofs.ReadBack
import FilterSql.Proofs.Refreshing
import FilterSql.Proofs.Refusals
import FilterSql.Proofs.Remembering
import FilterSql.Proofs.RowClauses
import FilterSql.Proofs.Sentences
import FilterSql.Proofs.Sharing
import FilterSql.Proofs.SkippedLookups
import FilterSql.Proofs.StringLiterals
import FilterSql.Proofs.TextTests
import FilterSql.Proofs.Transactions
import FilterSql.Proofs.Variables
import FilterSql.Proofs.WrittenUpserts
import FilterSql.Repository.Handles
import FilterSql.Repository.Scripted
import FilterSql.Settings.FileTree
import FilterSql.Store.Connection
