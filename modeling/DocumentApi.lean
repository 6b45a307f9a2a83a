import DocumentApi.FilterDocument
import DocumentApi.Json.Reader
import DocumentApi.Pattern
import DocumentApi.Proofs.Criteria.LastWrite
import DocumentApi.Proofs.Listing.Paging
import DocumentApi.Proofs.Service.Identity
import DocumentApi.Service
import DocumentApi.Settings
import DocumentApi.Proofs.Population.Meaning
import DocumentApi.Proofs.Schema.Preparation
import DocumentApi.Proofs.Store.Batch
import DocumentApi.Proofs.Service.Failure
import DocumentApi.Proofs.Store.Places
import DocumentApi.Proofs.Service.Writes
import DocumentApi.Proofs.Matching.Selection
import DocumentApi.Proofs.Service.History
import DocumentApi.Proofs.Service.Deactivation
import DocumentApi.Proofs.Criteria.Distinct
import DocumentApi.Proofs.Fields.Pairs
import DocumentApi.Proofs.FilterDocument.Meaning
import DocumentApi.Proofs.Bson.Order
import DocumentApi.Proofs.SortSpec.Repetition
import DocumentApi.Proofs.Number.Numeral
import DocumentApi.Proofs.Text.Percent
import DocumentApi.Proofs.Criteria.Spelling
import DocumentApi.Proofs.Criteria.Printing
import DocumentApi.Proofs.Bson.PlainJson
import DocumentApi.Proofs.ObjectId.LetterCase
import DocumentApi.Proofs.Schema.NewDocument
import DocumentApi.Proofs.Store.Reading
import DocumentApi.Proofs.Service.ReadBack
import DocumentApi.Proofs.Service.Agreement
import DocumentApi.Proofs.Matching.Patterns
import DocumentApi.Proofs.Listing.Answering
import DocumentApi.Proofs.Schema.References
import DocumentApi.Proofs.Bson.Scalar
import DocumentApi.Proofs.Service.References
import DocumentApi.Proofs.Store.Exclusion
import DocumentApi.Proofs.Service.UniqueFields
import DocumentApi.Proofs.Store.PartialUpdate
import DocumentApi.Proofs.Document.ChangeLaws
import DocumentApi.Proofs.Document.CutLaws
import DocumentApi.Proofs.Document.SortOrder
import DocumentApi.Proofs.Document.StableSort
import DocumentApi.Proofs.Matching.Integers
import DocumentApi.Proofs.Store.Selecting
import DocumentApi.Proofs.Schema.Rereading
import DocumentApi.Proofs.Service.Resubmission
import DocumentApi.Proofs.Document.Reachable
import DocumentApi.Proofs.Matching.Intersection
import DocumentApi.Proofs.Population.PrefixTree
import DocumentApi.Proofs.Schema.BodyReading
import DocumentApi.Proofs.Schema.Acceptance
import DocumentApi.Proofs.Schema.Blank
import DocumentApi.Proofs.Retry.Attempts
import DocumentApi.Proofs.Criteria.CanonicalForm
import DocumentApi.Proofs.Service.ContentType
import DocumentApi.Proofs.FilterDocument.Names
import DocumentApi.Proofs.Normalization.Places
import DocumentApi.Proofs.Criteria.Levels
