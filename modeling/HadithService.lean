import HadithService.Assistant.Completion
import HadithService.Assistant.Explanation
import HadithService.Assistant.History
import HadithService.Assistant.Message
import HadithService.Assistant.Prompt
import HadithService.Assistant.Replies
import HadithService.Assistant.Requests
import HadithService.Assistant.Turns
import HadithService.Clock
import HadithService.Collection
import HadithService.Decimal.Shortest
import HadithService.Decimal.Whole
import HadithService.Edition
import HadithService.Editions.Archive
import HadithService.Editions.Cache
import HadithService.Editions.Counting
import HadithService.Editions.Insertions
import HadithService.Editions.Loading
import HadithService.Editions.Rounds
import HadithService.Editions.Source
import HadithService.Hadith
import HadithService.Http.Address
import HadithService.Http.Call
import HadithService.Http.Form
import HadithService.Http.MediaType
import HadithService.Http.Message
import HadithService.Http.Sharing
import HadithService.Http.Target
import HadithService.Http.Url
import HadithService.Http.Wire
import HadithService.Json.Basic
import HadithService.Json.Decoder
import HadithService.Json.Draft
import HadithService.Json.Numeral
import HadithService.Json.Spelling
import HadithService.Json.Token
import HadithService.Limits.Counters
import HadithService.Limits.OffTopic
import HadithService.Limits.RateLimiter
import HadithService.Log.Entry
import HadithService.Log.Filter
import HadithService.Main
import HadithService.Metrics
import HadithService.Program
import HadithService.Relevance.Gate
import HadithService.Relevance.Pattern
import HadithService.Search.Arrangement
import HadithService.Search.Changing
import HadithService.Search.Courses
import HadithService.Search.Engine
import HadithService.Search.Query
import HadithService.Service.Alone
import HadithService.Service.Answering
import HadithService.Service.Appeals
import HadithService.Service.Basic
import HadithService.Service.Bodies
import HadithService.Service.Chatting
import HadithService.Service.Desk
import HadithService.Service.Events
import HadithService.Service.Explaining
import HadithService.Service.Input
import HadithService.Service.Refusal
import HadithService.Service.Route
import HadithService.Service.Searching
import HadithService.Service.Stores
import HadithService.Service.Tallies
import HadithService.Settings.Basic
import HadithService.Settings.Environment
import HadithService.Settings.Format
import HadithService.Text.Alphanumeric
import HadithService.Text.Cased
import HadithService.Text.CodeRanges
import HadithService.Text.Fold
import HadithService.Text.LetterCase
import HadithService.Text.Printable
import HadithService.Text.Sanitize
import HadithService.Text.Utf8
import HadithService.Text.Words
import HadithService.Proofs.Assistant.Fences
import HadithService.Proofs.Assistant.Replies
import HadithService.Proofs.Assistant.Turns
import HadithService.Proofs.Collection
import HadithService.Proofs.Editions.Absent
import HadithService.Proofs.Editions.Alone
import HadithService.Proofs.Editions.Apart
import HadithService.Proofs.Editions.Cache
import HadithService.Proofs.Editions.Calls
import HadithService.Proofs.Editions.Counting
import HadithService.Proofs.Editions.Faithful
import HadithService.Proofs.Editions.Fallbacks
import HadithService.Proofs.Editions.Frames
import HadithService.Proofs.Editions.Leftovers
import HadithService.Proofs.Editions.Loading
import HadithService.Proofs.Editions.Nulls
import HadithService.Proofs.Editions.Overlap
import HadithService.Proofs.Editions.Progress
import HadithService.Proofs.Editions.Queues
import HadithService.Proofs.Editions.Recency
import HadithService.Proofs.Editions.Recounted
import HadithService.Proofs.Editions.Rounds
import HadithService.Proofs.Editions.Stages
import HadithService.Proofs.Editions.Store
import HadithService.Proofs.Editions.Vouched
import HadithService.Proofs.Hadith
import HadithService.Proofs.Json.Changes
import HadithService.Proofs.Json.Drafts
import HadithService.Proofs.Json.Numerals
import HadithService.Proofs.Json.Rendering
import HadithService.Proofs.Json.Structures
import HadithService.Proofs.Json.Tokens
import HadithService.Proofs.Json.Written
import HadithService.Proofs.Limits.Counters
import HadithService.Proofs.Limits.RateLimiter
import HadithService.Proofs.Limits.Rows
import HadithService.Proofs.Limits.Separation
import HadithService.Proofs.Limits.Strikes
import HadithService.Proofs.Limits.Windows
import HadithService.Proofs.Metrics
import HadithService.Proofs.Relevance.Diacritics
import HadithService.Proofs.Relevance.Fallback
import HadithService.Proofs.Relevance.Gate
import HadithService.Proofs.Relevance.Pattern
import HadithService.Proofs.Search.Alike
import HadithService.Proofs.Search.Answers
import HadithService.Proofs.Search.Arrangement
import HadithService.Proofs.Search.Courses
import HadithService.Proofs.Search.Detection
import HadithService.Proofs.Search.Diacritics
import HadithService.Proofs.Search.Engine
import HadithService.Proofs.Search.Everywhere
import HadithService.Proofs.Search.Failures
import HadithService.Proofs.Search.Numbers
import HadithService.Proofs.Search.Occurrences
import HadithService.Proofs.Search.Refinement
import HadithService.Proofs.Search.Served
import HadithService.Proofs.Service.Appeals
import HadithService.Proofs.Service.Bodies
import HadithService.Proofs.Service.Chatting
import HadithService.Proofs.Service.Closing
import HadithService.Proofs.Service.Conversations
import HadithService.Proofs.Service.Desk
import HadithService.Proofs.Service.Explanations
import HadithService.Proofs.Service.Isolation
import HadithService.Proofs.Service.Quotas
import HadithService.Proofs.Service.Sweeps
import HadithService.Proofs.Service.Tallies
import HadithService.Proofs.Settings.Format
import HadithService.Proofs.Settings.Secrets
import HadithService.Proofs.Text.Blank
import HadithService.Proofs.Text.Characters
import HadithService.Proofs.Text.Diacritics
import HadithService.Proofs.Text.Folding
import HadithService.Proofs.Text.Sanitize
import HadithService.Proofs.Text.Sigma
import HadithService.Proofs.Text.Words
