import BlogGraph.Main
import BlogGraph.Session
import BlogGraph.Proofs.Blog.History
import BlogGraph.Blog.Race
import BlogGraph.Proofs.Blog.Linearization
import BlogGraph.Proofs.GraphQL.Coercion
import BlogGraph.Proofs.GraphQL.Arguments
import BlogGraph.Proofs.GraphQL.Validity
import BlogGraph.Proofs.GraphQL.Parsed
import BlogGraph.Proofs.GraphQL.Reached
import BlogGraph.Proofs.GraphQL.Collected
import BlogGraph.Proofs.GraphQL.Uses
import BlogGraph.Proofs.GraphQL.Planned
import BlogGraph.Proofs.GraphQL.Calm
import BlogGraph.Proofs.GraphQL.Reading
import BlogGraph.Proofs.Blog.Inputs
import BlogGraph.Proofs.Blog.Queries
import BlogGraph.Proofs.GraphQL.Places
import BlogGraph.Proofs.Blog.Identifiers
import BlogGraph.Proofs.Blog.Mutations
import BlogGraph.Proofs.Blog.Calls
import BlogGraph.Proofs.Blog.Emails
import BlogGraph.Proofs.Service.Writes
import BlogGraph.Proofs.Service.Redaction
import BlogGraph.Blog.Reader
import BlogGraph.Proofs.Blog.Snapshots
import BlogGraph.Proofs.Blog.Growth
import BlogGraph.Proofs.Blog.Confidentiality
import BlogGraph.Proofs.Service.Tracing
import BlogGraph.Proofs.Json.Limits
import BlogGraph.Proofs.Service.Naming
import BlogGraph.Proofs.Blog.Relations
import BlogGraph.Proofs.Blog.Lists
import BlogGraph.Blog.Indexed
import BlogGraph.Proofs.Blog.Indexed
import BlogGraph.Proofs.Http.Concealed
import BlogGraph.Proofs.Http.Parameters
import BlogGraph.Proofs.Json.Members
import BlogGraph.Proofs.Http.Transports
import BlogGraph.Proofs.Service.Serving
import BlogGraph.Proofs.Blog.Acceptance
import BlogGraph.Proofs.Blog.Trail
import BlogGraph.Proofs.Blog.Examples
import BlogGraph.Proofs.Text.CaseTable
import BlogGraph.Proofs.Blog.Search
import BlogGraph.Blog.Shared
import BlogGraph.Proofs.Blog.Locking
import BlogGraph.Proofs.Blog.Alone
import BlogGraph.Proofs.Blog.Seeding
import BlogGraph.Proofs.Log.RequestId
import BlogGraph.Proofs.CommandLine.Unseeded
import BlogGraph.Proofs.Settings.Foreign
import BlogGraph.Proofs.Settings.Precedence
import BlogGraph.Proofs.Blog.Scans
import BlogGraph.Proofs.Log.History
