import ColorSpans.Caches
import ColorSpans.DataFolder.Library
import ColorSpans.Main
import ColorSpans.Session.External
import ColorSpans.TopicLog
import ColorSpans.Proofs.Caching
import ColorSpans.Proofs.DataFolder
import ColorSpans.Proofs.DefaultOptions
import ColorSpans.Proofs.Lexicon
import ColorSpans.Proofs.Literal.Accepted
import ColorSpans.Proofs.Literal.Dispatch
import ColorSpans.Proofs.Literal.Greedy
import ColorSpans.Proofs.Literal.Hexadecimal
import ColorSpans.Proofs.Literal.Lookback
import ColorSpans.Proofs.Literal.Lookup
import ColorSpans.Proofs.Merging
import ColorSpans.Proofs.Names.Order
import ColorSpans.Proofs.Sass.Aliases
import ColorSpans.Proofs.Sass.Anew
import ColorSpans.Proofs.Sass.Colors
import ColorSpans.Proofs.Sass.Directives
import ColorSpans.Proofs.Sass.Honest
import ColorSpans.Proofs.Sass.Liveness
import ColorSpans.Proofs.Sass.Maintenance
import ColorSpans.Proofs.Sass.Ownership
import ColorSpans.Proofs.Sass.Ranges
import ColorSpans.Proofs.Sass.Renaming
import ColorSpans.Proofs.Sass.Restoring
import ColorSpans.Proofs.Sass.Thrift
import ColorSpans.Proofs.Session.Arrivals
import ColorSpans.Proofs.Session.Delivery
import ColorSpans.Proofs.Session.Isolation
import ColorSpans.Proofs.Session.Latest
import ColorSpans.Proofs.Session.Ledger
import ColorSpans.Proofs.Session.Leftovers
import ColorSpans.Proofs.Session.Looks
import ColorSpans.Proofs.Session.Options
import ColorSpans.Proofs.Session.Watches
import ColorSpans.Proofs.Viewport
