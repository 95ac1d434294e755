import GraphBrowser.Demo
import GraphBrowser.Explorer.Crawl
import GraphBrowser.Page.Fetcher
import GraphBrowser.Surface.CallLog
import GraphBrowser.Proofs.Effects
import GraphBrowser.Proofs.Growth
import GraphBrowser.Proofs.VisibleLinks
import GraphBrowser.Proofs.Picture
import GraphBrowser.Proofs.Mirror
import GraphBrowser.Proofs.LinkNames
import GraphBrowser.Proofs.ConnectorText
import GraphBrowser.Proofs.Tickets
import GraphBrowser.Proofs.Arrival
import GraphBrowser.Proofs.Askers
import GraphBrowser.Proofs.Coalescing
import GraphBrowser.Proofs.Answers
import GraphBrowser.Proofs.CompletionOrder
import GraphBrowser.Proofs.Crawling
import GraphBrowser.Proofs.Discovery
import GraphBrowser.Proofs.Placement
import GraphBrowser.Proofs.Retrying
import GraphBrowser.Proofs.Keeping
import GraphBrowser.Proofs.Pairing
import GraphBrowser.Proofs.Frames
import GraphBrowser.Proofs.Replay
import GraphBrowser.Proofs.Discipline
import GraphBrowser.Proofs.ByteOrder
import GraphBrowser.Proofs.LinkHistory
import GraphBrowser.Proofs.LayoutRuns
import GraphBrowser.Proofs.Fetching
import GraphBrowser.Proofs.Banner
import GraphBrowser.Links.Index
import GraphBrowser.Proofs.LinkIndex
import GraphBrowser.Proofs.Painting
import GraphBrowser.Proofs.Matching
import GraphBrowser.Proofs.Depiction
import GraphBrowser.Proofs.Gestures
import GraphBrowser.Proofs.ExactNumbers
import GraphBrowser.Proofs.Zoom
import GraphBrowser.Proofs.Grip
import GraphBrowser.Proofs.Failing
import GraphBrowser.Proofs.Unfolding
import GraphBrowser.Proofs.ExpansionOrder
import GraphBrowser.Proofs.Snapshot
import GraphBrowser.Proofs.Schedule
import GraphBrowser.Proofs.Fitting
import GraphBrowser.Proofs.Repositioning
import GraphBrowser.Proofs.DemoData
import GraphBrowser.Proofs.ScatterCycle
import GraphBrowser.Proofs.Grammar
import GraphBrowser.Proofs.Spelling
import GraphBrowser.Proofs.Printing
import GraphBrowser.Proofs.Quoting
import GraphBrowser.Proofs.Reading
import GraphBrowser.Proofs.Skipping
import GraphBrowser.Proofs.Records
import GraphBrowser.Proofs.Decoding
import GraphBrowser.Proofs.PercentDecoding
import GraphBrowser.Proofs.Exchange
import GraphBrowser.Proofs.Insertion
import GraphBrowser.Proofs.Breaking
import GraphBrowser.Proofs.Filling
import GraphBrowser.Proofs.Refusing
import GraphBrowser.Proofs.Repeating
import GraphBrowser.Proofs.Accepting.Strings
import GraphBrowser.Proofs.Accepting.Skipped
import GraphBrowser.Proofs.Accepting.Records
import GraphBrowser.Proofs.Accepting
import GraphBrowser.Proofs.WholeText
