import CheckNetwork.Compact.Fair
import CheckNetwork.Trace.Rows
import CheckNetwork.Context.Ownership
import CheckNetwork.Lookup.Correct
import CheckNetwork.Runner.Admission
import CheckNetwork.Runner.Report
import CheckNetwork.Api.RateLimit
import CheckNetwork.Frontend.RequestLane
import CheckNetwork.Network.Parity
import CheckNetwork.Android.RawShare.Listener
import CheckNetwork.Android.Session.Delivery
import CheckNetwork.Api.Listener
import CheckNetwork.Archive.WebOrder
import CheckNetwork.Archive.Extract
import CheckNetwork.Frontend.ContextSafety
import CheckNetwork.Analysis.Degraded
import CheckNetwork.Analysis.TLSFailures
import CheckNetwork.Api.Presentation
import CheckNetwork.Frontend.IPLabels
import CheckNetwork.Api.ReportResponse
import CheckNetwork.Network.DialLeaks
import CheckNetwork.Diagnostic.GreetingRules
import CheckNetwork.Api.Enrichment
import CheckNetwork.Api.ExactNumbers
import CheckNetwork.Api.GeoBundle
import CheckNetwork.Android.RawShare.Reconcile
import CheckNetwork.Frontend.CommonPrefix
import CheckNetwork.Api.ServingSafety
