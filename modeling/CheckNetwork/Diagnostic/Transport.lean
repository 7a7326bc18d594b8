import CheckNetwork.Go.Value

/-!
# Fields of the transported structs

The struct types of the diagnostic package that a response may hold, with
their fields and `json` tags in declaration order.
-/

namespace CheckNetwork.Diagnostic

open Go

/-- The package of the report type. -/
def diagnosticPackage : String :=
  "github.com/network-troubleshooting-company/checknetwork/backend/diagnostic"

def structType (name : String) : GoType := ⟨.struct, diagnosticPackage, name, false, false⟩

def tagged (name key : String) : StructField := ⟨name, true, [key]⟩

def optional (name key : String) : StructField := ⟨name, true, [key, "omitempty"]⟩

def hidden (name : String) : StructField := ⟨name, false, []⟩

def reportFields : List StructField :=
  [tagged "ID" "id", tagged "Status" "status", tagged "StartedAt" "started_at",
    tagged "DurationMS" "duration_ms", tagged "Summary" "summary", tagged "Results" "results",
    optional "Analysis" "analysis", optional "CompactTopology" "compact_topology",
    optional "GeoDetails" "geo_details", hidden "compactBuild"]

def resultFields : List StructField :=
  [tagged "Kind" "kind", tagged "Address" "address", tagged "Status" "status",
    tagged "LatencyMS" "latency_ms", tagged "StartedAt" "started_at",
    optional "ErrorCode" "error_code", optional "Message" "message", optional "Details" "details"]

def summaryFields : List StructField :=
  [tagged "Total" "total", tagged "Passed" "passed", tagged "Failed" "failed"]

def geoDetailsSidecarFields : List StructField :=
  [tagged "SchemaVersion" "schema_version", tagged "Total" "total", tagged "Omitted" "omitted",
    tagged "Entries" "entries"]

def geoDetailsEntryFields : List StructField :=
  [tagged "Address" "address", tagged "Provider" "provider", tagged "Source" "source",
    optional "City" "city", optional "Region" "region", optional "Country" "country",
    optional "CountryCode" "country_code", optional "Continent" "continent",
    optional "ContinentCode" "continent_code", optional "RegionCode" "region_code",
    optional "Postal" "postal", optional "Timezone" "timezone", optional "ISP" "isp",
    optional "NetworkDomain" "network_domain", optional "FetchedAt" "fetched_at",
    optional "ExpiresAt" "expires_at"]

end CheckNetwork.Diagnostic
