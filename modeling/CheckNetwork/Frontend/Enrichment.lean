import CheckNetwork.Frontend.JsValue

/-!
# Enrichment coverage in the browser

`normalizeEnrichment`: the counts stay within what a report of the most results
can look up, and the failures come in the order of their kinds.
-/

namespace CheckNetwork.Frontend

def boolean (value : JsValue) (path : String) : Checked Bool :=
  match value with
  | .bool value => .ok value
  | _ => schemaError path "expected boolean"

def enumValue (value : JsValue) (allowed : List String) (path : String) : Checked String :=
  match value with
  | .string value =>
      if value ∈ allowed then .ok value else schemaError path "unsupported value"
  | _ => schemaError path "unsupported value"

/-- `ENRICHMENT_SOURCES`. -/
def enrichmentSources : List String := ["upstream", "cache", "mixed", "none"]

/-- `ENRICHMENT_FAILURE_RETRYABLE`. -/
def enrichmentFailureRetryable : List (String × Bool) :=
  [("busy", true), ("cancelled", false), ("malformed", false), ("not_found", false),
    ("policy", false), ("rate_limited", true), ("timeout", true), ("unavailable", true)]

def maxLookups : Int := 6200

structure NormalizedFailure where
  kind : String
  count : Int
  retryable : Bool
  deriving DecidableEq

structure NormalizedEnrichment where
  source : String
  cacheHits : Int
  upstreamFetches : Int
  maxAgeMS : Int
  failures : List NormalizedFailure
  deriving DecidableEq

/-- The lookups and the kind so far, and the failures. -/
structure FailureProgress where
  total : Int
  previous : String
  failures : List NormalizedFailure

/-- Whether the failures of a kind are worth another try. -/
def failureKind (value : JsValue) (path : String) : Checked (String × Bool) :=
  match value with
  | .string kind =>
      match enrichmentFailureRetryable.lookup kind with
      | some retryable => .ok (kind, retryable)
      | none => schemaError path "unsupported value"
  | _ => schemaError path "unsupported value"

def normalizeFailure (itemPath : String) (progress : FailureProgress) (entry : JsValue × Nat) :
    Checked FailureProgress := do
  let path := itemPath ++ ".failures[" ++ toString entry.2 ++ "]"
  let failure ← object entry.1 path
  exactFields failure ["kind", "count", "retryable"] path
  let (kind, expected) ← failureKind (.get failure "kind") (path ++ ".kind")
  if !(progress.previous.toList < kind.toList) then
    schemaError (itemPath ++ ".failures") "must contain unique kinds in canonical order"
  else do
    let count ← integer (.get failure "count") (path ++ ".count") 1 maxLookups
    let retryable ← boolean (.get failure "retryable") (path ++ ".retryable")
    if retryable ≠ expected then schemaError (path ++ ".retryable") "contradicts failure kind"
    else if maxLookups < progress.total + count then
      schemaError itemPath "lookup count exceeds limit 6200"
    else .ok ⟨progress.total + count, kind, progress.failures ++ [⟨kind, count, retryable⟩]⟩

def expectedSource (cacheHits upstreamFetches : Int) : String :=
  if 0 < cacheHits then (if 0 < upstreamFetches then "mixed" else "cache")
  else if 0 < upstreamFetches then "upstream" else "none"

def requireProvider (value : JsValue) (path : String) : Checked Unit :=
  match value with
  | .string provider =>
      if provider = "geoip" then .ok () else schemaError path "unsupported value"
  | _ => schemaError path "unsupported value"

def normalizeEnrichmentEntry (path : String) (entry : JsValue × Nat) :
    Checked NormalizedEnrichment := do
  let itemPath := path ++ "[" ++ toString entry.2 ++ "]"
  let source ← object entry.1 itemPath
  exactFields source
    ["provider", "source", "cache_hits", "upstream_fetches", "max_age_ms", "failures"] itemPath
  requireProvider (.get source "provider") (itemPath ++ ".provider")
  let cacheHits ← integer (.get source "cache_hits") (itemPath ++ ".cache_hits") 0 maxLookups
  let upstreamFetches ←
    integer (.get source "upstream_fetches") (itemPath ++ ".upstream_fetches") 0 maxLookups
  let failuresSource ← array (.get source "failures") (itemPath ++ ".failures")
    enrichmentFailureRetryable.length
  if maxLookups < cacheHits + upstreamFetches then
    schemaError itemPath "lookup count exceeds limit 6200"
  else do
    let progress ← failuresSource.zipIdx.foldlM (normalizeFailure itemPath)
      ⟨cacheHits + upstreamFetches, "", []⟩
    let given ← enumValue (.get source "source") enrichmentSources (itemPath ++ ".source")
    if given ≠ expectedSource cacheHits upstreamFetches then
      schemaError (itemPath ++ ".source") "contradicts success counts"
    else do
      let maxAge ← integer (.get source "max_age_ms") (itemPath ++ ".max_age_ms") 0 86400000
      .ok ⟨given, cacheHits, upstreamFetches, maxAge, progress.failures⟩

def normalizeEnrichment (value : JsValue) (path : String) :
    Checked (List NormalizedEnrichment) := do
  let entries ← array value path 1
  entries.zipIdx.mapM (normalizeEnrichmentEntry path)

/-- The coverage of an analysis, whose enrichment may be left out. -/
def coverageEnrichment (enrichment : Option JsValue) : Checked (List NormalizedEnrichment) :=
  match enrichment with
  | none => .ok []
  | some value => normalizeEnrichment value "analysis.coverage.enrichment"

end CheckNetwork.Frontend
