import CheckNetwork.Diagnostic.Model
import CheckNetwork.Go.Strings

/-!
# Reading traceroute output

`parseTraceroute`: the header names the destination, every row with a hop
number gives a node, and an unreached destination is added as a failed last
hop.  The links classify the latency change between neighbours.
-/

namespace CheckNetwork.Trace

open Diagnostic Go

def latencyJumpThresholdMS : F64 := .finite 50

def maxTraceHops : Nat := 30

def maxTraceOutputBytes : Nat := 262144

/-- The largest supported timeout of an attempt, in milliseconds. -/
def maxTraceLatencyMS : F64 := .finite 30000

/-- What the parser takes from the standard library: the canonical text of an
address that `net.ParseIP` accepts, `strconv.ParseFloat`, `strings.ToLower`,
and the quoted form of a text under `%q`.  The text that stands for the local
node is no address. -/
structure Library where
  parseIP : GoString → Option GoString
  parseFloat : GoString → Option F64
  toLower : GoString → GoString
  quote : GoString → GoString
  parseIP_local : parseIP (GoString.ofString "local") = none

inductive ParseError
  | outputLimit | noHops | noHeader | hopLimit | hopSequence
  | latency (token : GoString)
  | incompleteProbe | malformedProbe
  deriving DecidableEq

def ParseError.text (library : Library) : ParseError → GoString
  | outputLimit => "traceroute output exceeds limit"
  | noHops => "traceroute output did not contain any hops"
  | noHeader => "traceroute output did not contain a header"
  | hopLimit => "traceroute hop exceeds limit"
  | hopSequence => "traceroute hops are not strictly increasing"
  | latency token => GoString.ofString "invalid traceroute latency: " ++ library.quote token
  | incompleteProbe => "invalid traceroute latency: incomplete Windows probe row"
  | malformedProbe => "invalid traceroute latency: malformed Windows probe"

/-! ## Rows -/

def isValidTraceLatency (latency : F64) : Bool :=
  (F64.finite 0).le latency && latency.le maxTraceLatencyMS && !latency.isNaN && !latency.isInf

/-- A class `\s` of a regular expression. -/
def isRegexpSpace (rune : Rune) : Bool :=
  ['\t', '\n', '\x0c', '\r', ' '].any fun char => rune = .scalar char

/-- The group of `(\S+)\s*ms(?:\s|$)` where it matches at the start. -/
def latencyAt (text : GoString) : Option GoString :=
  let run := text.takeWhile fun rune => !isRegexpSpace rune
  -- a greedy group gives back its last characters one by one
  ((List.range run.length).reverse.map (· + 1)).findSome? fun length =>
    let rest := (text.drop length).dropWhile isRegexpSpace
    if GoString.startsWith rest "ms" && (rest.drop 2).head?.all isRegexpSpace then some (text.take length)
    else none

/-- The first match of the latency expression. -/
def latencyToken : GoString → Option GoString
  | [] => none
  | rune :: text => (latencyAt (rune :: text)).or (latencyToken text)

example : latencyToken "3  gateway (10.0.0.1)  0.5 ms  1 ms" = some (.ofString "0.5") := by decide

def readLatency (library : Library) (token : GoString) : Option F64 :=
  (library.parseFloat (token.withoutPrefix "<")).filter isValidTraceLatency

/-- A row of a Unix traceroute after its hop number. -/
def parseUnixTraceHop (library : Library) (line : GoString) (fields : List GoString)
    (node : TopologyNode) : Except ParseError TopologyNode :=
  match fields with
  | _ :: second :: more =>
      if second = "*" then .ok node
      else
        let address := second.trim ['(', ')']
        let address :=
          match library.parseIP address, more with
          | none, third :: _ =>
              let candidate := third.trim ['(', ')']
              if (library.parseIP candidate).isSome then candidate else address
          | _, _ => address
        let node := { node with address := address }
        match latencyToken line with
        | none => .ok node
        | some token =>
            match readLatency library token with
            | none => .error (.latency token)
            | some latency => .ok { node with latencyMS := latency, status := .healthy }
  | _ => .ok node

/-- `strings.EqualFold(text, "ms")`. -/
def isMilliseconds (text : GoString) : Bool :=
  match text with
  | [.scalar first, .scalar second] =>
      ['m', 'M'].contains first && ['s', 'S', 'ſ'].contains second
  | _ => false

/-- The probes of a Windows row: the least latency and the fields after them. -/
def windowsProbes (library : Library) :
    Nat → List GoString → Option F64 → Except ParseError (Option F64 × List GoString)
  | 0, fields, minimum => .ok (minimum, fields)
  | _ + 1, [], _ => .error .incompleteProbe
  | probe + 1, field :: fields, minimum =>
      if field = "*" then windowsProbes library probe fields minimum
      else
        let latencyText := field.withoutPrefix "<"
        match fields with
        | [] => .error .malformedProbe
        | unit :: fields =>
            if !isMilliseconds unit then .error .malformedProbe
            else
              match (library.parseFloat latencyText).filter isValidTraceLatency with
              | none => .error (.latency latencyText)
              | some latency =>
                  let least := match minimum with
                    | none => latency
                    | some minimum => if latency.lt minimum then latency else minimum
                  windowsProbes library probe fields (some least)

def parseWindowsTraceHop (library : Library) (fields : List GoString) (node : TopologyNode) :
    Except ParseError TopologyNode :=
  (windowsProbes library 3 fields.tail none).map fun (minimum, rest) =>
    let address := (rest.map fun field => field.trim ['[', ']', '(', ')']).find? fun candidate =>
      (library.parseIP candidate).isSome
    let node := { node with address := address.getD node.address }
    match minimum with
    | none => node
    | some latency => { node with latencyMS := latency, status := .healthy }

def hopID (hop : Int) : GoString := s!"hop-{hop}"

/-- A hop before its row is read. -/
def unknownHop (hop : Int) : TopologyNode where
  id := hopID hop
  hop := hop
  address := []
  latencyMS := .finite 0
  status := .unknown
  publicIP := false
  geolocation := none
  asn := none

/-- What the header says. -/
structure Header where
  windows : Bool
  destination : GoString
  deriving DecidableEq

def parseHop (library : Library) (header : Header) (line : GoString) (hop : Int) :
    Except ParseError TopologyNode :=
  if header.windows then parseWindowsTraceHop library line.fields (unknownHop hop)
  else parseUnixTraceHop library line line.fields (unknownHop hop)

/-- The nodes of the rows, and whether the destination was among them. -/
def parseRows (library : Library) (header : Header) (requestedDestination : GoString) :
    List GoString → Int → Except ParseError (List TopologyNode × Bool)
  | [], _ => .ok ([], false)
  | line :: lines, previousHop =>
      let fields := line.fields
      match if fields.length < 2 then none else fields.head?.bind GoString.atoi with
      | none => parseRows library header requestedDestination lines previousHop
      | some hop =>
          if (maxTraceHops : Int) < hop then .error .hopLimit
          else if hop ≤ previousHop then .error .hopSequence
          else do
            let node ← parseHop library header line hop
            if node.address = header.destination ∨ node.address = requestedDestination then
              return ([node], true)
            let (nodes, reached) ← parseRows library header requestedDestination lines hop
            return (node :: nodes, reached)

/-! ## The header -/

def isWindowsHeader (lower : GoString) : Bool := lower.startsWith "tracing route to "

def isHeader (lower : GoString) : Bool :=
  lower.includes "traceroute to " || isWindowsHeader lower

def readHeader (library : Library) (requestedDestination line : GoString) : Header :=
  if isWindowsHeader (library.toLower line.trimSpace) then
    { windows := true
      destination := (GoString.bracketed '[' ']' line).getD
        (line.trimSpace.dropBytes "Tracing route to ".length).trimSpace }
  else
    { windows := false
      destination := (GoString.bracketed '(' ')' line).getD requestedDestination }

/-! ## Links -/

/-- The latency change in hundredths of a millisecond, where both are valid. -/
def roundedTraceLatencyDelta (current previous : F64) : Option F64 :=
  if !isValidTraceLatency current || !isValidTraceLatency previous then none
  else
    let delta := current.sub previous
    if delta.isNaN || delta.isInf then none
    else
      let scaled := delta.mul (.finite 100)
      if scaled.isNaN || scaled.isInf then none
      else
        let rounded := scaled.roundInteger.div (.finite 100)
        if rounded.le (.finite 0) then some (.finite 0)
        else if !isValidTraceLatency rounded then none
        else some rounded

/-- The link between neighbours, and the later one after it is classified. -/
def classifyLink (previous current : TopologyNode) : TopologyLink × TopologyNode :=
  let link : TopologyLink := ⟨previous.id, current.id, current.status, .finite 0⟩
  -- A preceding jump changes quality, not the presence of its sample.
  if current.status = .healthy ∧ (previous.status = .healthy ∨ previous.status = .degraded) ∧
      0 < previous.hop then
    match roundedTraceLatencyDelta current.latencyMS previous.latencyMS with
    | none => (link, current)
    | some delta =>
        if latencyJumpThresholdMS.le delta then
          ({ link with latencyDeltaMS := delta, status := .degraded },
            { current with status := .degraded })
        else ({ link with latencyDeltaMS := delta }, current)
  else (link, current)

def classifyRest : TopologyNode → List TopologyNode → List TopologyNode × List TopologyLink
  | _, [] => ([], [])
  | previous, current :: rest =>
      let (link, current) := classifyLink previous current
      let (nodes, links) := classifyRest current rest
      (current :: nodes, link :: links)

def classifyTopology (topology : Topology) : Topology :=
  match topology.nodes with
  | [] => topology
  | first :: rest =>
      let (nodes, links) := classifyRest first rest
      { topology with nodes := first :: nodes, links := topology.links ++ links }

/-! ## The output -/

def localHop : TopologyNode where
  id := "hop-0"
  hop := 0
  address := "local"
  latencyMS := .finite 0
  status := .healthy
  publicIP := false
  geolocation := none
  asn := none

/-- The hop that stands for a destination that was not reached. -/
def failedDestination (requestedDestination : GoString) (hop : Int) : TopologyNode :=
  { unknownHop hop with address := requestedDestination, status := .failure }

def parseTraceroute (library : Library) (output requestedDestination : GoString) :
    Except ParseError Topology :=
  if maxTraceOutputBytes < output.byteLength then .error .outputLimit
  else
    let lines := output.trimSpace.splitAt '\n'
    if lines.length < 2 then .error .noHops
    else
      match lines.dropWhile fun line => !isHeader (library.toLower line.trimSpace) with
      | [] => .error .noHeader
      | line :: rows => do
          let header := readHeader library requestedDestination line
          let (nodes, reached) ← parseRows library header requestedDestination rows 0
          match nodes.getLast? with
          | none => .error .noHops
          | some last =>
              let tail := if reached then [] else
                [failedDestination requestedDestination (last.hop + 1)]
              return classifyTopology ⟨reached, localHop :: (nodes ++ tail), []⟩

end CheckNetwork.Trace
