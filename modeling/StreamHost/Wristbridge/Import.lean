import StreamHost.Lib.Text
import StreamHost.Wristbridge.Session

/-! File imports of exported watch data. Bodies are read line by line. -/

namespace StreamHost.Wristbridge

inductive ImportFormat where
  | csv
  | gpx
  | tcx
  | fit
  | zeppExport
deriving DecidableEq, Repr

structure ImportSource where
  format : ImportFormat
  body : String
deriving DecidableEq, Repr

def isSeparator (glyph : Char) : Bool := glyph = ',' || glyph = ';' || glyph = '\t'

def splitRow (line : List Char) : List (List Char) :=
  ((line.splitOnP isSeparator).map Text.trim).filter (!·.isEmpty)

def isHeader (line : List Char) : Bool :=
  let lower := Text.lower line
  "sensor,".toList.isPrefixOf lower || "type,".toList.isPrefixOf lower || lower = "sensor".toList

def normalizeSensor (value : List Char) : String :=
  let token := String.ofList (Text.lower (Text.trim value))
  if token ∈ ["hr", "heart_rate", "heart rate", "heartrate", "heart-rate"] then "heart-rate"
  else if token ∈ ["gps", "latlon", "location"] then "gps"
  else if token ∈ ["route", "track"] then "route"
  else if token ∈ ["battery", "bat"] then "battery"
  else if token ∈ ["connection", "link"] then "connection"
  else if token ∈ ["mic", "audio", "mic-audio"] then "mic-audio"
  else "motion"

section Parse
variable (build : TextBuild)

def parseValue (value : List Char) : Expr :=
  let trimmed := Text.trim value
  match Decimal.parseU64 trimmed with
  | some number => build.uint number
  | none => build.text (String.ofList trimmed)

/-- Appends the next event, numbered by those before it. -/
def pushEvent (sensor : String) (value : Expr) (events : List WornEvent) : DeviceResult (List WornEvent) := do
  let event ← WornEvent.fromSensorName (UInt64.ofNat events.length) sensor value
  return events ++ [event]

def importRow (events : List WornEvent) (line : List Char) : DeviceResult (List WornEvent) :=
  if isHeader line then .ok events else
  let fields := splitRow line
  let sensor := (fields[0]?.map normalizeSensor).getD "motion"
  let value := (fields[1]?.map (parseValue build)).getD (build.text (String.ofList line))
  pushEvent sensor value events

def parseRowExport (format : ImportFormat) (body : List Char) : DeviceResult (List WornEvent) := do
  let rows := ((Text.lines body).map Text.trim).filter (!·.isEmpty)
  let events ← rows.foldlM (importRow build) []
  .rejectIf (format = .zeppExport ∧ events = []) (.sample "zepp export did not contain worn rows")
  return events

def importTrackPoint (events : List WornEvent) (line : List Char) : DeviceResult (List WornEvent) :=
  if Text.contains "<trkpt".toList line then pushEvent "gps" (build.text (String.ofList line)) events else .ok events

def parseGpx (body : List Char) : DeviceResult (List WornEvent) :=
  ((Text.lines body).map Text.trim).foldlM (importTrackPoint build) []

/-- A line with a heart rate is not looked at for a track point. -/
def importTraining (events : List WornEvent) (line : List Char) : DeviceResult (List WornEvent) :=
  if Text.contains "<HeartRateBpm".toList line || Text.contains "<Value>".toList line then
    pushEvent "heart-rate" (build.text (String.ofList line)) events
  else if Text.contains "<Trackpoint".toList line then pushEvent "route" (build.text (String.ofList line)) events
  else .ok events

def parseTcx (body : List Char) : DeviceResult (List WornEvent) :=
  ((Text.lines body).map Text.trim).foldlM (importTraining build) []

def ImportSource.events (source : ImportSource) : DeviceResult (List WornEvent) :=
  match source.format with
  | .csv | .fit | .zeppExport => parseRowExport build source.format source.body.toList
  | .gpx => parseGpx build source.body.toList
  | .tcx => parseTcx build source.body.toList

end Parse

end StreamHost.Wristbridge
