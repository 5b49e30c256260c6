/-
What the commands print.

Every report has four forms: an object per line, a table, text for people to
read, and the bare essence: the device's name, the payloads themselves, the
number of frames.
-/
import Screencast.Announcement
import Screencast.Decimal.Fixed
import Screencast.Frame
import Screencast.Probe
import Screencast.Text.JsonLine
import Screencast.Text.Table

namespace Screencast

/-- The form of a report. -/
inductive Report.Format
  | json
  | table
  | pretty
  | raw
  deriving DecidableEq, Repr

namespace Report

/-- The form of a report for which none was asked for. -/
def Format.usual (terminal : Bool) : Format := if terminal then .table else .json

/-! ## Printing -/

/-- Lines as they are printed. -/
def printed (lines : List String) : String := String.join (lines.map (· ++ "\n"))

/-- A text as it is printed: in UTF-8. -/
def bytes (text : String) : List UInt8 := Utf8.encode text.toList

/-! ## The announcement -/

/-- What the probe command reports. -/
structure Opening where
  endpoint : String
  announcement : Announcement
  /-- What became of the probe byte, if that is known. -/
  probe : Option Probe
  deriving DecidableEq, Repr

/-- What became of the probe byte, as it is shown. -/
def probeText : Option Probe → String
  | some (.received value) => s!"received (0x{Numeral.hex 2 value.toNat})"
  | some .notReceived => "not received"
  | some .skipped => "skipped"
  | none => "unknown"

namespace Opening

/-- The name of the codec, or its four characters if it has none. -/
def codecName (report : Opening) : String :=
  let codec := report.announcement.picture.codec
  codec.name?.getD codec.tag

/-- The codec by name and number. -/
def codecText (report : Opening) : String :=
  s!"{report.codecName} ({report.announcement.picture.codec.hex})"

/-- The size of the picture. -/
def resolution (report : Opening) : String :=
  let picture := report.announcement.picture
  s!"{picture.width}x{picture.height}"

/-- The report as it is printed. -/
def print (report : Opening) : Format → String
  | .json => printed [JsonLine.object [
      ("endpoint", .text report.endpoint),
      ("device_name", .text report.announcement.device),
      ("codec", .text report.codecName),
      ("codec_id", .whole report.announcement.picture.codec.id.toNat),
      ("width", .whole report.announcement.picture.width.toNat),
      ("height", .whole report.announcement.picture.height.toNat),
      ("probe", .text (probeText report.probe))]]
  | .table => printed <| Table.draw {
      header := ["DEVICE", "CODEC", "RESOLUTION", "PROBE", "ENDPOINT"]
      rows := [[report.announcement.device, report.codecText, report.resolution,
        probeText report.probe, report.endpoint]] }
  | .pretty => printed [
      "Stream Info:",
      s!"  Device:     {report.announcement.device}",
      s!"  Codec:      {report.codecText}",
      s!"  Resolution: {report.resolution}",
      s!"  Probe byte: {probeText report.probe}",
      s!"  Endpoint:   {report.endpoint}"]
  | .raw => printed [report.announcement.device]

end Opening

/-! ## Frames -/

/-- What is shown of a frame. -/
structure Entry where
  /-- Its place among the frames that are printed, from 0 on. -/
  index : Nat
  pts : UInt64
  config : Bool
  keyframe : Bool
  /-- The bytes of its payload. -/
  size : Nat
  deriving DecidableEq, Repr

namespace Entry

/-- What is shown of the frame at a place. -/
def ofFrame (index : Nat) (frame : Frame) : Entry where
  index
  pts := frame.header.pts
  config := frame.header.config
  keyframe := frame.header.keyframe
  size := frame.payload.length

/-- The marks of a frame. -/
def flags (entry : Entry) : String :=
  match entry.config, entry.keyframe with
  | true, true => "config,key"
  | true, false => "config"
  | false, true => "key"
  | false, false => "-"

/-- The members of the object that shows a frame. -/
def members (entry : Entry) : List (String × JsonLine.Value) := [
  ("index", .whole entry.index),
  ("pts", .whole entry.pts.toNat),
  ("config", .flag entry.config),
  ("keyframe", .flag entry.keyframe),
  ("size", .whole entry.size)]

/-- The row of a frame in the table. -/
def row (entry : Entry) : List String :=
  [toString entry.index, toString entry.pts, entry.flags, toString entry.size]

/-- The line that shows a frame to people. -/
def line (entry : Entry) : String :=
  s!"frame={entry.index} pts={entry.pts} flags={entry.flags} size={entry.size}"

end Entry

/-- What prints frames as they arrive. Rows of a table are kept until the last frame has come. -/
structure Printer where
  format : Format
  /-- The frames that were printed so far. -/
  index : Nat := 0
  /-- The table, where one is to be printed. -/
  table : Option Table
  deriving DecidableEq, Repr

namespace Printer

/-- A printer that has not printed anything. -/
def new (format : Format) : Printer where
  format
  table := if format = .table then some { header := ["#", "PTS", "FLAGS", "SIZE"], rows := [] }
    else none

/-- Prints a frame, or adds it to the table. -/
def print (printer : Printer) (frame : Frame) : List UInt8 × Printer :=
  let entry := Entry.ofFrame printer.index frame
  let printer := { printer with index := printer.index + 1 }
  match printer.format with
  | .json => (bytes (printed [JsonLine.object entry.members]), printer)
  | .table => ([], { printer with table := printer.table.map (·.addRow entry.row) })
  | .pretty => (bytes (printed [entry.line]), printer)
  | .raw => (frame.payload, printer)

/-- Prints the table, if there is one. -/
def finish (printer : Printer) : List UInt8 :=
  match printer.table with
  | some table => bytes (printed table.draw)
  | none => []

/-- Prints frames one after another. -/
def printAll (printer : Printer) : List Frame → List UInt8 × Printer
  | [] => ([], printer)
  | frame :: rest =>
    let (shown, printer) := printer.print frame
    let (later, printer) := printer.printAll rest
    (shown ++ later, printer)

end Printer

/-- Everything that is printed for frames. -/
def frames (format : Format) (frames : List Frame) : List UInt8 :=
  let (shown, printer) := (Printer.new format).printAll frames
  shown ++ printer.finish

/-! ## The summary of a recording -/

/-- What the recording commands report. -/
structure Summary where
  device : String
  output : String
  frames : Nat
  bytes : Nat
  keyframes : Nat
  elapsedMillis : Nat
  /-- Frames per second. -/
  rate : Float
  interrupted : Bool

namespace Summary

/-- How the recording ended, as it is shown. -/
def status (report : Summary) : String :=
  if report.interrupted then "interrupted" else "complete"

/-- The rate as it is shown to people: with one decimal place. -/
def rateText (report : Summary) : String := Decimal.fixed 1 report.rate

/-- The report as it is printed. -/
def print (report : Summary) : Format → String
  | .json => printed [JsonLine.object [
      ("device_name", .text report.device),
      ("output", .text report.output),
      ("frames", .whole report.frames),
      ("bytes", .whole report.bytes),
      ("keyframes", .whole report.keyframes),
      ("elapsed_ms", .whole report.elapsedMillis),
      ("fps", .real report.rate),
      ("interrupted", .flag report.interrupted)]]
  | .table => printed <| Table.draw {
      header := ["DEVICE", "OUTPUT", "FRAMES", "BYTES", "FPS", "STATUS"]
      rows := [[report.device, report.output, toString report.frames, toString report.bytes,
        report.rateText, report.status]] }
  | .pretty =>
    let amount := s!"{report.frames} frames ({report.bytes} bytes, {report.rateText} fps)"
    printed [s!"Recorded {amount} from {report.device} to {report.output} [{report.status}]"]
  | .raw => printed [toString report.frames]

end Summary

end Report

end Screencast
