/-
What the reports show.

Frames are printed one by one, by a printer that counts them. Whatever the form,
each frame is shown once and in order, with its place counted from 0 on
(`OneEach`): on a line of its own, as its payload, or in a row of a table that is
printed behind the last of them. `Prints` says this of the bytes that come out.
One call of the printer adds one line or one row (`printAll_lines`,
`printAll_table`), and the places go on from what has been counted before.

The summary of a recording is printed as one object, one row, one line, or only
the number of its frames, and shows the fields as they are (`Summary.Shows`).

The text of each line is written out here, and the bytes of a text are those of
its UTF-8 form (`bytes_printed`).
-/
import Screencast.Report
import Screencast.Proofs.Text.Table

namespace Screencast.Report

/-! ## Text -/

/-- The bytes of lines, each with its end. -/
def utf8 (lines : List String) : List UInt8 :=
  (String.join (lines.map (· ++ "\n"))).toUTF8.data.toList

theorem bytes_eq (text : String) : bytes text = text.toUTF8.data.toList := by
  rw [String.toUTF8, ← String.utf8Encode_toList, List.utf8Encode, List.data_toByteArray]
  rfl

theorem bytes_printed (lines : List String) : bytes (printed lines) = utf8 lines := bytes_eq _

theorem utf8_append (first second : List String) :
    utf8 (first ++ second) = utf8 first ++ utf8 second := by
  rw [← bytes_printed, ← bytes_printed, ← bytes_printed, printed, List.map_append,
    String.join_append, bytes, String.toList_append, Utf8.encode_append]
  rfl

theorem utf8_cons (first : String) (rest : List String) :
    utf8 (first :: rest) = utf8 [first] ++ utf8 rest := utf8_append [first] rest

/-! ## Objects -/

/-- The object of these members, whose values are written already. -/
def braced (members : List (String × String)) : String :=
  let written := members.map fun member => "\"" ++ member.1 ++ "\":" ++ member.2
  "\x7b" ++ ",".intercalate written ++ "\x7d"

/-- An object whose names have nothing in them to be escaped. -/
theorem object_eq_braced {members : List (String × JsonLine.Value)}
    (h : ∀ member ∈ members, JsonLine.quote member.1 = "\"" ++ member.1 ++ "\"") :
    JsonLine.object members =
      braced (members.map fun member => (member.1, member.2.render)) := by
  have hcolon (value : String) : "\"" ++ (":" ++ value) = "\":" ++ value := by
    rw [← String.append_assoc]
    rfl
  have hmember (member : String × JsonLine.Value) (hmem : member ∈ members) :
      JsonLine.member member.1 member.2 = "\"" ++ member.1 ++ "\":" ++ member.2.render := by
    rw [JsonLine.member, h member hmem]
    simp only [String.append_assoc, hcolon]
  rw [braced, List.map_map]
  exact congrArg (fun written => "\x7b" ++ ",".intercalate written ++ "\x7d")
    (List.map_congr_left hmember)

/-- A flag as it is written. -/
theorem flag_eq (value : Bool) : (if value = true then "true" else "false") = toString value := by
  cases value <;> rfl

/-! ## Frames, each at its place -/

/-- There is one piece for each frame, in order, and it shows the frame at its place. -/
structure OneEach {α : Type} (shown : Nat → Frame → α) (listed : List Frame) (pieces : List α) :
    Prop where
  count : pieces.length = listed.length
  each : ∀ place frame, listed[place]? = some frame → pieces[place]? = some (shown place frame)

theorem OneEach.nil {α : Type} (shown : Nat → Frame → α) : OneEach shown [] [] := ⟨rfl, by simp⟩

theorem OneEach.cons {α : Type} {shown : Nat → Frame → α} {rest : List Frame} {pieces : List α}
    (h : OneEach (fun place => shown (place + 1)) rest pieces) (frame : Frame) :
    OneEach shown (frame :: rest) (shown 0 frame :: pieces) where
  count := congrArg (· + 1) h.count
  each place other hother := by
    cases place with
    | zero =>
      obtain rfl := Option.some.inj hother
      rfl
    | succ place => exact h.each place other hother

/-- Every piece shows a frame at its place. -/
theorem OneEach.of_mem {α : Type} {shown : Nat → Frame → α} {listed : List Frame} {pieces : List α}
    (h : OneEach shown listed pieces) {piece : α} (hpiece : piece ∈ pieces) :
    ∃ place frame, piece = shown place frame := by
  obtain ⟨place, hplace⟩ := List.mem_iff_getElem?.mp hpiece
  have hlt : place < listed.length := by
    rw [← h.count]
    exact (List.getElem?_eq_some_iff.mp hplace).1
  have hshown := h.each place listed[place] (List.getElem?_eq_getElem hlt)
  exact ⟨place, listed[place], Option.some.inj (hplace.symm.trans hshown)⟩

/-- The marks of a frame, parted by commas; a dash if there are none. -/
def marks (header : Frame.Header) : String :=
  let set := (if header.config then ["config"] else []) ++ if header.keyframe then ["key"] else []
  if set.isEmpty then "-" else ",".intercalate set

/-- The object that shows the frame at a place. -/
def objectOf (place : Nat) (frame : Frame) : String :=
  braced [("index", toString place), ("pts", toString frame.header.pts),
    ("config", toString frame.header.config), ("keyframe", toString frame.header.keyframe),
    ("size", toString frame.payload.length)]

/-- The line that shows the frame at a place to people. -/
def lineOf (place : Nat) (frame : Frame) : String :=
  s!"frame={place} pts={frame.header.pts} flags={marks frame.header} size={frame.payload.length}"

/-- The cells that show the frame at a place. -/
def cellsOf (place : Nat) (frame : Frame) : List String :=
  [toString place, toString frame.header.pts, marks frame.header, toString frame.payload.length]

/-- What printing frames comes to, in the format that was asked for. -/
structure Prints (format : Format) (listed : List Frame) (text : List UInt8) : Prop where
  /-- Line by line, the frames are printed in order, each with its number. -/
  json : format = .json → ∃ lines, OneEach objectOf listed lines ∧ text = utf8 lines
  pretty : format = .pretty → ∃ lines, OneEach lineOf listed lines ∧ text = utf8 lines
  /-- Raw, the payloads are printed one after the other, and nothing besides. -/
  raw : format = .raw → text = listed.flatMap (·.payload)
  /-- A table is printed once, of a row for each frame, and nothing before or after it. -/
  table : format = .table → ∃ rows lines, OneEach cellsOf listed rows ∧
    Table.Draws ["#", "PTS", "FLAGS", "SIZE"] rows lines ∧ text = utf8 lines

/-! ## The pieces of one frame -/

theorem flags_eq (index : Nat) (frame : Frame) :
    (Entry.ofFrame index frame).flags = marks frame.header := by
  unfold Entry.flags marks Entry.ofFrame
  dsimp only
  cases frame.header.config <;> cases frame.header.keyframe <;> rfl

theorem object_eq (index : Nat) (frame : Frame) :
    JsonLine.object (Entry.ofFrame index frame).members = objectOf index frame := by
  rw [object_eq_braced]
  · simp only [Entry.members, Entry.ofFrame, List.map_cons, List.map_nil, JsonLine.Value.render,
      flag_eq]
    rfl
  · simp only [Entry.members, List.forall_mem_cons]
    exact ⟨by decide +kernel, by decide +kernel, by decide +kernel, by decide +kernel,
      by decide +kernel, by simp⟩

theorem line_eq (index : Nat) (frame : Frame) :
    (Entry.ofFrame index frame).line = lineOf index frame := by
  unfold Entry.line lineOf
  rw [flags_eq]
  dsimp only [Entry.ofFrame]

theorem row_eq (index : Nat) (frame : Frame) :
    (Entry.ofFrame index frame).row = cellsOf index frame := by
  rw [Entry.row, flags_eq, cellsOf]
  rfl

/-- The cells of a frame have no line breaks. -/
theorem flat_cellsOf (place : Nat) (frame : Frame) : Table.Flat (cellsOf place frame) := by
  have hnumber (n : Nat) : '\n' ∉ (toString n).toList := by
    intro h
    rw [Nat.toString_eq_repr, Nat.repr, String.toList_ofList] at h
    have hdigit := Nat.isDigit_of_mem_toDigits (by decide) (by decide) h
    cases hdigit
  intro cell hcell
  simp only [cellsOf, List.mem_cons, List.not_mem_nil, or_false] at hcell
  rcases hcell with rfl | rfl | rfl | rfl
  · exact hnumber _
  · exact hnumber _
  · unfold marks
    cases frame.header.config <;> cases frame.header.keyframe <;> simp
  · exact hnumber _

/-! ## The printer -/

namespace Printer

/-- A printer that has printed some more frames, and kept no rows of them. -/
def counted (printer : Printer) (frames : List Frame) : Printer :=
  { printer with index := printer.index + frames.length }

theorem counted_counted (printer : Printer) (first second : List Frame) :
    (printer.counted first).counted second = printer.counted (first ++ second) := by
  simp [counted, Nat.add_assoc]

/-- **If each frame is printed as a line that shows its number, the lines go on from the number that
the printer has come to.** -/
theorem printAll_lines {format : Format} {line : Nat → Frame → String}
    (hprint : ∀ (printer : Printer) (frame : Frame), printer.format = format →
      printer.print frame = (utf8 [line printer.index frame], printer.counted [frame]))
    {printer : Printer} (hformat : printer.format = format) (frames : List Frame) :
    ∃ lines, OneEach (fun place => line (printer.index + place)) frames lines ∧
      printer.printAll frames = (utf8 lines, printer.counted frames) := by
  induction frames generalizing printer with
  | nil => exact ⟨[], .nil _, rfl⟩
  | cons frame rest ih =>
    obtain ⟨lines, hlines, hrest⟩ := @ih (printer.counted [frame]) hformat
    have hshift : (fun place => line ((printer.counted [frame]).index + place)) =
        fun place => line (printer.index + (place + 1)) := by
      funext place
      rw [counted, List.length_singleton, Nat.add_assoc, Nat.add_comm 1 place]
    rw [hshift] at hlines
    refine ⟨_, hlines.cons frame, ?_⟩
    rw [printAll, hprint printer frame hformat]
    dsimp only
    rw [hrest, counted_counted, List.singleton_append, ← utf8_cons, Nat.add_zero]

theorem print_json {printer : Printer} (h : printer.format = .json) (frame : Frame) :
    printer.print frame = (utf8 [objectOf printer.index frame], printer.counted [frame]) := by
  obtain ⟨format, index, table⟩ := printer
  dsimp only at h
  rw [h, ← object_eq, ← bytes_printed]
  rfl

theorem print_pretty {printer : Printer} (h : printer.format = .pretty) (frame : Frame) :
    printer.print frame = (utf8 [lineOf printer.index frame], printer.counted [frame]) := by
  obtain ⟨format, index, table⟩ := printer
  dsimp only at h
  rw [h, ← line_eq, ← bytes_printed]
  rfl

theorem printAll_raw {printer : Printer} (h : printer.format = .raw) (frames : List Frame) :
    printer.printAll frames = (frames.flatMap (·.payload), printer.counted frames) := by
  induction frames generalizing printer with
  | nil => rfl
  | cons frame rest ih =>
    have hprint : printer.print frame = (frame.payload, printer.counted [frame]) := by
      obtain ⟨format, index, table⟩ := printer
      dsimp only at h
      rw [h]
      rfl
    rw [printAll, hprint]
    dsimp only
    rw [@ih (printer.counted [frame]) h, counted_counted, List.flatMap_cons]
    rfl

/-- **Each frame adds one row to the table, and nothing is printed.** -/
theorem printAll_table {printer : Printer} (h : printer.format = .table) {table : Table}
    (htable : printer.table = some table) (frames : List Frame) :
    ∃ rows, OneEach (fun place => cellsOf (printer.index + place)) frames rows ∧
      (printer.printAll frames).1 = [] ∧
      (printer.printAll frames).2.table = some { table with rows := table.rows ++ rows } := by
  induction frames generalizing printer table with
  | nil => exact ⟨[], .nil _, rfl, by rw [List.append_nil]; exact htable⟩
  | cons frame rest ih =>
    obtain ⟨format, index, kept⟩ := printer
    dsimp only at h htable
    subst h htable
    have hprint : print ⟨.table, index, some table⟩ frame =
        ([], ⟨.table, index + 1, some (table.addRow (cellsOf index frame))⟩) := by
      rw [← row_eq]
      rfl
    obtain ⟨rows, hrows, hnothing, hlast⟩ :=
      @ih ⟨.table, index + 1, some (table.addRow (cellsOf index frame))⟩ rfl _ rfl
    refine ⟨cellsOf index frame :: rows, ?_, ?_, ?_⟩
    · have hshift : (fun place => cellsOf (index + 1 + place)) =
          fun place => cellsOf (index + (place + 1)) := by
        funext place
        rw [Nat.add_assoc, Nat.add_comm 1 place]
      rw [hshift] at hrows
      exact hrows.cons frame
    · rw [printAll, hprint]
      exact hnothing
    · rw [printAll, hprint]
      dsimp only
      rw [hlast, Table.addRow, List.append_assoc, List.singleton_append]

end Printer

theorem zero_add_place {α : Type} (shown : Nat → Frame → α) :
    (fun place => shown (0 + place)) = shown := by
  funext place
  rw [Nat.zero_add]

/-- In a format that prints each frame as a line and has no table, nothing else is printed. -/
theorem frames_lines {format : Format} {line : Nat → Frame → String}
    (hprint : ∀ (printer : Printer) (frame : Frame), printer.format = format →
      printer.print frame = (utf8 [line printer.index frame], printer.counted [frame]))
    (hnone : (Printer.new format).table = none) (listed : List Frame) :
    ∃ lines, OneEach line listed lines ∧ frames format listed = utf8 lines := by
  obtain ⟨lines, hlines, hprinted⟩ :=
    Printer.printAll_lines hprint (show (Printer.new format).format = format from rfl) listed
  have hfinish : ((Printer.new format).counted listed).finish = [] := by
    have htable : ((Printer.new format).counted listed).table = none := hnone
    rw [Printer.finish, htable]
  refine ⟨lines, zero_add_place line ▸ hlines, ?_⟩
  rw [frames, hprinted]
  dsimp only
  rw [hfinish, List.append_nil]

/-- The rows are drawn when the last frame has come. -/
theorem frames_table (listed : List Frame) :
    ∃ rows lines, OneEach cellsOf listed rows ∧
      Table.Draws ["#", "PTS", "FLAGS", "SIZE"] rows lines ∧ frames .table listed = utf8 lines := by
  obtain ⟨rows, hrows, hnothing, hlast⟩ :=
    Printer.printAll_table (show (Printer.new .table).format = .table from rfl) rfl listed
  have hcells := zero_add_place cellsOf ▸ hrows
  have hdraws : Table.Draws ["#", "PTS", "FLAGS", "SIZE"] rows
      (Table.draw { header := ["#", "PTS", "FLAGS", "SIZE"], rows }) := by
    refine Table.draw_draws ?_ (List.cons_ne_nil _ _) fun row hrow => ?_
    · simp [Table.Flat]
    · obtain ⟨place, frame, rfl⟩ := hcells.of_mem hrow
      exact ⟨rfl, flat_cellsOf place frame⟩
  refine ⟨rows, _, hcells, hdraws, ?_⟩
  rw [frames, ← bytes_printed]
  dsimp only
  rw [hnothing, Printer.finish, hlast]
  dsimp only
  rw [List.nil_append, List.nil_append]

/-- **Frames are printed in order**, and numbered from zero without gaps. -/
theorem prints_frames (format : Format) (listed : List Frame) :
    Prints format listed (frames format listed) := by
  refine ⟨?_, ?_, ?_, ?_⟩
  · rintro rfl
    exact frames_lines (fun _ frame h => Printer.print_json h frame) rfl listed
  · rintro rfl
    exact frames_lines (fun _ frame h => Printer.print_pretty h frame) rfl listed
  · rintro rfl
    rw [frames, Printer.printAll_raw rfl]
    exact List.append_nil _
  · rintro rfl
    exact frames_table listed

/-! ## The summary of a recording -/

namespace Summary

/-- How a recording ended. -/
def ending (interrupted : Bool) : String := if interrupted then "interrupted" else "complete"

/-- The object that shows a summary. -/
def objectOf (report : Summary) : String :=
  braced [("device_name", JsonLine.quote report.device), ("output", JsonLine.quote report.output),
    ("frames", toString report.frames), ("bytes", toString report.bytes),
    ("keyframes", toString report.keyframes), ("elapsed_ms", toString report.elapsedMillis),
    ("fps", JsonLine.real report.rate), ("interrupted", toString report.interrupted)]

/-- The line that shows a summary to people. -/
def lineOf (report : Summary) : String :=
  s!"Recorded {report.frames} frames ({report.bytes} bytes, {Decimal.fixed 1 report.rate} fps)" ++
    s!" from {report.device} to {report.output} [{ending report.interrupted}]"

/-- The cells that show a summary. -/
def cellsOf (report : Summary) : List String :=
  [report.device, report.output, toString report.frames, toString report.bytes,
    Decimal.fixed 1 report.rate, ending report.interrupted]

/-- What printing a summary comes to, in the format that was asked for. -/
structure Shows (report : Summary) (format : Format) (text : List UInt8) : Prop where
  json : format = .json → text = utf8 [report.objectOf]
  pretty : format = .pretty → text = utf8 [report.lineOf]
  /-- Raw, only the number of frames is printed. -/
  raw : format = .raw → text = utf8 [toString report.frames]
  /-- A table has one row. It takes up one line, unless a name has line breaks. -/
  table : format = .table → ∃ lines, text = utf8 lines ∧
    lines = Table.draw {
      header := ["DEVICE", "OUTPUT", "FRAMES", "BYTES", "FPS", "STATUS"]
      rows := [report.cellsOf] } ∧
    (Table.Flat report.cellsOf →
      Table.Draws ["DEVICE", "OUTPUT", "FRAMES", "BYTES", "FPS", "STATUS"] [report.cellsOf] lines)

theorem object_eq (report : Summary) :
    JsonLine.object [
      ("device_name", .text report.device), ("output", .text report.output),
      ("frames", .whole report.frames), ("bytes", .whole report.bytes),
      ("keyframes", .whole report.keyframes), ("elapsed_ms", .whole report.elapsedMillis),
      ("fps", .real report.rate), ("interrupted", .flag report.interrupted)] =
      report.objectOf := by
  rw [object_eq_braced]
  · simp only [List.map_cons, List.map_nil, JsonLine.Value.render, flag_eq]
    rfl
  · simp only [List.forall_mem_cons]
    exact ⟨by decide +kernel, by decide +kernel, by decide +kernel, by decide +kernel,
      by decide +kernel, by decide +kernel, by decide +kernel, by decide +kernel, by simp⟩

end Summary

end Screencast.Report
