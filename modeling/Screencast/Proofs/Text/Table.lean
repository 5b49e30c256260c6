/-
What a drawn table shows.

If no cell has a line break, a table is drawn as one line for its header and one
for each of its rows, in order, with a rule above, below and between them
(`draw_of_flat`). `Draws` says where these lines stand and what they show,
without saying how wide the columns are.
-/
import Screencast.Text.Table

namespace Screencast.Table

/-! ## Lines that show cells -/

/-- A line shows cells one after another, each filled up with blanks. -/
def ShowsCells (cells : List String) (line : String) : Prop :=
  ∃ blanks : List Nat, blanks.length = cells.length ∧
    line = "│ " ++ " ┆ ".intercalate (List.zipWith (fun cell n => cell ++ repeated n ' ') cells blanks)
      ++ " │"

/-- Lines show a header and, once each and in order, rows. -/
structure Draws (header : List String) (rows : List (List String)) (lines : List String) : Prop where
  count : lines.length = if rows = [] then 4 else 2 * rows.length + 3
  header : ∃ line, lines[1]? = some line ∧ ShowsCells header line
  row : ∀ (place : Nat) (row : List String), rows[place]? = some row →
    ∃ line, lines[2 * place + 3]? = some line ∧ ShowsCells row line

/-- Cells that take up one line each. -/
def Flat (cells : List String) : Prop := ∀ cell ∈ cells, '\n' ∉ cell.toList

theorem lines_of_flat {cell : String} (h : '\n' ∉ cell.toList) : lines cell = [cell] := by
  rw [lines, List.splitOn_eq_singleton h, List.map_singleton, String.ofList_toList]

theorem foldl_max_of_le {n : Nat} {heights : List Nat} (h : ∀ height ∈ heights, height ≤ n) :
    heights.foldl max n = n := by
  induction heights with
  | nil => rfl
  | cons height rest ih =>
    rw [List.foldl_cons, Nat.max_eq_left (h height List.mem_cons_self)]
    exact ih fun other hother => h other (List.mem_cons_of_mem _ hother)

theorem drawRow_of_flat (widths : List Nat) {row : List String} (hne : row ≠ []) (h : Flat row) :
    drawRow widths row = [drawLine widths row] := by
  have hlines : row.map lines = row.map fun cell => [cell] :=
    List.map_congr_left fun cell hcell => lines_of_flat (h cell hcell)
  have hheight : ((row.map lines).map List.length).foldl max 0 = 1 := by
    rw [hlines, List.map_map]
    cases row with
    | nil => exact absurd rfl hne
    | cons first rest =>
      rw [List.map_cons, List.foldl_cons]
      refine foldl_max_of_le fun height hheight => ?_
      obtain ⟨cell, -, rfl⟩ := List.mem_map.mp hheight
      exact Nat.le_refl 1
  have hcells : (row.map lines).map (fun cell => cell[0]?.getD "") = row := by
    rw [hlines, List.map_map]
    exact List.map_id' row
  unfold drawRow
  dsimp only
  rw [hheight]
  exact congrArg (fun cells => [drawLine widths cells]) hcells

theorem drawLine_shows {widths : List Nat} {row : List String} (h : widths.length = row.length) :
    ShowsCells row (drawLine widths row) := by
  refine ⟨List.zipWith (fun width cell => width - Width.ofLine cell) widths row, ?_, ?_⟩
  · rw [List.length_zipWith, h, Nat.min_self]
  · rw [drawLine]
    congr 3
    refine List.ext_getElem ?_ fun i hi _ => ?_
    · simp [h]
    · simp [fill]

/-! ## The columns -/

theorem length_widths {widths : List Nat} {rows : List (List String)}
    (h : ∀ row ∈ rows, row.length = widths.length) :
    (rows.foldl (fun widths row => List.zipWith max widths (row.map cellWidth)) widths).length =
      widths.length := by
  induction rows generalizing widths with
  | nil => rfl
  | cons row rest ih =>
    have hfirst : (List.zipWith max widths (row.map cellWidth)).length = widths.length := by
      rw [List.length_zipWith, List.length_map, h row List.mem_cons_self, Nat.min_self]
    rw [List.foldl_cons, ih, hfirst]
    intro other hother
    rw [hfirst, h other (List.mem_cons_of_mem _ hother)]

theorem length_columnWidths {table : Table}
    (h : ∀ row ∈ table.rows, row.length = table.header.length) :
    table.columnWidths.length = table.header.length := by
  rw [columnWidths, length_widths (by simpa using h), List.length_map]

/-! ## The lines of a table -/

/-- Rows of one line each, with a rule between any two: a row stands at every second place. -/
theorem getElem?_ruled (rule : String) (line : List String → String) (rows : List (List String))
    (place : Nat) :
    ([rule].intercalate (rows.map fun row => [line row]))[2 * place]? =
      rows[place]?.map line := by
  induction rows generalizing place with
  | nil => rfl
  | cons row rest ih =>
    cases rest with
    | nil => cases place <;> rfl
    | cons next more =>
      rw [List.map_cons, List.map_cons, List.intercalate_cons_cons]
      cases place with
      | zero => rfl
      | succ place => exact ih place

theorem length_ruled (rule : String) (line : List String → String) (rows : List (List String)) :
    ([rule].intercalate (rows.map fun row => [line row])).length = 2 * rows.length - 1 := by
  induction rows with
  | nil => rfl
  | cons row rest ih =>
    cases rest with
    | nil => rfl
    | cons next more =>
      rw [List.map_cons, List.map_cons, List.intercalate_cons_cons, List.length_append,
        List.length_append, ← List.map_cons (f := fun row => [line row]), ih]
      simp only [List.length_cons, List.length_nil]
      omega

theorem draw_of_flat {table : Table} (hheader : Flat table.header) (hne : table.header ≠ [])
    (hrows : ∀ row ∈ table.rows, row.length = table.header.length ∧ Flat row) :
    table.draw = [topRule.draw table.columnWidths, drawLine table.columnWidths table.header,
        headerRule.draw table.columnWidths] ++
      ([rowRule.draw table.columnWidths].intercalate
        (table.rows.map fun row => [drawLine table.columnWidths row]) ++
      [bottomRule.draw table.columnWidths]) := by
  have hdrawn : table.rows.map (drawRow table.columnWidths) =
      table.rows.map fun row => [drawLine table.columnWidths row] := by
    refine List.map_congr_left fun row hrow => ?_
    obtain ⟨hlength, hflat⟩ := hrows row hrow
    refine drawRow_of_flat _ (fun hnil => hne ?_) hflat
    rw [hnil] at hlength
    exact List.length_eq_zero_iff.mp hlength.symm
  unfold draw
  dsimp only
  rw [drawRow_of_flat _ hne hheader, hdrawn, List.append_assoc]
  rfl

/-- **A table of cells without line breaks shows each of its rows once, in order.** -/
theorem draw_draws {header : List String} {rows : List (List String)} (hheader : Flat header)
    (hne : header ≠ []) (hrows : ∀ row ∈ rows, row.length = header.length ∧ Flat row) :
    Draws header rows (draw { header, rows }) := by
  have hwidths : (columnWidths { header, rows }).length = header.length :=
    length_columnWidths fun row hrow => (hrows row hrow).1
  have hdraw := @draw_of_flat { header, rows } hheader hne hrows
  refine ⟨?_, ?_, ?_⟩
  · rw [hdraw, List.length_append, List.length_append, length_ruled]
    cases rows with
    | nil => rfl
    | cons row rest =>
      rw [if_neg (List.cons_ne_nil row rest)]
      simp only [List.length_cons, List.length_nil]
      omega
  · rw [hdraw]
    exact ⟨_, rfl, drawLine_shows hwidths⟩
  · intro place row hrow
    have hmem : row ∈ rows := List.mem_of_getElem? hrow
    refine ⟨drawLine (columnWidths { header, rows }) row, ?_, drawLine_shows ?_⟩
    · have hruled := getElem?_ruled (rowRule.draw (columnWidths { header, rows }))
        (drawLine (columnWidths { header, rows })) rows place
      rw [hrow, Option.map_some] at hruled
      obtain ⟨hlt, -⟩ := List.getElem?_eq_some_iff.mp hruled
      rw [hdraw, List.getElem?_append_right (Nat.le_add_left 3 (2 * place)), List.getElem?_append_left]
      · exact hruled
      · exact hlt
    · rw [hwidths, (hrows row hmem).1]

example : draw { header := ["#"], rows := [["0"], ["10"]] } =
    ["┌────┐", "│ #  │", "╞════╡", "│ 0  │", "├╌╌╌╌┤", "│ 10 │", "└────┘"] := by
  decide +kernel

end Screencast.Table
