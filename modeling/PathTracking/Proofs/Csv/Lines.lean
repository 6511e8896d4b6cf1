import Mathlib.Data.List.Basic
import PathTracking.Csv.Rows
import PathTracking.Proofs.Failure

/-!
# Rows and lines

Where the reader stands after a character does not depend on what it has collected (`Place.next`),
so whether a line ends inside a quoted cell can be read off the line alone (`opens`). A line that
does not is a row by itself (`rowsFrom_append`). One that does takes in the lines behind it, and
all of them if no other quote comes (`rowsFrom_opens`). Either way a row starts with the characters
its line starts with (`first_foldlM`).
-/
namespace PathTracking.Csv

/-! ## Lines -/

/-- A line as it stands in the text. -/
def Line.text (l : Line) : List Char := l.body ++ l.ending

theorem linesFrom_text (body s : List Char) :
    (linesFrom body s).flatMap Line.text = body.reverse ++ s := by
  fun_induction linesFrom body s with
  | case1 body empty => simp_all
  | case2 body _ => simp [Line.text]
  | case3 body rest ih => simp [Line.text, ih]
  | case4 body c rest _ _ ih => simp [Line.text, ih]
  | case5 body c rest _ _ ih => simp [ih]

/-- The lines of a text are all of it. -/
theorem lines_text (s : List Char) : (lines s).flatMap Line.text = s := linesFrom_text [] s

theorem mem_of_mem_body {s : List Char} {l : Line} (line : l ∈ lines s) {c : Char}
    (found : c ∈ l.body) : c ∈ s := by
  rw [← lines_text s, List.mem_flatMap]
  exact ⟨l, line, List.mem_append_left _ found⟩

theorem quote_not_mem_ending {s : List Char} {l : Line} (line : l ∈ lines s) :
    '"' ∉ l.ending := by
  suffices ∀ body, l ∈ linesFrom body s → '"' ∉ l.ending from this [] line
  clear line
  intro body
  fun_induction linesFrom body s with
  | case1 body empty => simp
  | case2 body _ => simp +contextual
  | case3 body rest ih => grind
  | case4 body c rest _ _ ih => grind
  | case5 body c rest _ _ ih => exact ih

theorem linesFrom_append (acc : List Char) {body : List Char}
    (inside : ∀ c ∈ body, c ≠ '\n' ∧ c ≠ '\r') (s : List Char) :
    linesFrom acc (body ++ s) = linesFrom (body.reverse ++ acc) s := by
  induction body generalizing acc with
  | nil => rfl
  | cons c body ih =>
    rw [List.forall_mem_cons] at inside
    obtain ⟨⟨noFeed, noReturn⟩, inside⟩ := inside
    rw [List.cons_append, linesFrom, if_neg (not_or.mpr ⟨noFeed, noReturn⟩), ih _ inside,
      List.reverse_cons, List.append_assoc, List.singleton_append]
    rintro rest ⟨⟩
    exact absurd rfl noReturn

/-- A line with its end in front of a text. If the end is a carriage return and the text starts with
a line feed, the two are one end, and the text loses the empty line it starts with. -/
theorem lines_append {body ending : List Char} (inside : ∀ c ∈ body, c ≠ '\n' ∧ c ≠ '\r')
    (ends : ending ∈ [['\n'], ['\r'], ['\r', '\n']]) (s : List Char) :
    ∃ end' rest, lines (body ++ (ending ++ s)) = ⟨body, end'⟩ :: rest ∧
      (lines s = rest ∨ lines s = ⟨[], ['\n']⟩ :: rest) := by
  rw [lines, linesFrom_append [] inside, List.append_nil]
  simp only [List.mem_cons, List.not_mem_nil, or_false] at ends
  rcases ends with rfl | rfl | rfl
  · exact ⟨['\n'], lines s, by simp [linesFrom, lines], .inl rfl⟩
  · cases s with
    | nil => exact ⟨['\r'], [], by simp [linesFrom], .inl rfl⟩
    | cons c s =>
      by_cases feed : c = '\n'
      · subst feed
        exact ⟨['\r', '\n'], lines s, by simp [linesFrom, lines], .inr (by simp [lines, linesFrom])⟩
      · refine ⟨['\r'], lines (c :: s), ?_, .inl rfl⟩
        rw [List.singleton_append, linesFrom, if_pos (.inr rfl), List.reverse_reverse, lines]
        rintro rest - same
        exact feed (List.cons.inj same).1
  · exact ⟨['\r', '\n'], lines s, by simp [linesFrom, lines], .inl rfl⟩

/-! ## Places -/

/-- Where the reader stands after a character. -/
def Place.next : Place → Char → Place
  | .start, c => if c = '"' then .quoted else if c = ',' then .start else .bare
  | .bare, c => if c = ',' then .start else .bare
  | .quoted, c => if c = '"' then .afterQuote else .quoted
  | .afterQuote, c => if c = '"' then .quoted else if c = ',' then .start else .bare

/-- Whether a line, read from its start, ends inside a quoted cell. -/
def opens (body : List Char) : Bool := body.foldl Place.next .start = .quoted

theorem quoted_of_unquoted {s : List Char} (unquoted : '"' ∉ s) :
    s.foldl Place.next .quoted = .quoted := by
  induction s with
  | nil => rfl
  | cons c s ih =>
    rw [List.mem_cons, not_or] at unquoted
    rw [List.foldl_cons, Place.next, if_neg (Ne.symm unquoted.1), ih unquoted.2]

/-- Outside a quoted cell only a quote opens one, and only at the start of a cell. -/
theorem opens_cases (s : List Char) :
    (s.foldl Place.next .bare = .quoted → [',', '"'] <:+: s) ∧
      (s.foldl Place.next .start = .quoted → s.head? = some '"' ∨ [',', '"'] <:+: s) := by
  induction s with
  | nil => simp
  | cons c s ih =>
    obtain ⟨bare, start⟩ := ih
    -- After a comma the next character decides; after any other the cell goes on.
    have comma (opened : s.foldl Place.next .start = .quoted) : [',', '"'] <:+: ',' :: s := by
      rcases start opened with quote | inside
      · obtain ⟨rest, rfl⟩ := List.head?_eq_some_iff.mp quote
        exact ⟨[], rest, rfl⟩
      · exact List.infix_cons inside
    have other (opened : s.foldl Place.next .bare = .quoted) : [',', '"'] <:+: c :: s :=
      List.infix_cons (bare opened)
    constructor
    · intro opened
      rw [List.foldl_cons, Place.next] at opened
      split at opened
      next isComma => exact isComma ▸ comma opened
      next => exact other opened
    · intro opened
      rw [List.foldl_cons, Place.next] at opened
      split at opened
      next quote => exact .inl (congrArg some quote)
      next =>
        split at opened
        next isComma => exact .inr (isComma ▸ comma opened)
        next => exact .inr (other opened)

theorem not_opens_of_unquoted {body : List Char} (unquoted : '"' ∉ body) : opens body = false := by
  rw [opens, decide_eq_false_iff_not]
  intro opened
  refine unquoted ?_
  rcases (opens_cases body).2 opened with quote | inside
  · exact List.mem_of_mem_head? quote
  · exact inside.subset (by simp)

/-- No line of a text without quotes ends inside a quoted cell. -/
theorem closed_of_unquoted {s : List Char} (unquoted : '"' ∉ s) :
    ∀ l ∈ lines s, opens l.body = false :=
  fun _ line => not_opens_of_unquoted fun found => unquoted (mem_of_mem_body line found)

/-! ## Drafts -/

namespace Draft

/-- A quote at either end of a quoted cell changes only the place, a comma outside ends the cell,
and any other character is added to it. -/
theorem step_eq (d : Draft) (c : Char) :
    d.step c =
      if c = '"' ∧ (d.place = .start ∨ d.place = .quoted) then
        .ok { d with place := d.place.next c }
      else if c = ',' ∧ d.place ≠ .quoted then .ok d.endCell
      else d.addChar c (d.place.next c) := by
  obtain ⟨cells, cell, length, place⟩ := d
  cases place <;> simp only [step, Place.next] <;> grind

theorem addChar_eq_ok_iff {d d' : Draft} {c : Char} {place : Place} :
    d.addChar c place = .ok d' ↔
      d.length < maxCell ∧ d' = ⟨d.cells, c :: d.cell, d.length + 1, place⟩ := by
  unfold addChar
  split <;> grind

/-- What a character can do to a draft. -/
theorem step_cases {d d' : Draft} {c : Char} (read : d.step c = .ok d') :
    d' = { d with place := d.place.next c } ∨
      (d' = d.endCell ∧ d.place.next c = .start) ∨
      d' = ⟨d.cells, c :: d.cell, d.length + 1, d.place.next c⟩ := by
  rw [step_eq] at read
  split at read
  next => exact .inl (Except.ok.inj read).symm
  next =>
    split at read
    next ends =>
      obtain ⟨rfl, outside⟩ := ends
      refine .inr (.inl ⟨(Except.ok.inj read).symm, ?_⟩)
      cases place : d.place with
      | quoted => exact absurd place outside
      | start | bare | afterQuote => rfl
    next => exact .inr (.inr (addChar_eq_ok_iff.mp read).2)

theorem place_step {d d' : Draft} {c : Char} (read : d.step c = .ok d') :
    d'.place = d.place.next c := by
  rcases step_cases read with rfl | ⟨rfl, start⟩ | rfl
  · rfl
  · exact start.symm
  · rfl

theorem foldlM_cons_eq_ok_iff {d d' : Draft} {c : Char} {s : List Char} :
    (c :: s).foldlM step d = .ok d' ↔ ∃ d₁, d.step c = .ok d₁ ∧ s.foldlM step d₁ = .ok d' := by
  rw [List.foldlM_cons, bind_eq_ok_iff]

theorem place_foldlM {d d' : Draft} {s : List Char} (read : s.foldlM step d = .ok d') :
    d'.place = s.foldl Place.next d.place := by
  induction s generalizing d with
  | nil => cases read; rfl
  | cons c s ih =>
    obtain ⟨d₁, stepped, rest⟩ := foldlM_cons_eq_ok_iff.mp read
    rw [List.foldl_cons, ← place_step stepped]
    exact ih rest

theorem step_of_room {d : Draft} (c : Char) (room : d.length < maxCell) :
    ∃ d', d.step c = .ok d' ∧ d'.length ≤ d.length + 1 := by
  rw [step_eq]
  split
  · exact ⟨_, rfl, Nat.le_succ _⟩
  · split
    · exact ⟨_, rfl, Nat.zero_le _⟩
    · exact ⟨_, addChar_eq_ok_iff.mpr ⟨room, rfl⟩, Nat.le_refl _⟩

/-- There is room for as many characters as the cell is short of its greatest length. -/
theorem foldlM_of_room {d : Draft} {s : List Char} (room : d.length + s.length ≤ maxCell) :
    ∃ d', s.foldlM step d = .ok d' := by
  induction s generalizing d with
  | nil => exact ⟨d, rfl⟩
  | cons c s ih =>
    rw [List.length_cons] at room
    obtain ⟨d₁, stepped, length⟩ := step_of_room (d := d) c (by omega)
    obtain ⟨d', rest⟩ := ih (d := d₁) (by omega)
    exact ⟨d', foldlM_cons_eq_ok_iff.mpr ⟨d₁, stepped, rest⟩⟩

/-! ### The first cell -/

/-- The first cell, as far as it has been read. -/
def first (d : Draft) : Cell := d.cells.getLast?.getD d.cell.reverse

theorem head?_row (d : Draft) : d.row.head? = some d.first := by
  rw [row, endCell, List.head?_reverse, first, List.getLast?_cons]

theorem first_step {d d' : Draft} {c : Char} (read : d.step c = .ok d') : d.first <+: d'.first := by
  rcases step_cases read with rfl | ⟨rfl, -⟩ | rfl
  · exact List.prefix_rfl
  · rw [first, endCell, first, List.getLast?_cons]
    exact List.prefix_rfl
  · rw [first, first]
    cases d.cells.getLast? with
    | some cell => exact List.prefix_rfl
    | none => exact ⟨[c], List.reverse_cons.symm⟩

/-- What has been read of the first cell stays its start. -/
theorem first_foldlM {d d' : Draft} {s : List Char} (read : s.foldlM step d = .ok d') :
    d.first <+: d'.first := by
  induction s generalizing d with
  | nil => cases read; exact List.prefix_rfl
  | cons c s ih =>
    obtain ⟨d₁, stepped, rest⟩ := foldlM_cons_eq_ok_iff.mp read
    exact (first_step stepped).trans (ih rest)

/-- Without quotes and commas the first cell is what is read. -/
theorem first_of_plain {d d' : Draft} {s : List Char} (cells : d.cells = [])
    (outside : d.place = .start ∨ d.place = .bare) (plain : ∀ c ∈ s, c ≠ '"' ∧ c ≠ ',')
    (read : s.foldlM step d = .ok d') : d'.first = d.first ++ s := by
  induction s generalizing d with
  | nil => cases read; rw [List.append_nil]
  | cons c s ih =>
    obtain ⟨d₁, stepped, rest⟩ := foldlM_cons_eq_ok_iff.mp read
    obtain ⟨noQuote, noComma⟩ := plain c List.mem_cons_self
    have bare : d.place.next c = .bare := by
      rcases outside with place | place <;> simp [place, Place.next, noQuote, noComma]
    rw [step_eq, if_neg (noQuote ·.1), if_neg (noComma ·.1), bare, addChar_eq_ok_iff] at stepped
    obtain ⟨-, rfl⟩ := stepped
    have later := ih (d := ⟨d.cells, c :: d.cell, d.length + 1, .bare⟩) cells (.inr rfl)
      (fun c found => plain c (List.mem_cons_of_mem _ found)) rest
    rw [later]
    simp [first, cells]

end Draft

/-! ## Rows -/

/-- A row from the characters of its line, or of its lines. -/
def readRow (s : List Char) : Except Error Row :=
  if s.isEmpty then .ok [] else (s.foldlM Draft.step .empty).map Draft.row

/-- The row in a line by itself. -/
def Line.row (l : Line) : Except Error Row := readRow (if opens l.body then l.text else l.body)

theorem rowsFrom_cons_closed (rows : List Row) {l : Line} (rest : List Line)
    (closed : opens l.body = false) :
    rowsFrom rows none (l :: rest) = l.row >>= fun row => rowsFrom (row :: rows) none rest := by
  rw [rowsFrom, Line.row, closed, if_neg Bool.false_ne_true, readRow, Option.isNone_none,
    Bool.true_and, Option.getD_none]
  split
  · rfl
  · cases read : l.body.foldlM Draft.step .empty with
    | error e => rfl
    | ok d =>
      have outside : ¬ d.place = .quoted := by
        rw [Draft.place_foldlM read]
        exact of_decide_eq_false closed
      simp only [outside, if_false]
      rfl

/-- Lines that end outside quoted cells are a row each. -/
theorem rowsFrom_append (rows : List Row) (ls rest : List Line)
    (closed : ∀ l ∈ ls, opens l.body = false) :
    rowsFrom rows none (ls ++ rest) =
      ls.mapM Line.row >>= fun new => rowsFrom (new.reverse ++ rows) none rest := by
  induction ls generalizing rows with
  | nil => rfl
  | cons l ls ih =>
    rw [List.forall_mem_cons] at closed
    rw [List.cons_append, rowsFrom_cons_closed _ _ closed.1, List.mapM_cons]
    simp only [bind_assoc, pure_bind, ih _ closed.2, List.reverse_cons, List.append_assoc,
      List.cons_append, List.nil_append]

/-- From a line that ends inside a quoted cell the row goes on, its end of line included. -/
theorem rowsFrom_cons_open (rows : List Row) (carried : Option Draft) {l : Line} (rest : List Line)
    (opened : l.body.foldl Place.next (carried.getD .empty).place = .quoted) :
    rowsFrom rows carried (l :: rest) =
      l.text.foldlM Draft.step (carried.getD .empty) >>= fun d => rowsFrom rows (some d) rest := by
  -- An empty line does not open a cell, so the row without cells is out of the question.
  have nonempty : (carried.isNone && l.body.isEmpty) = false := by
    cases carried with
    | some d => rfl
    | none =>
      cases body : l.body with
      | nil => rw [body] at opened; cases opened
      | cons c s => rfl
  rw [rowsFrom, nonempty, if_neg Bool.false_ne_true, Line.text, List.foldlM_append]
  cases read : l.body.foldlM Draft.step (carried.getD .empty) with
  | error e => rfl
  | ok d =>
    have quoted : d.place = .quoted := (Draft.place_foldlM read).trans opened
    simp only [quoted, if_true, bind, Except.bind]
    cases l.ending.foldlM Draft.step d <;> rfl

/-- Inside a quoted cell all lines without a quote belong to it. -/
theorem rowsFrom_quoted (rows : List Row) {d : Draft} {ls : List Line} (quoted : d.place = .quoted)
    (unquoted : ∀ l ∈ ls, '"' ∉ l.text) :
    rowsFrom rows (some d) ls =
      ((ls.flatMap Line.text).foldlM Draft.step d).map fun d' => (d'.row :: rows).reverse := by
  induction ls generalizing d with
  | nil => rfl
  | cons l ls ih =>
    rw [List.forall_mem_cons] at unquoted
    have body : '"' ∉ l.body := fun found => unquoted.1 (List.mem_append_left _ found)
    have opened : l.body.foldl Place.next d.place = .quoted := by
      rw [quoted, quoted_of_unquoted body]
    rw [rowsFrom_cons_open rows (some d) ls opened, List.flatMap_cons, List.foldlM_append,
      Option.getD_some]
    cases read : l.text.foldlM Draft.step d with
    | error e => rfl
    | ok d₁ =>
      refine ih ?_ unquoted.2
      rw [Draft.place_foldlM read, quoted, quoted_of_unquoted unquoted.1]

/-- A line that ends inside a quoted cell and the lines without a quote behind it are one row. -/
theorem rowsFrom_opens (rows : List Row) {l : Line} {ls : List Line} (opened : opens l.body = true)
    (ending : '"' ∉ l.ending) (unquoted : ∀ l ∈ ls, '"' ∉ l.text) :
    rowsFrom rows none (l :: ls) =
      (readRow ((l :: ls).flatMap Line.text)).map fun row => (row :: rows).reverse := by
  have quoted : l.body.foldl Place.next .start = .quoted := of_decide_eq_true opened
  have nonempty : ((l :: ls).flatMap Line.text).isEmpty = false := by
    cases body : l.body with
    | nil => rw [body] at quoted; cases quoted
    | cons c s => rw [List.flatMap_cons, Line.text, body]; rfl
  rw [rowsFrom_cons_open rows none ls quoted, readRow, nonempty, if_neg Bool.false_ne_true,
    List.flatMap_cons, List.foldlM_append, Option.getD_none]
  cases read : l.text.foldlM Draft.step .empty with
  | error e => rfl
  | ok d =>
    have inside : d.place = .quoted := by
      rw [Draft.place_foldlM read, Line.text, List.foldl_append]
      exact (congrArg (l.ending.foldl Place.next) quoted).trans (quoted_of_unquoted ending)
    simp only [bind, Except.bind, rowsFrom_quoted rows inside unquoted]
    cases (ls.flatMap Line.text).foldlM Draft.step d <;> rfl

/-! ## Texts -/

/-- No cell of the text goes on in the next line: no line but perhaps the last one ends inside a
quoted cell. -/
def Unbroken (s : List Char) : Prop := ∀ l ∈ (lines s).dropLast, opens l.body = false

instance (s : List Char) : Decidable (Unbroken s) :=
  inferInstanceAs (Decidable (∀ l ∈ (lines s).dropLast, opens l.body = false))

/-- The last line of a text is a row, wherever it ends. -/
theorem rowsFrom_singleton (rows : List Row) {l : Line} (ending : '"' ∉ l.ending) :
    rowsFrom rows none [l] = l.row.map fun row => (row :: rows).reverse := by
  cases place : opens l.body with
  | false =>
    rw [rowsFrom_cons_closed rows [] place]
    cases l.row <;> rfl
  | true =>
    rw [rowsFrom_opens rows place ending (List.forall_mem_nil _), Line.row, if_pos place,
      List.flatMap_singleton]

/-- The rows read already stand in front of the others. -/
theorem rowsFrom_eq (rows : List Row) (carried : Option Draft) (ls : List Line) :
    rowsFrom rows carried ls = (rowsFrom [] carried ls).map (rows.reverse ++ ·) := by
  induction ls generalizing rows carried with
  | nil => cases carried <;> simp [rowsFrom, Except.map]
  | cons l ls ih =>
    have comp (row : Row) (x : Except Error (List Row)) :
        x.map ((row :: rows).reverse ++ ·) =
          (x.map ([row].reverse ++ ·)).map (rows.reverse ++ ·) := by
      cases x <;> simp [Except.map]
    rw [rowsFrom, rowsFrom]
    split
    · rw [ih, ih [[]], comp]
    · cases l.body.foldlM Draft.step (carried.getD .empty) with
      | error e => rfl
      | ok d =>
        dsimp only
        split
        · cases l.ending.foldlM Draft.step d with
          | error e => rfl
          | ok d => exact ih _ _
        · rw [ih, ih [d.row], comp]

/-- The rows of a text behind a line that is a row by itself. An empty row may be lost. -/
theorem rows_append {body ending s : List Char} {row : Row} {rs : List Row}
    (inside : ∀ c ∈ body, c ≠ '\n' ∧ c ≠ '\r') (ends : ending ∈ [['\n'], ['\r'], ['\r', '\n']])
    (closed : opens body = false) (here : readRow body = .ok row) (read : rows s = .ok rs) :
    ∃ rs', rows (body ++ (ending ++ s)) = .ok (row :: rs') ∧ (rs = rs' ∨ rs = [] :: rs') := by
  obtain ⟨end', rest, split, same⟩ := lines_append inside ends s
  have first : rows (body ++ (ending ++ s)) = (rowsFrom [] none rest).map (row :: ·) := by
    have single : (Line.mk body end').row = .ok row := by
      rw [Line.row, closed, if_neg Bool.false_ne_true, here]
    rw [rows, split, rowsFrom_cons_closed [] rest closed, single]
    exact rowsFrom_eq [row] none rest
  rw [first]
  rcases same with same | same
  · rw [rows, same] at read
    exact ⟨rs, by rw [read]; rfl, .inl rfl⟩
  · -- The empty line of the text is an empty row.
    rw [rows, same, rowsFrom_cons_closed [] rest rfl] at read
    have behind : rowsFrom [[]] none rest = .ok rs := read
    rw [rowsFrom_eq, map_eq_ok_iff] at behind
    obtain ⟨rs', later, rfl⟩ := behind
    exact ⟨rs', by rw [later]; rfl, .inr rfl⟩

/-- If no cell goes on in the next line, the lines are the rows. -/
theorem rows_of_unbroken {s : List Char} (unbroken : Unbroken s) :
    rows s = (lines s).mapM Line.row := by
  rcases List.eq_nil_or_concat (lines s) with none | ⟨ls, l, split⟩
  · rw [rows, none]
    rfl
  · rw [List.concat_eq_append] at split
    have ending : '"' ∉ l.ending := quote_not_mem_ending (s := s) (by simp [split])
    rw [Unbroken, split, List.dropLast_concat] at unbroken
    rw [rows, split, rowsFrom_append [] ls [l] unbroken, List.mapM_append]
    simp only [List.append_nil, rowsFrom_singleton _ ending, List.reverse_cons, List.reverse_reverse,
      List.mapM_cons, List.mapM_nil]
    cases ls.mapM Line.row with
    | error e => rfl
    | ok new => cases l.row <;> rfl

theorem Line.row_of_closed {l : Line} (closed : opens l.body = false) :
    l.row = readRow l.body := by
  rw [Line.row, closed, if_neg Bool.false_ne_true]

theorem mapM_row_of_closed {ls : List Line} (closed : ∀ l ∈ ls, opens l.body = false) :
    ls.mapM Line.row = (ls.map Line.body).mapM readRow := by
  induction ls with
  | nil => rfl
  | cons l ls ih =>
    rw [List.forall_mem_cons] at closed
    rw [List.map_cons, List.mapM_cons, List.mapM_cons, Line.row_of_closed closed.1, ih closed.2]

theorem readRow_of_room {s : List Char} (room : s.length ≤ maxCell) :
    ∃ row, readRow s = .ok row := by
  unfold readRow
  split
  · exact ⟨[], rfl⟩
  · have room' : Draft.empty.length + s.length ≤ maxCell := by
      rw [Draft.empty, Nat.zero_add]
      exact room
    obtain ⟨d, read⟩ := Draft.foldlM_of_room room'
    exact ⟨d.row, by rw [read]; rfl⟩

/-- From a line that ends inside a quoted cell, all the rest without a quote is one row. -/
theorem rows_of_opens {s : List Char} {above below : List Line} {l : Line}
    (split : lines s = above ++ l :: below) (closed : ∀ l ∈ above, opens l.body = false)
    (opened : opens l.body = true) (unquoted : ∀ l ∈ below, '"' ∉ l.body) :
    rows s =
      above.mapM Line.row >>= fun rowsAbove =>
        (readRow ((l :: below).flatMap Line.text)).map fun row => rowsAbove ++ [row] := by
  have ending : ∀ l ∈ lines s, '"' ∉ l.ending := fun l line => quote_not_mem_ending line
  simp only [split, List.forall_mem_append, List.forall_mem_cons] at ending
  have unquoted' : ∀ l ∈ below, '"' ∉ l.text := by
    intro l line found
    rcases List.mem_append.mp found with found | found
    · exact unquoted l line found
    · exact ending.2.2 l line found
  rw [rows, split, rowsFrom_append [] above _ closed]
  simp only [List.append_nil, rowsFrom_opens _ opened ending.2.1 unquoted', List.reverse_cons,
    List.reverse_reverse]

end PathTracking.Csv
