import Mathlib
import ResourceHealth.Proofs.Toml.Scalar
import ResourceHealth.Toml.Document
import ResourceHealth.Toml.Write

/-!
# Written documents read back

A document of lines that each give a scalar for a key, followed by tables of such lines, is
read as the table of what the lines give.  Where in the document something stands is told
by spans, which do not matter here.

Main definitions:

- `Toml.Entry`: a line with what it gives.
- `Toml.Reads`: a text with the statements that it is read as.
- `Toml.Entry.IsRow`: a row that gives what an entry does.

Main results:

- Theorem `Toml.exists_reads_lines`: lines are read as pairs.
- Theorem `Toml.exists_document?_eq`: a document with one table below it is read as what its
  lines give.
-/

namespace ResourceHealth

namespace Toml

/-! ## Keys -/

/-- A name that may stand as a key without quotes. -/
structure IsBareName (name : List Char) : Prop where
  ne_nil : name ≠ []
  isBareKey : ∀ c ∈ name, isBareKey c = true

/-- Whether a name needs no quotes can be computed. -/
theorem isBareName_of_all {name : List Char}
    (h : (!name.isEmpty && name.all Toml.isBareKey) = true) : IsBareName name := by
  rw [Bool.and_eq_true, Bool.not_eq_true', List.isEmpty_eq_false_iff, List.all_eq_true] at h
  exact ⟨h.1, h.2⟩

/-- What may stand in a key is neither a blank nor a line end, and opens nothing. -/
theorem ne_of_isBareKey {c : Char} (hc : isBareKey c = true) :
    c ∉ [' ', '\t', '\n', '\r', '#', '"', '\'', '[', Char.ofNat 0xfeff] := by
  intro hmem
  simp only [List.mem_cons, List.not_mem_nil, or_false] at hmem
  rcases hmem with rfl | rfl | rfl | rfl | rfl | rfl | rfl | rfl | rfl <;>
    exact absurd hc (by decide)

/-- Skipping blanks stops at the first other character. -/
theorem skipBlanks_cons {c : Char} (hc : isBlank c = false) (rest : List Char) :
    skipBlanks (c :: rest) = c :: rest := by
  rw [skipBlanks, List.dropWhile_cons_of_neg (by simp [hc])]

/-- What may stand in a bare key is no blank. -/
theorem isBlank_of_isBareKey {c : Char} (hc : isBareKey c = true) : isBlank c = false := by
  have hne := ne_of_isBareKey hc
  simp_all [isBlank]

variable {rest : List Char}

/-- A bare name is taken as one key, with the blanks behind it. -/
theorem key?_append {name : List Char} (hname : IsBareName name) (hrest : Stops isBareKey rest) :
    ∃ span, key? (name ++ rest) = some (⟨name, span⟩, skipBlanks rest) := by
  obtain ⟨c, others, rfl⟩ := List.exists_cons_of_ne_nil hname.ne_nil
  have hc := hname.isBareKey c List.mem_cons_self
  have hne := ne_of_isBareKey hc
  have hskip : skipBlanks (c :: others ++ rest) = c :: others ++ rest :=
    skipBlanks_cons (isBlank_of_isBareKey hc) _
  have hfound : name? (c :: others ++ rest) = some (c :: others, rest) := by
    unfold name?
    split
    · rename_i heq
      exact absurd (List.cons.inj heq).1 (by simp_all)
    · rename_i heq
      exact absurd (List.cons.inj heq).1 (by simp_all)
    · simp only [hrest.takeWhile_append hname.isBareKey, hrest.dropWhile_append hname.isBareKey]
      exact if_neg hname.ne_nil
  refine ⟨.upTo (c :: others ++ rest) rest, ?_⟩
  simp only [key?, hskip, hfound]
  rfl

/-- A bare name without a dot behind it is a path with no tables on it. -/
theorem path?_append {name : List Char} (hname : IsBareName name) (hrest : Stops isBareKey rest)
    (hdot : ∀ others, skipBlanks rest ≠ '.' :: others) :
    ∃ span, path? (name ++ rest) = some (([], ⟨name, span⟩), skipBlanks rest) := by
  obtain ⟨span, hkey⟩ := key?_append hname hrest
  have hkeys : keys? (depthLimit - 1) (name ++ rest) = some ([⟨name, span⟩], skipBlanks rest) := by
    change keys? (78 + 1) (name ++ rest) = _
    rw [keys?, hkey]
    cases hskip : skipBlanks rest with
    | nil => rfl
    | cons c others =>
      split
      · rename_i heq
        cases heq
      · rename_i heq
        simp only [Option.some.injEq, Prod.mk.injEq, List.cons.injEq] at heq
        exact absurd (hskip.trans (by rw [heq.2.1])) (hdot others)
      · rename_i heq
        simp only [Option.some.injEq, Prod.mk.injEq] at heq
        rw [← heq.1, ← heq.2]
  refine ⟨span, ?_⟩
  rw [path?, hkeys]
  rfl

/-! ## Lines -/

/-- Blanks and brackets start no scalar. -/
theorem scalar?_eq_none {c : Char} (hc : c ∈ [' ', '\t', '[', '\x7b']) (rest : List Char) :
    scalar? (c :: rest) = none := by
  simp only [List.mem_cons, List.not_mem_nil, or_false] at hc
  have hdigit : c.isDigit = false := by rcases hc with rfl | rfl | rfl | rfl <;> rfl
  have hdate : dateTime? (c :: rest) = none :=
    dateTime?_eq_none (List.forall_mem_nil _) (by simp [hdigit])
  have hfirst : ∀ d ∈ (c :: rest).head?, d ≠ 't' ∧ d ≠ 'f' ∧ d ≠ '"' ∧ d ≠ '\'' := by
    intro d hd
    obtain rfl := Option.some.inj hd
    rcases hc with rfl | rfl | rfl | rfl <;> decide
  rw [scalar?_of_dateTime? hfirst hdate]
  rcases hc with rfl | rfl | rfl | rfl <;> rfl

/-- A line with what it gives. -/
structure Entry where
  key : String
  value : List Char
  scalar : Scalar
  isBareName : IsBareName key.toList
  scalar?_eq : ∀ rest, scalar? (value ++ '\n' :: rest) = some (scalar, '\n' :: rest)

/-- The line of an entry. -/
def Entry.line (entry : Entry) : List Char :=
  Toml.line entry.key entry.value

/-- What starts a scalar is read as that scalar, with or without a blank before it. -/
theorem exists_value?_eq {text after : List Char} {scalar : Scalar}
    (h : scalar? text = some (scalar, after)) :
    ∃ span, value? (skipBlanks (' ' :: text)) = some (.scalar scalar span, after) := by
  cases text with
  | nil => cases h
  | cons c text =>
    have hc : c ∉ [' ', '\t', '[', '\x7b'] := by
      intro hmem
      rw [scalar?_eq_none hmem] at h
      cases h
    simp only [List.mem_cons, List.not_mem_nil, or_false, not_or] at hc
    have hskip : skipBlanks (' ' :: c :: text) = c :: text := by
      change skipBlanks (c :: text) = c :: text
      exact skipBlanks_cons (by simp [isBlank, hc]) text
    refine ⟨.upTo (c :: text) after, ?_⟩
    rw [hskip]
    change nested? (78 + 1) (c :: text) = _
    rw [nested?, h]
    · rfl
    · rintro depth others - heq
      exact hc.2.2.1 (List.cons.inj heq).1
    · rintro depth others - heq
      exact hc.2.2.2 (List.cons.inj heq).1

/-- A bare name starts with what may stand in a key. -/
theorem IsBareName.head? {name : List Char} (h : IsBareName name) (rest : List Char) :
    ∀ c ∈ (name ++ rest).head?, Toml.isBareKey c = true := by
  intro c hc
  rw [List.head?_append_of_ne_nil _ h.ne_nil] at hc
  exact h.isBareKey c (List.mem_of_head? hc)

/-- The line of an entry is its key, the equals sign between blanks, its value and a line end. -/
theorem Entry.line_append (entry : Entry) (rest : List Char) :
    entry.line ++ rest =
      entry.key.toList ++ ' ' :: '=' :: ' ' :: (entry.value ++ '\n' :: rest) := by
  have hsign : " = ".toList = [' ', '=', ' '] := rfl
  simp [Entry.line, Toml.line, hsign]

/-- A line is read as the pair that it gives. -/
theorem Entry.exists_statement?_eq (entry : Entry) (rest : List Char) :
    ∃ keySpan span, statement? (entry.line ++ rest) =
      some (.pair [] ⟨entry.key.toList, keySpan⟩ (.scalar entry.scalar span), '\n' :: rest) := by
  have hhead := entry.isBareName.head? (' ' :: '=' :: ' ' :: (entry.value ++ '\n' :: rest))
  obtain ⟨keySpan, hpath⟩ := path?_append entry.isBareName
    (stops_cons.mpr rfl :
      Stops isBareKey (' ' :: '=' :: ' ' :: (entry.value ++ '\n' :: rest)))
    (by rintro others ⟨⟩)
  obtain ⟨span, hvalue⟩ := exists_value?_eq (entry.scalar?_eq rest)
  refine ⟨keySpan, span, ?_⟩
  rw [entry.line_append]
  unfold statement?
  split
  · rename_i heq
    rw [heq] at hhead
    exact absurd (hhead '[' rfl) (by decide)
  · rename_i heq
    rw [heq] at hhead
    exact absurd (hhead '[' rfl) (by decide)
  · rw [hpath]
    change (value? (skipBlanks (' ' :: (entry.value ++ '\n' :: rest)))).map _ = _
    rw [hvalue]
    rfl

/-! ## Texts of lines -/

/-- A text is read as some statements, as long as the bound on the lines is large enough. -/
def Reads (text : List Char) (found : List Statement) : Prop :=
  ∀ bound, text.length < bound → statementsWithin? bound text = some found

theorem reads_nil : Reads [] [] := by
  intro bound hbound
  obtain ⟨bound, rfl⟩ := Nat.exists_eq_succ_of_ne_zero (Nat.ne_of_gt hbound)
  rfl

/-- An empty line states nothing. -/
theorem Reads.emptyLine {found : List Statement} (h : Reads rest found) :
    Reads ('\n' :: rest) found := by
  intro bound hbound
  obtain ⟨bound, rfl⟩ := Nat.exists_eq_succ_of_ne_zero (Nat.ne_of_gt (Nat.zero_lt_of_lt hbound))
  exact h bound (by simpa using hbound)

/-- A line that starts with no blank, comment or line end is read as its statement. -/
theorem Reads.statement {found : List Statement} (h : Reads rest found) {text : List Char}
    {statement : Statement} (hne : text ≠ [])
    (hhead : ∀ c ∈ text.head?, c ∉ [' ', '\t', '\n', '\r', '#'])
    (hstatement : statement? text = some (statement, '\n' :: rest))
    (hlength : rest.length < text.length) : Reads text (statement :: found) := by
  intro bound hbound
  obtain ⟨bound, rfl⟩ := Nat.exists_eq_succ_of_ne_zero (Nat.ne_of_gt (Nat.zero_lt_of_lt hbound))
  obtain ⟨c, others, rfl⟩ := List.exists_cons_of_ne_nil hne
  have hc := hhead c rfl
  simp only [List.mem_cons, List.not_mem_nil, or_false, not_or] at hc
  have hskip : skipBlanks (c :: others) = c :: others :=
    skipBlanks_cons (by simp [isBlank, hc]) others
  have hcomment : skipComment (c :: others) = c :: others := by
    rw [skipComment]
    rintro more heq
    exact hc.2.2.2.2 (List.cons.inj heq).1
  have hline : lineEnd? (c :: others) = none := by
    rw [lineEnd?]
    · rintro more heq
      exact hc.2.2.1 (List.cons.inj heq).1
    · rintro more heq
      exact hc.2.2.2.1 (List.cons.inj heq).1
  have hclose : closeLine (c :: others) = none := by
    rw [closeLine, hskip, hcomment]
    exact hline
  have hmore : closeLine ('\n' :: rest) = some rest := rfl
  have hrest := h bound (by omega)
  simp only [statementsWithin?, hskip, hclose, hstatement, hmore, hrest]
  rfl

/-- A row of a table that gives what an entry does. -/
structure Entry.IsRow (entry : Entry) (row : Key × Node) : Prop where
  name : row.1.name = entry.key.toList
  exists_span : ∃ span, row.2 = .scalar entry.scalar span

/-- The statement of a row. -/
def statementOf (row : Key × Node) : Statement :=
  .pair [] row.1 row.2

/-- The pair of a row. -/
def pairOf (row : Key × Node) : Pair :=
  ⟨[], row.1, row.2⟩

/-- The line of an entry is read as a row of that entry, before what follows it is read. -/
theorem Entry.exists_reads_line (entry : Entry) {found : List Statement} (h : Reads rest found) :
    ∃ row, entry.IsRow row ∧ Reads (entry.line ++ rest) (statementOf row :: found) := by
  obtain ⟨keySpan, span, hstatement⟩ := entry.exists_statement?_eq rest
  refine ⟨(⟨entry.key.toList, keySpan⟩, .scalar entry.scalar span), ⟨rfl, span, rfl⟩,
    h.statement ?_ ?_ hstatement ?_⟩
  · rw [entry.line_append]
    simp
  · intro c hc hmem
    rw [entry.line_append] at hc
    refine ne_of_isBareKey (entry.isBareName.head? _ c hc) ?_
    simp only [List.mem_cons, List.not_mem_nil, or_false] at hmem ⊢
    tauto
  · rw [entry.line_append]
    simp
    omega

/-- Lines are read as the rows that they give. -/
theorem exists_reads_lines (entries : List Entry) {found : List Statement}
    (h : Reads rest found) :
    ∃ rows, List.Forall₂ Entry.IsRow entries rows ∧
      Reads (entries.flatMap Entry.line ++ rest) (rows.map statementOf ++ found) := by
  induction entries with
  | nil => exact ⟨[], .nil, h⟩
  | cons entry entries ih =>
    obtain ⟨rows, hgives, hreads⟩ := ih
    obtain ⟨row, hrow, hline⟩ := entry.exists_reads_line hreads
    refine ⟨row :: rows, .cons hrow hgives, ?_⟩
    rw [List.flatMap_cons, List.append_assoc]
    exact hline

/-- A header is read as one. -/
theorem exists_reads_header {name : List Char} (hname : IsBareName name)
    {found : List Statement} (h : Reads rest found) :
    ∃ keySpan span, Reads ('[' :: (name ++ ']' :: '\n' :: rest))
      (.header [] ⟨name, keySpan⟩ false span :: found) := by
  obtain ⟨keySpan, hpath⟩ := path?_append hname
    (stops_cons.mpr rfl : Stops isBareKey (']' :: '\n' :: rest)) (by rintro others ⟨⟩)
  refine ⟨keySpan, .upTo ('[' :: (name ++ ']' :: '\n' :: rest)) ('\n' :: rest),
    h.statement (List.cons_ne_nil _ _) (by simp) ?_ ?_⟩
  · unfold statement?
    split
    · rename_i heq
      have hhead := hname.head? (']' :: '\n' :: rest)
      rw [(List.cons.inj heq).2] at hhead
      exact absurd (hhead '[' rfl) (by decide)
    · rename_i heq
      obtain rfl := (List.cons.inj heq).2
      rw [header?, hpath]
      rfl
    · rename_i hnot
      exact absurd rfl (hnot _)
  · simp
    omega

/-! ## Tables -/

/-- Rows in front of statements belong to the part before the first header. -/
theorem sections_rows (rows : List (Key × Node)) (found : List Statement) :
    sections (rows.map statementOf ++ found) =
      (rows.map pairOf ++ (sections found).1, (sections found).2) := by
  induction rows with
  | nil => rfl
  | cons row rows ih =>
    rw [List.map_cons, List.cons_append, statementOf, sections, ih]
    rfl

/-- Nothing is found under a name exactly where no key has it. -/
theorem find?_eq_none_iff {table : Table} {name : List Char} :
    Table.find? table name = none ↔ name ∉ table.map (·.1.name) := by
  simp only [Table.find?, Option.map_eq_none_iff, List.find?_eq_none, List.mem_map]
  constructor
  · rintro h ⟨row, hrow, rfl⟩
    exact h row hrow (beq_self_eq_true _)
  · intro h row hrow hsame
    exact h ⟨row, hrow, by simpa using hsame⟩

/-- Rows with different keys are added one after the other. -/
theorem addPairs_rows {rows : List (Key × Node)} {table : Table}
    (hnodup : ((table ++ rows).map (·.1.name)).Nodup) :
    addPairs (rows.map pairOf) table = some (table ++ rows) := by
  induction rows generalizing table with
  | nil =>
    rw [List.append_nil]
    rfl
  | cons row rows ih =>
    have hnone : Table.find? table row.1.name = none := by
      rw [find?_eq_none_iff]
      intro hmem
      rw [List.map_append, List.map_cons, List.nodup_append] at hnodup
      exact hnodup.2.2 _ hmem _ List.mem_cons_self rfl
    have hinsert : Table.insert [] row.1 row.2 .header table = some (table ++ [row]) := by
      simp [Table.insert, Table.change, hnone]
    have happend : table ++ row :: rows = (table ++ [row]) ++ rows := by simp
    rw [List.map_cons, addPairs, List.foldlM_cons]
    change (Table.insert [] row.1 row.2 .header table).bind _ = _
    rw [hinsert, happend]
    rw [happend] at hnodup
    exact ih hnodup

/-- Rows with different keys make up a table. -/
theorem addPairs_eq_rows {rows : List (Key × Node)} (hnodup : (rows.map (·.1.name)).Nodup) :
    addPairs (rows.map pairOf) [] = some rows := by
  have happended : ((([] : Table) ++ rows).map (·.1.name)).Nodup := hnodup
  exact addPairs_rows happended

/-- A section of rows below a new name is added as the table of these rows. -/
theorem addSection_eq_append {table rows : Table} (key : Key)
    (hnew : key.name ∉ table.map (·.1.name)) (hnodup : (rows.map (·.1.name)).Nodup)
    (span : Span) :
    ∃ extent, addSection table ⟨[], key, false, span, rows.map pairOf⟩ =
      some (table ++ [(key, .table .header (some extent) rows)]) := by
  let body : Section := ⟨[], key, false, span, rows.map pairOf⟩
  have htable : body.table [] = some (.table .header (some body.extent) rows) := by
    rw [Section.table, addPairs_eq_rows hnodup]
    rfl
  refine ⟨body.extent, ?_⟩
  change body.place table = _
  rw [Section.place, find?_eq_none_iff.mpr hnew, htable]
  rfl

theorem names_eq {entries : List Entry} {rows : List (Key × Node)}
    (h : List.Forall₂ Entry.IsRow entries rows) :
    rows.map (·.1.name) = entries.map (·.key.toList) := by
  induction h with
  | nil => rfl
  | cons hrow _ ih => rw [List.map_cons, List.map_cons, hrow.name, ih]

/-! ## Documents -/

/-- A document that starts with a bare name has no mark before it. -/
theorem withoutMark_of_head? {text : List Char}
    (hhead : ∀ c ∈ text.head?, isBareKey c = true) : withoutMark text = text := by
  cases text with
  | nil => rfl
  | cons c rest =>
    refine if_neg ?_
    rintro rfl
    exact absurd (hhead byteOrderMark rfl) (by decide)

/-- A document of lines, the last of them below a header, is read as the rows that the lines
give. -/
theorem exists_document?_eq {entries inner : List Entry} (hne : entries ≠ []) {name : List Char}
    (hname : IsBareName name)
    (hkeys : (entries.map (·.key.toList) ++ [name]).Nodup)
    (hinner : (inner.map (·.key.toList)).Nodup) :
    ∃ rows innerRows keySpan span,
      document? (entries.flatMap Entry.line ++
          '\n' :: '[' :: (name ++ ']' :: '\n' :: inner.flatMap Entry.line)) =
        some (rows ++ [(⟨name, keySpan⟩, .table .header span innerRows)]) ∧
      List.Forall₂ Entry.IsRow entries rows ∧ List.Forall₂ Entry.IsRow inner innerRows := by
  obtain ⟨innerRows, hinnerRows, hinnerReads⟩ := exists_reads_lines inner reads_nil
  rw [List.append_nil, List.append_nil] at hinnerReads
  obtain ⟨keySpan, span, hheader⟩ := exists_reads_header hname hinnerReads
  obtain ⟨rows, hrows, hreads⟩ := exists_reads_lines entries hheader.emptyLine
  generalize htext : entries.flatMap Entry.line ++
    '\n' :: '[' :: (name ++ ']' :: '\n' :: inner.flatMap Entry.line) = text at hreads ⊢
  have hhead : ∀ c ∈ text.head?, isBareKey c = true := by
    obtain ⟨entry, others, rfl⟩ := List.exists_cons_of_ne_nil hne
    rw [List.flatMap_cons, List.append_assoc, entry.line_append] at htext
    rw [← htext]
    exact entry.isBareName.head? _
  have hstatements : statements? (withoutMark text) = some
      (rows.map statementOf ++
        .header [] ⟨name, keySpan⟩ false span :: innerRows.map statementOf) := by
    rw [withoutMark_of_head? hhead, statements?]
    exact hreads _ (Nat.lt_succ_self _)
  have hsections : sections (rows.map statementOf ++
      .header [] ⟨name, keySpan⟩ false span :: innerRows.map statementOf) =
        (rows.map pairOf, [⟨[], ⟨name, keySpan⟩, false, span, innerRows.map pairOf⟩]) := by
    have hinnerSections := sections_rows innerRows []
    rw [List.append_nil] at hinnerSections
    rw [sections_rows, sections, hinnerSections]
    simp [sections]
  rw [← names_eq hrows] at hkeys
  rw [← names_eq hinnerRows] at hinner
  obtain ⟨hrowsNodup, -, hapart⟩ := List.nodup_append.mp hkeys
  have hnew : name ∉ rows.map (·.1.name) := fun hmem =>
    hapart name hmem name List.mem_cons_self rfl
  obtain ⟨extent, hsection⟩ := addSection_eq_append ⟨name, keySpan⟩ hnew hinner span
  refine ⟨rows, innerRows, keySpan, some extent, ?_, hrows, hinnerRows⟩
  rw [document?, hstatements]
  simp only [hsections, addPairs_eq_rows hrowsNodup, Option.bind_some, List.foldlM_cons,
    List.foldlM_nil, hsection]
  rfl

end Toml

end ResourceHealth
