import MysqldExporterNdb.Sql.Rows

/-!
# Queries and what the server answers

A scrape only ever sees the database through `db.QueryContext(ctx, query)` and the cursor it
returns. So the database is modelled as its answer to each query text (`Db`): either the error
`QueryContext` returns, or the rows the cursor will yield and how the stream ends after them.

**Every outcome is allowed.** A `Db` may fail any query, end any stream with a driver error
(a lost connection, a cancelled context, a server error mid-result), and return any rows. Facts
the server does guarantee are stated as hypotheses where a theorem needs them; the one used
here is the *shape* of a result: a row has one column per item of the query's select list
(`Db.Shaped`), where `selectWidth` counts the items of the select list in the query's text.
-/

namespace Sql

/-- An error a `Scrape` returns. -/
inductive GoError
  /-- An error of the server or the driver: `QueryContext`'s, or one that ended a stream. -/
  | server (msg : String)
  /-- An error of `Rows.Scan`. -/
  | scan (e : ScanError)
  /-- The `*strconv.NumError` of a `ParseFloat` the collector calls itself. -/
  | parseFloat (s : GoString) (e : Strconv.NumError)

/-- How a result stream goes on after its last row. `Next` returns false either way; only
`Rows.Err` could tell the two apart. -/
inductive Ending
  /-- `io.EOF`: the result was read to its end. -/
  | eof
  /-- A driver error stopped the stream. -/
  | fail (e : GoError)

/-- The server's answer to one `QueryContext`. -/
inductive Response
  /-- `QueryContext` returns this error and no cursor. -/
  | error (e : GoError)
  /-- A cursor that yields these rows, then ends so. -/
  | rows (rs : List Row) (ending : Ending)

/-- The database, as a scrape sees it: an answer to each query text. -/
abbrev Db := String → Response

/-! ### The select list of a query -/

/-- Whether `c` separates words in SQL text. -/
def isBlank (c : Char) : Bool := c = ' ' || c = '\n' || c = '\t' || c = '\r'

/-- `c` in upper case, for the ASCII letters. -/
def upper (c : Char) : Char := if 'a' ≤ c ∧ c ≤ 'z' then Char.ofNat (c.toNat - 32) else c

/-- Whether `s` starts with the keyword `kw` (upper case) followed by a blank. -/
def startsWithKeyword (kw : List Char) (s : List Char) : Bool :=
  (s.take kw.length).map upper = kw && (s.drop kw.length).head?.all isBlank

/-- Count the items of a select list: `items` so far, at parenthesis depth `depth`, inside a
quoted literal when `quote` is its quote character, after the character `prev`. The list ends
at the keyword `FROM` standing on its own at depth zero; a comma at depth zero outside quotes
starts a new item. -/
def selectItems (items depth : Nat) (quote : Option Char) (prev : Char) : List Char → Nat
  | [] => items
  | c :: s =>
    match quote with
    | some q => selectItems items depth (if c = q then none else quote) c s
    | none =>
      if depth = 0 && isBlank prev && startsWithKeyword "FROM".toList (c :: s) then items
      else if c = '\'' || c = '"' then selectItems items depth (some c) c s
      else if c = '(' then selectItems items (depth + 1) none c s
      else if c = ')' then selectItems items (depth - 1) none c s
      else if c = ',' && depth = 0 then selectItems (items + 1) depth none c s
      else selectItems items depth none c s

/-- The text after the first `SELECT` keyword. -/
def afterSelect : List Char → List Char
  | [] => []
  | c :: s => if startsWithKeyword "SELECT".toList (c :: s) then s.drop 5 else afterSelect s

/-- The number of columns a query returns: the items of its select list. -/
def selectWidth (q : String) : Nat :=
  selectItems 1 0 none ' ' (afterSelect q.toList)

/-- The server keeps to the shape of each query: every row it returns has one value per item
of the query's select list. -/
def Db.Shaped (db : Db) : Prop :=
  ∀ q rs en, db q = .rows rs en → ∀ r ∈ rs, r.length = selectWidth q

example : selectWidth "SELECT a, IFNULL(b,'x, y') AS b, count(*) FROM t GROUP BY a, b" = 3 := by
  decide

end Sql
