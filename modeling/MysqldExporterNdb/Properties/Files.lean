import MysqldExporterNdb.Properties.Rows

/-!
# Query shapes, and `ScrapeFiles`

A server answers a query with rows of as many columns as the query's select list has items
(`Db.Shaped`). `ScrapeFiles`' select list lacks the comma between `FILE_NAME` and
`FREE_EXTENTS`, so MySQL reads the second as an alias of the first, and the query has nine columns
(`selectWidth_infoSchemaFilesQuery`) for the ten destinations of its `Scan`.

So no row of `information_schema.files` ever scans: as soon as the table has a row with a
non-empty `FILE_NAME`, `ScrapeFiles` returns `sql: expected 9 destination arguments in Scan, not
10` and has sent nothing, whatever the row holds (`scrapeFiles_of_shaped`). The collector sends a
sample only from a server that breaks the query's shape.
-/
open Sql Prometheus Scrape Emit

namespace Collector

set_option maxRecDepth 8000 in
theorem selectWidth_infoSchemaFilesQuery : selectWidth infoSchemaFilesQuery = 9 := by
  decide

/-- **`ScrapeFiles` never sends a sample from a server that keeps to its query's shape**: it
returns `nil` on an empty table, and otherwise `Scan`'s arity error at the first row. -/
theorem scrapeFiles_of_shaped {k : PackageConsts} {db : Db} (hdb : db.Shaped) {rs : List Row}
    {en : Ending} (hq : db infoSchemaFilesQuery = .rows rs en) :
    (scrapeFiles k).scrape db =
      ⟨[], if rs = [] then .ok () else .error (.error (.scan (.arity 9 10)))⟩ := by
  rw [Scraper.scrape_eq]
  cases rs with
  | nil => simp [scrapeFiles, infoSchemaFilesLoop, runLoops, hq, Except.map]
  | cons r rs =>
    have hs : scan (infoSchemaFilesLoop k).dests r = .error (.arity 9 10) := by
      have hr : r.length = 9 :=
        (hdb _ _ _ hq r (List.mem_cons_self r rs)).trans selectWidth_infoSchemaFilesQuery
      rw [scan_of_length_ne (by rw [hr]; exact (by decide : 9 ≠ 10)), hr]
      rfl
    have hq' : db (infoSchemaFilesLoop k).query = .rows (r :: rs) en := hq
    simp [scrapeFiles, runLoops, hq', drain_cons, Loop.iterate_eq, hs, stop, Except.map]

/-- A file of `information_schema.files`, in the query's nine columns. -/
def filesRow : Row :=
  textRow ["ts1", "lg1", "ndbcluster", "DATAFILE", "data1.dat", "64", "32768", "1048576",
    "COMMENT"]

/-- A server on which `information_schema.files` has that one file, and every other table is
empty. -/
def filesDb : Db := fun q ↦ if q = infoSchemaFilesQuery then .rows [filesRow] .eof else .rows [] .eof

theorem filesDb_shaped : filesDb.Shaped := by
  intro q rs en h
  unfold filesDb at h
  split at h
  · cases h
    subst q
    intro r hr
    rw [List.mem_singleton.1 hr, selectWidth_infoSchemaFilesQuery]
    rfl
  · cases h
    intro r hr
    cases hr

theorem scrapeFiles_of_shaped_filesDb :
    filesDb.Shaped ∧ (scrapeFiles .sample).scrape filesDb =
      ⟨[], .error (.error (.scan (.arity 9 10)))⟩ := by
  have hq : filesDb infoSchemaFilesQuery = .rows [filesRow] .eof := if_pos rfl
  refine ⟨filesDb_shaped, ?_⟩
  rw [scrapeFiles_of_shaped filesDb_shaped hq]
  simp

end Collector
