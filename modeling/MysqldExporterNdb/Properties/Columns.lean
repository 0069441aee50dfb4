import MysqldExporterNdb.Properties.Returns

/-!
# What a column's type lets through

A collector reads each column of a row into a `Scan` destination of a fixed Go type. The types
decide two things about every scrape, whatever the server answers.

**Which columns can be NULL.** `Scan` refuses NULL into `*uint64`, `*string` and `*float64`. Only
`ScrapeFiles` scans into `sql.Null*` types, for `TABLESPACE_NAME`, `LOGFILE_GROUP_NAME` and
`FREE_EXTENTS`. So a NULL in any other column of any row a query returns makes the scrape fail
(`scrape_result_ne_ok_of_null`): the collector returns an error, never a zero in its place.

**How many samples.** A scrape sends at most one sample per statement for each row its queries
return (`Scraper.length_sent_scrape_le`). Only `ScrapeFiles` sends under a condition: the free
extents of a row, when they are not NULL. Every other collector that returns `nil` has sent
exactly one sample per statement and row (`length_sent_of_mem_collectors`).
-/
open Sql Prometheus Scrape Emit

namespace Collector

/-! ### NULL columns -/

/-- Only `ScrapeFiles` scans into `sql.Null*` types, for its columns 0, 1 and 5. -/
theorem nullable_of_mem_collectors {k : PackageConsts} {S : Scraper} (hS : S ∈ collectors k) :
    ∀ l ∈ S.loops, ∀ j d, l.dests[j]? = some d → d.nullable = true →
      S.name = "info_schema.files" ∧ j ∈ [0, 1, 5] := by
  have h : (collectors k).all (fun S ↦ S.loops.all fun l ↦
      (List.range l.dests.length).all fun j ↦ l.dests[j]?.all (fun d ↦ !d.nullable) ||
        S.name == "info_schema.files" && [0, 1, 5].contains j) = true := rfl
  intro l hl j d hd hn
  have hj := List.all_eq_true.1 (List.all_eq_true.1 (List.all_eq_true.1 h S hS) l hl) j
    (List.mem_range.2 (List.getElem?_eq_some_iff.1 hd).1)
  simpa [hd, hn] using hj

/-- **A NULL makes the scrape fail**, in every column but the three `ScrapeFiles` scans into
`sql.Null*` types: once a query of a collector returns a row with NULL in any other column, the
scrape does not return `nil`, whatever the other rows and queries. -/
theorem scrape_result_ne_ok_of_null {k : PackageConsts} {S : Scraper} (hS : S ∈ collectors k)
    {db : Db} {l : Loop S.Vars} (hl : l ∈ S.loops) {rs : List Row} {en : Ending}
    (hq : db l.query = .rows rs en) {r : Row} (hr : r ∈ rs) {j : Nat} (hj : r[j]? = some none)
    (hf : S.name = "info_schema.files" → j ∉ [0, 1, 5]) : (S.scrape db).result ≠ .ok () := by
  intro h
  rw [Scraper.scrape_eq] at h
  rcases hrun : (runLoops db S.vars S.loops).result with s | v
  · rw [hrun] at h; cases h
  obtain ⟨rs', en', hq', hscan⟩ := runLoops_result_ok hrun l hl
  obtain ⟨rfl, -⟩ := Response.rows.inj (hq.symm.trans hq')
  obtain ⟨v₀, v₁, hit⟩ := hscan r hr
  obtain ⟨t, ht⟩ := l.scan_of_iterate_ok hit
  obtain ⟨d, hd, hn⟩ := nullable_of_scan ht hj
  obtain ⟨hname, hj'⟩ := nullable_of_mem_collectors hS l hl j d hd hn
  exact hf hname hj'

/-- A server whose every query returns a row of `ndbinfo.processes` with a NULL process name. -/
def nullNameDb : Db :=
  fun _ ↦ .rows [[some (GoString.ofString "NDB"), none, some (GoString.ofString "2")]] .eof

theorem scrape_result_ne_ok_of_null_processes :
    ((scrapeNdbinfoProcesses .sample).scrape nullNameDb).result ≠ .ok () :=
  scrape_result_ne_ok_of_null (k := .sample) (by simp [collectors]) (List.mem_singleton_self _)
    rfl (List.mem_singleton_self _) (j := 1) rfl (by decide)

/-! ### How many samples -/

/-- **A scrape sends at most one sample per statement for each row its queries return, and one
that returns `nil` has sent exactly that many**, but in `ScrapeFiles`, which skips the free
extents of a row where they are NULL. -/
theorem length_sent_of_mem_collectors {k : PackageConsts} {S : Scraper} (hS : S ∈ collectors k)
    (db : Db) :
    (S.scrape db).sent.length ≤ rowStatements db S.loops ∧
      ((S.scrape db).result = .ok () → S.name ≠ "info_schema.files" →
        (S.scrape db).sent.length = rowStatements db S.loops) :=
  ⟨S.length_sent_scrape_le db, fun h hn ↦ Scraper.length_sent_scrape_of_ok
    (fun l hl st hst ↦ Bool.eq_false_iff.2 fun hg ↦ hn (guarded_of_mem_collectors hS l hl st hst hg))
    h⟩

theorem length_sent_of_mem_collectors_processes :
    ((scrapeNdbinfoProcesses .sample).scrape processesDb).result = .ok () ∧
      rowStatements processesDb (scrapeNdbinfoProcesses .sample).loops = 1 ∧
      ((scrapeNdbinfoProcesses .sample).scrape processesDb).sent.length ≤
          rowStatements processesDb (scrapeNdbinfoProcesses .sample).loops ∧
        (((scrapeNdbinfoProcesses .sample).scrape processesDb).result = .ok () →
          (scrapeNdbinfoProcesses .sample).name ≠ "info_schema.files" →
          ((scrapeNdbinfoProcesses .sample).scrape processesDb).sent.length =
            rowStatements processesDb (scrapeNdbinfoProcesses .sample).loops) :=
  ⟨rfl, rfl, length_sent_of_mem_collectors (k := .sample) (by simp [collectors]) _⟩

end Collector
