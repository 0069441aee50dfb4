import MysqldExporterNdb.Collector.Registry

/-!
# What a scrape sends, row by row

A loop's variables are declared once, before the loop, and reused by every row. What a row sends
could therefore depend on the rows before it; it does not, because every variable a row's
statements read was set by that row (`Loop.Fresh`). From that one step fact, `drain_fresh` and
`runLoops_fresh` show by induction what a whole scrape sends: the concatenation, in query order
and row order, of what each processed row's iteration sends **from the collector's initial
variables** (`processedRows`). A row is processed when the rows before it were processed to their
end; the first row that stops is processed too, and what it sent stays sent.

What a stopping row has sent is read off its body (`beforeLastParse`): the samples of a first run
of the statements before its last parse. A body without a parse sends nothing when it stops, so
its rows send whole groups or nothing; `ScrapeNdbinfoThreadstat`'s body parses three counters,
each just before its send, and a row whose second or third counter does not parse has sent the
start of its group (`beforeLastParse_of_mem_collectors`).
-/

open Sql Prometheus Scrape Emit Collector

namespace Scrape

variable {σ : Type}

/-! ### One row -/

/-- `Loop.iterate`, unfolded: `Scan`, then the statements on the variables it set. -/
theorem Loop.iterate_eq (l : Loop σ) (v : σ) (r : Row) :
    l.iterate v r = match scan l.dests r with
      | .error e => stop (.error (.scan e))
      | .ok t => runAll (l.labelValues (l.assign v t)) (l.assign v t) l.body >>=
          fun _ ↦ pure (l.assign v t) := by
  unfold Loop.iterate
  cases scan l.dests r <;> rfl

/-- **One row sends the same from any variables**, and stops or not alike, in a fresh loop. -/
theorem Loop.iterate_fresh {l : Loop σ} (hf : l.Fresh) (v v' : σ) (r : Row) :
    (l.iterate v r).sent = (l.iterate v' r).sent ∧
      (l.iterate v r).result.isOk = (l.iterate v' r).result.isOk := by
  rw [l.iterate_eq, l.iterate_eq]
  cases scan l.dests r with
  | error e => exact ⟨rfl, rfl⟩
  | ok t =>
    obtain ⟨hl, hb⟩ := hf v v' t
    simp only [Loop.labelValues, hl, hb, sent_bind_pure, result_bind_pure, true_and]
    cases (runAll _ (l.assign v' t) l.body).result <;> rfl

/-! ### The rows of one loop -/

/-- The rows a loop processes from variables `v₀`: every row up to the first whose iteration
stops, that one included. -/
def Loop.processed (l : Loop σ) (v₀ : σ) : List Row → List Row
  | [] => []
  | r :: rs => r :: if (l.iterate v₀ r).result.isOk then l.processed v₀ rs else []

/-- Whether every row is processed to its end. -/
def Loop.completes (l : Loop σ) (v₀ : σ) (rs : List Row) : Bool :=
  rs.all fun r ↦ (l.iterate v₀ r).result.isOk

theorem Loop.processed_prefix (l : Loop σ) (v₀ : σ) : ∀ rs, l.processed v₀ rs <+: rs
  | [] => List.prefix_refl _
  | r :: rs => by
    unfold processed
    refine (List.prefix_cons_inj r).2 ?_
    split
    · exact l.processed_prefix v₀ rs
    · exact List.nil_prefix

/-- **The loop phase, row by row.** A fresh loop sends what its processed rows' iterations send
from the initial variables, and goes on after its rows exactly when each is processed to its
end. -/
theorem drain_fresh {l : Loop σ} (hf : l.Fresh) (v₀ : σ) : ∀ (v : σ) (rs : List Row),
    (drain l v rs).sent = (l.processed v₀ rs).flatMap (fun r ↦ (l.iterate v₀ r).sent) ∧
      (drain l v rs).result.isOk = l.completes v₀ rs
  | v, [] => ⟨rfl, rfl⟩
  | v, r :: rs => by
    obtain ⟨hs, hr⟩ := l.iterate_fresh hf v v₀ r
    rw [drain_cons]
    rcases h : (l.iterate v r).result with s | v'
    · have h₀ : (l.iterate v₀ r).result.isOk = false := by rw [← hr, h]; rfl
      rw [bind_of_error h]
      refine ⟨?_, ?_⟩
      · simp only [Loop.processed, h₀, Bool.false_eq_true, if_false, List.flatMap_cons,
          List.flatMap_nil, List.append_nil, hs]
      · simp only [Loop.completes, List.all_cons, h₀, Bool.false_and]; rfl
    · have h₀ : (l.iterate v₀ r).result.isOk = true := by rw [← hr, h]; rfl
      obtain ⟨ihs, ihr⟩ := drain_fresh hf v₀ v' rs
      simp only [bind_of_ok h, Loop.processed, h₀, if_true, List.flatMap_cons, hs, ihs,
        Loop.completes, List.all_cons, Bool.true_and, true_and]
      exact ihr

/-! ### The rows of a scrape -/

/-- Each loop a scrape runs, with each row it processes, in order: a loop runs when its query
returns rows and the loops before it processed all of theirs to the end. -/
def processedRows (db : Db) (v₀ : σ) : List (Loop σ) → List (Loop σ × Row)
  | [] => []
  | l :: ls =>
    match db l.query with
    | .error _ => []
    | .rows rs _ =>
      (l.processed v₀ rs).map (l, ·) ++ if l.completes v₀ rs then processedRows db v₀ ls else []

/-- Each loop with each row its query returns, whether or not the scrape gets to the row. -/
def resultRows (db : Db) (ls : List (Loop σ)) : List (Loop σ × Row) :=
  ls.flatMap fun l ↦
    match db l.query with
    | .error _ => []
    | .rows rs _ => rs.map (l, ·)

theorem fst_mem_of_mem_resultRows {db : Db} {ls : List (Loop σ)} {p : Loop σ × Row}
    (h : p ∈ resultRows db ls) : p.1 ∈ ls := by
  obtain ⟨l, hl, hp⟩ := List.mem_flatMap.1 h
  split at hp
  · cases hp
  · obtain ⟨r, -, rfl⟩ := List.mem_map.1 hp
    exact hl

/-- The processed rows are among the rows returned, in the same order. -/
theorem processedRows_sublist (db : Db) (v₀ : σ) :
    ∀ ls : List (Loop σ), List.Sublist (processedRows db v₀ ls) (resultRows db ls)
  | [] => .slnil
  | l :: ls => by
    simp only [processedRows, resultRows, List.flatMap_cons]
    cases db l.query with
    | error e => exact List.nil_sublist _
    | rows rs en =>
      refine ((l.processed_prefix v₀ rs).sublist.map _).append ?_
      split
      · exact processedRows_sublist db v₀ ls
      · exact List.nil_sublist _

/-- A loop whose every row goes on processes them all. -/
theorem Loop.processed_of_forall_isOk {l : Loop σ} {v₀ : σ} :
    ∀ {rs : List Row}, (∀ r ∈ rs, (l.iterate v₀ r).result.isOk) →
      l.processed v₀ rs = rs ∧ l.completes v₀ rs = true
  | [], _ => ⟨rfl, rfl⟩
  | r :: rs, h => by
    have hr := h r (List.mem_cons_self r rs)
    obtain ⟨ih, ihc⟩ := processed_of_forall_isOk fun r' h' ↦ h r' (List.mem_cons_of_mem r h')
    simp only [processed, completes, List.all_cons, hr, if_true, Bool.true_and] at ihc ⊢
    exact ⟨by rw [ih], ihc⟩

/-- When every row of every query goes on, every row returned is processed. -/
theorem processedRows_of_complete {db : Db} {v₀ : σ} :
    ∀ {ls : List (Loop σ)}, (∀ l ∈ ls, ∃ rs en, db l.query = .rows rs en ∧
      ∀ r ∈ rs, (l.iterate v₀ r).result.isOk) →
      processedRows db v₀ ls = resultRows db ls
  | [], _ => rfl
  | l :: ls, h => by
    obtain ⟨rs, en, hq, hr⟩ := h l (List.mem_cons_self l ls)
    obtain ⟨hp, hc⟩ := Loop.processed_of_forall_isOk hr
    have ih := processedRows_of_complete fun l' h' ↦ h l' (List.mem_cons_of_mem l h')
    simp only [processedRows, resultRows, List.flatMap_cons, hq, hp, hc, if_true] at ih ⊢
    rw [ih]

/-- What the processed rows send, each from the initial variables `v₀`. -/
def rowGroups (v₀ : σ) (ps : List (Loop σ × Row)) : List Metric :=
  ps.flatMap fun p ↦ (p.1.iterate v₀ p.2).sent

theorem rowGroups_append (v₀ : σ) (ps qs : List (Loop σ × Row)) :
    rowGroups v₀ (ps ++ qs) = rowGroups v₀ ps ++ rowGroups v₀ qs :=
  List.flatMap_append _ _ _

/-- **The query phase, row by row**: fresh loops send the groups of their processed rows. -/
theorem runLoops_fresh {db : Db} (v₀ : σ) :
    ∀ {ls : List (Loop σ)}, (∀ l ∈ ls, l.Fresh) → ∀ v,
      (runLoops db v ls).sent = rowGroups v₀ (processedRows db v₀ ls)
  | [], _, _ => rfl
  | l :: ls, hf, v => by
    have hl := hf l (List.mem_cons_self l ls)
    have hls := fun l' h' ↦ hf l' (List.mem_cons_of_mem l h')
    unfold runLoops processedRows
    cases db l.query with
    | error e => rfl
    | rows rs en =>
      obtain ⟨hs, hr⟩ := drain_fresh hl v₀ v rs
      have hsent : rowGroups v₀ ((l.processed v₀ rs).map (l, ·)) =
          (l.processed v₀ rs).flatMap (fun r ↦ (l.iterate v₀ r).sent) := by
        simp [rowGroups, List.flatMap_map]
      simp only [rowGroups_append, hsent]
      rcases h : (drain l v rs).result with s | v'
      · rw [h] at hr
        simp [bind_of_error h, hs, ← hr, Except.isOk, Except.toBool, rowGroups]
      · rw [h] at hr
        simp [bind_of_ok h, hs, ← hr, Except.isOk, Except.toBool, runLoops_fresh v₀ hls v']

/-- A scrape of fresh loops sends the groups of its processed rows. -/
theorem Scraper.sent_scrape_of_fresh {S : Scraper} (hf : ∀ l ∈ S.loops, l.Fresh) (db : Db) :
    (S.scrape db).sent = rowGroups S.vars (processedRows db S.vars S.loops) := by
  rw [Scraper.scrape_eq]
  exact runLoops_fresh S.vars hf S.vars

/-- **An empty result sends nothing and returns `nil`.** -/
theorem Scraper.scrape_of_empty (S : Scraper) {db : Db}
    (h : ∀ l ∈ S.loops, ∃ en, db l.query = .rows [] en) : S.scrape db = ⟨[], .ok ()⟩ := by
  have key : ∀ (ls : List (Loop S.Vars)), (∀ l ∈ ls, ∃ en, db l.query = .rows [] en) →
      ∀ v, runLoops db v ls = ⟨[], .ok v⟩ := by
    intro ls
    induction ls with
    | nil => intro _ v; rfl
    | cons l ls ih =>
      intro h v
      obtain ⟨en, hq⟩ := h l (List.mem_cons_self l ls)
      simp only [runLoops, hq, drain_nil, pure_bind_eq]
      exact ih (fun l' h' ↦ h l' (List.mem_cons_of_mem l h')) v
  rw [Scraper.scrape_eq, key S.loops h S.vars]; rfl

/-- A scrape whose every row goes on returns `nil`. -/
theorem runLoops_isOk_of_complete {db : Db} {v₀ : σ} :
    ∀ {ls : List (Loop σ)}, (∀ l ∈ ls, l.Fresh) → (∀ l ∈ ls, ∃ rs en, db l.query = .rows rs en ∧
      ∀ r ∈ rs, (l.iterate v₀ r).result.isOk) → ∀ v, (runLoops db v ls).result.isOk
  | [], _, _, _ => rfl
  | l :: ls, hf, h, v => by
    obtain ⟨rs, en, hq, hr⟩ := h l (List.mem_cons_self l ls)
    have hd := (drain_fresh (hf l (List.mem_cons_self l ls)) v₀ v rs).2
    rw [(Loop.processed_of_forall_isOk hr).2] at hd
    rcases hdr : (drain l v rs).result with s | v'
    · rw [hdr] at hd; cases hd
    · simp only [runLoops, hq, bind_of_ok hdr]
      exact runLoops_isOk_of_complete (fun l' h' ↦ hf l' (List.mem_cons_of_mem l h'))
        (fun l' h' ↦ h l' (List.mem_cons_of_mem l h')) v'

/-- **A scrape whose every row goes on** sends the groups of all the rows its queries return,
and returns `nil`. -/
theorem Scraper.scrape_of_complete {S : Scraper} (hf : ∀ l ∈ S.loops, l.Fresh) {db : Db}
    (h : ∀ l ∈ S.loops, ∃ rs en, db l.query = .rows rs en ∧
      ∀ r ∈ rs, (l.iterate S.vars r).result.isOk) :
    S.scrape db = ⟨rowGroups S.vars (resultRows db S.loops), .ok ()⟩ := by
  have hs := @runLoops_fresh S.Vars db S.vars S.loops hf S.vars
  rw [processedRows_of_complete h] at hs
  have hok := runLoops_isOk_of_complete hf h S.vars
  rw [Scraper.scrape_eq, hs]
  rcases hr : (runLoops db S.vars S.loops).result with s | v
  · rw [hr] at hok; cases hok
  · rfl

/-! ### How many samples -/

/-- One sample per statement of a loop, for each row its query returns: the most a scrape of the
loops `ls` can send. -/
def rowStatements (db : Db) : List (Loop σ) → Nat
  | [] => 0
  | l :: ls =>
    (match db l.query with
      | .error _ => 0
      | .rows rs _ => rs.length * l.body.length) + rowStatements db ls

section Count

variable {db : Db} {l : Loop σ} {ls : List (Loop σ)}

theorem rowStatements_cons_rows {rs : List Row} {en : Ending} (h : db l.query = .rows rs en) :
    rowStatements db (l :: ls) = rs.length * l.body.length + rowStatements db ls := by
  rw [rowStatements, h]

theorem Loop.length_sent_iterate_le (l : Loop σ) (v : σ) (r : Row) :
    (l.iterate v r).sent.length ≤ l.body.length := by
  rw [l.iterate_eq]
  split
  · exact Nat.zero_le _
  · rw [sent_bind_pure]; exact length_sent_runAll_le _

/-- A row that goes on has sent one sample per statement, when no statement has a condition of
its own. -/
theorem Loop.length_sent_iterate_of_ok (hg : ∀ st ∈ l.body, st.guarded = false) {v v' : σ}
    {r : Row} (h : (l.iterate v r).result = .ok v') : (l.iterate v r).sent.length = l.body.length := by
  rw [l.iterate_eq] at h ⊢
  rcases hsc : scan l.dests r with e | t <;> simp only [hsc, sent_bind_pure] at h ⊢
  · cases h
  · obtain ⟨⟨⟩, hr, -⟩ := exists_result_of_bind_eq_ok h
    exact length_sent_runAll_of_ok hg hr

theorem length_sent_drain_le (l : Loop σ) :
    ∀ (v : σ) (rs : List Row), (drain l v rs).sent.length ≤ rs.length * l.body.length
  | _, [] => Nat.zero_le _
  | v, r :: rs => by
    have h₁ := length_sent_bind_le (m := l.iterate v r) fun v' ↦ length_sent_drain_le l v' rs
    have h₂ := l.length_sent_iterate_le v r
    rw [drain_cons, List.length_cons, Nat.succ_mul]; omega

theorem length_sent_drain_of_ok (hg : ∀ st ∈ l.body, st.guarded = false) :
    ∀ {v : σ} {rs : List Row} {v' : σ}, (drain l v rs).result = .ok v' →
      (drain l v rs).sent.length = rs.length * l.body.length
  | _, [], _, _ => (Nat.zero_mul _).symm
  | v, r :: rs, v', h => by
    rw [drain_cons] at h ⊢
    obtain ⟨w, hi, hd⟩ := exists_result_of_bind_eq_ok h
    rw [length_sent_bind_of_ok hi, l.length_sent_iterate_of_ok hg hi, length_sent_drain_of_ok hg hd,
      List.length_cons, Nat.succ_mul, Nat.add_comm]

theorem length_sent_runLoops_le (db : Db) :
    ∀ (v : σ) (ls : List (Loop σ)), (runLoops db v ls).sent.length ≤ rowStatements db ls
  | _, [] => Nat.le_refl 0
  | v, l :: ls => by
    rcases hq : db l.query with e | ⟨rs, en⟩
    · simp only [runLoops, hq]; exact Nat.zero_le _
    · have h₁ := length_sent_bind_le (m := drain l v rs) fun v' ↦ length_sent_runLoops_le db v' ls
      have h₂ := length_sent_drain_le l v rs
      simp only [runLoops, hq, rowStatements_cons_rows hq]; omega

theorem length_sent_runLoops_of_ok :
    ∀ {v : σ} {ls : List (Loop σ)} {v' : σ}, (∀ l ∈ ls, ∀ st ∈ l.body, st.guarded = false) →
      (runLoops db v ls).result = .ok v' → (runLoops db v ls).sent.length = rowStatements db ls
  | _, [], _, _, _ => rfl
  | v, l :: ls, v', hg, h => by
    rcases hq : db l.query with e | ⟨rs, en⟩ <;> simp only [runLoops, hq] at h ⊢
    · cases h
    · obtain ⟨w, hd, hr⟩ := exists_result_of_bind_eq_ok h
      rw [length_sent_bind_of_ok hd, length_sent_drain_of_ok (hg l (List.mem_cons_self _ _)) hd,
        length_sent_runLoops_of_ok (fun l' h' ↦ hg l' (List.mem_cons_of_mem _ h')) hr,
        rowStatements_cons_rows hq]

end Count

/-- **A scrape sends at most one sample per statement for each row its queries return**, whatever
the server answers. -/
theorem Scraper.length_sent_scrape_le (S : Scraper) (db : Db) :
    (S.scrape db).sent.length ≤ rowStatements db S.loops := by
  rw [S.scrape_eq]; exact length_sent_runLoops_le db S.vars S.loops

/-- **A scrape that returns `nil` has sent one sample per statement for each row**, when no
statement sends under a condition of its own. -/
theorem Scraper.length_sent_scrape_of_ok {S : Scraper}
    (hg : ∀ l ∈ S.loops, ∀ st ∈ l.body, st.guarded = false) {db : Db}
    (h : (S.scrape db).result = .ok ()) : (S.scrape db).sent.length = rowStatements db S.loops := by
  rw [S.scrape_eq] at h ⊢
  rcases hr : (runLoops db S.vars S.loops).result with s | v
  · rw [hr] at h; cases h
  · exact length_sent_runLoops_of_ok hg hr

/-! ### What a stopping row has sent -/

namespace Loop.WellFormed

variable {k : PackageConsts} {ks : List Bool} {l : Loop σ}

theorem length_labelValues (hw : l.WellFormed k ks) (v : σ) :
    (l.labelValues v).length = ks.length := by
  rw [← hw.kinds v, Loop.labelValues, List.length_map, List.length_map]

/-- With valid constants, every descriptor of a well-formed loop is valid and takes the row's
label values. -/
theorem descs_ok (hw : l.WellFormed k ks) (hk : k.Valid) (v : σ) :
    ∀ st ∈ l.body, st.desc.err = none ∧ st.desc.variableLabels.length = (l.labelValues v).length :=
  fun st hst ↦ ⟨hw.valid hk st hst, by rw [hw.length_labelValues, hw.arity st hst]⟩

/-- **A stopping row has sent the samples of a first run of the statements before its body's
last parse**, when none of those sends under a condition. -/
theorem sent_iterate_of_error (hw : l.WellFormed k ks) (hk : k.Valid)
    (hg : ∀ st ∈ beforeLastParse l.body, st.guarded = false) {v : σ} {r : Row}
    {s : Stop} (h : (l.iterate v r).result = .error s) :
    (l.iterate v r).sent.map Metric.desc <+: (beforeLastParse l.body).map Stmt.desc := by
  rw [l.iterate_eq] at h ⊢
  rcases hsc : scan l.dests r with e | t
  · exact List.nil_prefix
  · simp only [hsc, sent_bind_pure, result_bind_pure] at h ⊢
    rcases hr : (runAll (l.labelValues (l.assign v t)) (l.assign v t) l.body).result with s' | u
    · exact sent_runAll_of_error (hw.descs_ok hk _) hg hr
    · rw [hr] at h; cases h

end Loop.WellFormed

end Scrape

namespace Collector

/-- **Only `ScrapeNdbinfoThreadstat` parses before it sends**: the statements before the last
parse are its loop and exec sends, and no statement at all in every other loop. -/
theorem beforeLastParse_of_mem_collectors {k : PackageConsts} {S : Scraper}
    (hS : S ∈ collectors k) :
    ∀ l ∈ S.loops, (beforeLastParse l.body).map Stmt.desc =
      if S.name = "ndbinfo.threadstat" then
        [ndbinfoThreadstatLoopsDesc k, ndbinfoThreadstatExecDesc k]
      else [] := by
  simp only [collectors, List.mem_cons, List.mem_nil_iff, or_false] at hS
  rcases hS with rfl | rfl | rfl | rfl | rfl | rfl | rfl | rfl | rfl | rfl | rfl | rfl | rfl |
    rfl | rfl | rfl | rfl <;>
  simp [scrapeFiles, infoSchemaFilesLoop, scrapeNdbinfoClusterLocks, ndbinfoClusterLocksLoop,
    scrapeNdbinfoClusterOperations, ndbinfoClusterOperationsLoop,
    scrapeNdbinfoClusterTransactions, ndbinfoClusterTransactionsLoop, scrapeNdbinfoCountersSPJ,
    ndbinfoCountersSPJLoop, scrapeNdbinfoDiskWriteSpeedAggregate,
    ndbinfoDiskWriteSpeedAggregateLoop, scrapeNdbinfoDiskpagebuffers, ndbinfoDiskpagebuffersLoop,
    scrapeNdbinfoFreeMemory, ndbinfoFreeMemoryLoop, ndbinfoFreeMemoryLongSignalLoop,
    scrapeNdbinfoLogspaces, ndbinfoLogspacesLoop, scrapeNdbinfoResources, ndbinfoResourcesLoop,
    ndbinfoResourcesLongSignalLoop, scrapeNdbinfoProcesses, ndbinfoProcessesLoop,
    scrapeNdbinfoPgmanTimeTrack, ndbinfoPgmanTimeTrackLoop, scrapeNdbinfoLogbuffers,
    ndbinfoLogbuffersLoop, scrapeNdbinfoMemoryusage, ndbinfoMemoryusageLoop,
    scrapeNdbinfoTransporters, ndbinfoTransportersLoop, scrapeNdbinfoThreadstat,
    ndbinfoThreadstatLoop, scrapeNdbinfoTcTimeTrack, ndbinfoTcTimeTrackLoop, beforeLastParse,
    Stmt.parses, Stmt.desc]

/-- A kind of statement that, in the registry evaluated once, occurs only in the collector
`name`. -/
theorem name_of_mem_collectors {k : PackageConsts} {p : ∀ {σ : Type}, Stmt σ → Bool}
    {name : String} {S : Scraper} (hS : S ∈ collectors k)
    (h : (collectors k).all (fun S ↦ S.name == name ||
      S.loops.all fun l ↦ l.body.all fun st ↦ !p st) = true) :
    ∀ l ∈ S.loops, ∀ st ∈ l.body, p st = true → S.name = name := by
  intro l hl st hst hp
  have h' := List.all_eq_true.1 h S hS
  simp only [Bool.or_eq_true, beq_iff_eq, List.all_eq_true, Bool.not_eq_true'] at h'
  exact h'.resolve_right fun h' ↦ by rw [h' l hl st hst] at hp; cases hp

/-- Every parse of the package is in `ScrapeNdbinfoThreadstat`. -/
theorem parses_of_mem_collectors {k : PackageConsts} {S : Scraper} (hS : S ∈ collectors k) :
    ∀ l ∈ S.loops, ∀ st ∈ l.body, st.parses = true → S.name = "ndbinfo.threadstat" :=
  name_of_mem_collectors (p := Stmt.parses) hS rfl

/-- Every send under a condition of its own is in `ScrapeFiles`: its free extents, sent only
when not NULL. -/
theorem guarded_of_mem_collectors {k : PackageConsts} {S : Scraper} (hS : S ∈ collectors k) :
    ∀ l ∈ S.loops, ∀ st ∈ l.body, st.guarded = true → S.name = "info_schema.files" :=
  name_of_mem_collectors (p := Stmt.guarded) hS rfl

/-- No statement before a last parse sends under a condition: the one guarded send is in
`ScrapeFiles`, which parses nothing. -/
theorem guarded_eq_false_of_mem_beforeLastParse {k : PackageConsts} {S : Scraper}
    (hS : S ∈ collectors k) :
    ∀ l ∈ S.loops, ∀ st ∈ beforeLastParse l.body, st.guarded = false := by
  intro l hl st hst
  refine Bool.eq_false_iff.2 fun hg ↦ ?_
  have hname :=
    guarded_of_mem_collectors hS l hl st ((beforeLastParse_sublist l.body).subset hst) hg
  have h := beforeLastParse_of_mem_collectors hS l hl
  rw [hname, if_neg (by decide), List.map_eq_nil_iff] at h
  rw [h] at hst
  exact List.not_mem_nil _ hst

/-! ### Every collector -/

/-- **What a scrape sends, row by row.** Each collector sends the groups of its processed rows, in
query order and row order, each computed from the collector's initial variables, so from its row
alone. A row that stops has sent the start of its group: nothing, except in
`ScrapeNdbinfoThreadstat`, whose row may have sent its loop sample, or its loop and exec samples. A scrape of empty results sends
nothing and returns `nil`. -/
theorem scrape_sent_eq_rowGroups {k : PackageConsts} (hk : k.Valid) {S : Scraper}
    (hS : S ∈ collectors k) (db : Db) :
    (S.scrape db).sent = rowGroups S.vars (processedRows db S.vars S.loops) ∧
      (∀ l ∈ S.loops, ∀ r s, (l.iterate S.vars r).result = .error s →
        (l.iterate S.vars r).sent.map Metric.desc <+:
          (if S.name = "ndbinfo.threadstat" then
            [ndbinfoThreadstatLoopsDesc k, ndbinfoThreadstatExecDesc k]
          else [])) ∧
      ((∀ l ∈ S.loops, ∃ en, db l.query = .rows [] en) → S.scrape db = ⟨[], .ok ()⟩) := by
  obtain ⟨ks, hw⟩ := wellFormed_of_mem_collectors hS
  refine ⟨S.sent_scrape_of_fresh (fun l hl ↦ (hw l hl).fresh) db, fun l hl r s h ↦ ?_,
    S.scrape_of_empty⟩
  rw [← beforeLastParse_of_mem_collectors hS l hl]
  exact (hw l hl).sent_iterate_of_error hk (guarded_eq_false_of_mem_beforeLastParse hS l hl) h

/-- A `threadstat` row whose `c_loop` parses and whose `c_exec` does not. -/
def threadstatStallRow : Row :=
  textRow ["1", "0", "main", "1", "x", "0", "0", "0", "0", "0", "0", "0", "0", "0"]

/-- A server whose every query returns that one row. -/
def threadstatStallDb : Db := fun _ ↦ .rows [threadstatStallRow] .eof

theorem scrape_sent_eq_rowGroups_threadstat :
    PackageConsts.sample.Valid ∧ scrapeNdbinfoThreadstat .sample ∈ collectors .sample ∧
      ((scrapeNdbinfoThreadstat .sample).scrape threadstatStallDb).sent =
        rowGroups (scrapeNdbinfoThreadstat .sample).vars
          (processedRows threadstatStallDb (scrapeNdbinfoThreadstat .sample).vars
            (scrapeNdbinfoThreadstat .sample).loops) :=
  have hS : scrapeNdbinfoThreadstat .sample ∈ collectors .sample := by simp [collectors]
  ⟨PackageConsts.sample_valid, hS,
    (scrape_sent_eq_rowGroups PackageConsts.sample_valid hS threadstatStallDb).1⟩

/-- **A row's group can be cut short**: on that row, `ScrapeNdbinfoThreadstat` sends the row's
loop sample, then returns the parse error of `c_exec`. -/
theorem threadstat_sends_partial_group :
    ((scrapeNdbinfoThreadstat .sample).scrape threadstatStallDb).sent.map Metric.desc =
        [ndbinfoThreadstatLoopsDesc .sample] ∧
      ((scrapeNdbinfoThreadstat .sample).scrape threadstatStallDb).result.isOk = false := by
  set_option maxRecDepth 8000 in decide

end Collector
