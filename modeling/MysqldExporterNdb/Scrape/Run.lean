import MysqldExporterNdb.Scrape.Machine

/-!
# What a `Scrape` sends and returns

`Scraper.scrape` reads a `Scrape` method as a function: each loop's query, then its iterations over
the rows (`drain`), the loops in order, stopping at the first error or panic. Cursors and
deferred calls do not appear in it: they change nothing that is sent or returned.

**The machine refines it.** `Scraper.reaches_done` runs `step` from the start to a
returned state, and shows that the state sent exactly `scrape`'s samples and returned exactly
`scrape`'s result, and the machine being deterministic, that state is the only returned state it
reaches (`Scraper.machine_refines_scrape`). So what is proved of `scrape` — what it sends and
returns, in `Properties` — holds of the step-by-step code; that every cursor is closed on every way
out is proved on the machine (`scrape_cursors_closed`).

The proof follows the machine's three phases, one lemma each, each by induction on what the
phase consumes: the rows of a loop (`reaches_drain`), the loops (`reaches_runLoops`), the
deferred calls (`reaches_exit`). A property of every sample one row can send holds of all a
scrape sends (`Scraper.sentAll_scrape`).
-/

open Sql Prometheus

namespace Scrape

open Emit

variable {σ : Type}

/-- `for rows.Next() { ... }` over the rows a cursor yields, from the variables `v`. It ends
when the rows do, whichever way the stream ended. -/
def drain (b : Loop σ) : σ → List Row → Emit σ
  | v, [] => pure v
  | v, r :: rs => b.iterate v r >>= fun v ↦ drain b v rs

/-- The loops of a `Scrape`, in order, from the variables `v`. -/
def runLoops (db : Db) : σ → List (Loop σ) → Emit σ
  | v, [] => pure v
  | v, b :: bs =>
    match db b.query with
    | .error e => stop (.error e)
    | .rows rs _ => drain b v rs >>= fun v ↦ runLoops db v bs

/-- `Scrape(ctx, db, ch)`: the samples it sends on `ch`, and `nil` or the reason it stopped. -/
def Scraper.scrape (S : Scraper) (db : Db) : Emit Unit := do
  let _ ← runLoops db S.vars S.loops
  pure ()

@[simp] theorem drain_nil (b : Loop σ) (v : σ) : drain b v [] = pure v := rfl

theorem drain_cons (b : Loop σ) (v : σ) (r : Row) (rs : List Row) :
    drain b v (r :: rs) = (b.iterate v r >>= fun v ↦ drain b v rs) := rfl

/-- `scrape` sends what its loops send, and returns their result without the variables. -/
theorem Scraper.scrape_eq (S : Scraper) (db : Db) :
    S.scrape db = ⟨(runLoops db S.vars S.loops).sent,
      (runLoops db S.vars S.loops).result.map fun _ ↦ ()⟩ := by
  rcases h : (runLoops db S.vars S.loops).result with s | v
  · simp [Scraper.scrape, bind_of_error h, Except.map]
  · simp [Scraper.scrape, bind_of_ok h, Except.map]

section SentAll

variable {P : Metric → Prop} {db : Db}

theorem sentAll_drain {b : Loop σ} (h : ∀ v r, SentAll P (b.iterate v r)) :
    ∀ v rs, SentAll P (drain b v rs)
  | _, [] => sentAll_pure _
  | v, r :: rs => (h v r).bind fun v ↦ sentAll_drain h v rs

theorem sentAll_runLoops (v : σ) {loops : List (Loop σ)}
    (h : ∀ b ∈ loops, ∀ v r, SentAll P (b.iterate v r)) : SentAll P (runLoops db v loops) := by
  induction loops generalizing v with
  | nil => exact sentAll_pure _
  | cons b bs ih =>
    simp only [runLoops]
    split
    · exact sentAll_stop _
    · exact (sentAll_drain (h b (.head _)) _ _).bind fun v ↦ ih v fun b' hb' ↦ h b' (.tail _ hb')

/-- A property of every sample one row can send, in any loop and from any variables, holds of
every sample the scrape sends. -/
theorem Scraper.sentAll_scrape {S : Scraper}
    (h : ∀ b ∈ S.loops, ∀ v r, SentAll P (b.iterate v r)) : SentAll P (S.scrape db) :=
  (sentAll_runLoops _ h).bind fun _ ↦ sentAll_pure _

end SentAll

/-! ### The machine's phases -/

section Phases

variable {db : Db} {loops : List (Loop σ)}

theorem Reaches.step_head {m m₁ m' : Machine σ} (h : step db loops m = m₁)
    (h' : Reaches db loops m₁ m') : Reaches db loops m m' :=
  Relation.ReflTransGen.head h.symm h'

/-- **The loop phase.** From `rows.Next()` on a fresh cursor, the machine runs the loop to its
end: it sends what `drain` sends, and is then at the next query with the cursor drained and
closed, or returning with `drain`'s error. -/
theorem reaches_drain {i : Nat} {b : Loop σ} (hb : loops[i]? = some b) (cs : List Cursor)
    (en : Ending) (defs : List Nat) :
    ∀ (rs : List Row) (v : σ) (sent : List Metric),
      ∃ m', Reaches db loops ⟨.next i cs.length, v, cs ++ [⟨rs, en, false⟩], defs, sent⟩ m' ∧
        m'.sent = sent ++ (drain b v rs).sent ∧ m'.deferred = defs ∧
        match (drain b v rs).result with
        | .ok v' => m'.pc = .query (i + 1) ∧ m'.vars = v' ∧ m'.cursors = cs ++ [⟨[], en, true⟩]
        | .error s => m'.pc = .exit (.error s) ∧ ∃ c, m'.cursors = cs ++ [c]
  | [], v, sent => by
    refine ⟨_, Reaches.step_head (step_next_nil rfl hb (List.getElem?_concat_length _ _) rfl rfl)
      .refl, by simp, rfl, ?_⟩
    simp [modify_append_length, Cursor.close]
  | r :: rs, v, sent => by
    have hk := List.getElem?_concat_length cs (⟨r :: rs, en, false⟩ : Cursor)
    rcases hit : (b.iterate v r).result with s | v₁
    · refine ⟨_, Reaches.step_head (step_next_error rfl hb hk rfl rfl hit) .refl, ?_, rfl, ?_⟩
      · simp [drain_cons, bind_of_error hit]
      · simp [drain_cons, bind_of_error hit, modify_append_length]
    · obtain ⟨m', hm', hsent, hdefs, hres⟩ := reaches_drain hb cs en defs rs v₁
        (sent ++ (b.iterate v r).sent)
      refine ⟨m', Reaches.step_head (step_next_ok rfl hb hk rfl rfl hit) ?_, ?_, hdefs, ?_⟩
      · simpa only [modify_append_length] using hm'
      · simp [hsent, drain_cons, bind_of_ok hit]
      · simpa only [drain_cons, bind_of_ok hit] using hres

/-- **The query phase.** From the query of loop `i`, with the loops from `i` on being `bs`, the
machine reaches a return with what `runLoops` sends and returns. -/
theorem reaches_runLoops :
    ∀ (bs : List (Loop σ)) (i : Nat), loops.drop i = bs →
      ∀ (v : σ) (cs : List Cursor) (defs : List Nat) (sent : List Metric),
      ∃ m', Reaches db loops ⟨.query i, v, cs, defs, sent⟩ m' ∧
        m'.pc = .exit ((runLoops db v bs).result.map fun _ ↦ ()) ∧
        m'.sent = sent ++ (runLoops db v bs).sent
  | [], i, hbs, v, cs, defs, sent => by
    have hb : loops[i]? = none := by
      have := congrArg List.length hbs
      simp only [List.length_drop, List.length_nil] at this
      rw [List.getElem?_eq_none_iff]; omega
    exact ⟨_, Reaches.step_head (step_query_none rfl hb) .refl, rfl, by simp [runLoops]⟩
  | b :: bs, i, hbs, v, cs, defs, sent => by
    have hb : loops[i]? = some b := by
      rw [← List.head?_drop, hbs]; rfl
    have hbs' : loops.drop (i + 1) = bs := by
      rw [← List.drop_drop, hbs]; rfl
    rcases hq : db b.query with e | ⟨rs, en⟩
    · exact ⟨_, Reaches.step_head (step_query_error rfl hb hq) .refl, by simp [runLoops, hq, stop,
        Except.map], by simp [runLoops, hq, stop]⟩
    obtain ⟨m₁, hm₁, hsent₁, hdefs₁, hres₁⟩ :=
      @reaches_drain σ db loops i b hb cs en (cs.length :: defs) rs v sent
    have hstart :=
      Reaches.step_head (step_query_rows (m := ⟨.query i, v, cs, defs, sent⟩) rfl hb hq) hm₁
    rcases hdr : (drain b v rs).result with s | v'
    · rw [hdr] at hres₁
      refine ⟨m₁, hstart, ?_, ?_⟩
      · simp [runLoops, hq, bind_of_error hdr, hres₁.1, Except.map]
      · simp [runLoops, hq, bind_of_error hdr, hsent₁]
    · rw [hdr] at hres₁
      obtain ⟨hpc₁, hvars₁, hcs₁⟩ := hres₁
      obtain ⟨m', hm', hpc', hsent'⟩ :=
        reaches_runLoops bs (i + 1) hbs' v' (cs ++ [⟨[], en, true⟩]) (cs.length :: defs)
          (sent ++ (drain b v rs).sent)
      have hm₁eq : m₁ = ⟨.query (i + 1), v', cs ++ [⟨[], en, true⟩], cs.length :: defs,
          sent ++ (drain b v rs).sent⟩ := by
        cases m₁; simp_all
      refine ⟨m', hstart.trans (hm₁eq ▸ hm'), ?_, ?_⟩
      · simp [runLoops, hq, bind_of_ok hdr, hpc']
      · simp [runLoops, hq, bind_of_ok hdr, hsent']

/-- **The exit phase.** The deferred closes run, most recent first, and the method returns. -/
theorem reaches_exit (r : Except Stop Unit) (v : σ) (sent : List Metric) :
    ∀ (defs : List Nat) (cs : List Cursor), ∃ cs',
      Reaches db loops ⟨.exit r, v, cs, defs, sent⟩ ⟨.done r, v, cs', [], sent⟩
  | [], cs => ⟨cs, Reaches.step_head (step_exit_nil rfl rfl) .refl⟩
  | k :: ds, cs => by
    obtain ⟨cs', h⟩ := reaches_exit r v sent ds (cs.modify Cursor.close k)
    exact ⟨cs', Reaches.step_head (step_exit_cons rfl rfl) h⟩

end Phases

/-- **`Scrape` returns, and the machine refines `scrape`.** From its start, the step-by-step
`Scrape` reaches a returned state that has sent exactly `scrape`'s samples and returns exactly
`scrape`'s result. -/
theorem Scraper.reaches_done (S : Scraper) (db : Db) :
    ∃ m, S.Reachable db m ∧ m.pc = .done (S.scrape db).result ∧ m.sent = (S.scrape db).sent := by
  obtain ⟨⟨pc₁, v₁, cs₁, defs₁, sent₁⟩, hm₁, hpc₁, hsent₁⟩ :=
    @reaches_runLoops S.Vars db S.loops S.loops 0 rfl S.vars [] [] []
  simp only at hpc₁ hsent₁
  subst hpc₁
  obtain ⟨cs', hdone⟩ := @reaches_exit S.Vars db S.loops _ v₁ sent₁ defs₁ cs₁
  exact ⟨_, hm₁.trans hdone, by rw [Scraper.scrape_eq], by rw [Scraper.scrape_eq, hsent₁]; rfl⟩

/-- A returned state steps to itself, so it is the only state it reaches. -/
theorem Reaches.eq_of_done {db : Db} {loops : List (Loop σ)} {m m' : Machine σ}
    {r : Except Stop Unit} (hpc : m.pc = .done r) (h : Reaches db loops m m') : m' = m := by
  induction h with
  | refl => rfl
  | tail _ hs ih => rw [hs, ih, step_done hpc]

/-- The machine is deterministic, so from every state a `Scrape` passes through it goes on to the
returned state of `reaches_done`. -/
theorem Scraper.reaches_done_of_reachable (S : Scraper) (db : Db) {m : Machine S.Vars}
    (hm : S.Reachable db m) :
    ∃ m', Reaches db S.loops m m' ∧ m'.pc = .done (S.scrape db).result ∧
      m'.sent = (S.scrape db).sent := by
  obtain ⟨m', hm', hpc', hsent'⟩ := S.reaches_done db
  have hdet : Relator.RightUnique fun a b : Machine S.Vars ↦ b = step db S.loops a :=
    fun _ _ _ h₁ h₂ ↦ h₁.trans h₂.symm
  refine ⟨m', (hm.total_of_right_unique hdet hm').elim id fun h ↦ ?_, hpc', hsent'⟩
  rw [Reaches.eq_of_done hpc' h]
  exact .refl

/-- Every returned state a `Scrape` reaches is the one of `reaches_done`. -/
theorem Scraper.done_unique (S : Scraper) (db : Db) {m : Machine S.Vars} {r : Except Stop Unit}
    (hm : S.Reachable db m) (hr : m.pc = .done r) :
    r = (S.scrape db).result ∧ m.sent = (S.scrape db).sent := by
  obtain ⟨m', hmm', hpc', hsent'⟩ := S.reaches_done_of_reachable db hm
  obtain rfl := Reaches.eq_of_done hr hmm'
  exact ⟨Pc.done.inj (hr.symm.trans hpc'), hsent'⟩

/-- **The step-by-step `Scrape` refines `scrape`, and has one outcome.** From its start it reaches
a returned state that has sent `scrape`'s samples and returns `scrape`'s result, and every
returned state it reaches is that one: no order of its steps sends or returns anything else. -/
theorem Scraper.machine_refines_scrape (S : Scraper) (db : Db) :
    (∃ m, S.Reachable db m ∧ m.pc = .done (S.scrape db).result ∧ m.sent = (S.scrape db).sent) ∧
      ∀ m r, S.Reachable db m → m.pc = .done r →
        r = (S.scrape db).result ∧ m.sent = (S.scrape db).sent :=
  ⟨S.reaches_done db, fun _ _ ↦ S.done_unique db⟩

/-- **Every cursor a `Scrape` opens is closed by the time it returns, and no two are open at
once.** The method returns, with `scrape`'s result; on every state it passes through at most one
cursor is open; once returned, none is; and a query is issued only when every cursor before it
has been drained and closed. -/
theorem scrape_cursors_closed (S : Scraper) (db : Db) :
    (∃ m, S.Reachable db m ∧ m.pc = .done (S.scrape db).result) ∧
      ∀ m, S.Reachable db m →
        (∀ j j', m.IsOpen j → m.IsOpen j' → j = j') ∧
        (∀ r, m.pc = .done r → ∀ c ∈ m.cursors, c.closed = true) ∧
        (∀ i, m.pc = .query i → ∀ c ∈ m.cursors, c.closed = true ∧ c.rows = []) := by
  refine ⟨(S.reaches_done db).imp fun _ h ↦ ⟨h.1, h.2.1⟩, fun m hm ↦ ?_⟩
  have h := inv_of_reachable hm
  refine ⟨fun _ _ ↦ eq_of_isOpen h, fun r hr ↦ ?_, fun i hi ↦ ?_⟩
  · rw [Inv, hr] at h; exact h
  · rw [Inv, hi] at h; exact h

end Scrape
