import Accounts.Proofs.Cache.Coherence
import Accounts.Proofs.World.Pool

/-!
# A change and look-ups at the same time

One call changes or deletes an account while others look it up.  The history of their requests tells
what becomes of the copy of the account: it is that of the current row, it is about to be taken away,
or it was stored by a look-up that has straddled the change:

    read   …   commit   …   drop   …   store
    by j       by the change           by j
-/

namespace Accounts

open Accounts.Request (Within)
open Cache (key)
open Calendar

variable {start w : World} {id : Uuid} {s s' : Scene} {r : Request} {i j : Nat}
  {history : List (Nat × Exchange)}

/-! ## Marks of a history -/

/-- What a call does that others depend on: it reads a row, commits a change, takes a copy away or
stores one. -/
inductive Mark where
  | read
  | commit
  | drop
  | store
  deriving DecidableEq

/-- The change itself, not what a look-up does. -/
def Mark.isWrite : Mark → Bool
  | commit | drop => true
  | read | store => false

/-- What a change makes of the row of its account, when it finds one. -/
def Exchange.written? : Exchange → Option (Option Store.Row)
  | ⟨.sql (.revise _ _), reply⟩ =>
    match (show Except Store.Fault (Option Store.Row) from reply) with
    | .ok (some row) => some (some row)
    | _ => none
  | ⟨.sql (.remove _), reply⟩ =>
    match (show Except Store.Fault Bool from reply) with
    | .ok true => some none
    | _ => none
  | _ => none

/-- The mark that an exchange leaves. -/
def Exchange.mark? (x : Exchange) : Option Mark :=
  match x.written?, x.request with
  | some _, _ => some .commit
  | none, .sql (.findById _) => some .read
  | none, .cache (.setFor ..) => some .store
  | none, .cache (.delete _) => some .drop
  | none, _ => none

/-- The marks of a history, each with its call. -/
def marks (history : List (Nat × Exchange)) : List (Nat × Mark) :=
  noted Exchange.mark? history

/-- The marks of changes. -/
def writes (history : List (Nat × Exchange)) : List (Nat × Mark) :=
  (marks history).filter fun m => m.2.isWrite

/-- The row of the account after a history of changes of it. -/
def rowAfter (row : Option Store.Row) (history : List (Nat × Exchange)) : Option Store.Row :=
  history.foldl (fun row x => x.2.written?.getD row) row

/-- A call has read the row before the change was committed, and stored its copy after the copy was
taken away. -/
def Straddles (j : Nat) (history : List (Nat × Exchange)) : Prop :=
  [(j, .read), (0, .commit), (0, .drop), (j, .store)].Sublist (marks history)

theorem marks_append (history more : List (Nat × Exchange)) :
    marks (history ++ more) = marks history ++ marks more := noted_append _ _ _

theorem writes_append (history more : List (Nat × Exchange)) :
    writes (history ++ more) = writes history ++ writes more := by
  unfold writes
  rw [marks_append, List.filter_append]

theorem rowAfter_append (row : Option Store.Row) (history more : List (Nat × Exchange)) :
    rowAfter row (history ++ more) = rowAfter (rowAfter row history) more := List.foldl_append

theorem Straddles.append (h : Straddles j history) (more : List (Nat × Exchange)) :
    Straddles j (history ++ more) := by
  unfold Straddles
  rw [marks_append]
  exact h.trans (List.sublist_append_left _ _)

/-- A row that is written is committed. -/
theorem Exchange.mark?_of_written? {x : Exchange} {row : Option Store.Row}
    (h : x.written? = some row) : x.mark? = some .commit := by
  unfold Exchange.mark?
  rw [h]

/-- A history in which nothing is committed leaves the row as it was. -/
theorem rowAfter_of_no_commit (row : Option Store.Row)
    (h : ∀ x ∈ history, x.2.written? = none) : rowAfter row history = row := by
  induction history generalizing row with
  | nil => rfl
  | cons x history ih =>
    have hx : x.2.written? = none := h x List.mem_cons_self
    unfold rowAfter
    rw [List.foldl_cons, hx]
    exact ih row fun y hy => h y (List.mem_cons_of_mem x hy)

/-- What comes in front of the first write comes in front of all of them. -/
theorem sublist_of_filter {α : Type} {p : α → Bool} {a b : α} {l m : List α}
    (h : m.filter p = b :: l) (hb : b ∉ l) (hab : [a, b].Sublist m) : (a :: b :: l).Sublist m := by
  obtain ⟨front, rest, rfl, ha, hrest⟩ := List.cons_sublist_iff.1 hab
  have hpb : b ∈ rest.filter p := by
    have hb : b ∈ (front ++ rest).filter p := by rw [h]; exact List.mem_cons_self
    exact List.mem_filter.2 ⟨List.singleton_sublist.1 hrest, (List.mem_filter.1 hb).2⟩
  have hwrites : b :: l = rest.filter p := by
    rw [List.filter_append] at h
    rcases hfront : front.filter p with _ | ⟨c, cs⟩
    · rw [hfront] at h
      exact h.symm
    · rw [hfront] at h
      obtain ⟨-, rfl⟩ := List.cons.inj h
      exact absurd (List.mem_append_right _ hpb) hb
  exact (List.singleton_sublist.2 ha).append (hwrites ▸ List.filter_sublist)

/-! ## What stays apart -/

/-- What nobody touches while an account is changed and looked up: the connection, and the rows and
the entries of other accounts. -/
structure Apart (start : World) (id : Uuid) (w : World) : Prop where
  attached : w.attached = start.attached
  detached : start.attached = false → w.keys = []
  fits : w.table.Fits
  rows : ∀ other, other ≠ id → w.table.find? other = start.table.find? other
  entries : ∀ other, other ≠ id → Assoc.get? (key other) w.keys = Assoc.get? (key other) start.keys

/-- A request that at most reads the table and the keys. -/
abbrev Quiet (r : Request) : Prop := r.Within Store.Reads fun c => ∃ name, c = .get name

/-- A command that reads the keys, stores a copy of an account or takes it away. -/
def OnKey (id : Uuid) (c : Cache.Command) : Prop :=
  (∃ name, c = .get name) ∨ (∃ seconds value, c = .setFor (key id) seconds value) ∨
    c = .delete [key id]

/-- A request of a change or a look-up of an account. -/
abbrev Touches (id : Uuid) (r : Request) : Prop :=
  r.Within (fun st => Store.Reads st ∨ Store.Rewrites id st) (OnKey id)

theorem touches_of_quiet (id : Uuid) (r : Request) (hr : Quiet r) : Touches id r :=
  Within.mono (fun _ => .inl) (fun _ => .inl) r hr

theorem OnKey.leaves {c : Cache.Command} (hc : OnKey id c) {other : Uuid} (ho : other ≠ id) :
    c.Leaves (key other) := by
  rcases hc with ⟨name, rfl⟩ | ⟨seconds, value, rfl⟩ | rfl
  · trivial
  · exact World.key_ne ho
  · exact mt List.mem_singleton.1 (World.key_ne ho)

theorem Apart.answer (h : Apart start id w) (hr : Touches id r) :
    Apart start id (w.answer r).2 := by
  have hattached : (w.answer r).2.attached = start.attached :=
    (World.answer_attached_of_within hr w).trans h.attached
  refine ⟨hattached, fun hd => ?_, World.answer_fits r h.fits, fun other ho => ?_, fun other ho => ?_⟩
  · exact (World.answer_detached hr (h.attached.trans hd)).2.trans (h.detached hd)
  · refine Eq.trans ?_ (h.rows other ho)
    refine World.answer_keeps (I := fun t => t.find? other = w.table.find? other) r ?_ rfl
    rintro st new rfl -
    rcases hr with hreads | hrewrites
    · rw [hreads.run_table]
    · have hrest := st.run_keeps_rest w.now new w.table hrewrites
      rw [← Store.Table.find?_remove_of_ne ho, hrest, Store.Table.find?_remove_of_ne ho]
  · have hleaves := Request.leaves_of_within (fun c hc => OnKey.leaves hc ho) r hr
    exact (World.answer_get? hleaves w).trans (h.entries other ho)

/-- The reply tells what a request has made of the row of the account. -/
theorem World.answer_row (hr : Touches id r) (w : World) : (w.answer r).2.table.find? id =
    (Exchange.written? ⟨r, (w.answer r).1⟩).getD (w.table.find? id) := by
  cases r with
  | sql st =>
    cases hfault : w.faults.sql.head?.join with
    | some fault =>
      rw [show w.answer (.sql st) = _ from runStatement_of_fault hfault]
      cases st <;> rfl
    | none =>
      rw [show w.answer (.sql st) = _ from runStatement_of_no_fault hfault]
      cases st with
      | insert draft => exact hr.elim False.elim False.elim
      | findById | findByEmail | probe => rfl
      | revise other d =>
        have hother : other = id := hr.elim False.elim fun h => h
        subst hother
        show (Store.revise w.now other d w.table).2.find? other = (Exchange.written?
          ⟨.sql (.revise other d), (Store.revise w.now other d w.table).1⟩).getD
            (w.table.find? other)
        rcases Store.revise_cases w.now other d w.table with ⟨fault, h⟩ | ⟨-, h⟩ |
          ⟨row, time, hrow, -, -, -, h⟩
        · rw [h]
          rfl
        · rw [h]
          rfl
        · rw [h]
          have hid := (row.revised_id d time).trans (Store.Table.id_of_find? hrow)
          exact (Store.Table.find?_replace_self hid).trans (by rw [hrow]; rfl)
      | remove other =>
        have hother : other = id := hr.elim False.elim fun h => h
        subst hother
        show (w.table.remove other).find? other = (Exchange.written?
          ⟨.sql (.remove other), .ok (w.table.find? other).isSome⟩).getD (w.table.find? other)
        rw [Store.Table.find?_remove_self]
        cases w.table.find? other <;> rfl
  | cache c =>
    rw [World.answer_table w fun st hst => by cases hst]
    cases c <;> rfl
  | connection b => exact hr.elim
  | clock | salt | log => rfl

/-- A change of an account by the first call, and look-ups of it by the others: the row is what the
history makes of it, and its copy is that of the current row, is about to be taken away, or was stored
by a call that has straddled the change. -/
structure Overlap (start : World) (id : Uuid) (s : Scene) : Prop where
  apart : Apart start id s.world
  row : s.world.table.find? id = rowAfter (start.table.find? id) s.history
  stage : writes s.history = [] ∨ writes s.history = [(0, .commit)] ∨
    writes s.history = [(0, .commit), (0, .drop)]
  entry : ∀ e, Assoc.get? (key id) s.world.keys = some e → start.now < e.expires →
    (∃ row, s.world.table.find? id = some row ∧ Cache.decode e.value = some row.account) ∨
      writes s.history = [(0, .commit)] ∨ ∃ j, Straddles j s.history

namespace Overlap

/-- What the change has written so far. -/
def Wrote (l : List (Nat × Mark)) (s : Scene) : Prop := writes s.history = l

/-- A call has read a row, which is still the current one or was so until the change was committed. -/
structure Holds (start : World) (id : Uuid) (j : Nat) (row : Store.Row)
    (history : List (Nat × Exchange)) : Prop where
  owner : row.profile.id = id
  fits : Store.fitsColumn row.profile.postcode = true
  read : (j, .read) ∈ marks history
  current : rowAfter (start.table.find? id) history = some row ∨
    [(j, .read), (0, .commit)].Sublist (marks history)

/-! ## Waiting -/

/-- Only the first call writes. -/
theorem call_of_write (h : Overlap start id s) {m : Nat × Mark} (hm : m ∈ writes s.history) :
    m.1 = 0 := by
  rcases h.stage with hstage | hstage | hstage <;> rw [hstage] at hm
  · cases hm
  · rw [List.mem_singleton.1 hm]
  · rcases List.mem_cons.1 hm with rfl | hm
    · rfl
    · rw [List.mem_singleton.1 hm]

theorem mem_writes_of_written? {x : Nat × Exchange} {row : Option Store.Row} (hx : x ∈ history)
    (h : x.2.written? = some row) : (x.1, .commit) ∈ writes history := by
  exact List.mem_filter.2 ⟨mem_noted.2 ⟨x, hx, Exchange.mark?_of_written? h, rfl⟩, rfl⟩

theorem Wrote.awaits {l : List (Nat × Mark)} (hs : s.Awaits (Overlap start id) 0 s')
    (h : Wrote l s) : Wrote l s' := by
  obtain ⟨hinv, more, hgrown, hother⟩ := hs
  have hnone : writes more = [] := by
    refine List.eq_nil_iff_forall_not_mem.2 fun m hm => ?_
    obtain ⟨x, hx, -, hcall⟩ := mem_noted.1 (List.mem_filter.1 hm).1
    -- Whatever the others did meanwhile, a write among it would be one of the first call.
    refine hother x hx (hcall.trans (hinv.call_of_write ?_))
    rw [hgrown, writes_append]
    exact List.mem_append_right _ hm
  unfold Wrote
  rw [hgrown, writes_append, hnone, List.append_nil]
  exact h

/-- A call goes on holding its row when the first call commits a change. -/
theorem Holds.append {row : Store.Row} (h : Holds start id j row history)
    {more : List (Nat × Exchange)}
    (hfirst : ∀ x ∈ more, ∀ row, x.2.written? = some row → x.1 = 0) :
    Holds start id j row (history ++ more) := by
  refine ⟨h.owner, h.fits, ?_, ?_⟩
  · rw [marks_append]
    exact List.mem_append_left _ h.read
  -- Without a commit the row stays the same; a commit comes after the read.
  by_cases hcommit : ∀ x ∈ more, x.2.written? = none
  · rw [rowAfter_append, rowAfter_of_no_commit _ hcommit, marks_append]
    exact h.current.imp_right fun hsub => hsub.trans (List.sublist_append_left _ _)
  · obtain ⟨x, hx, hsome⟩ : ∃ x ∈ more, x.2.written? ≠ none := by simpa using hcommit
    obtain ⟨written, hwritten⟩ := Option.ne_none_iff_exists'.1 hsome
    have hmark : (0, Mark.commit) ∈ marks more := by
      rw [← hfirst x hx written hwritten]
      exact (List.mem_filter.1 (mem_writes_of_written? hx hwritten)).1
    rw [marks_append]
    exact .inr ((List.singleton_sublist.2 h.read).append (List.singleton_sublist.2 hmark))

theorem Holds.awaits {row : Store.Row} (hs : s.Awaits (Overlap start id) i s')
    (h : Holds start id j row s.history) : Holds start id j row s'.history := by
  obtain ⟨hinv, more, hgrown, -⟩ := hs
  rw [hgrown]
  refine h.append fun x hx row hwritten => hinv.call_of_write (m := (x.1, .commit)) ?_
  rw [hgrown, writes_append]
  exact List.mem_append_right _ (mem_writes_of_written? hx hwritten)

/-! ## Requests -/

theorem quiet_exchange {r : Request} (hr : Quiet r) (reply : r.Reply) :
    Exchange.written? ⟨r, reply⟩ = none ∧
      ∀ m, Exchange.mark? ⟨r, reply⟩ = some m → m.isWrite = false := by
  cases r with
  | sql st =>
    cases st with
    | insert | revise | remove => exact hr.elim
    | findById id =>
      refine ⟨rfl, fun m hm => ?_⟩
      obtain rfl : Mark.read = m := Option.some.inj hm
      rfl
    | findByEmail | probe => exact ⟨rfl, fun m hm => nomatch hm⟩
  | cache c =>
    obtain ⟨name, rfl⟩ := hr
    exact ⟨rfl, fun m hm => nomatch hm⟩
  | connection b => exact hr.elim
  | clock | salt | log => exact ⟨rfl, fun m hm => nomatch hm⟩

theorem marks_serve (s : Scene) (t : Turn) (r : Request) :
    marks (s.serve t r).2.history = marks s.history ++
      (Exchange.mark? ⟨r, (s.serve t r).1⟩).toList.map (t.call, ·) := Scene.noted_serve _ s t r

theorem writes_serve (s : Scene) (t : Turn) (r : Request) :
    writes (s.serve t r).2.history = writes s.history ++
      ((Exchange.mark? ⟨r, (s.serve t r).1⟩).toList.filter Mark.isWrite).map (t.call, ·) := by
  unfold writes
  rw [marks_serve, List.filter_append, List.filter_map]
  rfl

theorem rowAfter_serve (row : Option Store.Row) (s : Scene) (t : Turn) (r : Request) :
    rowAfter row (s.serve t r).2.history =
      (Exchange.written? ⟨r, (s.serve t r).1⟩).getD (rowAfter row s.history) := by
  rw [Scene.history_serve, rowAfter_append]
  rfl

/-- A request that leaves no mark of a write. -/
theorem writes_serve_of_not_write {t : Turn} {r : Request}
    (h : ∀ m, Exchange.mark? ⟨r, (s.serve t r).1⟩ = some m → m.isWrite = false) :
    writes (s.serve t r).2.history = writes s.history := by
  rw [writes_serve]
  rcases hm : Exchange.mark? ⟨r, (s.serve t r).1⟩ with _ | m
  · exact List.append_nil _
  · rw [Option.toList_some, List.filter_cons, h m hm]
    exact List.append_nil _

/-- What a request does to the marks of writes and to the entry of the account is what matters. -/
theorem serve (h : Overlap start id s) (hr : Touches id r) {t : Turn}
    (hstage : writes (s.serve t r).2.history = [] ∨
      writes (s.serve t r).2.history = [(0, .commit)] ∨
      writes (s.serve t r).2.history = [(0, .commit), (0, .drop)])
    (hentry : ∀ e, Assoc.get? (key id) (s.serve t r).2.world.keys = some e →
      start.now < e.expires →
      (∃ row, (s.serve t r).2.world.table.find? id = some row ∧
        Cache.decode e.value = some row.account) ∨
        writes (s.serve t r).2.history = [(0, .commit)] ∨
        ∃ j, Straddles j (s.serve t r).2.history) :
    Overlap start id (s.serve t r).2 := by
  refine ⟨Apart.answer (w := s.facing t r) ⟨h.apart.attached, h.apart.detached, h.apart.fits,
    h.apart.rows, h.apart.entries⟩ hr, ?_, hstage, hentry⟩
  rw [rowAfter_serve, ← h.row]
  exact World.answer_row hr (s.facing t r)

/-- An entry that was there before a request that writes nothing is what it was. -/
theorem entry_serve (h : Overlap start id s) {t : Turn}
    (htable : (s.serve t r).2.world.table.find? id = s.world.table.find? id)
    (hwrites : writes (s.serve t r).2.history = writes s.history) {e : Cache.Entry}
    (he : Assoc.get? (key id) s.world.keys = some e) (hlive : start.now < e.expires) :
    (∃ row, (s.serve t r).2.world.table.find? id = some row ∧
      Cache.decode e.value = some row.account) ∨
      writes (s.serve t r).2.history = [(0, .commit)] ∨
      ∃ j, Straddles j (s.serve t r).2.history := by
  rw [htable, hwrites]
  rcases h.entry e he hlive with hfresh | hopen | ⟨j, hj⟩
  · exact .inl hfresh
  · exact .inr (.inl hopen)
  · exact .inr (.inr ⟨j, hj.append _⟩)

theorem serve_quiet (h : Overlap start id s) (hr : Quiet r) (t : Turn) :
    Overlap start id (s.serve t r).2 := by
  have htable : (s.serve t r).2.world.table = s.world.table :=
    World.answer_reads (w := s.facing t r) hr
  have hkeys : (s.serve t r).2.world.keys = s.world.keys :=
    World.answer_reads_keys (w := s.facing t r) hr
  have hwrites := writes_serve_of_not_write (quiet_exchange hr (s.serve t r).1).2
  refine h.serve (touches_of_quiet id r hr) (by rw [hwrites]; exact h.stage) fun e he hlive => ?_
  rw [hkeys] at he
  exact h.entry_serve (by rw [htable]) hwrites he hlive

theorem Wrote.serve_quiet {l : List (Nat × Mark)} (h : Wrote l s) (hr : Quiet r) (t : Turn) :
    Wrote l (s.serve t r).2 :=
  (writes_serve_of_not_write (quiet_exchange hr (s.serve t r).1).2).trans h

theorem Holds.serve {row : Store.Row} (h : Holds start id j row s.history) {t : Turn}
    (hwritten : Exchange.written? ⟨r, (s.serve t r).1⟩ = none) :
    Holds start id j row (s.serve t r).2.history := by
  refine h.append fun x hx row hsome => ?_
  rw [List.mem_singleton.1 hx] at hsome
  cases hwritten.symm.trans hsome

/-- A look-up that finds a row holds it. -/
theorem holds_of_read (h : Overlap start id s) {t : Turn} {row : Store.Row}
    (hrow : s.world.table.find? id = some row) :
    Holds start id t.call row (s.serve t (.sql (.findById id))).2.history := by
  refine ⟨Store.Table.id_of_find? hrow, h.apart.fits row (Store.Table.mem_of_find? hrow), ?_,
    .inl ?_⟩
  · rw [marks_serve]
    exact List.mem_append_right _ (List.mem_singleton_self _)
  · rw [rowAfter_serve, ← h.row, hrow]
    rfl

/-- A copy that is stored is that of the current row, is about to be taken away, or has straddled the
change. -/
theorem serve_store (h : Overlap start id s) {t : Turn} {row : Store.Row}
    (hrow : Holds start id t.call row s.history) (seconds : Int) :
    Overlap start id
      (s.serve t (.cache (.setFor (key id) seconds (Cache.encode row.account)))).2 := by
  generalize hr : Request.cache (.setFor (key id) seconds (Cache.encode row.account)) = r
  have hmark : Exchange.mark? ⟨r, (s.serve t r).1⟩ = some .store := by subst hr; rfl
  have htable : (s.serve t r).2.world.table = s.world.table :=
    World.answer_table (s.facing t r) fun st hst => by cases hr.trans hst
  have hwrites : writes (s.serve t r).2.history = writes s.history :=
    writes_serve_of_not_write fun m hm => by rw [← Option.some.inj (hmark.symm.trans hm)]; rfl
  have htouches : Touches id r := by
    subst hr
    exact .inr (.inl ⟨_, _, rfl⟩)
  refine h.serve htouches (by rw [hwrites]; exact h.stage) fun e he hlive => ?_
  have hvalue : Assoc.get? (key id) s.world.keys = some e ∨
      e.value = Cache.encode row.account := by
    subst hr
    rcases World.runCommand_keys (s.facing t _) (.setFor (key id) seconds
      (Cache.encode row.account)) with heq | heq
    · exact .inl ((congrArg (Assoc.get? (key id)) heq).symm.trans he)
    · rcases Cache.setFor_cases s.world.keys t.now (key id) seconds (Cache.encode row.account) with
        hsame | ⟨expires, -, hput⟩
      · exact .inl ((congrArg (Assoc.get? (key id)) (heq.trans hsame)).symm.trans he)
      · have hentry := (congrArg (Assoc.get? (key id)) (heq.trans hput)).symm.trans he
        rw [Cache.Keyspace.put, Assoc.get?_set_self] at hentry
        rw [← Option.some.inj hentry]
        exact .inr rfl
  rcases hvalue with he | hvalue
  · exact h.entry_serve (by rw [htable]) hwrites he hlive
  have hdecode : Cache.decode e.value = some row.account := by
    rw [hvalue]
    exact Cache.decode_encode hrow.fits
  rw [htable, hwrites]
  rcases hrow.current with hcurrent | hpassed
  · exact .inl ⟨row, h.row.trans hcurrent, hdecode⟩
  -- The row was read before the commit, so it matters how far the change has got.
  · rcases h.stage with hnone | hcommit | hdropped
    · have hmem : (0, Mark.commit) ∈ writes s.history :=
        List.mem_filter.2 ⟨hpassed.subset (List.mem_cons_of_mem _ List.mem_cons_self), rfl⟩
      rw [hnone] at hmem
      cases hmem
    · exact .inr (.inl hcommit)
    · refine .inr (.inr ⟨t.call, ?_⟩)
      unfold Straddles
      rw [marks_serve, hmark]
      exact (sublist_of_filter hdropped (by decide) hpassed).append (List.Sublist.refl [_])

/-- A deletion of the copy that meets no fault leaves none. -/
theorem serve_drop (h : Overlap start id s) {t : Turn} (ht : t.call = 0)
    (hfault : (t.faults (.cache (.delete [key id]))).delete.head?.join = none)
    (hcommit : Wrote [(0, .commit)] s) :
    Overlap start id (s.serve t (.cache (.delete [key id]))).2 ∧
      Wrote [(0, .commit), (0, .drop)] (s.serve t (.cache (.delete [key id]))).2 ∧
      Cache.Outcome.isOkOrDetached (α := Unit) (s.serve t (.cache (.delete [key id]))).1 = true := by
  have hwrites : writes (s.serve t (.cache (.delete [key id]))).2.history =
      [(0, .commit), (0, .drop)] := by
    rw [writes_serve, hcommit, ht]
    rfl
  have hentry : Assoc.get? (key id) (s.serve t (.cache (.delete [key id]))).2.world.keys = none :=
    World.runCommand_delete_get? (w := s.facing t _) hfault fun hd =>
      h.apart.detached (h.apart.attached.symm.trans hd)
  have htouches : Touches id (.cache (.delete [key id])) := Or.inr (Or.inr rfl)
  refine ⟨h.serve htouches (.inr (.inr hwrites)) fun e he _ => ?_, hwrites,
    World.runCommand_delete (w := s.facing t _) hfault (key id)⟩
  rw [hentry] at he
  cases he

/-- The statement of a change commits it, or changes nothing. -/
theorem serve_change (h : Overlap start id s) {t : Turn} (ht : t.call = 0) {st : Store.Statement}
    (hst : Store.Rewrites id st) (hnone : Wrote [] s) :
    Overlap start id (s.serve t (.sql st)).2 ∧
      Wrote ((Exchange.written? ⟨.sql st, (s.serve t (.sql st)).1⟩).toList.map fun _ => (0, .commit))
        (s.serve t (.sql st)).2 := by
  have htouches : Touches id (.sql st) := Or.inr hst
  have hrow : (s.serve t (.sql st)).2.world.table.find? id =
      (Exchange.written? ⟨.sql st, (s.serve t (.sql st)).1⟩).getD (s.world.table.find? id) :=
    World.answer_row htouches (s.facing t (.sql st))
  have hkeys : (s.serve t (.sql st)).2.world.keys = s.world.keys :=
    World.answer_keys (s.facing t (.sql st)) (r := .sql st) fun c hc => by cases hc
  have hwrites := writes_serve s t (.sql st)
  rcases hwritten : Exchange.written? ⟨.sql st, (s.serve t (.sql st)).1⟩ with _ | written
  · have hmark : Exchange.mark? ⟨.sql st, (s.serve t (.sql st)).1⟩ = none := by
      unfold Exchange.mark?
      rw [hwritten]
      cases st with
      | revise | remove => rfl
      | insert | findById | findByEmail | probe => exact hst.elim
    rw [hmark] at hwrites
    have hsame : writes (s.serve t (.sql st)).2.history = writes s.history :=
      hwrites.trans (List.append_nil _)
    refine ⟨h.serve htouches (by rw [hsame]; exact h.stage) fun e he hlive => ?_,
      hsame.trans hnone⟩
    rw [hkeys] at he
    exact h.entry_serve (by rw [hrow, hwritten]; rfl) hsame he hlive
  · rw [Exchange.mark?_of_written? hwritten, hnone, ht] at hwrites
    exact ⟨h.serve htouches (.inr (.inl hwrites)) fun _ _ _ => .inr (.inl hwrites), hwrites⟩

end Overlap

end Accounts
